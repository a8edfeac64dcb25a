import EvtxWorker.Library.Consumed
import EvtxWorker.Parse.Outcomes

namespace EvtxWorker.Parse
open Unwinding Unwind Json

def rowPulls (crates : Crates) (ps : List (Pull SerializedRecord)) :
    List (Pull SerializedRecord) := consumed (parseStep crates) [] ps

def countPulls (ps : List (Pull SerializedRecord)) : List (Pull SerializedRecord) :=
  consumed countStep 0 ps

section Pulls
variable (crates : Crates) (ps : List (Pull SerializedRecord))

theorem rowPulls_eq : rowPulls crates ps = untilPanic (reached maxRecords ps) := by
  have hsize (rows : List EvtxRow) (rec : SerializedRecord) :
      (rows ++ [rowOf crates.fromStr rec]).length = rows.length + 1 := by simp
  rw [rowPulls, parseStep_eq_testFirst]
  exact consumed_testFirst hsize (Nat.zero_add _) ps

theorem countPulls_eq_tally : countPulls ps = consumed tally 0 ps :=
  consumed_related countStep_related ⟨rfl, by decide⟩ ps

theorem countPulls_eq : countPulls ps = untilPanic (window maxRecords ps) := by
  have hsize : ∀ (k : Nat) (_ : SerializedRecord), id (k + 1) = id k + 1 := fun _ _ => rfl
  have hk : id 0 + (4999999 + 1) = maxRecords := rfl
  rw [countPulls_eq_tally, tally, consumed_testLast hsize hk]
  rfl

theorem countPulls_initial : countPulls ps <+: rowPulls crates ps := by
  rw [countPulls_eq, rowPulls_eq, reached]
  exact (untilPanic_append _ _).1

theorem rowPulls_length_le : (rowPulls crates ps).length ≤ (countPulls ps).length + 1 := by
  rw [countPulls_eq, rowPulls_eq, reached]
  refine (untilPanic_append _ _).2.trans ?_
  have hbeyond : ((beyond maxRecords ps).take 1).length ≤ 1 := List.length_take_le _ _
  omega

theorem countPulls_oks_le : (oks (countPulls ps)).length ≤ maxRecords := by
  rw [countPulls_eq]
  have hpulled := (untilPanic_initial (window maxRecords ps)).sublist.filterMap Pull.ok?
  exact hpulled.length_le.trans (oks_length_window _ _)

theorem countPulls_stops (h : countPulls ps ≠ ps) :
    .panic ∈ countPulls ps ∨ (oks (countPulls ps)).length = maxRecords := by
  rw [countPulls_eq] at h ⊢
  by_cases hpanic : .panic ∈ window maxRecords ps
  · exact .inl (panic_mem_untilPanic hpanic)
  · rw [untilPanic_calm hpanic] at h ⊢
    refine .inr (window_full ?_)
    by_contra hshort
    exact h (window_short (Nat.lt_of_not_le hshort))

theorem pulls_bounded :
    ExactPulls (parseStep crates) [] ps (rowPulls crates ps) ∧
    ExactPulls countStep 0 ps (countPulls ps) ∧
    countPulls ps <+: rowPulls crates ps ∧ rowPulls crates ps <+: ps ∧
    (rowPulls crates ps).length ≤ (countPulls ps).length + 1 ∧
    (oks (countPulls ps)).length ≤ maxRecords ∧
    (countPulls ps ≠ ps →
      .panic ∈ countPulls ps ∨ (oks (countPulls ps)).length = maxRecords) :=
  ⟨consumed_exact _ _ ps, consumed_exact _ _ ps, countPulls_initial crates ps,
    consumed_initial _ _ _, rowPulls_length_le crates ps, countPulls_oks_le ps,
    countPulls_stops ps⟩

end Pulls

section Opened
variable {crates : Crates} {bytes : Bytes} {parser : EvtxParser}

theorem parseRecords_opened (ho : Opens crates bytes parser) :
    parseRecords crates bytes =
      .ret ((catchUnwind (drain (parseStep crates) [] parser.recordsJson)).getD []) :=
  guarded_opened ho

theorem recordCount_opened (ho : Opens crates bytes parser) :
    recordCount crates bytes =
      .ret ((catchUnwind (drain countStep 0 parser.recordsJson)).getD 0) := guarded_opened ho

theorem parseStep_congr {crates' : Crates} (h : crates'.fromStr = crates.fromStr) :
    parseStep crates' = parseStep crates := by
  funext rows rec
  simp only [parseStep, h]

end Opened

section Panics
variable {crates crates' : Crates} {bytes : Bytes} {ps : List (Pull SerializedRecord)} {i : Nat}

theorem panic_felt_iff_pulled (ho : Opens crates bytes ⟨ps⟩)
    (hstr : crates'.fromStr = crates.fromStr) (ho' : Opens crates' bytes ⟨ps.set i .panic⟩) :
    parseRecords crates' bytes =
      (if i < (rowPulls crates ps).length then .ret [] else parseRecords crates bytes) ∧
    recordCount crates' bytes =
      (if i < (countPulls ps).length then .ret 0 else recordCount crates bytes) := by
  rw [parseRecords_opened ho', recordCount_opened ho', parseStep_congr hstr]
  constructor
  · split_ifs with hpulled
    · rw [drain_poisoned hpulled]
      rfl
    · rw [drain_spared (Nat.le_of_not_lt hpulled), parseRecords_opened ho]
  · split_ifs with hpulled
    · rw [drain_poisoned hpulled]
      rfl
    · rw [drain_spared (Nat.le_of_not_lt hpulled), recordCount_opened ho]

theorem panic_felt_second :
    parseRecords (cratesYielding ([Pull.ok emptyRecord, .err].set 1 .panic)) elfFileMagic =
      .ret [] := by
  have hpulls : rowPulls (cratesYielding [.ok emptyRecord, .err]) [.ok emptyRecord, .err] =
      [.ok emptyRecord, .err] := by
    rw [rowPulls_eq]
    rfl
  have hstr : (cratesYielding ([Pull.ok emptyRecord, .err].set 1 .panic)).fromStr =
      (cratesYielding [.ok emptyRecord, .err]).fromStr := rfl
  have hfelt := (panic_felt_iff_pulled (opens_yielding _) hstr (opens_yielding _)).1
  rwa [hpulls] at hfelt

end Panics

end EvtxWorker.Parse
