import EvtxWorker.Parse.Log
import EvtxWorker.Parse.Work

namespace EvtxWorker.Parse
open Unwinding Unwind Json

def pulledOf (crates : Crates) (bytes : Bytes) : Option (List (Pull SerializedRecord)) :=
  (logOf crates bytes).map (rowPulls crates)

theorem drain_rows_pulled (crates : Crates) (ps : List (Pull SerializedRecord)) :
    drain (parseStep crates) [] (rowPulls crates ps) = drain (parseStep crates) [] ps :=
  drain_between (List.prefix_refl _) (consumed_initial _ _ _)

theorem drain_count_pulled (crates : Crates) (ps : List (Pull SerializedRecord)) :
    drain countStep 0 (rowPulls crates ps) = drain countStep 0 ps :=
  drain_between (countPulls_initial crates ps) (consumed_initial _ _ _)

section Runs
variable {crates crates' : Crates} {bytes : Bytes}

theorem pulledOf_opened {ps : List (Pull SerializedRecord)} (ho : Opens crates bytes ⟨ps⟩) :
    pulledOf crates bytes = some (rowPulls crates ps) := by
  rw [pulledOf, (opens_iff_logOf crates bytes ps).mp ho, Option.map_some]

theorem pulledOf_cases (crates : Crates) (bytes : Bytes) :
    (∃ ps, Opens crates bytes ⟨ps⟩ ∧ pulledOf crates bytes = some (rowPulls crates ps)) ∨
      (∀ parser, ¬ Opens crates bytes parser) ∧ pulledOf crates bytes = none := by
  rcases logOf_cases crates bytes with ⟨ps, ho, -⟩ | ⟨hno, hlog⟩
  · exact .inl ⟨ps, ho, pulledOf_opened ho⟩
  · exact .inr ⟨hno, by rw [pulledOf, hlog, Option.map_none]⟩

theorem pulled_cases (hstr : crates'.fromStr = crates.fromStr)
    (h : pulledOf crates' bytes = pulledOf crates bytes) :
    (∃ ps ps', Opens crates bytes ⟨ps⟩ ∧ Opens crates' bytes ⟨ps'⟩ ∧
      rowPulls crates ps' = rowPulls crates ps) ∨
    (∀ parser, ¬ Opens crates bytes parser) ∧ ∀ parser, ¬ Opens crates' bytes parser := by
  have hpulls (ps : List (Pull SerializedRecord)) : rowPulls crates' ps = rowPulls crates ps := by
    rw [rowPulls, rowPulls, parseStep_congr hstr]
  rcases pulledOf_cases crates bytes with ⟨ps, ho, hp⟩ | ⟨hno, hp⟩ <;>
    rcases pulledOf_cases crates' bytes with ⟨ps', ho', hp'⟩ | ⟨hno', hp'⟩ <;>
    rw [hp, hp'] at h
  · rw [hpulls] at h
    exact .inl ⟨ps, ps', ho, ho', Option.some_inj.mp h⟩
  · cases h
  · cases h
  · exact .inr ⟨hno, hno'⟩

theorem entry_points_pulled (hstr : crates'.fromStr = crates.fromStr)
    (h : pulledOf crates' bytes = pulledOf crates bytes) :
    parseRecords crates' bytes = parseRecords crates bytes ∧
    recordCount crates' bytes = recordCount crates bytes ∧
    isValid crates' bytes = isValid crates bytes := by
  rcases pulled_cases hstr h with ⟨ps, ps', ho, ho', hsame⟩ | ⟨hno, hno'⟩
  · have hrows : drain (parseStep crates) [] ps' = drain (parseStep crates) [] ps := by
      rw [← drain_rows_pulled crates ps', hsame, drain_rows_pulled]
    have hcount : drain countStep 0 ps' = drain countStep 0 ps := by
      rw [← drain_count_pulled crates ps', hsame, drain_count_pulled]
    rw [parseRecords_opened ho, parseRecords_opened ho', recordCount_opened ho,
      recordCount_opened ho', isValid_opened ho, isValid_opened ho', parseStep_congr hstr]
    exact ⟨by rw [hrows], by rw [hcount], rfl⟩
  · rw [parseRecords_unopened hno, parseRecords_unopened hno', recordCount_unopened hno,
      recordCount_unopened hno', isValid_unopened hno, isValid_unopened hno']
    exact ⟨rfl, rfl, rfl⟩

end Runs

end EvtxWorker.Parse
