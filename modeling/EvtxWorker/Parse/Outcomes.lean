import EvtxWorker.Library.Capped
import EvtxWorker.Parse.Records

namespace EvtxWorker.Parse
open Unwinding Unwind Json

variable (crates : Crates)

def imageOf (parser : EvtxParser) : List EvtxRow :=
  ((oks parser.recordsJson).take maxRecords).map (rowOf crates.fromStr)

theorem imageOf_length (parser : EvtxParser) :
    (imageOf crates parser).length = min maxRecords (oks parser.recordsJson).length := by
  simp [imageOf]

theorem parseStep_eq_testFirst : parseStep crates =
    testFirst maxRecords List.length fun rows rec => rows ++ [rowOf crates.fromStr rec] := by
  funext rows rec
  cases rec <;> simp [parseStep, testFirst]

theorem parseLoop_calm {parser : EvtxParser}
    (h : .panic ∉ reached maxRecords parser.recordsJson) :
    drain (parseStep crates) [] parser.recordsJson = .ret (imageOf crates parser) := by
  have hk : ([] : List EvtxRow).length + maxRecords = maxRecords := Nat.zero_add _
  rw [parseStep_eq_testFirst, drain_testFirst_calm (by simp) hk h, foldl_snoc]
  rfl

theorem parseLoop_panic {parser : EvtxParser}
    (h : .panic ∈ reached maxRecords parser.recordsJson) :
    drain (parseStep crates) [] parser.recordsJson = .panic := by
  have hk : ([] : List EvtxRow).length + maxRecords = maxRecords := Nat.zero_add _
  rw [parseStep_eq_testFirst]
  exact drain_testFirst_panic (by simp) hk h

theorem parseRecordsInner_built {bytes : Bytes} {parser : EvtxParser}
    (h : crates.fromBuffer bytes = .ret (some parser)) :
    parseRecordsInner crates bytes = drain (parseStep crates) [] parser.recordsJson := by
  simp [parseRecordsInner, withParser, h]

theorem toInt_succ {n : Int64} {k : Nat} (hn : n.toInt = k) (hk : k < maxRecords) :
    (n + 1).toInt = (k + 1 : Nat) := by
  have hmax : maxRecords = 5000000 := rfl
  rw [Int64.toInt_add, hn]
  simp only [Int64.reduceToInt]
  rw [Int.bmod_eq_of_le] <;> omega

def Counting (n : Int64) (k : Nat) : Prop := n.toInt = k ∧ k < maxRecords

def Counted (n : Int64) (k : Nat) : Prop := n.toInt = k ∧ k ≤ maxRecords

def tally : Nat → Option SerializedRecord → ForInStep Nat :=
  testLast maxRecords id fun k _ => k + 1

theorem countStep_related (n : Int64) (k : Nat) (rec : Option SerializedRecord)
    (h : Counting n k) : StepRelated Counting Counted (countStep n rec) (tally k rec) := by
  have hcap : (Int64.ofNat maxRecords).toInt = maxRecords := by decide
  obtain ⟨hn, hk⟩ := h
  cases rec with
  | none =>
    have hlt : ¬ Int64.ofNat maxRecords ≤ n := by
      rw [Int64.le_iff_toInt_le, hcap, hn]; omega
    have hk' : ¬ maxRecords ≤ k := by omega
    simpa [countStep, tally, testLast, hlt, hk'] using StepRelated.yields ⟨hn, hk⟩
  | some rec =>
    have hn' := toInt_succ hn hk
    by_cases hfull : maxRecords ≤ k + 1
    · have hle : Int64.ofNat maxRecords ≤ n + 1 := by
        rw [Int64.le_iff_toInt_le, hcap, hn']; omega
      simpa [countStep, tally, testLast, hle, hfull] using StepRelated.stops ⟨hn', hk⟩
    · have hlt : ¬ Int64.ofNat maxRecords ≤ n + 1 := by
        rw [Int64.le_iff_toInt_le, hcap, hn']; omega
      simpa [countStep, tally, testLast, hlt, hfull] using
        StepRelated.yields ⟨hn', Nat.lt_of_not_le hfull⟩

theorem countLoop_related (ps : List (Pull SerializedRecord)) :
    Related Counted (drain countStep 0 ps) (drain tally 0 ps) :=
  drain_related (fun _ _ h => ⟨h.1, h.2.le⟩) countStep_related ⟨rfl, by decide⟩ ps

theorem tally_calm {ps : List (Pull SerializedRecord)} (h : .panic ∉ window maxRecords ps) :
    drain tally 0 ps = .ret (min maxRecords (oks ps).length) := by
  have hsize : ∀ (k : Nat) (_ : SerializedRecord), id (k + 1) = id k + 1 := fun _ _ => rfl
  have hk : id 0 + (4999999 + 1) = maxRecords := rfl
  rw [tally, drain_testLast_calm hsize hk h]
  simp [maxRecords]

theorem tally_panic {ps : List (Pull SerializedRecord)} (h : .panic ∈ window maxRecords ps) :
    drain tally 0 ps = .panic := by
  have hsize : ∀ (k : Nat) (_ : SerializedRecord), id (k + 1) = id k + 1 := fun _ _ => rfl
  have hk : id 0 + (4999999 + 1) = maxRecords := rfl
  exact drain_testLast_panic hsize hk h

theorem countLoop_calm {ps : List (Pull SerializedRecord)} (h : .panic ∉ window maxRecords ps) :
    ∃ n, drain countStep 0 ps = .ret n ∧ n.toInt = (min maxRecords (oks ps).length : Nat) := by
  have hrel := countLoop_related ps
  rw [tally_calm h] at hrel
  obtain ⟨n, hret, hn, -⟩ := hrel.eq_ret
  exact ⟨n, hret, hn⟩

theorem countLoop_panic {ps : List (Pull SerializedRecord)} (h : .panic ∈ window maxRecords ps) :
    drain countStep 0 ps = .panic := by
  have hrel := countLoop_related ps
  rw [tally_panic h] at hrel
  exact hrel.eq_panic

def Opens (bytes : Bytes) (parser : EvtxParser) : Prop :=
  rejected bytes = false ∧ crates.fromBuffer bytes = .ret (some parser)

variable {crates} {bytes : Bytes} {parser : EvtxParser}

theorem opens_of_magic (hlen : bytes.length ≤ maxInputBytes) (hmagic : elfFileMagic <+: bytes)
    (h : crates.fromBuffer bytes = .ret (some parser)) : Opens crates bytes parser :=
  ⟨(rejected_eq_false_iff bytes).mpr ⟨hlen, hmagic⟩, h⟩

theorem fromBuffer_of_not_opens (hr : rejected bytes = false)
    (h : ∀ parser, ¬ Opens crates bytes parser) :
    crates.fromBuffer bytes = .panic ∨ crates.fromBuffer bytes = .ret none := by
  cases hb : crates.fromBuffer bytes with
  | panic => exact .inl rfl
  | ret built =>
    cases built with
    | none => exact .inr rfl
    | some parser => exact absurd ⟨hr, hb⟩ (h parser)

section Guard
variable {α : Type} {fallback : α} {body : EvtxParser → Unwind α}

theorem guarded_opened (ho : Opens crates bytes parser) :
    guarded fallback (withParser crates fallback body) bytes =
      .ret ((catchUnwind (body parser)).getD fallback) := by
  simp [guarded, withParser, ho.1, ho.2]

theorem guarded_unopened (h : ∀ parser, ¬ Opens crates bytes parser) :
    guarded fallback (withParser crates fallback body) bytes = .ret fallback := by
  cases hr : rejected bytes with
  | true => simp [guarded, hr]
  | false => rcases fromBuffer_of_not_opens hr h with hb | hb <;> simp [guarded, withParser, hr, hb]

end Guard

theorem parseRecords_calm (ho : Opens crates bytes parser)
    (h : .panic ∉ reached maxRecords parser.recordsJson) :
    parseRecords crates bytes = .ret (imageOf crates parser) := by
  rw [parseRecords, parseRecordsInner, guarded_opened ho, parseLoop_calm crates h]
  rfl

theorem imageOf_getElem? {i : Nat} {rec : SerializedRecord} (hi : i < maxRecords)
    (h : (oks parser.recordsJson)[i]? = some rec) :
    (imageOf crates parser)[i]? = some (rowOf crates.fromStr rec) := by
  simp [imageOf, List.getElem?_take_of_lt hi, h]

theorem parseRecords_panicFree (ho : Opens crates bytes parser)
    (hcalm : .panic ∉ parser.recordsJson) :
    parseRecords crates bytes = .ret (imageOf crates parser) :=
  parseRecords_calm ho fun h => hcalm (mem_of_mem_reached h)

theorem parseRecords_panic (ho : Opens crates bytes parser)
    (h : .panic ∈ reached maxRecords parser.recordsJson) :
    parseRecords crates bytes = .ret [] := by
  rw [parseRecords, parseRecordsInner, guarded_opened ho, parseLoop_panic crates h]
  rfl

theorem parseRecords_unopened (h : ∀ parser, ¬ Opens crates bytes parser) :
    parseRecords crates bytes = .ret [] := guarded_unopened h

theorem recordCount_calm (ho : Opens crates bytes parser)
    (h : .panic ∉ window maxRecords parser.recordsJson) :
    ∃ n, recordCount crates bytes = .ret n ∧
      n.toInt = (min maxRecords (oks parser.recordsJson).length : Nat) := by
  obtain ⟨n, hrun, hn⟩ := countLoop_calm h
  refine ⟨n, ?_, hn⟩
  rw [recordCount, recordCountInner, guarded_opened ho, hrun]
  rfl

theorem recordCount_panic (ho : Opens crates bytes parser)
    (h : .panic ∈ window maxRecords parser.recordsJson) :
    recordCount crates bytes = .ret 0 := by
  rw [recordCount, recordCountInner, guarded_opened ho, countLoop_panic h]
  rfl

theorem recordCount_unopened (h : ∀ parser, ¬ Opens crates bytes parser) :
    recordCount crates bytes = .ret 0 := guarded_unopened h

theorem isValidInner_eq_withParser :
    isValidInner crates = withParser crates false fun _ => .ret true := by
  funext bytes
  rcases hb : crates.fromBuffer bytes with ⟨_ | parser⟩ | _ <;> simp [isValidInner, withParser, hb]

theorem isValid_opened (ho : Opens crates bytes parser) : isValid crates bytes = .ret true := by
  rw [isValid, isValidInner_eq_withParser, guarded_opened ho]
  rfl

theorem isValid_unopened (h : ∀ parser, ¬ Opens crates bytes parser) :
    isValid crates bytes = .ret false := by
  rw [isValid, isValidInner_eq_withParser, guarded_unopened h]

section Outcomes
variable (crates) (bytes)

theorem opens_or_never :
    (∃ parser, Opens crates bytes parser) ∨ ∀ parser, ¬ Opens crates bytes parser := by
  rw [← not_exists]
  exact Classical.em _

theorem parseRecords_cases :
    (∃ parser, Opens crates bytes parser ∧ .panic ∉ reached maxRecords parser.recordsJson ∧
      parseRecords crates bytes = .ret (imageOf crates parser)) ∨
    parseRecords crates bytes = .ret [] := by
  rcases opens_or_never crates bytes with ⟨parser, ho⟩ | hno
  · rcases Classical.em (.panic ∈ reached maxRecords parser.recordsJson) with hpanic | hcalm
    · exact .inr (parseRecords_panic ho hpanic)
    · exact .inl ⟨parser, ho, hcalm, parseRecords_calm ho hcalm⟩
  · exact .inr (parseRecords_unopened hno)

theorem recordCount_cases :
    (∃ parser n, Opens crates bytes parser ∧ recordCount crates bytes = .ret n ∧
      n.toInt = (min maxRecords (oks parser.recordsJson).length : Nat)) ∨
    recordCount crates bytes = .ret 0 := by
  rcases opens_or_never crates bytes with ⟨parser, ho⟩ | hno
  · rcases Classical.em (.panic ∈ window maxRecords parser.recordsJson) with hpanic | hcalm
    · exact .inr (recordCount_panic ho hpanic)
    · obtain ⟨n, hcount, hn⟩ := recordCount_calm ho hcalm
      exact .inl ⟨parser, n, ho, hcount, hn⟩
  · exact .inr (recordCount_unopened hno)

theorem isValid_cases :
    ∃ valid, isValid crates bytes = .ret valid ∧
      (valid = true ↔ ∃ parser, Opens crates bytes parser) := by
  rcases opens_or_never crates bytes with hex | hno
  · obtain ⟨parser, ho⟩ := hex
    exact ⟨true, isValid_opened ho, fun _ => ⟨parser, ho⟩, fun _ => rfl⟩
  · refine ⟨false, isValid_unopened hno, nofun, ?_⟩
    rintro ⟨parser, ho⟩
    exact absurd ho (hno parser)

end Outcomes

def emptyObject : String := "\x7b\x7d"

def emptyRecord : SerializedRecord := ⟨1, ⟨0⟩, emptyObject⟩

def cratesYielding (ps : List (Pull SerializedRecord)) : Crates where
  fromBuffer _ := .ret (some ⟨ps⟩)
  fromStr text := if text = emptyObject then some (.object []) else none

theorem opens_yielding (ps : List (Pull SerializedRecord)) :
    Opens (cratesYielding ps) elfFileMagic ⟨ps⟩ :=
  ⟨by decide, rfl⟩

end EvtxWorker.Parse
