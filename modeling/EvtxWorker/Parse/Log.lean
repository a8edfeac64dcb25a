import EvtxWorker.Parse.Reference

namespace EvtxWorker.Parse
open Unwinding Unwind Json

variable (crates : Crates) (bytes : Bytes)

def logOf : Option (List (Pull SerializedRecord)) :=
  if bytes.length ≤ maxInputBytes ∧ elfFileMagic <+: bytes then
    match crates.fromBuffer bytes with
    | .ret (some parser) => some parser.recordsJson
    | _ => none
  else none

def tableOf : List EvtxRow :=
  match logOf crates bytes with
  | some ps =>
    if .panic ∈ reached maxRecords ps then []
    else ((oks ps).take maxRecords).map (rowOf crates.fromStr)
  | none => []

def countOf : Nat :=
  match logOf crates bytes with
  | some ps => if .panic ∈ window maxRecords ps then 0 else min maxRecords (oks ps).length
  | none => 0

def readable : Bool := (logOf crates bytes).isSome

theorem opens_iff_logOf (ps : List (Pull SerializedRecord)) :
    Opens crates bytes ⟨ps⟩ ↔ logOf crates bytes = some ps := by
  rw [Opens, rejected_eq_false_iff, logOf]
  split_ifs with hgates
  · rw [and_iff_right hgates]
    rcases crates.fromBuffer bytes with ⟨_ | ⟨⟨qs⟩⟩⟩ | _ <;> simp
  · exact ⟨fun h => absurd h.1 hgates, nofun⟩

theorem logOf_cases :
    (∃ ps, Opens crates bytes ⟨ps⟩ ∧ logOf crates bytes = some ps) ∨
      (∀ parser, ¬ Opens crates bytes parser) ∧ logOf crates bytes = none := by
  cases hlog : logOf crates bytes with
  | some ps => exact .inl ⟨ps, (opens_iff_logOf crates bytes ps).mpr hlog, rfl⟩
  | none =>
    refine .inr ⟨fun parser ho => ?_, rfl⟩
    rw [(opens_iff_logOf crates bytes parser.recordsJson).mp ho] at hlog
    cases hlog

theorem parseRecords_log : parseRecords crates bytes = .ret (tableOf crates bytes) := by
  rcases logOf_cases crates bytes with ⟨ps, ho, hlog⟩ | ⟨hno, hlog⟩
  · rw [tableOf, hlog]
    dsimp only
    split_ifs with hpanic
    · exact parseRecords_panic ho hpanic
    · rw [parseRecords_calm ho hpanic]
      rfl
  · rw [tableOf, hlog, parseRecords_unopened hno]

theorem recordCount_log :
    ∃ n, recordCount crates bytes = .ret n ∧ n.toInt = countOf crates bytes := by
  rcases logOf_cases crates bytes with ⟨ps, ho, hlog⟩ | ⟨hno, hlog⟩
  · rw [countOf, hlog]
    dsimp only
    split_ifs with hpanic
    · exact ⟨0, recordCount_panic ho hpanic, rfl⟩
    · exact recordCount_calm ho hpanic
  · rw [countOf, hlog]
    exact ⟨0, recordCount_unopened hno, rfl⟩

theorem isValid_log : isValid crates bytes = .ret (readable crates bytes) := by
  rcases logOf_cases crates bytes with ⟨ps, ho, hlog⟩ | ⟨hno, hlog⟩
  · rw [readable, hlog, isValid_opened ho]
    rfl
  · rw [readable, hlog, isValid_unopened hno]
    rfl

theorem tableOf_image {ps : List (Pull SerializedRecord)} (hlog : logOf crates bytes = some ps)
    (hcalm : .panic ∉ reached maxRecords ps) : Image crates ⟨ps⟩ (tableOf crates bytes) := by
  rw [image_iff, tableOf, hlog]
  exact (if_neg hcalm).symm

theorem entry_points_observe_log :
    parseRecords crates bytes = .ret (tableOf crates bytes) ∧
    (∀ ps, logOf crates bytes = some ps → .panic ∉ reached maxRecords ps →
      Image crates ⟨ps⟩ (tableOf crates bytes)) ∧
    (∃ n, recordCount crates bytes = .ret n ∧ n.toInt = countOf crates bytes) ∧
    isValid crates bytes = .ret (readable crates bytes) :=
  ⟨parseRecords_log crates bytes, fun _ => tableOf_image crates bytes, recordCount_log crates bytes,
    isValid_log crates bytes⟩

end EvtxWorker.Parse
