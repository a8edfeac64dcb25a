import EvtxWorker.Library.Consumed
import EvtxWorker.Parse.Agreement
import EvtxWorker.Parse.Reference

namespace EvtxWorker.Parse
open Unwinding Unwind Json

theorem take_append_take {α : Type} (n : Nat) (as bs : List α) :
    (as.take n ++ bs).take n = (as ++ bs).take n := by
  induction n generalizing as with
  | zero => rfl
  | succ n ih => cases as with
    | nil => rfl
    | cons a as => simpa using ih as

section Streams
variable {crates : Crates} {ps qs : List (Pull SerializedRecord)}

theorem imageOf_append :
    imageOf crates ⟨ps ++ qs⟩ =
      (imageOf crates ⟨ps⟩ ++ (oks qs).map (rowOf crates.fromStr)).take maxRecords := by
  have hmapped : imageOf crates ⟨ps⟩ = ((oks ps).map (rowOf crates.fromStr)).take maxRecords := by
    rw [imageOf, List.map_take]
  rw [hmapped, take_append_take, imageOf, oks_append, List.map_take, List.map_append]

theorem imageOf_initial : imageOf crates ⟨ps⟩ <+: imageOf crates ⟨ps ++ qs⟩ := by
  rw [imageOf_append, List.prefix_take_iff, imageOf_length]
  exact ⟨List.prefix_append _ _, Nat.min_le_left _ _⟩

end Streams

section Logs
variable {crates : Crates} {bytes bytes' : Bytes} {ps qs : List (Pull SerializedRecord)}
  (ho : Opens crates bytes ⟨ps⟩) (ho' : Opens crates bytes' ⟨ps ++ qs⟩)
include ho ho'

theorem rows_grow (hcalm : .panic ∉ reached maxRecords (ps ++ qs)) :
    ∃ rows rows', parseRecords crates bytes = .ret rows ∧
      parseRecords crates bytes' = .ret rows' ∧ rows <+: rows' ∧
      rows' = (rows ++ (oks qs).map (rowOf crates.fromStr)).take maxRecords := by
  have hcalm' : .panic ∉ reached maxRecords ps := fun h =>
    hcalm ((reached_prefix_append maxRecords ps qs).subset h)
  exact ⟨_, _, parseRecords_calm ho hcalm', parseRecords_calm ho' hcalm, imageOf_initial,
    imageOf_append⟩

theorem count_grows (hcalm : .panic ∉ window maxRecords (ps ++ qs)) :
    ∃ n n', recordCount crates bytes = .ret n ∧ recordCount crates bytes' = .ret n' ∧ n ≤ n' ∧
      n'.toInt = (min maxRecords (n.toInt.toNat + (oks qs).length) : Nat) := by
  have hcalm' : .panic ∉ window maxRecords ps := fun h =>
    hcalm ((window_prefix_append maxRecords ps qs).subset h)
  obtain ⟨n, hrun, hn⟩ : ∃ n, recordCount crates bytes = .ret n ∧
      n.toInt = (min maxRecords (oks ps).length : Nat) := recordCount_calm ho hcalm'
  obtain ⟨n', hrun', hn'⟩ := recordCount_calm ho' hcalm
  rw [oks_append, List.length_append] at hn'
  refine ⟨n, n', hrun, hrun', ?_, ?_⟩
  · rw [Int64.le_iff_toInt_le, hn, hn']
    omega
  · rw [hn, hn']
    omega

theorem log_grows :
    (.panic ∉ reached maxRecords (ps ++ qs) →
      ∃ rows rows', parseRecords crates bytes = .ret rows ∧
        parseRecords crates bytes' = .ret rows' ∧ rows <+: rows' ∧
        rows' = (rows ++ (oks qs).map (rowOf crates.fromStr)).take maxRecords) ∧
    (.panic ∈ reached maxRecords (ps ++ qs) → parseRecords crates bytes' = .ret []) ∧
    (.panic ∉ window maxRecords (ps ++ qs) →
      ∃ n n', recordCount crates bytes = .ret n ∧ recordCount crates bytes' = .ret n' ∧ n ≤ n' ∧
        n'.toInt = (min maxRecords (n.toInt.toNat + (oks qs).length) : Nat)) ∧
    (.panic ∈ window maxRecords (ps ++ qs) → recordCount crates bytes' = .ret 0) :=
  ⟨rows_grow ho ho', parseRecords_panic ho', count_grows ho ho', recordCount_panic ho'⟩

end Logs

def growingCrates : Crates where
  fromBuffer bytes := .ret (some
    ⟨mixedPulls ++ List.replicate (bytes.length - elfFileMagic.length) (.ok auditRecord)⟩)
  fromStr := mixedCrates.fromStr

theorem log_grows_by_two :
    (∃ rows rows', parseRecords growingCrates elfFileMagic = .ret rows ∧
      parseRecords growingCrates (elfFileMagic ++ [0, 0]) = .ret rows' ∧ rows <+: rows' ∧
      rows' = (rows ++ (oks [.ok auditRecord, .ok auditRecord]).map
        (rowOf growingCrates.fromStr)).take maxRecords) ∧
    ∃ n n', recordCount growingCrates elfFileMagic = .ret n ∧
      recordCount growingCrates (elfFileMagic ++ [0, 0]) = .ret n' ∧ n ≤ n' ∧
      n'.toInt = (min maxRecords (n.toInt.toNat + 2) : Nat) := by
  have ho : Opens growingCrates elfFileMagic ⟨mixedPulls⟩ := ⟨by decide, rfl⟩
  have ho' : Opens growingCrates (elfFileMagic ++ [0, 0])
      ⟨mixedPulls ++ [.ok auditRecord, .ok auditRecord]⟩ := ⟨by decide, rfl⟩
  have hcalm : .panic ∉ mixedPulls ++ [.ok auditRecord, .ok auditRecord] := by decide
  obtain ⟨hrows, -, hcount, -⟩ := log_grows ho ho'
  exact ⟨hrows fun h => hcalm (mem_of_mem_reached h),
    hcount fun h => hcalm (mem_of_mem_reached (List.mem_append_left _ h))⟩

end EvtxWorker.Parse
