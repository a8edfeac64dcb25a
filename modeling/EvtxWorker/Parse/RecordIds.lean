import EvtxWorker.Library.Signed
import EvtxWorker.Parse.Outcomes

namespace EvtxWorker.Parse
open Unwinding Unwind Json Signed

def onDiskIds (parser : EvtxParser) : List UInt64 :=
  (oks parser.recordsJson).map SerializedRecord.eventRecordId

def OrderKept (crates : Crates) (bytes : Bytes) : Prop :=
  ∃ rows, parseRecords crates bytes = .ret rows ∧
    (rows.map EvtxRow.recordId).Pairwise (· < ·)

def IdsKept (crates : Crates) (bytes : Bytes) (parser : EvtxParser) : Prop :=
  ∃ rows, parseRecords crates bytes = .ret rows ∧
    (rows.map EvtxRow.recordId).Pairwise (· < ·) ∧
    (rows.map EvtxRow.recordId).map Int64.toInt =
      ((onDiskIds parser).take maxRecords).map fun u => (u.toNat : Int)

variable {crates : Crates} {bytes : Bytes} {parser : EvtxParser}

theorem imageOf_recordIds (crates : Crates) (parser : EvtxParser) :
    (imageOf crates parser).map EvtxRow.recordId =
      ((onDiskIds parser).take maxRecords).map UInt64.toInt64 := by
  rw [imageOf, onDiskIds, ← List.map_take, List.map_map, List.map_map]
  rfl

theorem orderKept_iff (hrun : parseRecords crates bytes = .ret (imageOf crates parser)) :
    OrderKept crates bytes ↔
      (((onDiskIds parser).take maxRecords).map UInt64.toInt64).Pairwise (· < ·) := by
  rw [← imageOf_recordIds crates]
  constructor
  · rintro ⟨rows, hrows, hasc⟩
    exact ret_unique hrows hrun ▸ hasc
  · intro hasc
    exact ⟨_, hrun, hasc⟩

theorem idsKept_iff (hrun : parseRecords crates bytes = .ret (imageOf crates parser)) :
    IdsKept crates bytes parser ↔ OrderKept crates bytes ∧
      ∀ u ∈ (onDiskIds parser).take maxRecords, u.toNat < 2 ^ 63 := by
  rw [← same_numbers_iff, ← imageOf_recordIds crates]
  constructor
  · rintro ⟨rows, hrows, hasc, hsame⟩
    obtain rfl := ret_unique hrows hrun
    exact ⟨⟨_, hrows, hasc⟩, hsame⟩
  · rintro ⟨⟨rows, hrows, hasc⟩, hsame⟩
    obtain rfl := ret_unique hrows hrun
    exact ⟨_, hrows, hasc, hsame⟩

theorem record_ids_kept_iff (hlen : bytes.length ≤ maxInputBytes) (hmagic : elfFileMagic <+: bytes)
    (hparser : crates.fromBuffer bytes = .ret (some parser)) (hcalm : .panic ∉ parser.recordsJson)
    (hasc : (onDiskIds parser).Pairwise (· < ·)) :
    (IdsKept crates bytes parser ↔
      ∀ u ∈ (onDiskIds parser).take maxRecords, u.toNat < 2 ^ 63) ∧
    (OrderKept crates bytes ↔
      (∀ u ∈ (onDiskIds parser).take maxRecords, u.toNat < 2 ^ 63) ∨
        ∀ u ∈ (onDiskIds parser).take maxRecords, 2 ^ 63 ≤ u.toNat) := by
  have hrun := parseRecords_panicFree (opens_of_magic hlen hmagic hparser) hcalm
  have hkept : ((onDiskIds parser).take maxRecords).Pairwise (· < ·) :=
    hasc.sublist (List.take_sublist _ _)
  have horder := (orderKept_iff hrun).trans (ascending_signed_iff hkept)
  refine ⟨?_, horder⟩
  rw [idsKept_iff hrun, horder]
  exact and_iff_right_of_imp Or.inl

def straddling : List (Pull SerializedRecord) :=
  [.ok ⟨9223372036854775807, ⟨0⟩, emptyObject⟩, .ok ⟨9223372036854775808, ⟨0⟩, emptyObject⟩]

theorem straddling_ids_reverse :
    (onDiskIds ⟨straddling⟩).Pairwise (· < ·) ∧
    (∃ rows, parseRecords (cratesYielding straddling) elfFileMagic = .ret rows ∧
      rows.map EvtxRow.recordId = [Int64.maxValue, Int64.minValue]) ∧
    ¬ OrderKept (cratesYielding straddling) elfFileMagic ∧
    ¬ IdsKept (cratesYielding straddling) elfFileMagic ⟨straddling⟩ := by
  have hrun := parseRecords_panicFree (opens_yielding straddling) (by decide)
  have horder : ¬ OrderKept (cratesYielding straddling) elfFileMagic := by
    rw [orderKept_iff hrun]
    decide
  refine ⟨by decide, ⟨_, hrun, ?_⟩, horder, ?_⟩
  · rw [imageOf_recordIds]
    decide
  · intro hkept
    exact horder ((idsKept_iff hrun).mp hkept).1

def lowIds : List (Pull SerializedRecord) :=
  [.ok ⟨1, ⟨0⟩, emptyObject⟩, .err, .ok ⟨3, ⟨0⟩, emptyObject⟩]

theorem record_ids_kept_low : IdsKept (cratesYielding lowIds) elfFileMagic ⟨lowIds⟩ := by
  have hparser : (cratesYielding lowIds).fromBuffer elfFileMagic = .ret (some ⟨lowIds⟩) := rfl
  refine (record_ids_kept_iff (by decide) (List.prefix_refl _) hparser (by decide) ?_).1.mpr ?_
  · decide
  · simp [onDiskIds, lowIds, maxRecords]

end EvtxWorker.Parse
