import EvtxWorker.Table.Capacity

namespace EvtxWorker.Table
open Unwinding Unwind Arrow Sdk Parse Input

structure KeptWithin (crates : Crates) (parser : EvtxParser) (count limit : Nat) : Prop where
  records : (oks parser.recordsJson).length ≤ count
  texts : ∀ rec ∈ oks parser.recordsJson, ∀ column ∈ textColumns, ∀ text,
    column (rowOf crates.fromStr rec) = some text → text.utf8ByteSize ≤ limit

def YieldsWithin (crates : Crates) (count limit : Nat) : Prop :=
  ∀ bytes parser, crates.fromBuffer bytes = .ret (some parser) →
    KeptWithin crates parser count limit

variable {crates : Crates} {parser : EvtxParser} {count limit : Nat}

theorem imageOf_text_le (h : KeptWithin crates parser count limit)
    {column : EvtxRow → Option String} (hcolumn : column ∈ textColumns) {text : String}
    (htext : some text ∈ (imageOf crates parser).map column) : text.utf8ByteSize ≤ limit := by
  obtain ⟨row, hrow, hvalue⟩ := List.mem_map.mp htext
  obtain ⟨rec, hrec, rfl⟩ := List.mem_map.mp hrow
  exact h.texts rec (List.mem_of_mem_take hrec) column hcolumn text hvalue

theorem textFits_within (h : KeptWithin crates parser count limit)
    (hroom : min count maxRecords * limit ≤ i32Max) : TextFits (imageOf crates parser) := by
  intro column hcolumn
  calc
    weigh String.utf8ByteSize ((imageOf crates parser).map column)
        ≤ ((imageOf crates parser).map column).length • limit :=
      weigh_le_nsmul fun text htext => imageOf_text_le h hcolumn htext
    _ = min maxRecords (oks parser.recordsJson).length * limit := by
      rw [List.length_map, imageOf_length, Nat.nsmul_eq_mul]
    _ ≤ min count maxRecords * limit := by
      have hrecords := h.records
      exact Nat.mul_le_mul_right _ (by omega)
    _ ≤ i32Max := hroom

theorem longRow_texts {fromStr : String → Option Json.Value} {n : Nat}
    (h : fromStr (longEvent n) = some (.object [("Event", .string (filler n))]))
    {column : EvtxRow → Option String} (hcolumn : column ∈ textColumns) {text : String}
    (htext : column (rowOf fromStr (longRecord n)) = some text) : text = longEvent n := by
  have hsystem : (Json.Value.object [("Event", .string (filler n))]).get "Event" =
      some (.string (filler n)) := rfl
  have hnone : (Json.Value.string (filler n)).get "System" = none := rfl
  simp only [textColumns, List.mem_cons, List.not_mem_nil, or_false] at hcolumn
  rcases hcolumn with rfl | rfl | rfl | rfl <;>
    simp [rowOf, longRecord, h, hsystem, hnone] at htext
  exact htext.symm

theorem yieldsWithin_long (count n : Nat) : YieldsWithin (longCrates count n) count (n + 12) := by
  intro bytes parser hbuilt
  cases hbuilt
  constructor
  · rw [longPulls, oks_replicate, List.length_replicate]
  · intro rec hrec column hcolumn text htext
    rw [longPulls, oks_replicate] at hrec
    obtain rfl := List.eq_of_mem_replicate hrec
    rw [longRow_texts (if_pos rfl) hcolumn htext, longEvent_size]

theorem not_runSafe_long {count n : Nat} (hcount : count ≤ maxRecords)
    (hsize : i32Max < count * (n + 12)) :
    ¬ RunSafe (longCrates count n) (Host.still .native64 fun _ => none)
      ⟨onBind.outputSchema, (SqlArg.blob elfFileMagic).bound⟩ := by
  have hcalm : .panic ∉ longPulls count n := panic_not_mem_replicate _ _
  have hrows : Loads (longCrates count n) (some elfFileMagic)
      (imageOf (longCrates count n) ⟨longPulls count n⟩) :=
    parseRecords_panicFree (opens_long count n) hcalm
  rw [runSafe_loads_iff hrows]
  exact longImage_overflows hcount hsize

theorem safe_within_iff (count limit : Nat) :
    (∀ crates host params, YieldsWithin crates count limit → RunSafe crates host params) ↔
      min count maxRecords * limit ≤ i32Max := by
  constructor
  · intro hsafe
    by_contra hroom
    have hmax : min count maxRecords ≤ 5000000 := Nat.min_le_right _ _
    have hlimit : 12 ≤ limit := by
      by_contra hsmall
      have hproduct := Nat.mul_le_mul hmax (Nat.le_of_not_le hsmall)
      exact hroom (hproduct.trans (by decide))
    obtain ⟨n, rfl⟩ := Nat.exists_eq_add_of_le' hlimit
    have hyields := yieldsWithin_long (min count maxRecords) n
    refine not_runSafe_long (Nat.min_le_right _ _) (Nat.lt_of_not_le hroom) (hsafe _ _ _ ?_)
    intro bytes parser hbuilt
    obtain ⟨hrecords, htexts⟩ := hyields bytes parser hbuilt
    exact ⟨hrecords.trans (Nat.min_le_left _ _), htexts⟩
  · intro hroom crates host params hyields
    obtain ⟨rows, hrows⟩ := loads_exists crates
      (constInputBytes host (params.arguments.constBytes 0) (params.arguments.constStr 0))
    rw [runSafe_loads_iff hrows, textFits_loads_iff hrows]
    intro bytes parser _ ho _
    exact textFits_within (hyields bytes parser ho.2) hroom

end EvtxWorker.Table
