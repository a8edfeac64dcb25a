import EvtxWorker.Parse.Columns
import EvtxWorker.Table.EvtxRecords
import Mathlib.Algebra.Order.BigOperators.Group.List

namespace EvtxWorker.Table
open Unwinding Unwind Arrow Sdk Parse Input Json

def RunSafe (crates : Crates) (host : Host) (params : ProcessParams) : Prop :=
  ∃ p, producer crates host params = .ret (.ok p) ∧
    ∀ n, .panic ∉ calls RecordsProducer.nextBatch n p

variable {crates : Crates} {host : Host} {params : ProcessParams} {rows : List EvtxRow}

theorem runSafe_loads_iff
    (h : Loads crates
      (constInputBytes host (params.arguments.constBytes 0) (params.arguments.constStr 0)) rows) :
    RunSafe crates host params ↔ TextFits rows := by
  have hproducer := producer_loads h
  constructor
  · rintro ⟨p, hp, hcalm⟩
    rw [hproducer] at hp
    cases hp
    rw [panic_mem_calls_once (nextBatch_second rfl), Ne, nextBatch_panics_iff rfl] at hcalm
    exact not_not.mp hcalm
  · intro hfits
    refine ⟨_, hproducer, ?_⟩
    rw [panic_mem_calls_once (nextBatch_second rfl), Ne, nextBatch_panics_iff rfl]
    exact not_not.mpr hfits

theorem textFits_loads_iff {bytes : Option Bytes} (h : Loads crates bytes rows) :
    TextFits rows ↔ ∀ b parser, bytes = some b → Opens crates b parser →
      .panic ∉ reached maxRecords parser.recordsJson → TextFits (imageOf crates parser) := by
  constructor
  · rintro hfits b parser rfl ho hcalm
    have hrows : rows = imageOf crates parser := ret_unique h (parseRecords_calm ho hcalm)
    rwa [← hrows]
  · intro himage
    cases bytes with
    | none =>
      obtain rfl : rows = [] := h
      exact textFits_nil
    | some b =>
      rcases parseRecords_cases crates b with ⟨parser, ho, hcalm, hrun⟩ | hrun
      · have hrows : rows = imageOf crates parser := ret_unique h hrun
        rw [hrows]
        exact himage b parser rfl ho hcalm
      · obtain rfl : rows = [] := ret_unique h hrun
        exact textFits_nil

def StringsWithin (fromStr : String → Option Value) : Prop :=
  ∀ text root path s, fromStr text = some root → At root path (.string s) →
    s.utf8ByteSize ≤ text.utf8ByteSize

def keptBytes (parser : EvtxParser) : Nat :=
  (((oks parser.recordsJson).take maxRecords).map fun rec => rec.data.utf8ByteSize).sum

section Contract
variable {fromStr : String → Option Value} {rec : SerializedRecord} {row : EvtxRow}
  {parser : EvtxParser}

theorem reads_within (hstrings : StringsWithin fromStr) {path : List String} {text s : String}
    (h : Reads (fromStr text) path (· = .string s)) : s.utf8ByteSize ≤ text.utf8ByteSize := by
  obtain ⟨root, v, hroot, hat, rfl⟩ := h
  exact hstrings text root path s hroot hat

theorem text_within (hstrings : StringsWithin fromStr) (h : Renders fromStr rec row)
    {column : EvtxRow → Option String} (hcolumn : column ∈ textColumns) :
    (column row).elim 0 String.utf8ByteSize ≤ row.eventJson.utf8ByteSize := by
  cases htext : column row with
  | none => exact Nat.zero_le _
  | some text =>
    simp only [textColumns, List.mem_cons, List.not_mem_nil, or_false] at hcolumn
    rcases hcolumn with rfl | rfl | rfl | rfl
    · exact reads_within hstrings ((h.columns.provider text).mp htext)
    · exact reads_within hstrings ((h.columns.channel text).mp htext)
    · exact reads_within hstrings ((h.columns.computer text).mp htext)
    · exact (Option.some_inj.mp htext).symm ▸ le_rfl

theorem weigh_eventJson (crates : Crates) (parser : EvtxParser) :
    weigh String.utf8ByteSize ((imageOf crates parser).map fun row => some row.eventJson) =
      keptBytes parser := by
  rw [weigh, imageOf, keptBytes, List.map_map, List.map_map]
  rfl

theorem textFits_image_iff (hstrings : StringsWithin crates.fromStr) :
    TextFits (imageOf crates parser) ↔ keptBytes parser ≤ i32Max := by
  rw [← weigh_eventJson crates parser]
  constructor
  · intro hfits
    exact hfits _ (by simp [textColumns])
  · intro hbytes column hcolumn
    refine le_trans ?_ hbytes
    rw [weigh, weigh, List.map_map, List.map_map]
    apply List.sum_le_sum
    intro row hrow
    obtain ⟨rec, -, rfl⟩ := List.mem_map.mp hrow
    exact text_within hstrings (rowOf_renders crates.fromStr rec) hcolumn

end Contract

theorem run_safe_iff (crates : Crates) (host : Host) (params : ProcessParams) :
    (RunSafe crates host params ↔ ∀ bytes parser,
      constInputBytes host (params.arguments.constBytes 0) (params.arguments.constStr 0) =
        some bytes →
      Opens crates bytes parser → .panic ∉ reached maxRecords parser.recordsJson →
      TextFits (imageOf crates parser)) ∧
    (StringsWithin crates.fromStr → (RunSafe crates host params ↔ ∀ bytes parser,
      constInputBytes host (params.arguments.constBytes 0) (params.arguments.constStr 0) =
        some bytes →
      Opens crates bytes parser → .panic ∉ reached maxRecords parser.recordsJson →
      keptBytes parser ≤ i32Max)) := by
  obtain ⟨rows, hrows⟩ := loads_exists crates
    (constInputBytes host (params.arguments.constBytes 0) (params.arguments.constStr 0))
  rw [runSafe_loads_iff hrows, textFits_loads_iff hrows]
  refine ⟨Iff.rfl, ?_⟩
  intro hstrings
  simp only [textFits_image_iff hstrings]

def filler : Nat → String
  | 0 => ""
  | n + 1 => (filler n).push 'a'

theorem filler_size (n : Nat) : (filler n).utf8ByteSize = n := by
  induction n with
  | zero => rfl
  | succ n ih => rw [filler, String.utf8ByteSize_push, ih]; rfl

def longEvent (n : Nat) : String := "\x7b\"Event\":\"" ++ filler n ++ "\"\x7d"

theorem longEvent_size (n : Nat) : (longEvent n).utf8ByteSize = n + 12 := by
  have hopen : "\x7b\"Event\":\"".utf8ByteSize = 10 := by decide
  have hclose : "\"\x7d".utf8ByteSize = 2 := by decide
  rw [longEvent, String.utf8ByteSize_append, String.utf8ByteSize_append, filler_size, hopen, hclose]
  omega

def longRecord (n : Nat) : SerializedRecord := ⟨1, ⟨0⟩, longEvent n⟩

def longPulls (count n : Nat) : List (Pull SerializedRecord) :=
  List.replicate count (.ok (longRecord n))

def longCrates (count n : Nat) : Crates where
  fromBuffer _ := .ret (some ⟨longPulls count n⟩)
  fromStr text :=
    if text = longEvent n then some (.object [("Event", .string (filler n))]) else none

theorem opens_long (count n : Nat) :
    Opens (longCrates count n) elfFileMagic ⟨longPulls count n⟩ := ⟨by decide, rfl⟩

theorem longImage_eventJson {count n : Nat} (hcount : count ≤ maxRecords) :
    (imageOf (longCrates count n) ⟨longPulls count n⟩).map (fun r => some r.eventJson) =
      List.replicate count (some (longEvent n)) := by
  rw [imageOf, longPulls, oks_replicate, List.take_replicate, Nat.min_eq_right hcount,
    List.map_replicate, List.map_replicate]
  rfl

theorem longImage_overflows {count n : Nat} (hcount : count ≤ maxRecords)
    (hsize : i32Max < count * (n + 12)) :
    ¬ TextFits (imageOf (longCrates count n) ⟨longPulls count n⟩) := by
  intro hfits
  have hweigh := hfits (fun r => some r.eventJson) (by simp [textColumns])
  rw [longImage_eventJson hcount, weigh_replicate, longEvent_size, Nat.nsmul_eq_mul] at hweigh
  omega

theorem long_records_panic :
    Opens (longCrates 65536 32756) elfFileMagic ⟨longPulls 65536 32756⟩ ∧
    .panic ∉ longPulls 65536 32756 ∧ (oks (longPulls 65536 32756)).length ≤ maxRecords ∧
    ¬ RunSafe (longCrates 65536 32756) (Host.still .native64 fun _ => none)
      ⟨onBind.outputSchema, (SqlArg.blob elfFileMagic).bound⟩ := by
  have ho := opens_long 65536 32756
  have hcalm : .panic ∉ longPulls 65536 32756 := panic_not_mem_replicate _ _
  have himage := @longImage_overflows 65536 32756 (by decide) (by decide)
  refine ⟨ho, hcalm, ?_, ?_⟩
  · rw [longPulls, oks_replicate, List.length_replicate]
    decide
  · have hrows : Loads (longCrates 65536 32756) (some elfFileMagic)
        (imageOf (longCrates 65536 32756) ⟨longPulls 65536 32756⟩) :=
      parseRecords_panicFree ho hcalm
    rw [runSafe_loads_iff hrows]
    exact himage

end EvtxWorker.Table
