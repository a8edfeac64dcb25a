import EvtxWorker.Parse.Columns
import EvtxWorker.Parse.Outcomes

namespace EvtxWorker.Parse
open Unwinding Unwind Json

def withoutErrs (ps : List (Pull SerializedRecord)) : List (Pull SerializedRecord) :=
  ps.filter (· ≠ .err)

theorem oks_withoutErrs (ps : List (Pull SerializedRecord)) : oks (withoutErrs ps) = oks ps := by
  induction ps with
  | nil => rfl
  | cons p ps ih => cases p <;> simpa [withoutErrs] using ih

theorem panic_mem_withoutErrs (ps : List (Pull SerializedRecord)) :
    .panic ∈ withoutErrs ps ↔ .panic ∈ ps := by
  simp [withoutErrs]

variable {crates : Crates} {bytes : Bytes} {parser : EvtxParser}

theorem imageOf_congr {crates' : Crates} {parser' : EvtxParser}
    (hstr : crates'.fromStr = crates.fromStr)
    (h : withoutErrs parser'.recordsJson = withoutErrs parser.recordsJson) :
    imageOf crates' parser' = imageOf crates parser := by
  have hoks : oks parser'.recordsJson = oks parser.recordsJson := by
    rw [← oks_withoutErrs, h, oks_withoutErrs]
  rw [imageOf, imageOf, hstr, hoks]

def Image (crates : Crates) (parser : EvtxParser) (rows : List EvtxRow) : Prop :=
  List.Forall₂ (Renders crates.fromStr) ((oks parser.recordsJson).take maxRecords) rows

theorem image_iff {rows : List EvtxRow} :
    Image crates parser rows ↔ imageOf crates parser = rows := by
  have hrenders : Renders crates.fromStr = fun rec row => rowOf crates.fromStr rec = row := by
    funext rec row
    exact propext (renders_iff.trans eq_comm)
  have heq : List.Forall₂ (fun row row' : EvtxRow => row = row') = Eq := List.forall₂_eq_eq_eq
  rw [Image, hrenders, ← List.forall₂_map_left_iff, heq, imageOf]

theorem parseRecords_reference (hlen : bytes.length ≤ maxInputBytes)
    (hmagic : elfFileMagic <+: bytes) (hparser : crates.fromBuffer bytes = .ret (some parser))
    (hcalm : .panic ∉ parser.recordsJson) :
    ∃ rows, parseRecords crates bytes = .ret rows ∧
      Image crates parser rows ∧
      (∀ rows', Image crates parser rows' → rows' = rows) ∧
      (∀ row ∈ rows, (∀ root system, crates.fromStr row.eventJson = some root →
        ¬ At root ["Event", "System"] system) → row.systemColumns = .absent) ∧
      ∀ crates' parser', crates'.fromStr = crates.fromStr →
        crates'.fromBuffer bytes = .ret (some parser') →
        withoutErrs parser'.recordsJson = withoutErrs parser.recordsJson →
        parseRecords crates' bytes = .ret rows := by
  have ho := opens_of_magic hlen hmagic hparser
  refine ⟨imageOf crates parser, parseRecords_panicFree ho hcalm, image_iff.mpr rfl,
    fun _ hrows => (image_iff.mp hrows).symm, ?_, ?_⟩
  · intro row hrow hsystem
    obtain ⟨rec, -, rfl⟩ := List.mem_map.mp hrow
    exact columnsOf_absent (rowOf_renders crates.fromStr rec).columns hsystem
  · intro crates' parser' hstr hparser' herrs
    have hcalm' : .panic ∉ parser'.recordsJson := by
      rwa [← panic_mem_withoutErrs, herrs, panic_mem_withoutErrs]
    rw [parseRecords_panicFree (opens_of_magic hlen hmagic hparser') hcalm',
      imageOf_congr hstr herrs]

def auditText : String :=
  "\x7b\"Event\":\x7b\"System\":\x7b\"Provider\":\x7b\"#attributes\":" ++
    "\x7b\"Name\":\"Security-Auditing\"\x7d\x7d,\"EventID\":\x7b\"#attributes\":" ++
    "\x7b\"Qualifiers\":0\x7d,\"#text\":4624\x7d,\"Level\":\"4\"," ++
    "\"Channel\":\"Security\",\"Computer\":\"DC01\"\x7d\x7d\x7d"

def auditEvent : Value :=
  .object [("Event", .object [("System", .object [
    ("Provider", .object [("#attributes", .object [("Name", .string "Security-Auditing")])]),
    ("EventID", .object [("#attributes", .object [("Qualifiers", .number (.posInt 0))]),
      ("#text", .number (.posInt 4624))]),
    ("Level", .string "4"),
    ("Channel", .string "Security"),
    ("Computer", .string "DC01")])])]

def auditRecord : SerializedRecord := ⟨41, ⟨1700000000000000⟩, auditText⟩

def tornRecord : SerializedRecord := ⟨43, ⟨1700000000000002⟩, "torn"⟩

def mixedPulls : List (Pull SerializedRecord) :=
  [.err, .ok auditRecord, .ok emptyRecord, .err, .err, .ok tornRecord]

def mixedCrates : Crates where
  fromBuffer _ := .ret (some ⟨mixedPulls⟩)
  fromStr text :=
    if text = auditText then some auditEvent
    else if text = emptyObject then some (.object [])
    else none

def mixedRows : List EvtxRow :=
  [⟨41, some 4624, some "Security-Auditing", some "Security", some "DC01", some 4,
      some 1700000000000000, auditText⟩,
    ⟨1, none, none, none, none, none, some 0, emptyObject⟩,
    ⟨43, none, none, none, none, none, some 1700000000000002, "torn"⟩]

theorem mixedRows_image : Image mixedCrates ⟨mixedPulls⟩ mixedRows := by
  have haudit : systemBlock mixedCrates.fromStr auditText = systemOf auditEvent := by
    simp only [systemBlock, mixedCrates, if_true, Option.bind_some]
  refine .cons (renders_iff.mpr (row_ext rfl ?_ rfl rfl)) (.cons (renders_iff.mpr (by decide))
    (.cons (renders_iff.mpr (by decide)) .nil))
  rw [rowOf_systemColumns, auditRecord, haudit]
  decide

theorem parseRecords_reference_mixed :
    parseRecords mixedCrates elfFileMagic = .ret mixedRows := by
  have hparser : mixedCrates.fromBuffer elfFileMagic = .ret (some ⟨mixedPulls⟩) := rfl
  obtain ⟨rows, hrun, -, hunique, -⟩ :=
    parseRecords_reference (by decide) (List.prefix_refl _) hparser (by decide)
  rw [hrun, hunique mixedRows mixedRows_image]

def RowsSurvive (crates : Crates) (bytes : Bytes) (parser : EvtxParser) : Prop :=
  ∀ before failing after, parser.recordsJson = before ++ failing :: after → failing.ok? = none →
    ∀ i rec, i < maxRecords → (oks before)[i]? = some rec →
      ∃ rows, parseRecords crates bytes = .ret rows ∧ rowOf crates.fromStr rec ∈ rows

def panicSecond : List (Pull SerializedRecord) := [.ok emptyRecord, .panic]

theorem panic_discards_yielded_rows :
    Opens (cratesYielding panicSecond) elfFileMagic ⟨panicSecond⟩ ∧
    parseRecords (cratesYielding panicSecond) elfFileMagic = .ret [] ∧
    ¬ RowsSurvive (cratesYielding panicSecond) elfFileMagic ⟨panicSecond⟩ := by
  have ho := opens_yielding panicSecond
  have hrun : parseRecords (cratesYielding panicSecond) elfFileMagic = .ret [] :=
    parseRecords_panic ho (by simp [panicSecond, maxRecords])
  refine ⟨ho, hrun, ?_⟩
  intro h
  obtain ⟨rows, hrows, hmem⟩ := h [.ok emptyRecord] .panic [] rfl rfl 0 emptyRecord (by decide) rfl
  obtain rfl : rows = [] := ret_unique hrows hrun
  exact absurd hmem (List.not_mem_nil)

theorem oks_getElem?_of_before {before : List (Pull SerializedRecord)}
    {after : List (Pull SerializedRecord)} {i : Nat} {rec : SerializedRecord}
    (hsplit : parser.recordsJson = before ++ after) (h : (oks before)[i]? = some rec) :
    (oks parser.recordsJson)[i]? = some rec := by
  rw [hsplit, oks_append, List.getElem?_append_left (List.getElem?_eq_some_iff.mp h).1, h]

theorem rows_survive_unless_panic (hlen : bytes.length ≤ maxInputBytes)
    (hmagic : elfFileMagic <+: bytes) (hparser : crates.fromBuffer bytes = .ret (some parser)) :
    (.panic ∉ reached maxRecords parser.recordsJson →
      ∃ rows, parseRecords crates bytes = .ret rows ∧
        ∀ i rec, i < maxRecords → (oks parser.recordsJson)[i]? = some rec →
          rows[i]? = some (rowOf crates.fromStr rec)) ∧
    (.panic ∉ reached maxRecords parser.recordsJson → RowsSurvive crates bytes parser) ∧
    (.panic ∈ reached maxRecords parser.recordsJson → parseRecords crates bytes = .ret []) := by
  have ho := opens_of_magic hlen hmagic hparser
  refine ⟨?_, ?_, parseRecords_panic ho⟩
  · intro hcalm
    exact ⟨_, parseRecords_calm ho hcalm, fun i rec hi h => imageOf_getElem? hi h⟩
  · intro hcalm before failing after hsplit _ i rec hi h
    refine ⟨_, parseRecords_calm ho hcalm, ?_⟩
    have hrow : (imageOf crates parser)[i]? = some (rowOf crates.fromStr rec) :=
      imageOf_getElem? hi (oks_getElem?_of_before hsplit h)
    exact List.mem_of_getElem? hrow

theorem rows_survive_mixed : RowsSurvive mixedCrates elfFileMagic ⟨mixedPulls⟩ := by
  have hparser : mixedCrates.fromBuffer elfFileMagic = .ret (some ⟨mixedPulls⟩) := rfl
  have hcalm : .panic ∉ reached maxRecords mixedPulls := by simp [mixedPulls, maxRecords]
  exact (rows_survive_unless_panic (by decide) (List.prefix_refl _) hparser).2.1 hcalm

end EvtxWorker.Parse
