import EvtxWorker.Parse.Reference
import EvtxWorker.Table.Delivery

namespace EvtxWorker.Table
open Unwinding Unwind Arrow Sdk Parse Input RecordsProducer

structure Deliverable (p : RecordsProducer) : Prop where
  fits : TextFits p.rows
  schema : RecordBatch.Conforms p.schema (columnsOf p.rows)

instance (schema : Schema) (columns : List ArrowArray) :
    Decidable (RecordBatch.Conforms schema columns) :=
  decidable_of_iff
    (columns.map ArrowArray.dataType = schema.fields.map Field.dataType ∧
      ∀ p ∈ columns.zip schema.fields, p.2.nullable = true ∨ p.1.nullCount = 0)
    ⟨fun h => ⟨h.1, h.2⟩, fun h => ⟨h.types, h.nulls⟩⟩

instance (p : RecordsProducer) : Decidable (Deliverable p) :=
  decidable_of_iff (TextFits p.rows ∧ RecordBatch.Conforms p.schema (columnsOf p.rows))
    ⟨fun h => ⟨h.1, h.2⟩, fun h => ⟨h.fits, h.schema⟩⟩

variable {crates : Crates} {rows : List EvtxRow} {p : RecordsProducer}

theorem nextBatch_cases (h : p.done = false) :
    (Deliverable p ∧ ∃ batch, p.nextBatch.1 = .ret (.ok (some batch)) ∧
      readRows batch = some p.rows ∧ batch.numRows = p.rows.length ∧ batch.schema = p.schema) ∨
    (¬ Deliverable p ∧ (p.nextBatch.1 = .panic ∨ ∃ e, p.nextBatch.1 = .ret (.error e))) := by
  by_cases hfits : TextFits p.rows
  · by_cases hschema : RecordBatch.Conforms p.schema (columnsOf p.rows)
    · obtain ⟨batch, hbatch, hcolumns, hrows, hout⟩ := nextBatch_delivers h hfits hschema
      exact .inl ⟨⟨hfits, hschema⟩, batch, hbatch, readRows_columnsOf hcolumns hrows, hrows, hout⟩
    · exact .inr ⟨fun hd => hschema hd.schema, .inr (nextBatch_rejects h hfits hschema)⟩
  · exact .inr ⟨fun hd => hfits hd.fits, .inl ((nextBatch_panics_iff h).mpr hfits)⟩

theorem nextBatch_contents (h : p.done = false) {batch : RecordBatch}
    (hbatch : p.nextBatch.1 = .ret (.ok (some batch))) :
    readRows batch = some p.rows ∧ batch.numRows = p.rows.length ∧ batch.schema = p.schema := by
  rcases nextBatch_cases h with ⟨-, out, hout, hcontents⟩ | ⟨-, hpanic | ⟨e, he⟩⟩
  · rw [hout] at hbatch
    cases hbatch
    exact hcontents
  · rw [hpanic] at hbatch
    cases hbatch
  · rw [he] at hbatch
    cases hbatch

theorem loads_cases {bytes : Option Bytes} (h : Loads crates bytes rows) :
    rows = [] ∨ ∃ content parser, bytes = some content ∧ Opens crates content parser ∧
      rows = imageOf crates parser := by
  cases bytes with
  | none => exact .inl h
  | some content =>
    rcases parseRecords_cases crates content with ⟨parser, ho, -, hrun⟩ | hrun
    · exact .inr ⟨content, parser, rfl, ho, ret_unique h hrun⟩
    · exact .inl (ret_unique h hrun)

theorem mixed_loads : Loads mixedCrates (some elfFileMagic) mixedRows := by
  have ho : Opens mixedCrates elfFileMagic ⟨mixedPulls⟩ := ⟨by decide, rfl⟩
  have himage : imageOf mixedCrates ⟨mixedPulls⟩ = mixedRows := image_iff.mp mixedRows_image
  exact himage ▸ parseRecords_panicFree ho (by decide)

theorem mixedRows_fit : TextFits mixedRows := by decide +kernel

end EvtxWorker.Table
