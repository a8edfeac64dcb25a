import EvtxWorker.Library.Cellwise
import EvtxWorker.Table.EvtxRecords

namespace EvtxWorker.Table
open Unwinding Unwind Arrow Sdk Parse Input RecordsProducer

def readRow (columns : List ArrowArray) (i : Nat) : Option EvtxRow :=
  match columns with
  | [.int64 recordId, .int32 eventId, .utf8 provider, .utf8 channel, .utf8 computer, .int32 level,
      .timestampMicrosecond timeCreated, .utf8 eventJson] => do
    return {
      recordId := ← (← recordId[i]?)
      eventId := ← eventId[i]?
      provider := ← provider[i]?
      channel := ← channel[i]?
      computer := ← computer[i]?
      level := ← level[i]?
      timeCreatedMicros := ← timeCreated[i]?
      eventJson := ← (← eventJson[i]?) }
  | _ => none

def readRows (batch : RecordBatch) : Option (List EvtxRow) :=
  buildCells (readRow batch.columns) (List.range batch.numRows)

def nullsOf (row : EvtxRow) : List Bool :=
  [false, row.eventId.isNone, row.provider.isNone, row.channel.isNone, row.computer.isNone,
    row.level.isNone, row.timeCreatedMicros.isNone, false]

def fieldColumns (rows : List EvtxRow) : List (String × ArrowArray) :=
  [("record_id", .int64 (rows.map fun row => some row.recordId)),
    ("event_id", .int32 (rows.map EvtxRow.eventId)),
    ("provider", .utf8 (rows.map EvtxRow.provider)),
    ("channel", .utf8 (rows.map EvtxRow.channel)),
    ("computer", .utf8 (rows.map EvtxRow.computer)),
    ("level", .int32 (rows.map EvtxRow.level)),
    ("time_created", .timestampMicrosecond (rows.map EvtxRow.timeCreatedMicros)),
    ("event_json", .utf8 (rows.map fun row => some row.eventJson))]

variable {rows : List EvtxRow} {i : Nat} {row : EvtxRow}

theorem columnByName_columnsOf {batch : RecordBatch} (hschema : batch.schema = outputSchema)
    (hcolumns : batch.columns = columnsOf rows) :
    ∀ field ∈ fieldColumns rows, batch.columnByName field.1 = some field.2 := by
  simp only [fieldColumns, List.forall_mem_cons, RecordBatch.columnByName, hschema, hcolumns]
  exact ⟨rfl, rfl, rfl, rfl, rfl, rfl, rfl, rfl, List.forall_mem_nil _⟩

theorem readRow_columnsOf (rows : List EvtxRow) (i : Nat) :
    readRow (columnsOf rows) i = rows[i]? := by
  cases h : rows[i]? with
  | none => simp [readRow, columnsOf, h]
  | some row => simp [readRow, columnsOf, h]

theorem readRows_columnsOf {batch : RecordBatch} (hcolumns : batch.columns = columnsOf rows)
    (hrows : batch.numRows = rows.length) : readRows batch = some rows := by
  have hread : buildCells (readRow (columnsOf rows)) (List.range rows.length) =
      some (rows.map id) :=
    buildCells_rows fun i row hrow => (readRow_columnsOf rows i).trans hrow
  rw [readRows, hcolumns, hrows, hread, List.map_id]

theorem isNull_columnsOf (hrow : rows[i]? = some row) :
    (columnsOf rows).map (·.isNull i) = nullsOf row := by
  have hcell {α : Type} {a : ArrowArray} (field : EvtxRow → Option α)
      (ha : a.nulls = some ((rows.map field).map Option.isSome)) :
      a.isNull i = (field row).isNone := by
    apply ArrowArray.isNull_of_cells ha
    rw [List.getElem?_map, hrow]
    rfl
  rw [columnsOf, List.map_cons, hcell (fun r => some r.recordId) rfl, List.map_cons,
    hcell EvtxRow.eventId rfl, List.map_cons, hcell EvtxRow.provider rfl, List.map_cons,
    hcell EvtxRow.channel rfl, List.map_cons, hcell EvtxRow.computer rfl, List.map_cons,
    hcell EvtxRow.level rfl, List.map_cons, hcell EvtxRow.timeCreatedMicros rfl, List.map_cons,
    hcell (fun r => some r.eventJson) rfl]
  rfl

theorem drains_once_iff {p : RecordsProducer} {batch : RecordBatch} (h : p.done = false)
    (hfirst : p.nextBatch.1 = .ret (.ok (some batch))) (batches : List RecordBatch) :
    Drains nextBatch p batches ↔ batches = [batch] := by
  have hdrains := drains_once hfirst (nextBatch_second h)
  constructor
  · exact fun hbatches => hbatches.unique hdrains
  · rintro rfl
    exact hdrains

theorem rows_delivered_once (hfits : TextFits rows) :
    ∃ batch,
      (∀ n, calls nextBatch (n + 1) ⟨onBind.outputSchema, rows, false⟩ =
        .ret (.ok (some batch)) :: List.replicate n (.ret (.ok none))) ∧
      (∀ batches, Drains nextBatch ⟨onBind.outputSchema, rows, false⟩ batches ↔
        batches = [batch]) ∧
      batch.schema = onBind.outputSchema ∧ batch.columns.length = 8 ∧
      (∀ field ∈ fieldColumns rows, batch.columnByName field.1 = some field.2) ∧
      (∀ column ∈ batch.columns, column.len = rows.length) ∧
      readRows batch = some rows ∧
      (∀ i, readRow batch.columns i = rows[i]?) ∧
      ∀ i row, rows[i]? = some row → batch.columns.map (·.isNull i) = nullsOf row := by
  obtain ⟨batch, hfirst, hcolumns, hrows, hschema⟩ :=
    @nextBatch_delivers ⟨onBind.outputSchema, rows, false⟩ rfl hfits (conforms_outputSchema rows)
  refine ⟨batch, ?_, drains_once_iff rfl hfirst, hschema, ?_,
    columnByName_columnsOf hschema hcolumns, ?_, readRows_columnsOf hcolumns hrows, ?_, ?_⟩
  · intro n
    rw [calls, hfirst, calls_exhausted (nextBatch_second rfl)]
  · rw [hcolumns]
    rfl
  · rw [hcolumns]
    exact fun column => columnsOf_len
  · rw [hcolumns]
    exact readRow_columnsOf rows
  · rw [hcolumns]
    exact fun i row => isNull_columnsOf

def sparseRow : EvtxRow := ⟨7, none, some "a", none, some "b", some 4, some 0, "\x7b\x7d"⟩

theorem rows_delivered_once_sparse :
    ∃ batch, readRows batch = some [sparseRow] ∧
      Drains nextBatch ⟨onBind.outputSchema, [sparseRow], false⟩ [batch] ∧
      batch.columnByName "computer" = some (.utf8 [some "b"]) := by
  have hfits : TextFits [sparseRow] := by decide
  obtain ⟨batch, -, hdrains, -, -, hnamed, -, hread, -⟩ := rows_delivered_once hfits
  exact ⟨batch, hread, (hdrains [batch]).mpr rfl,
    hnamed ("computer", .utf8 [some "b"]) (by simp [fieldColumns, sparseRow])⟩

def RowsDelivered (p : RecordsProducer) (i : Nat) : Prop :=
  ∃ j < i, ∃ batch, callAt nextBatch j p = .ret (.ok (some batch)) ∧ readRows batch = some p.rows

def Calm (p : RecordsProducer) (i : Nat) : Prop := ∀ j < i, callAt nextBatch j p ≠ .panic

structure EndsHonestly (counted : Nat → Prop) (p : RecordsProducer) : Prop where
  ends : ∀ i, counted i → callAt nextBatch i p = .ret (.ok none) → RowsDelivered p i
  errors : ∀ i e, callAt nextBatch i p = .ret (.error e) →
    after nextBatch (i + 1) p = after nextBatch i p

variable {p : RecordsProducer} {counted : Nat → Prop}

theorem callAt_later (h : p.done = false) (n : Nat) :
    callAt nextBatch (n + 1) p = .ret (.ok none) := callAt_once (nextBatch_second h) n

theorem endsHonestly_delivers (h : p.done = false) (hfits : TextFits p.rows)
    (hschema : RecordBatch.Conforms p.schema (columnsOf p.rows)) : EndsHonestly counted p := by
  obtain ⟨batch, hfirst, hcolumns, hrows, -⟩ := nextBatch_delivers h hfits hschema
  constructor
  · intro i _ hend
    cases i with
    | zero =>
      rw [callAt, after, hfirst] at hend
      cases hend
    | succ i => exact ⟨0, Nat.succ_pos i, batch, hfirst, readRows_columnsOf hcolumns hrows⟩
  · intro i e herror
    cases i with
    | zero =>
      rw [callAt, after, hfirst] at herror
      cases herror
    | succ i =>
      rw [callAt_later h] at herror
      cases herror

theorem not_endsHonestly_rejects (h : p.done = false) (hfits : TextFits p.rows)
    (hschema : ¬ RecordBatch.Conforms p.schema (columnsOf p.rows)) :
    ¬ EndsHonestly counted p := by
  obtain ⟨e, hfirst⟩ := nextBatch_rejects h hfits hschema
  intro honest
  have hkept : p.nextBatch.2 = p := honest.errors 0 e hfirst
  have hdone : p.nextBatch.2.done = true := by rw [nextBatch_fresh h]
  rw [hkept, h] at hdone
  cases hdone

theorem first_panics (h : p.done = false) (hfits : ¬ TextFits p.rows) :
    callAt nextBatch 0 p = .panic := (nextBatch_panics_iff h).mpr hfits

theorem not_endsHonestly_panics (h : p.done = false) (hfits : ¬ TextFits p.rows) :
    ¬ EndsHonestly (fun _ => True) p := by
  intro honest
  obtain ⟨j, hj, batch, hbatch, -⟩ := honest.ends 1 trivial (callAt_later h 0)
  obtain rfl : j = 0 := Nat.lt_one_iff.mp hj
  rw [first_panics h hfits] at hbatch
  cases hbatch

theorem endsHonestly_panics (h : p.done = false) (hfits : ¬ TextFits p.rows) :
    EndsHonestly (Calm p) p := by
  have hpanic := first_panics h hfits
  constructor
  · intro i hcalm hend
    cases i with
    | zero =>
      rw [hpanic] at hend
      cases hend
    | succ i => exact absurd hpanic (hcalm 0 (Nat.succ_pos i))
  · intro i e herror
    cases i with
    | zero =>
      rw [hpanic] at herror
      cases herror
    | succ i =>
      rw [callAt_later h] at herror
      cases herror

theorem endsHonestly_fits (h : p.done = false) (hfits : TextFits p.rows) :
    EndsHonestly counted p ↔ RecordBatch.Conforms p.schema (columnsOf p.rows) := by
  constructor
  · intro honest
    by_contra hschema
    exact not_endsHonestly_rejects h hfits hschema honest
  · exact endsHonestly_delivers h hfits

theorem ends_honestly_iff (schema : Schema) (rows : List EvtxRow) :
    (EndsHonestly (fun _ => True) ⟨schema, rows, false⟩ ↔
      TextFits rows ∧ RecordBatch.Conforms schema (columnsOf rows)) ∧
    (EndsHonestly (Calm ⟨schema, rows, false⟩) ⟨schema, rows, false⟩ ↔
      (TextFits rows → RecordBatch.Conforms schema (columnsOf rows))) := by
  by_cases hfits : TextFits rows
  · rw [endsHonestly_fits rfl hfits, endsHonestly_fits rfl hfits]
    exact ⟨(and_iff_right hfits).symm, fun h _ => h, fun h => h hfits⟩
  · exact ⟨iff_of_false (not_endsHonestly_panics rfl hfits) fun h => hfits h.1,
      iff_of_true (endsHonestly_panics rfl hfits) fun h => absurd h hfits⟩

def mismatched : RecordsProducer := ⟨⟨[⟨"record_id", .int64, true⟩]⟩, [sparseRow], false⟩

theorem error_then_end :
    callAt nextBatch 0 mismatched = .ret (.error (.runtimeError (.columnCount 8 1))) ∧
    callAt nextBatch 1 mismatched = .ret (.ok none) ∧
    ¬ EndsHonestly (Calm mismatched) mismatched := by
  refine ⟨rfl, callAt_later rfl 0, ?_⟩
  apply not_endsHonestly_rejects rfl (by decide)
  intro h
  exact absurd h.types (by decide)

end EvtxWorker.Table
