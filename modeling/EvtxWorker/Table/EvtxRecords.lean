import EvtxWorker.Library.Buffer
import EvtxWorker.Library.Producer
import EvtxWorker.Input.Resolve
import EvtxWorker.Parse.Agreement
import Mathlib.Algebra.Order.Group.Nat

namespace EvtxWorker.Table
open Unwinding Unwind Arrow Sdk Parse Input

def i32Max : Nat := 2 ^ 31 - 1

abbrev StringBuilder := Buffer String.utf8ByteSize i32Max

structure Builders where
  recordId : List (Option Int64)
  eventId : List (Option Int32)
  provider : StringBuilder
  channel : StringBuilder
  computer : StringBuilder
  level : List (Option Int32)
  timeCreated : List (Option Int64)
  eventJson : StringBuilder

namespace Builders

def new : Builders := ⟨[], [], .new, .new, .new, [], [], .new⟩

def appendRow (b : Builders) (r : EvtxRow) : Unwind Builders := do
  let recordId := b.recordId ++ [some r.recordId]
  let eventId := b.eventId ++ [r.eventId]
  let provider ← b.provider.append r.provider
  let channel ← b.channel.append r.channel
  let computer ← b.computer.append r.computer
  let level := b.level ++ [r.level]
  let timeCreated := b.timeCreated ++ [r.timeCreatedMicros]
  let eventJson ← b.eventJson.append (some r.eventJson)
  return ⟨recordId, eventId, provider, channel, computer, level, timeCreated, eventJson⟩

def finish (b : Builders) : List ArrowArray :=
  [.int64 b.recordId, .int32 b.eventId, .utf8 b.provider.cells, .utf8 b.channel.cells,
    .utf8 b.computer.cells, .int32 b.level, .timestampMicrosecond b.timeCreated,
    .utf8 b.eventJson.cells]

end Builders

def outputSchema : Schema where
  fields := [
    ⟨"record_id", .int64, true⟩,
    ⟨"event_id", .int32, true⟩,
    ⟨"provider", .utf8, true⟩,
    ⟨"channel", .utf8, true⟩,
    ⟨"computer", .utf8, true⟩,
    ⟨"level", .int32, true⟩,
    ⟨"time_created", .timestampMicrosecond, true⟩,
    ⟨"event_json", .utf8, true⟩]

def onBind : BindResponse := ⟨outputSchema, []⟩

structure RecordsProducer where
  schema : Schema
  rows : List EvtxRow
  done : Bool

def producer (crates : Crates) (host : Host) (params : ProcessParams) :
    Unwind (Except RpcError RecordsProducer) := ExceptT.run do
  let bytes := constInputBytes host (params.arguments.constBytes 0) (params.arguments.constStr 0)
  let rows ← match bytes with
    | some b => Call.ofUnwind (parseRecords crates b)
    | none => pure []
  return ⟨params.outputSchema, rows, false⟩

namespace RecordsProducer

def buildBatch (p : RecordsProducer) : Call RecordBatch := do
  let builders ← Call.ofUnwind (p.rows.foldlM Builders.appendRow .new)
  Call.tryNew p.schema builders.finish

def nextBatch (p : RecordsProducer) :
    Unwind (Except RpcError (Option RecordBatch)) × RecordsProducer :=
  if p.done then (.ret (.ok none), p)
  else
    let p := { p with done := true }
    ((some <$> p.buildBatch).run, p)

end RecordsProducer

def textColumns : List (EvtxRow → Option String) :=
  [EvtxRow.provider, EvtxRow.channel, EvtxRow.computer, fun r => some r.eventJson]

def TextFits (rows : List EvtxRow) : Prop :=
  ∀ column ∈ textColumns, weigh String.utf8ByteSize (rows.map column) ≤ i32Max

instance (rows : List EvtxRow) : Decidable (TextFits rows) :=
  inferInstanceAs (Decidable (∀ column ∈ textColumns, _))

structure Holds (b : Builders) (rows : List EvtxRow) : Prop where
  recordId : b.recordId = rows.map fun r => some r.recordId
  eventId : b.eventId = rows.map EvtxRow.eventId
  provider : b.provider.cells = rows.map EvtxRow.provider
  channel : b.channel.cells = rows.map EvtxRow.channel
  computer : b.computer.cells = rows.map EvtxRow.computer
  level : b.level = rows.map EvtxRow.level
  timeCreated : b.timeCreated = rows.map EvtxRow.timeCreatedMicros
  eventJson : b.eventJson.cells = rows.map fun r => some r.eventJson

theorem holds_new : Holds .new [] := ⟨rfl, rfl, rfl, rfl, rfl, rfl, rfl, rfl⟩

theorem textFits_nil : TextFits [] := by
  intro column _
  exact Nat.zero_le _

theorem textFits_append_left {rows more : List EvtxRow} (h : TextFits (rows ++ more)) :
    TextFits rows := by
  intro column hcolumn
  refine le_trans ?_ (h column hcolumn)
  rw [List.map_append]
  exact weigh_le_append _ _ _

theorem textFits_of_holds {b : Builders} {rows : List EvtxRow} (h : Holds b rows) :
    TextFits rows := by
  intro column hcolumn
  simp only [textColumns, List.mem_cons, List.not_mem_nil, or_false] at hcolumn
  rcases hcolumn with rfl | rfl | rfl | rfl
  · exact h.provider ▸ b.provider.fits
  · exact h.channel ▸ b.channel.fits
  · exact h.computer ▸ b.computer.fits
  · exact h.eventJson ▸ b.eventJson.fits

theorem column_append {buffer : StringBuilder} {rows : List EvtxRow} {r : EvtxRow}
    {column : EvtxRow → Option String} (hcolumn : column ∈ textColumns)
    (hcells : buffer.cells = rows.map column) (hfits : TextFits (rows ++ [r])) :
    ∃ buffer', buffer.append (column r) = .ret buffer' := by
  have hweigh : weigh String.utf8ByteSize (buffer.cells ++ [column r]) ≤ i32Max := by
    rw [hcells]
    simpa using hfits column hcolumn
  exact ⟨_, Buffer.append_ret hweigh⟩

theorem appendRow_holds {b b' : Builders} {rows : List EvtxRow} {r : EvtxRow} (hb : Holds b rows)
    (hrun : b.appendRow r = .ret b') : Holds b' (rows ++ [r]) := by
  obtain ⟨provider, hprovider, hrun⟩ := bind_eq_ret.mp hrun
  obtain ⟨channel, hchannel, hrun⟩ := bind_eq_ret.mp hrun
  obtain ⟨computer, hcomputer, hrun⟩ := bind_eq_ret.mp hrun
  obtain ⟨eventJson, heventJson, hrun⟩ := bind_eq_ret.mp hrun
  cases hrun
  constructor
  · simp [hb.recordId]
  · simp [hb.eventId]
  · simp [Buffer.append_cells hprovider, hb.provider]
  · simp [Buffer.append_cells hchannel, hb.channel]
  · simp [Buffer.append_cells hcomputer, hb.computer]
  · simp [hb.level]
  · simp [hb.timeCreated]
  · simp [Buffer.append_cells heventJson, hb.eventJson]

theorem appendRow_ret {b : Builders} {rows : List EvtxRow} {r : EvtxRow} (hb : Holds b rows)
    (hfits : TextFits (rows ++ [r])) :
    ∃ b', b.appendRow r = .ret b' ∧ Holds b' (rows ++ [r]) := by
  obtain ⟨provider, hprovider⟩ := column_append (by simp [textColumns]) hb.provider hfits
  obtain ⟨channel, hchannel⟩ := column_append (by simp [textColumns]) hb.channel hfits
  obtain ⟨computer, hcomputer⟩ := column_append (by simp [textColumns]) hb.computer hfits
  obtain ⟨eventJson, heventJson⟩ := column_append (by simp [textColumns]) hb.eventJson hfits
  have hrun : b.appendRow r = .ret ⟨b.recordId ++ [some r.recordId], b.eventId ++ [r.eventId],
      provider, channel, computer, b.level ++ [r.level], b.timeCreated ++ [r.timeCreatedMicros],
      eventJson⟩ := by
    simp [Builders.appendRow, hprovider, hchannel, hcomputer, heventJson]
  exact ⟨_, hrun, appendRow_holds hb hrun⟩

theorem appendRows_ret {rows : List EvtxRow} (hfits : TextFits rows) :
    ∃ b, rows.foldlM Builders.appendRow .new = .ret b ∧ Holds b rows := by
  obtain ⟨b, hrun⟩ :=
    foldlM_ret TextFits textFits_append_left appendRow_ret rows holds_new hfits
  exact ⟨b, hrun, foldlM_holds appendRow_holds holds_new hrun⟩

theorem appendRows_panic {rows : List EvtxRow} (hfits : ¬ TextFits rows) :
    rows.foldlM Builders.appendRow .new = .panic := by
  cases hrun : rows.foldlM Builders.appendRow .new with
  | panic => rfl
  | ret b => exact absurd (textFits_of_holds (foldlM_holds appendRow_holds holds_new hrun)) hfits

def columnsOf (rows : List EvtxRow) : List ArrowArray :=
  [.int64 (rows.map fun r => some r.recordId), .int32 (rows.map EvtxRow.eventId),
    .utf8 (rows.map EvtxRow.provider), .utf8 (rows.map EvtxRow.channel),
    .utf8 (rows.map EvtxRow.computer), .int32 (rows.map EvtxRow.level),
    .timestampMicrosecond (rows.map EvtxRow.timeCreatedMicros),
    .utf8 (rows.map fun r => some r.eventJson)]

theorem finish_of_holds {b : Builders} {rows : List EvtxRow} (h : Holds b rows) :
    b.finish = columnsOf rows := by
  rw [Builders.finish, h.recordId, h.eventId, h.provider, h.channel, h.computer, h.level,
    h.timeCreated, h.eventJson]
  rfl

theorem columnsOf_len {rows : List EvtxRow} {column : ArrowArray} (h : column ∈ columnsOf rows) :
    column.len = rows.length := by
  simp only [columnsOf, List.mem_cons, List.not_mem_nil, or_false] at h
  rcases h with rfl | rfl | rfl | rfl | rfl | rfl | rfl | rfl <;> simp [ArrowArray.len]

theorem columnsOf_types (rows : List EvtxRow) :
    (columnsOf rows).map ArrowArray.dataType = outputSchema.fields.map Field.dataType := rfl

theorem conforms_outputSchema (rows : List EvtxRow) :
    RecordBatch.Conforms outputSchema (columnsOf rows) :=
  RecordBatch.conforms_nullable (columnsOf_types rows) (by decide)

theorem tryNew_columnsOf {schema : Schema} {rows : List EvtxRow}
    (h : RecordBatch.Conforms schema (columnsOf rows)) :
    ∃ batch, RecordBatch.tryNew schema (columnsOf rows) = .ok batch ∧
      batch.columns = columnsOf rows ∧ batch.numRows = rows.length ∧ batch.schema = schema := by
  have hlen : ∀ column ∈ columnsOf rows,
      column.len = (ArrowArray.int64 (rows.map fun r => some r.recordId)).len := by
    intro column hcolumn
    rw [columnsOf_len hcolumn, columnsOf_len (List.mem_cons_self ..)]
  refine ⟨_, RecordBatch.tryNew_conforms hlen h, rfl, ?_, rfl⟩
  exact columnsOf_len (List.mem_cons_self ..)

section Runs
open RecordsProducer
variable {p : RecordsProducer}

theorem nextBatch_done (h : p.done = true) : p.nextBatch = (.ret (.ok none), p) := by
  simp [nextBatch, h]

theorem nextBatch_fresh (h : p.done = false) :
    p.nextBatch = ((some <$> p.buildBatch).run, { p with done := true }) := by
  rw [nextBatch, if_neg (by simp [h])]
  rfl

theorem nextBatch_second (h : p.done = false) :
    nextBatch p.nextBatch.2 = (.ret (.ok none), p.nextBatch.2) := by
  rw [nextBatch_fresh h]
  exact nextBatch_done rfl

theorem nextBatch_panics_iff (h : p.done = false) :
    p.nextBatch.1 = .panic ↔ ¬ TextFits p.rows := by
  rw [nextBatch_fresh h]
  constructor
  · intro hpanic hfits
    obtain ⟨b, hrun, -⟩ := appendRows_ret hfits
    simp [buildBatch, hrun, Call.tryNew, Call.ofResult] at hpanic
  · intro hfits
    simp [buildBatch, appendRows_panic hfits, Call.ofUnwind]

theorem buildBatch_eq (hfits : TextFits p.rows) :
    p.buildBatch = Call.tryNew p.schema (columnsOf p.rows) := by
  obtain ⟨b, hrun, hholds⟩ := appendRows_ret hfits
  rw [buildBatch, hrun, Call.ofUnwind_ret, pure_bind, finish_of_holds hholds]

theorem nextBatch_delivers (h : p.done = false) (hfits : TextFits p.rows)
    (hschema : RecordBatch.Conforms p.schema (columnsOf p.rows)) :
    ∃ batch, p.nextBatch.1 = .ret (.ok (some batch)) ∧ batch.columns = columnsOf p.rows ∧
      batch.numRows = p.rows.length ∧ batch.schema = p.schema := by
  obtain ⟨batch, hbatch, hcontents⟩ := tryNew_columnsOf hschema
  refine ⟨batch, ?_, hcontents⟩
  rw [nextBatch_fresh h, buildBatch_eq hfits, Call.tryNew, hbatch]
  rfl

theorem nextBatch_rejects (h : p.done = false) (hfits : TextFits p.rows)
    (hschema : ¬ RecordBatch.Conforms p.schema (columnsOf p.rows)) :
    ∃ e, p.nextBatch.1 = .ret (.error e) := by
  rw [nextBatch_fresh h, buildBatch_eq hfits, Call.tryNew]
  cases hrun : RecordBatch.tryNew p.schema (columnsOf p.rows) with
  | ok batch => exact absurd (RecordBatch.conforms_of_tryNew hrun) hschema
  | error e => exact ⟨_, rfl⟩

end Runs

def Loads (crates : Crates) (bytes : Option Bytes) (rows : List EvtxRow) : Prop :=
  bytes.elim (rows = []) fun b => parseRecords crates b = .ret rows

section Loading
variable {crates : Crates} {host : Host} {params : ProcessParams} {rows : List EvtxRow}

theorem loads_exists (crates : Crates) (bytes : Option Bytes) :
    ∃ rows, Loads crates bytes rows := by
  cases bytes with
  | none => exact ⟨[], rfl⟩
  | some b =>
    obtain ⟨rows, hrows, -⟩ := parseRecords_bounded crates b
    exact ⟨rows, hrows⟩

theorem producer_loads
    (h : Loads crates
      (constInputBytes host (params.arguments.constBytes 0) (params.arguments.constStr 0)) rows) :
    producer crates host params = .ret (.ok ⟨params.outputSchema, rows, false⟩) := by
  rw [producer]
  cases hbytes : constInputBytes host (params.arguments.constBytes 0)
      (params.arguments.constStr 0) with
  | none =>
    obtain rfl : rows = [] := by simpa [Loads, hbytes] using h
    rfl
  | some b =>
    have hrows : parseRecords crates b = .ret rows := by simpa [Loads, hbytes] using h
    simp only [hrows]
    rfl

end Loading

end EvtxWorker.Table
