import EvtxWorker.Parse.Log
import EvtxWorker.Worker.Delivery

namespace EvtxWorker.Worker
open Unwinding Unwind Arrow Sdk Parse Input Scalar Table RecordsProducer

inductive Observation where
  | counts (cells : List (Option Int))
  | valids (cells : List (Option Bool))
  | opened (handle : Nat)
  | rows (rows : List EvtxRow)
  | finished
  | failed
  | crashed
  | unknown
deriving DecidableEq

namespace Service

def cellsOf (batch : RecordBatch) : List SqlArg := (batch.columns.head?.bind supportedArgs).getD []

def column {β : Type} (reading : Bytes → β) (hosts : Nat → Host) (batch : RecordBatch) :
    List (Option β) :=
  (cellsOf batch).mapIdx fun row arg => (arg.resolve (hosts row)).map reading

def tableFor (crates : Crates) (host : Host) (params : ProcessParams) : List EvtxRow :=
  ((constInputBytes host (params.arguments.constBytes 0) (params.arguments.constStr 0)).map
    (tableOf crates)).getD []

def step (crates : Crates) (tables : List (Option (List EvtxRow))) :
    Request → Observation × List (Option (List EvtxRow))
  | .recordCount hosts _ batch =>
    (.counts (column (fun bytes => (countOf crates bytes : Int)) hosts batch), tables)
  | .isValid hosts _ batch => (.valids (column (readable crates) hosts batch), tables)
  | .records host params => (.opened tables.length, tables ++ [some (tableFor crates host params)])
  | .nextBatch handle =>
    match tables[handle]? with
    | none => (.unknown, tables)
    | some none => (.finished, tables)
    | some (some rows) =>
      (if TextFits rows then .rows rows else .crashed, tables.set handle none)

end Service

def observe : Answer → Observation
  | .scalar (.ret (.ok out)) =>
    match out.columns with
    | [.int64 cells] => .counts (cells.map (Option.map Int64.toInt))
    | [.boolean cells] => .valids cells
    | _ => .failed
  | .scalar (.ret (.error _)) => .failed
  | .scalar .panic => .crashed
  | .opened (.ret (.ok handle)) => .opened handle
  | .opened (.ret (.error _)) => .failed
  | .opened .panic => .crashed
  | .polled _ (.ret (.ok (some batch))) => ((readRows batch).map Observation.rows).getD .failed
  | .polled _ (.ret (.ok none)) => .finished
  | .polled _ (.ret (.error _)) => .failed
  | .polled _ .panic => .crashed
  | .noProducer => .unknown

def Supported (batch : RecordBatch) : Prop :=
  ∃ col rest args, batch.columns = col :: rest ∧ supportedArgs col = some args

def Request.Bound : Request → Prop
  | recordCount _ params batch =>
    (∃ name, params.outputSchema = (EvtxRecordCount.onBind name).outputSchema) ∧ Supported batch
  | isValid _ params batch =>
    (∃ name, params.outputSchema = (IsValidEvtx.onBind name).outputSchema) ∧ Supported batch
  | records _ params => params.outputSchema = onBind.outputSchema
  | nextBatch _ => True

def pending (p : RecordsProducer) : Option (List EvtxRow) := if p.done then none else some p.rows

structure Serves (pool : List RecordsProducer) (tables : List (Option (List EvtxRow))) : Prop where
  tables : tables = pool.map pending
  declared : ∀ p ∈ pool, p.schema = onBind.outputSchema

section Scalars
variable {crates : Crates} {hosts : Nat → Host} {params : ProcessParams} {batch : RecordBatch}

theorem column_eq_liveCells {β : Type} {reading : Bytes → β} {col : ArrowArray}
    {rest : List ArrowArray} {args : List SqlArg} (hcol : batch.columns = col :: rest)
    (hargs : supportedArgs col = some args) :
    Service.column reading hosts batch = liveCells hosts reading args := by
  simp [Service.column, Service.cellsOf, hcol, hargs, liveCells, inspectArg]

theorem observe_counts {cells : List (Option Int64)}
    {run : Unwind (Except RpcError RecordBatch)} (h : Delivers run (.int64 cells)) :
    observe (.scalar run) = .counts (cells.map (Option.map Int64.toInt)) := by
  obtain ⟨out, rfl, hcolumns⟩ := h
  simp [observe, hcolumns]

theorem observe_valids {cells : List (Option Bool)}
    {run : Unwind (Except RpcError RecordBatch)} (h : Delivers run (.boolean cells)) :
    observe (.scalar run) = .valids cells := by
  obtain ⟨out, rfl, hcolumns⟩ := h
  simp [observe, hcolumns]

theorem liveCells_map {β γ : Type} (f : β → γ) (value : Bytes → β) (args : List SqlArg) :
    (liveCells hosts value args).map (Option.map f) = liveCells hosts (f ∘ value) args := by
  apply List.ext_getElem?
  intro row
  simp only [liveCells, List.getElem?_map, List.getElem?_mapIdx, Option.map_map]
  congr 1
  funext arg
  simp only [Function.comp_apply, inspectArg, Option.map_map]

theorem count_observed (h : (Request.recordCount hosts params batch).Bound) :
    observe (.scalar (EvtxRecordCount.processLive crates hosts params batch)) =
      .counts (Service.column (fun bytes => (countOf crates bytes : Int)) hosts batch) := by
  obtain ⟨⟨name, hname⟩, col, rest, args, hcol, hargs⟩ := h
  obtain ⟨schema, arguments⟩ := params
  choose count hcount hvalue using recordCount_log crates
  obtain rfl : schema = (EvtxRecordCount.onBind name).outputSchema := hname
  have hrun : Delivers (countLive crates hosts name arguments batch)
      (.int64 (liveCells hosts count args)) :=
    inspectLive_delivers int64_dataType hcount hcol hargs
  rw [countLive] at hrun
  have hreading : (fun bytes => (countOf crates bytes : Int)) = Int64.toInt ∘ count :=
    funext fun bytes => (hvalue bytes).symm
  rw [observe_counts hrun, column_eq_liveCells hcol hargs, hreading, liveCells_map]

theorem valid_observed (h : (Request.isValid hosts params batch).Bound) :
    observe (.scalar (IsValidEvtx.processLive crates hosts params batch)) =
      .valids (Service.column (readable crates) hosts batch) := by
  obtain ⟨⟨name, hname⟩, col, rest, args, hcol, hargs⟩ := h
  obtain ⟨schema, arguments⟩ := params
  obtain rfl : schema = (IsValidEvtx.onBind name).outputSchema := hname
  have hrun : Delivers (validLive crates hosts name arguments batch)
      (.boolean (liveCells hosts (readable crates) args)) :=
    inspectLive_delivers boolean_dataType (isValid_log crates) hcol hargs
  rw [validLive] at hrun
  rw [observe_valids hrun, column_eq_liveCells hcol hargs]

end Scalars

variable {crates : Crates} {pool : List RecordsProducer} {tables : List (Option (List EvtxRow))}

theorem tableFor_loads {host : Host} {params : ProcessParams} {rows : List EvtxRow}
    (h : Loads crates
      (constInputBytes host (params.arguments.constBytes 0) (params.arguments.constStr 0)) rows) :
    Service.tableFor crates host params = rows := by
  rw [Service.tableFor]
  cases hbytes : constInputBytes host (params.arguments.constBytes 0)
      (params.arguments.constStr 0) with
  | none =>
    obtain rfl : rows = [] := by simpa [Loads, hbytes] using h
    rfl
  | some bytes =>
    have hparse : parseRecords crates bytes = .ret rows := by simpa [Loads, hbytes] using h
    exact ret_unique (parseRecords_log crates bytes) hparse

theorem serves_pending (h : Serves pool tables) (handle : Nat) :
    tables[handle]? = pool[handle]?.map pending := by
  rw [h.tables, List.getElem?_map]

theorem next_observed {p : RecordsProducer} (handle : Nat) (hfresh : p.done = false)
    (hschema : p.schema = onBind.outputSchema) :
    observe (.polled handle p.nextBatch.1) =
      if TextFits p.rows then .rows p.rows else .crashed := by
  split_ifs with hfits
  · obtain ⟨batch, hbatch, hcolumns, hrows, -⟩ :=
      nextBatch_delivers hfresh hfits (hschema ▸ conforms_outputSchema p.rows)
    simp [hbatch, observe, readRows_columnsOf hcolumns hrows]
  · rw [(nextBatch_panics_iff hfresh).mpr hfits]
    rfl

theorem pending_next (p : RecordsProducer) : pending p.nextBatch.2 = none := by
  cases h : p.done with
  | true =>
    rw [nextBatch_done h]
    exact if_pos h
  | false => rw [nextBatch_fresh h]; rfl

theorem schema_next (p : RecordsProducer) : p.nextBatch.2.schema = p.schema := by
  cases h : p.done with
  | true => rw [nextBatch_done h]
  | false => rw [nextBatch_fresh h]

theorem serves_polled {handle : Nat} {p : RecordsProducer} (h : Serves pool tables)
    (hp : pool[handle]? = some p) :
    Serves (pool.set handle p.nextBatch.2) (tables.set handle none) := by
  constructor
  · rw [List.map_set, pending_next, h.tables]
  · intro q hq
    rcases List.mem_or_eq_of_mem_set hq with hq | rfl
    · exact h.declared q hq
    · rw [schema_next]
      exact h.declared p (List.mem_of_getElem? hp)

theorem serves_opened {p : RecordsProducer} (h : Serves pool tables) (hfresh : p.done = false)
    (hschema : p.schema = onBind.outputSchema) :
    Serves (pool ++ [p]) (tables ++ [some p.rows]) := by
  constructor
  · rw [List.map_append, ← h.tables, List.map_singleton, pending, hfresh]
    rfl
  · intro q hq
    rcases List.mem_append.mp hq with hq | hq
    · exact h.declared q hq
    · obtain rfl := List.mem_singleton.mp hq
      exact hschema

theorem serve_refines (h : Serves pool tables) (r : Request) (hr : r.Bound) :
    observe (serve crates pool r).1 = (Service.step crates tables r).1 ∧
      Serves (serve crates pool r).2 (Service.step crates tables r).2 := by
  cases r with
  | recordCount hosts params batch => exact ⟨count_observed hr, h⟩
  | isValid hosts params batch => exact ⟨valid_observed hr, h⟩
  | records host params =>
    obtain ⟨rows, hrows, hp⟩ := producer_opens crates host params
    have hlen : tables.length = pool.length := by rw [h.tables, List.length_map]
    rw [serve_records hp, Service.step, tableFor_loads hrows, hlen]
    exact ⟨rfl, serves_opened h rfl hr⟩
  | nextBatch handle =>
    have hslot := serves_pending h handle
    cases hp : pool[handle]? with
    | none =>
      rw [hp, Option.map_none] at hslot
      simp only [serve, Service.step, hp, hslot]
      exact ⟨rfl, h⟩
    | some p =>
      have hnext := serves_polled h hp
      rw [hp, Option.map_some, pending] at hslot
      cases hdone : p.done with
      | true =>
        rw [hdone, if_pos rfl] at hslot
        have hsame : tables.set handle none = tables := by
          obtain ⟨hlt, hvalue⟩ := List.getElem?_eq_some_iff.mp hslot
          rw [← hvalue, List.set_getElem_self]
        simp only [serve, Service.step, hp, hslot]
        rw [hsame] at hnext
        refine ⟨?_, hnext⟩
        rw [nextBatch_done hdone]
        rfl
      | false =>
        rw [hdone, if_neg Bool.false_ne_true] at hslot
        simp only [serve, Service.step, hp, hslot]
        exact ⟨next_observed handle hdone (h.declared p (List.mem_of_getElem? hp)), hnext⟩

theorem serves_nil : Serves [] [] := ⟨rfl, by simp⟩

theorem answers_refine (h : Serves pool tables) {rs : List Request} (hrs : ∀ r ∈ rs, r.Bound) :
    (answers crates pool rs).map observe = outputs (Service.step crates) tables rs :=
  outputs_simulated observe Serves Request.Bound
    (fun _ _ r hserves hr => serve_refines hserves r hr) h hrs

theorem worker_refines_service {rs : List Request} (hrs : ∀ r ∈ rs, r.Bound) :
    (answers crates [] rs).map observe = outputs (Service.step crates) [] rs :=
  answers_refine serves_nil hrs

theorem worker_refines_service_interleaved :
    (answers mixedCrates [] interleavedRun).map observe =
      outputs (Service.step mixedCrates) [] interleavedRun := by
  have hsupported : Supported (columnBatch (.binary [some elfFileMagic, none])) :=
    ⟨.binary [some elfFileMagic, none], [], [.blob elfFileMagic, .null], rfl, rfl⟩
  apply worker_refines_service
  simp only [interleavedRun, List.forall_mem_cons]
  exact ⟨rfl, trivial, rfl, ⟨⟨_, rfl⟩, hsupported⟩, trivial, trivial, trivial, trivial,
    List.forall_mem_nil _⟩

end EvtxWorker.Worker
