import EvtxWorker.Scalar.Cells

namespace EvtxWorker.Scalar
open Unwinding Unwind Arrow Sdk Parse Input

section Inspect
variable {β : Type} (hosts : Nat → Host) (measure : Bytes → Unwind β)

def inspectLive (finish : List (Option β) → ArrowArray) (params : ProcessParams)
    (batch : RecordBatch) : Unwind (Except RpcError RecordBatch) := ExceptT.run do
  let col ← Call.ofUnwind (batch.column 0)
  let out ← buildCells (fun row => inspectCell (hosts row) measure col row)
    (List.range batch.numRows)
  Call.tryNew params.outputSchema [finish out]

theorem inspectLive_still (host : Host) :
    inspectLive (fun _ => host) measure = inspect host measure := rfl

def liveCells (value : Bytes → β) (args : List SqlArg) : List (Option β) :=
  args.mapIdx fun row arg => inspectArg (hosts row) value arg

variable {hosts measure} {value : Bytes → β} {finish : List (Option β) → ArrowArray}
  {params : ProcessParams} {batch : RecordBatch} {col : ArrowArray} {rest : List ArrowArray}
  {args : List SqlArg}

theorem liveCells_getElem? {row : Nat} {cell : Option β}
    (h : (liveCells hosts value args)[row]? = some cell) :
    ∃ arg, args[row]? = some arg ∧ inspectArg (hosts row) value arg = cell := by
  simpa [liveCells] using h

theorem liveCells_length : (liveCells hosts value args).length = args.length := by
  simp [liveCells]

theorem inspectLive_supported (hvalue : ∀ bytes, measure bytes = .ret (value bytes))
    (hcol : batch.columns = col :: rest) (hargs : supportedArgs col = some args) :
    inspectLive hosts measure finish params batch =
      (Call.tryNew params.outputSchema [finish (liveCells hosts value args)]).run := by
  have hrows : batch.numRows = (liveCells hosts value args).length := by
    rw [liveCells_length, ← numRows_eq_len hcol, supportedArgs_length hargs]
  have hcells : buildCells (fun row => inspectCell (hosts row) measure col row)
      (List.range (liveCells hosts value args).length) =
      pure ((liveCells hosts value args).map id) := by
    apply buildCells_rows
    intro row cell hcell
    obtain ⟨arg, harg, rfl⟩ := liveCells_getElem? hcell
    exact inspectCell_ok hvalue (inputBytes_supported (hosts row) hargs harg)
  rw [List.map_id] at hcells
  simp [inspectLive, column_zero hcol, hrows, hcells]

theorem inspectLive_empty (hcol : batch.columns = []) :
    inspectLive hosts measure finish params batch = .panic := by
  have hcolumn : batch.column 0 = .panic := by simp [RecordBatch.column, hcol]
  simp [inspectLive, hcolumn, Call.ofUnwind]

theorem inspectLive_congr {hosts' : Nat → Host}
    (h : ∀ col rest, batch.columns = col :: rest → ∀ row,
      inspectCell (hosts row) measure col row = inspectCell (hosts' row) measure col row) :
    inspectLive hosts measure finish params batch =
      inspectLive hosts' measure finish params batch := by
  cases hcol : batch.columns with
  | nil => rw [inspectLive_empty hcol, inspectLive_empty hcol]
  | cons col rest =>
    have hcells := funext (h col rest hcol)
    simp only [inspectLive, column_zero hcol, Call.ofUnwind_ret, pure_bind, hcells]

theorem inspectCell_unsupported {host host' : Host} (hargs : supportedArgs col = none)
    (row : Nat) : inspectCell host measure col row = inspectCell host' measure col row := by
  cases hnull : col.isNull row with
  | true => rw [inspectCell, inspectCell, inputBytes_null hnull, inputBytes_null hnull]
  | false =>
    rw [inspectCell_error (inputBytes_unsupported host hargs hnull),
      inspectCell_error (inputBytes_unsupported host' hargs hnull)]

theorem inspectLive_unsupported (host : Host) (hcol : batch.columns = col :: rest)
    (hargs : supportedArgs col = none) :
    inspectLive hosts measure finish params batch = inspect host measure finish params batch := by
  rw [← inspectLive_still]
  apply inspectLive_congr
  intro col' rest' hcol' row
  obtain ⟨rfl, rfl⟩ := List.cons.inj (hcol.symm.trans hcol')
  exact inspectCell_unsupported hargs row

theorem inspectLive_hostless {hosts' : Nat → Host} (hcol : batch.columns = col :: rest)
    (hargs : supportedArgs col = none) :
    inspectLive hosts measure finish params batch =
      inspectLive hosts' measure finish params batch := by
  rw [inspectLive_unsupported (hosts 0) hcol hargs, inspectLive_unsupported (hosts 0) hcol hargs]

section Result
variable {dataType : DataType} {name : String} {arguments : Arguments}
  (hfinish : ∀ out, (finish out).dataType = dataType)
include hfinish

theorem inspectLive_delivers (hvalue : ∀ bytes, measure bytes = .ret (value bytes))
    (hcol : batch.columns = col :: rest) (hargs : supportedArgs col = some args) :
    Delivers (inspectLive hosts measure finish ⟨resultSchema name dataType, arguments⟩ batch)
      (finish (liveCells hosts value args)) := by
  rw [inspectLive_supported hvalue hcol hargs]
  exact tryNew_result name (hfinish _)

theorem inspectLive_fails_iff (hcol : batch.columns = col :: rest)
    (hargs : supportedArgs col = none) :
    Fails (inspectLive hosts measure finish ⟨resultSchema name dataType, arguments⟩ batch) ↔
      ∃ row < batch.numRows, col.isNull row = false := by
  rw [inspectLive_unsupported (hosts 0) hcol hargs]
  exact inspect_fails_iff hfinish hcol hargs

end Result

end Inspect

def EvtxRecordCount.processLive (crates : Crates) (hosts : Nat → Host) :
    ProcessParams → RecordBatch → Unwind (Except RpcError RecordBatch) :=
  inspectLive hosts (recordCount crates) .int64

def IsValidEvtx.processLive (crates : Crates) (hosts : Nat → Host) :
    ProcessParams → RecordBatch → Unwind (Except RpcError RecordBatch) :=
  inspectLive hosts (isValid crates) .boolean

section Runs
variable (crates : Crates) (hosts : Nat → Host) (name : String) (arguments : Arguments)
  (batch : RecordBatch)

def countLive : Unwind (Except RpcError RecordBatch) :=
  EvtxRecordCount.processLive crates hosts
    ⟨(EvtxRecordCount.onBind name).outputSchema, arguments⟩ batch

def validLive : Unwind (Except RpcError RecordBatch) :=
  IsValidEvtx.processLive crates hosts
    ⟨(IsValidEvtx.onBind name).outputSchema, arguments⟩ batch

end Runs

theorem scalars_live (crates : Crates) :
    ∃ (count : Bytes → Int64) (valid : Bytes → Bool),
      (∀ bytes, recordCount crates bytes = .ret (count bytes) ∧
        isValid crates bytes = .ret (valid bytes)) ∧
      ∀ hosts name arguments batch col rest, batch.columns = col :: rest →
        (∀ args, supportedArgs col = some args →
          Delivers (countLive crates hosts name arguments batch)
            (.int64 (args.mapIdx fun row arg => (arg.resolve (hosts row)).map count)) ∧
          Delivers (validLive crates hosts name arguments batch)
            (.boolean (args.mapIdx fun row arg => (arg.resolve (hosts row)).map valid))) ∧
        (supportedArgs col = none →
          (Fails (countLive crates hosts name arguments batch) ↔
            ∃ row < batch.numRows, col.isNull row = false) ∧
          (Fails (validLive crates hosts name arguments batch) ↔
            ∃ row < batch.numRows, col.isNull row = false)) := by
  choose count hcount _ using recordCount_bounded crates
  choose valid hvalid _ using isValid_cases crates
  refine ⟨count, valid, fun bytes => ⟨hcount bytes, hvalid bytes⟩, ?_⟩
  intro hosts name arguments batch col rest hcol
  refine ⟨fun args hargs => ⟨?_, ?_⟩, fun hargs => ⟨?_, ?_⟩⟩
  · exact inspectLive_delivers int64_dataType hcount hcol hargs
  · exact inspectLive_delivers boolean_dataType hvalid hcol hargs
  · exact inspectLive_fails_iff int64_dataType hcol hargs
  · exact inspectLive_fails_iff boolean_dataType hcol hargs

end EvtxWorker.Scalar
