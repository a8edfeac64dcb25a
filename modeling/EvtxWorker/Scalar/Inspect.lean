import EvtxWorker.Library.Cellwise
import EvtxWorker.Input.Resolve
import EvtxWorker.Parse.Agreement

namespace EvtxWorker.Scalar
open Unwinding Unwind Arrow Sdk Parse Input

section Inspect
variable {β : Type} (host : Host) (measure : Bytes → Unwind β)

def inspectCell (col : ArrowArray) (row : Nat) : Call (Option β) := do
  match ← Call.ofResult (inputBytes host col row) with
  | none => return none
  | some bytes => return some (← Call.ofUnwind (measure bytes))

def inspect (finish : List (Option β) → ArrowArray) (params : ProcessParams)
    (batch : RecordBatch) : Unwind (Except RpcError RecordBatch) := ExceptT.run do
  let col ← Call.ofUnwind (batch.column 0)
  let out ← buildCells (inspectCell host measure col) (List.range batch.numRows)
  Call.tryNew params.outputSchema [finish out]

def inspectArg (value : Bytes → β) (arg : SqlArg) : Option β := (arg.resolve host).map value

variable {host measure} {value : Bytes → β} (hvalue : ∀ bytes, measure bytes = .ret (value bytes))
  {col : ArrowArray} {rest : List ArrowArray} {batch : RecordBatch}

include hvalue in
theorem inspectCell_ok {row : Nat} {bytes : Option Bytes}
    (h : inputBytes host col row = .ok bytes) :
    inspectCell host measure col row = pure (bytes.map value) := by
  cases bytes <;> simp [inspectCell, h, hvalue]

theorem inspectCell_error {row : Nat} {e : RpcError} (h : inputBytes host col row = .error e) :
    inspectCell host measure col row = throw e := by
  simp [inspectCell, h]

theorem column_zero (hcol : batch.columns = col :: rest) : batch.column 0 = .ret col := by
  simp [RecordBatch.column, hcol]

theorem numRows_eq_len (hcol : batch.columns = col :: rest) : col.len = batch.numRows :=
  batch.lengths col (by simp [hcol])

include hvalue in
theorem inspect_supported {args : List SqlArg} {finish : List (Option β) → ArrowArray}
    {params : ProcessParams} (hcol : batch.columns = col :: rest)
    (hargs : supportedArgs col = some args) :
    inspect host measure finish params batch =
      (Call.tryNew params.outputSchema [finish (args.map (inspectArg host value))]).run := by
  have hrows : batch.numRows = args.length := by
    rw [← numRows_eq_len hcol, supportedArgs_length hargs]
  have hcells : buildCells (inspectCell host measure col) (List.range args.length) =
      pure (args.map (inspectArg host value)) :=
    buildCells_rows fun row arg harg =>
      inspectCell_ok hvalue (inputBytes_supported host hargs harg)
  simp [inspect, column_zero hcol, hrows, hcells]

theorem inspect_unsupported {finish : List (Option β) → ArrowArray} {params : ProcessParams}
    (hcol : batch.columns = col :: rest) (hargs : supportedArgs col = none)
    (hvalid : ∃ row < batch.numRows, col.isNull row = false) :
    inspect host measure finish params batch = .ret (.error (unsupported col.dataType)) := by
  have hcells : buildCells (inspectCell host measure col) (List.range batch.numRows) =
      throw (unsupported col.dataType) := by
    refine buildCells_throw ?_ ?_
    · intro row _
      cases hnull : col.isNull row with
      | true => exact .inr ⟨none, by simp [inspectCell, inputBytes_null hnull]⟩
      | false => exact .inl (inspectCell_error (inputBytes_unsupported host hargs hnull))
    · obtain ⟨row, hlt, hnull⟩ := hvalid
      exact ⟨row, List.mem_range.mpr hlt,
        inspectCell_error (inputBytes_unsupported host hargs hnull)⟩
  simp [inspect, column_zero hcol, hcells]

theorem inspect_all_null {finish : List (Option β) → ArrowArray} {params : ProcessParams}
    (hcol : batch.columns = col :: rest) (hnull : ∀ row < batch.numRows, col.isNull row = true) :
    inspect host measure finish params batch =
      (Call.tryNew params.outputSchema [finish (List.replicate batch.numRows none)]).run := by
  have hcells : buildCells (inspectCell host measure col)
      (List.range (List.replicate batch.numRows ()).length) =
      pure ((List.replicate batch.numRows ()).map fun _ => none) :=
    buildCells_rows fun row _ hrow => by
      have hlt := (List.getElem?_eq_some_iff.mp hrow).1
      simp [inspectCell, inputBytes_null (hnull row (by simpa using hlt))]
  simp only [List.length_replicate, List.map_replicate] at hcells
  simp [inspect, column_zero hcol, hcells]

end Inspect

def EvtxRecordCount.onBind (name : String) : BindResponse := .result name .int64

def EvtxRecordCount.process (crates : Crates) (host : Host) :
    ProcessParams → RecordBatch → Unwind (Except RpcError RecordBatch) :=
  inspect host (recordCount crates) .int64

def IsValidEvtx.onBind (name : String) : BindResponse := .result name .boolean

def IsValidEvtx.process (crates : Crates) (host : Host) :
    ProcessParams → RecordBatch → Unwind (Except RpcError RecordBatch) :=
  inspect host (isValid crates) .boolean

end EvtxWorker.Scalar
