import EvtxWorker.Scalar.Inspect

namespace EvtxWorker.Scalar
open Unwinding Unwind Arrow Sdk Parse Input

def Delivers (run : Unwind (Except RpcError RecordBatch)) (col : ArrowArray) : Prop :=
  ∃ out, run = .ret (.ok out) ∧ out.columns = [col]

def Fails (run : Unwind (Except RpcError RecordBatch)) : Prop := ∃ e, run = .ret (.error e)

theorem not_fails_of_delivers {run : Unwind (Except RpcError RecordBatch)} {col : ArrowArray}
    (h : Delivers run col) : ¬ Fails run := by
  obtain ⟨out, hrun, -⟩ := h
  rintro ⟨e, he⟩
  simp [hrun] at he

theorem tryNew_result (name : String) {dataType : DataType} {col : ArrowArray}
    (h : col.dataType = dataType) :
    Delivers (Call.tryNew (resultSchema name dataType) [col]).run col := by
  have hlen : ∀ c ∈ [col], c.len = col.len := by simp
  have htypes : [col].map ArrowArray.dataType =
      (resultSchema name dataType).fields.map Field.dataType := by simp [resultSchema, h]
  have hnull : ∀ f ∈ (resultSchema name dataType).fields, f.nullable = true := by
    simp [resultSchema]
  have hrun := RecordBatch.tryNew_conforms hlen (RecordBatch.conforms_nullable htypes hnull)
  exact ⟨_, by rw [Call.tryNew, hrun]; rfl, rfl⟩

section Inspect
variable {β : Type} {host : Host} {measure : Bytes → Unwind β} {value : Bytes → β}
  {finish : List (Option β) → ArrowArray} {dataType : DataType} {name : String}
  {arguments : Arguments} {batch : RecordBatch} {col : ArrowArray} {rest : List ArrowArray}
  (hfinish : ∀ out, (finish out).dataType = dataType)
include hfinish

theorem inspect_delivers {args : List SqlArg} (hvalue : ∀ bytes, measure bytes = .ret (value bytes))
    (hcol : batch.columns = col :: rest) (hargs : supportedArgs col = some args) :
    Delivers (inspect host measure finish ⟨resultSchema name dataType, arguments⟩ batch)
      (finish (args.map (inspectArg host value))) := by
  rw [inspect_supported hvalue hcol hargs]
  exact tryNew_result name (hfinish _)

theorem inspect_fails_iff (hcol : batch.columns = col :: rest) (hargs : supportedArgs col = none) :
    Fails (inspect host measure finish ⟨resultSchema name dataType, arguments⟩ batch) ↔
      ∃ row < batch.numRows, col.isNull row = false := by
  constructor
  · intro hfails
    by_contra hnull
    have hnull' : ∀ row < batch.numRows, col.isNull row = true := by simpa using hnull
    rw [inspect_all_null hcol hnull'] at hfails
    exact not_fails_of_delivers (tryNew_result name (hfinish _)) hfails
  · intro hvalid
    exact ⟨_, inspect_unsupported hcol hargs hvalid⟩

end Inspect

section Processes
variable (crates : Crates) (host : Host) (name : String) (arguments : Arguments)
  (batch : RecordBatch)

def countRun : Unwind (Except RpcError RecordBatch) :=
  EvtxRecordCount.process crates host ⟨(EvtxRecordCount.onBind name).outputSchema, arguments⟩ batch

def validRun : Unwind (Except RpcError RecordBatch) :=
  IsValidEvtx.process crates host ⟨(IsValidEvtx.onBind name).outputSchema, arguments⟩ batch

end Processes

theorem int64_dataType (cells : List (Option Int64)) : (ArrowArray.int64 cells).dataType = .int64 :=
  rfl

theorem boolean_dataType (cells : List (Option Bool)) :
    (ArrowArray.boolean cells).dataType = .boolean := rfl

def Unusable (target : Target) (fs : FileSystem) (arg : SqlArg) : Prop :=
  arg = .null ∨ ∃ path, arg = .varchar path ∧ ∀ content, ¬ UsableFile target fs path content

theorem inspectArg_eq_none_iff {β : Type} {target : Target} {fs : FileSystem}
    (value : Bytes → β) (arg : SqlArg) :
    inspectArg (Host.still target fs) value arg = none ↔ Unusable target fs arg := by
  cases arg with
  | null => simp [inspectArg, SqlArg.resolve, Unusable]
  | blob content => simp [inspectArg, SqlArg.resolve, Unusable]
  | varchar path => simp [inspectArg, SqlArg.resolve, Unusable, readPath_still_none]

theorem scalar_rows_independent (crates : Crates) (target : Target) (fs : FileSystem)
    (name : String) :
    ∃ (count : SqlArg → Option Int64) (valid : SqlArg → Option Bool),
      (∀ arg, count arg = none ↔ Unusable target fs arg) ∧
      (∀ arg, valid arg = none ↔ Unusable target fs arg) ∧
      ∀ arguments batch col rest, batch.columns = col :: rest →
        (∀ args, supportedArgs col = some args →
          Delivers (countRun crates (Host.still target fs) name arguments batch)
            (.int64 (args.map count)) ∧
          Delivers (validRun crates (Host.still target fs) name arguments batch)
            (.boolean (args.map valid))) ∧
        (supportedArgs col = none →
          (Fails (countRun crates (Host.still target fs) name arguments batch) ↔
            ∃ row < batch.numRows, col.isNull row = false) ∧
          (Fails (validRun crates (Host.still target fs) name arguments batch) ↔
            ∃ row < batch.numRows, col.isNull row = false)) := by
  choose count hcount _ using recordCount_bounded crates
  choose valid hvalid _ using isValid_cases crates
  refine ⟨inspectArg (Host.still target fs) count, inspectArg (Host.still target fs) valid,
    inspectArg_eq_none_iff count, inspectArg_eq_none_iff valid, ?_⟩
  intro arguments batch col rest hcol
  refine ⟨fun args hargs => ⟨?_, ?_⟩, fun hargs => ⟨?_, ?_⟩⟩
  · exact inspect_delivers int64_dataType hcount hcol hargs
  · exact inspect_delivers boolean_dataType hvalid hcol hargs
  · exact inspect_fails_iff int64_dataType hcol hargs
  · exact inspect_fails_iff boolean_dataType hcol hargs

def logicalArgs : ArrowArray → Option (List SqlArg)
  | .null len => some (List.replicate len .null)
  | col => supportedArgs col

def NullsPass (crates : Crates) (host : Host) (name : String) (arguments : Arguments)
    (batch : RecordBatch) (args : List SqlArg) : Prop :=
  ∃ counts valids, Delivers (countRun crates host name arguments batch) (.int64 counts) ∧
    Delivers (validRun crates host name arguments batch) (.boolean valids) ∧
    ∀ row : Nat, args[row]? = some .null → counts[row]? = some none ∧ valids[row]? = some none

section Nulls
variable {crates : Crates} {host : Host} {name : String} {arguments : Arguments}
  {batch : RecordBatch} {col : ArrowArray} {rest : List ArrowArray} {args : List SqlArg}

theorem nullsPass_supported (hcol : batch.columns = col :: rest)
    (hargs : supportedArgs col = some args) : NullsPass crates host name arguments batch args := by
  choose count hcount _ using recordCount_bounded crates
  choose valid hvalid _ using isValid_cases crates
  refine ⟨_, _, inspect_delivers int64_dataType hcount hcol hargs,
    inspect_delivers boolean_dataType hvalid hcol hargs, ?_⟩
  intro row hrow
  simp [hrow, inspectArg, SqlArg.resolve]

theorem nullsPass_empty (hcol : batch.columns = col :: rest) (hrows : batch.numRows = 0) :
    NullsPass crates host name arguments batch [] := by
  have hnull : ∀ row < batch.numRows, col.isNull row = true := by simp [hrows]
  refine ⟨[], [], ?_, ?_, by simp⟩
  · rw [countRun, EvtxRecordCount.process, inspect_all_null hcol hnull, hrows]
    exact tryNew_result name rfl
  · rw [validRun, IsValidEvtx.process, inspect_all_null hcol hnull, hrows]
    exact tryNew_result name rfl

theorem countRun_null_fails {len : Nat} (hcol : batch.columns = .null len :: rest)
    (hrows : 0 < batch.numRows) : Fails (countRun crates host name arguments batch) :=
  ⟨_, inspect_unsupported hcol rfl ⟨0, hrows, rfl⟩⟩

theorem nulls_pass_iff (hcol : batch.columns = col :: rest) (hargs : logicalArgs col = some args) :
    NullsPass crates host name arguments batch args ↔
      ¬ (col.dataType = .null ∧ 0 < batch.numRows) := by
  constructor
  · rintro ⟨counts, valids, hcounts, -, -⟩ ⟨hnull, hrows⟩
    cases col with
    | null len => exact not_fails_of_delivers hcounts (countRun_null_fails hcol hrows)
    | _ => simp [ArrowArray.dataType] at hnull
  · intro h
    cases col with
    | null len =>
      have hrows : batch.numRows = 0 := by
        simpa [ArrowArray.dataType] using h
      have hlen : len = 0 := (numRows_eq_len hcol).trans hrows
      obtain rfl : [] = args := by simpa [logicalArgs, hlen] using hargs
      exact nullsPass_empty hcol hrows
    | _ => exact nullsPass_supported hcol hargs

end Nulls

def columnBatch (col : ArrowArray) : RecordBatch where
  schema := ⟨[⟨"input", col.dataType, true⟩]⟩
  columns := [col]
  numRows := col.len
  lengths := by simp
  types := by simp

theorem nulls_pass_binary :
    NullsPass (cratesYielding []) (Host.still .native64 fun _ => none) "result"
      SqlArg.null.bound (columnBatch (.binary [none])) [.null] := by
  have hargs : logicalArgs (.binary [none]) = some [.null] := rfl
  refine (nulls_pass_iff rfl hargs).mpr ?_
  rintro ⟨htype, -⟩
  cases htype

theorem untyped_null_fails :
    logicalArgs (.null 1) = some [.null] ∧
    countRun (cratesYielding []) (Host.still .native64 fun _ => none) "result"
      SqlArg.null.bound (columnBatch (.null 1)) = .ret (.error (unsupported .null)) ∧
    validRun (cratesYielding []) (Host.still .native64 fun _ => none) "result"
      SqlArg.null.bound (columnBatch (.null 1)) = .ret (.error (unsupported .null)) ∧
    ¬ NullsPass (cratesYielding []) (Host.still .native64 fun _ => none) "result"
      SqlArg.null.bound (columnBatch (.null 1)) [.null] := by
  have hcol : (columnBatch (.null 1)).columns = [.null 1] := rfl
  have hvalid : ∃ row < (columnBatch (.null 1)).numRows,
      (ArrowArray.null 1).isNull row = false := ⟨0, by decide, rfl⟩
  refine ⟨rfl, inspect_unsupported hcol rfl hvalid, inspect_unsupported hcol rfl hvalid, ?_⟩
  rintro ⟨counts, valids, hcounts, -, -⟩
  exact not_fails_of_delivers hcounts (countRun_null_fails hcol (by decide))

end EvtxWorker.Scalar
