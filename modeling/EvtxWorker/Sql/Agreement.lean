import EvtxWorker.Scalar.Cells
import EvtxWorker.Table.Outcomes
import Mathlib.Algebra.GroupWithZero.Nat

namespace EvtxWorker.Sql
open Unwinding Unwind Arrow Sdk Parse Input Scalar Table

def PanicFree (crates : Crates) : Prop :=
  ∀ bytes parser, crates.fromBuffer bytes = .ret (some parser) → .panic ∉ parser.recordsJson

section Counts
variable {crates : Crates} (hcalm : PanicFree crates)
include hcalm

theorem countAgrees_panicFree (bytes : Bytes) : CountAgrees crates bytes := by
  rcases opens_or_never crates bytes with ⟨parser, ho⟩ | hno
  · exact countAgrees_calm ho fun h => hcalm bytes parser ho.2 (mem_of_mem_reached h)
  · exact countAgrees_unopened hno

theorem count_of_loads {count : Bytes → Int64} (hcount : ∀ b, recordCount crates b = .ret (count b))
    {bytes : Option Bytes} {rows : List EvtxRow} (h : Loads crates bytes rows) :
    ((bytes.map count).getD 0).toInt = rows.length := by
  cases bytes with
  | none =>
    obtain rfl : rows = [] := h
    rfl
  | some b =>
    obtain ⟨rows', n, hrows, hn, hlen⟩ := countAgrees_panicFree hcalm b
    obtain rfl : rows = rows' := ret_unique h hrows
    obtain rfl : count b = n := ret_unique (hcount b) hn
    exact hlen

end Counts

def Agrees (crates : Crates) (host : Host) (params : ProcessParams) (name : String)
    (arguments : Arguments) (batch : RecordBatch) (col : ArrowArray) (row : Nat) : Prop :=
  (∃ p batches counts count, producer crates host params = .ret (.ok p) ∧
    Drains RecordsProducer.nextBatch p batches ∧
    (∀ others, Drains RecordsProducer.nextBatch p others → others = batches) ∧
    Delivers (countRun crates host name arguments batch) (.int64 counts) ∧
    counts[row]? = some count ∧
    (count.getD 0).toInt = ((batches.map RecordBatch.numRows).sum : Nat)) ∧
  inputBytes host col row =
    .ok (constInputBytes host (params.arguments.constBytes 0) (params.arguments.constStr 0))

section Scalars
variable {crates : Crates} {host : Host} {name : String} {arguments : Arguments}
  {batch : RecordBatch} {col : ArrowArray} {rest : List ArrowArray} {args : List SqlArg}
  {row : Nat} {arg : SqlArg}

theorem supported_of_typed (hargs : logicalArgs col = some args) (htype : col.dataType ≠ .null) :
    supportedArgs col = some args := by
  cases col with
  | null len => exact absurd rfl htype
  | _ => exact hargs

theorem numRows_pos (hcol : batch.columns = col :: rest) (hargs : logicalArgs col = some args)
    (htype : col.dataType = .null) (harg : args[row]? = some arg) : 0 < batch.numRows := by
  cases col with
  | null len =>
    obtain rfl : List.replicate len SqlArg.null = args := by simpa [logicalArgs] using hargs
    have hrow : row < len := by simpa using (List.getElem?_eq_some_iff.mp harg).1
    rw [← numRows_eq_len hcol]
    exact Nat.zero_lt_of_lt hrow
  | _ => cases htype

theorem countRun_untyped_fails (hcol : batch.columns = col :: rest) (htype : col.dataType = .null)
    (hrows : 0 < batch.numRows) : Fails (countRun crates host name arguments batch) := by
  cases col with
  | null len => exact countRun_null_fails hcol hrows
  | _ => cases htype

end Scalars

section Agreement
variable {crates : Crates} {target : Target} {fs : FileSystem} {params : ProcessParams}
  {name : String} {arguments : Arguments} {batch : RecordBatch} {col : ArrowArray}
  {rest : List ArrowArray} {args : List SqlArg} {row : Nat} {arg : SqlArg}

theorem fits_loaded {bytes : Option Bytes} {rows : List EvtxRow} (hrows : Loads crates bytes rows)
    (hfits : ∀ content rows, bytes = some content → parseRecords crates content = .ret rows →
      TextFits rows) : TextFits rows := by
  cases bytes with
  | none =>
    obtain rfl : rows = [] := hrows
    exact textFits_nil
  | some content => exact hfits content rows rfl hrows

theorem scalar_and_table_agree_iff (hcalm : PanicFree crates)
    (hschema : params.outputSchema = onBind.outputSchema) (hcarries : Carries params.arguments arg)
    (hfits : ∀ bytes rows, arg.resolve (Host.still target fs) = some bytes →
      parseRecords crates bytes = .ret rows → TextFits rows)
    (hcol : batch.columns = col :: rest) (hargs : logicalArgs col = some args)
    (harg : args[row]? = some arg) :
    Agrees crates (Host.still target fs) params name arguments batch col row ↔
      col.dataType ≠ .null := by
  constructor
  · rintro ⟨⟨_, _, _, _, -, -, -, hdelivers, -⟩, -⟩ htype
    have hrows := numRows_pos hcol hargs htype harg
    exact not_fails_of_delivers hdelivers (countRun_untyped_fails hcol htype hrows)
  · intro htype
    have hsupported := supported_of_typed hargs htype
    have hresolve := constInputBytes_carries (Host.still target fs) hcarries
    obtain ⟨rows, hrows⟩ := loads_exists crates (arg.resolve (Host.still target fs))
    have hproducer : producer crates (Host.still target fs) params =
        .ret (.ok ⟨params.outputSchema, rows, false⟩) := producer_loads (hresolve ▸ hrows)
    have hfresh : (⟨params.outputSchema, rows, false⟩ : RecordsProducer).done = false := rfl
    obtain ⟨out, hfirst, -, hlen, -⟩ := nextBatch_delivers hfresh (fits_loaded hrows hfits)
      (hschema ▸ conforms_outputSchema rows)
    choose count hcount _ using recordCount_bounded crates
    have hdrains := drains_once hfirst (nextBatch_second hfresh)
    refine ⟨⟨_, [out], _, inspectArg (Host.still target fs) count arg, hproducer, hdrains,
      fun _ h => h.unique hdrains, inspect_delivers int64_dataType hcount hcol hsupported, ?_, ?_⟩,
      ?_⟩
    · rw [List.getElem?_map, harg, Option.map_some]
    · simpa [inspectArg, hlen] using count_of_loads hcalm hcount hrows
    · rw [hresolve]
      exact inputBytes_supported _ hsupported harg

end Agreement

theorem mixed_panicFree : PanicFree mixedCrates := by
  intro bytes parser hbuilt
  cases hbuilt
  decide

theorem scalar_and_table_agree_mixed :
    Agrees mixedCrates (Host.still .native64 fun _ => none)
      ⟨onBind.outputSchema, (SqlArg.blob elfFileMagic).bound⟩ "result" SqlArg.null.bound
      (columnBatch (.binary [none, some elfFileMagic])) (.binary [none, some elfFileMagic]) 1 := by
  have hargs : logicalArgs (.binary [none, some elfFileMagic]) = some [.null, .blob elfFileMagic] :=
    rfl
  have hfits : ∀ bytes rows,
      (SqlArg.blob elfFileMagic).resolve (Host.still .native64 fun _ => none) = some bytes →
      parseRecords mixedCrates bytes = .ret rows → TextFits rows := by
    rintro bytes rows hbytes hrows
    cases hbytes
    exact ret_unique mixed_loads hrows ▸ mixedRows_fit
  exact (scalar_and_table_agree_iff mixed_panicFree rfl (carries_bound _) hfits rfl hargs rfl).mpr
    nofun

theorem untyped_null_disagrees :
    logicalArgs (.null 1) = some [.null] ∧
    (∃ p out, producer mixedCrates (Host.still .native64 fun _ => none)
        ⟨onBind.outputSchema, SqlArg.null.bound⟩ = .ret (.ok p) ∧
      Drains RecordsProducer.nextBatch p [out] ∧ out.numRows = 0) ∧
    countRun mixedCrates (Host.still .native64 fun _ => none) "result" SqlArg.null.bound
      (columnBatch (.null 1)) = .ret (.error (unsupported .null)) ∧
    ¬ Agrees mixedCrates (Host.still .native64 fun _ => none)
      ⟨onBind.outputSchema, SqlArg.null.bound⟩ "result" SqlArg.null.bound
      (columnBatch (.null 1)) (.null 1) 0 := by
  have hcol : (columnBatch (.null 1)).columns = [.null 1] := rfl
  have hvalid : ∃ row < (columnBatch (.null 1)).numRows,
      (ArrowArray.null 1).isNull row = false := ⟨0, by decide, rfl⟩
  have hrows : Loads mixedCrates (constInputBytes (Host.still .native64 fun _ => none)
      (SqlArg.null.bound.constBytes 0) (SqlArg.null.bound.constStr 0)) [] := rfl
  have hfresh : (⟨onBind.outputSchema, [], false⟩ : RecordsProducer).done = false := rfl
  obtain ⟨out, hfirst, -, hlen, -⟩ := nextBatch_delivers hfresh textFits_nil
    (conforms_outputSchema [])
  refine ⟨rfl, ⟨_, out, producer_loads hrows, drains_once hfirst (nextBatch_second hfresh), hlen⟩,
    inspect_unsupported hcol rfl hvalid, ?_⟩
  rintro ⟨⟨_, _, _, _, -, -, -, hdelivers, -⟩, -⟩
  exact not_fails_of_delivers hdelivers (countRun_null_fails hcol (by decide))

end EvtxWorker.Sql
