import EvtxWorker.Library.Unwind
import Mathlib.Data.List.Basic

namespace EvtxWorker.Arrow
open Unwinding

inductive DataType where
  | null | boolean | int32 | int64 | timestampMicrosecond
  | binary | largeBinary | utf8 | largeUtf8
  | other (debug : String)
deriving DecidableEq, Repr

def DataType.debug : DataType → String
  | .null => "Null"
  | .boolean => "Boolean"
  | .int32 => "Int32"
  | .int64 => "Int64"
  | .timestampMicrosecond => "Timestamp(Microsecond, None)"
  | .binary => "Binary"
  | .largeBinary => "LargeBinary"
  | .utf8 => "Utf8"
  | .largeUtf8 => "LargeUtf8"
  | .other debug => debug

structure Field where
  name : String
  dataType : DataType
  nullable : Bool
deriving DecidableEq, Repr

structure Schema where
  fields : List Field
deriving DecidableEq, Repr

inductive ArrowArray where
  | null (len : Nat)
  | boolean (cells : List (Option Bool))
  | int32 (cells : List (Option Int32))
  | int64 (cells : List (Option Int64))
  | timestampMicrosecond (cells : List (Option Int64))
  | binary (cells : List (Option (List UInt8)))
  | largeBinary (cells : List (Option (List UInt8)))
  | utf8 (cells : List (Option String))
  | largeUtf8 (cells : List (Option String))
  | other (debug : String) (validity : List Bool)
deriving DecidableEq

namespace ArrowArray

def dataType : ArrowArray → DataType
  | null _ => .null
  | boolean _ => .boolean
  | int32 _ => .int32
  | int64 _ => .int64
  | timestampMicrosecond _ => .timestampMicrosecond
  | binary _ => .binary
  | largeBinary _ => .largeBinary
  | utf8 _ => .utf8
  | largeUtf8 _ => .largeUtf8
  | other debug _ => .other debug

def len : ArrowArray → Nat
  | null len => len
  | boolean cells => cells.length
  | int32 cells => cells.length
  | int64 cells => cells.length
  | timestampMicrosecond cells => cells.length
  | binary cells => cells.length
  | largeBinary cells => cells.length
  | utf8 cells => cells.length
  | largeUtf8 cells => cells.length
  | other _ validity => validity.length

def nulls : ArrowArray → Option (List Bool)
  | null _ => none
  | boolean cells => some (cells.map Option.isSome)
  | int32 cells => some (cells.map Option.isSome)
  | int64 cells => some (cells.map Option.isSome)
  | timestampMicrosecond cells => some (cells.map Option.isSome)
  | binary cells => some (cells.map Option.isSome)
  | largeBinary cells => some (cells.map Option.isSome)
  | utf8 cells => some (cells.map Option.isSome)
  | largeUtf8 cells => some (cells.map Option.isSome)
  | other _ validity => some validity

def isNull (a : ArrowArray) (row : Nat) : Bool :=
  match a.nulls with
  | none => false
  | some validity => validity[row]? == some false

def nullCount (a : ArrowArray) : Nat :=
  match a.nulls with
  | none => 0
  | some validity => validity.count false

theorem isNull_of_cells {α : Type} {a : ArrowArray} {cells : List (Option α)} {row : Nat}
    {cell : Option α} (h : a.nulls = some (cells.map Option.isSome))
    (hcell : cells[row]? = some cell) : a.isNull row = cell.isNone := by
  cases cell <;> simp [isNull, h, hcell]

end ArrowArray

inductive ArrowError where
  | columnCount (columns fields : Nat)
  | noColumns
  | nonNullable (field : String)
  | unequalLengths
  | typeMismatch (column : Nat)
deriving DecidableEq, Repr

structure RecordBatch where
  schema : Schema
  columns : List ArrowArray
  numRows : Nat
  lengths : ∀ c ∈ columns, c.len = numRows
  types : columns.map ArrowArray.dataType = schema.fields.map Field.dataType

namespace RecordBatch

def tryNew (schema : Schema) (columns : List ArrowArray) : Except ArrowError RecordBatch :=
  if columns.length ≠ schema.fields.length then
    .error (.columnCount columns.length schema.fields.length)
  else
    match columns.head? with
    | none => .error .noColumns
    | some first =>
      match (columns.zip schema.fields).find? fun p => !p.2.nullable && 0 < p.1.nullCount with
      | some p => .error (.nonNullable p.2.name)
      | none =>
        if hlen : ∀ c ∈ columns, c.len = first.len then
          if htypes : columns.map ArrowArray.dataType = schema.fields.map Field.dataType then
            .ok ⟨schema, columns, first.len, hlen, htypes⟩
          else
            .error (.typeMismatch
              ((columns.zip schema.fields).findIdx fun p => p.1.dataType ≠ p.2.dataType))
        else .error .unequalLengths

structure Conforms (schema : Schema) (columns : List ArrowArray) : Prop where
  types : columns.map ArrowArray.dataType = schema.fields.map Field.dataType
  nulls : ∀ p ∈ columns.zip schema.fields, p.2.nullable = true ∨ p.1.nullCount = 0

theorem conforms_nullable {schema : Schema} {columns : List ArrowArray}
    (htypes : columns.map ArrowArray.dataType = schema.fields.map Field.dataType)
    (hnull : ∀ f ∈ schema.fields, f.nullable = true) : Conforms schema columns where
  types := htypes
  nulls := fun _ hp => .inl (hnull _ (List.of_mem_zip hp).2)

theorem tryNew_conforms {schema : Schema} {first : ArrowArray} {rest : List ArrowArray}
    (hlen : ∀ c ∈ first :: rest, c.len = first.len) (h : Conforms schema (first :: rest)) :
    tryNew schema (first :: rest) = .ok ⟨schema, first :: rest, first.len, hlen, h.types⟩ := by
  have hcount : (first :: rest).length = schema.fields.length := by
    simpa using congrArg List.length h.types
  have hfind : ((first :: rest).zip schema.fields).find?
      (fun p => !p.2.nullable && 0 < p.1.nullCount) = none := by
    rw [List.find?_eq_none]
    intro p hp
    rcases h.nulls p hp with hnullable | hnone
    · simp [hnullable]
    · simp [hnone]
  rw [tryNew, if_neg (not_not.mpr hcount), List.head?_cons]
  simp only [hfind, dif_pos hlen, dif_pos h.types]

theorem conforms_of_tryNew {schema : Schema} {columns : List ArrowArray} {batch : RecordBatch}
    (h : tryNew schema columns = .ok batch) : Conforms schema columns := by
  rw [tryNew] at h
  split at h
  · cases h
  split at h
  · cases h
  split at h
  · cases h
  next hfind =>
    split_ifs at h with hlen htypes
    refine ⟨htypes, fun p hp => ?_⟩
    have hcheck := List.find?_eq_none.mp hfind p hp
    cases hnullable : p.2.nullable with
    | true => exact .inl rfl
    | false => exact .inr (by simpa [hnullable] using hcheck)

def column (b : RecordBatch) (i : Nat) : Unwind ArrowArray :=
  match b.columns[i]? with
  | some c => .ret c
  | none => .panic

def columnByName (b : RecordBatch) (name : String) : Option ArrowArray :=
  ((b.schema.fields.map Field.name).zip b.columns).lookup name

end RecordBatch
end EvtxWorker.Arrow
