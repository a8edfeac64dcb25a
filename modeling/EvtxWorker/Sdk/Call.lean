import EvtxWorker.Arrow.Batch

namespace EvtxWorker.Sdk
open Unwinding Unwind Arrow

inductive RpcError where
  | valueError (message : String)
  | runtimeError (cause : ArrowError)
deriving DecidableEq, Repr

structure Arguments where
  constBytes : Nat → Option (List UInt8)
  constStr : Nat → Option String

structure ProcessParams where
  outputSchema : Schema
  arguments : Arguments

def resultSchema (name : String) (dataType : DataType) : Schema := ⟨[⟨name, dataType, true⟩]⟩

structure BindResponse where
  outputSchema : Schema
  opaqueData : List UInt8

def BindResponse.result (name : String) (dataType : DataType) : BindResponse :=
  ⟨resultSchema name dataType, []⟩

abbrev Call := ExceptT RpcError Unwind

namespace Call
variable {α : Type}

def ofResult (r : Except RpcError α) : Call α := ExceptT.mk (.ret r)

def ofUnwind (x : Unwind α) : Call α := ExceptT.lift x

@[simp] theorem ofResult_ok (a : α) : ofResult (.ok a) = pure a := rfl

@[simp] theorem ofResult_error (e : RpcError) : (ofResult (.error e) : Call α) = throw e := rfl

@[simp] theorem ofUnwind_ret (a : α) : ofUnwind (.ret a) = pure a := rfl

def tryNew (schema : Schema) (columns : List ArrowArray) : Call RecordBatch :=
  ofResult ((RecordBatch.tryNew schema columns).mapError .runtimeError)

end Call
end EvtxWorker.Sdk
