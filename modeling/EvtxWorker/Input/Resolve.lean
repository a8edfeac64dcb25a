import EvtxWorker.Sdk.Call
import EvtxWorker.Input.Path

namespace EvtxWorker.Input
open Programs Arrow Sdk Parse Json

def unsupported (found : DataType) : RpcError :=
  .valueError
    ("evtx input must be a BLOB (file bytes) or VARCHAR (path), got " ++ found.debug)

def inputBytesProgram (target : Target) (col : ArrowArray) (row : Nat) :
    Os (Except RpcError (Option Bytes)) := do
  if col.isNull row then return .ok none
  match col with
  | .binary cells => return .ok (cells[row]?).join
  | .largeBinary cells => return .ok (cells[row]?).join
  | .utf8 cells =>
    let some path := (cells[row]?).join | return .ok none
    return .ok (← readPathProgram target path)
  | .largeUtf8 cells =>
    let some path := (cells[row]?).join | return .ok none
    return .ok (← readPathProgram target path)
  | other => return .error (unsupported other.dataType)

def inputBytes (host : Host) (col : ArrowArray) (row : Nat) : Except RpcError (Option Bytes) :=
  (inputBytesProgram host.target col row).run host.answer

def constInputBytesProgram (target : Target) (bytesArg : Option Bytes) (strArg : Option String) :
    Os (Option Bytes) := do
  if let some b := bytesArg then return some b
  let some path := strArg | return none
  readPathProgram target path

def constInputBytes (host : Host) (bytesArg : Option Bytes) (strArg : Option String) :
    Option Bytes :=
  (constInputBytesProgram host.target bytesArg strArg).run host.answer

inductive SqlArg where
  | null
  | blob (content : Bytes)
  | varchar (path : String)
deriving DecidableEq

namespace SqlArg

def ofBlob : Option Bytes → SqlArg
  | none => null
  | some content => blob content

def ofVarchar : Option String → SqlArg
  | none => null
  | some path => varchar path

def resolveProgram (target : Target) : SqlArg → Os (Option Bytes)
  | null => return none
  | blob content => return some content
  | varchar path => readPathProgram target path

def resolve (host : Host) : SqlArg → Option Bytes
  | null => none
  | blob content => some content
  | varchar path => readPath host path

def constBytes : SqlArg → Option Bytes
  | blob content => some content
  | _ => none

def constStr : SqlArg → Option String
  | varchar path => some path
  | _ => none

def bound (arg : SqlArg) : Arguments := ⟨fun _ => arg.constBytes, fun _ => arg.constStr⟩

end SqlArg

structure Carries (arguments : Arguments) (arg : SqlArg) : Prop where
  bytes : arguments.constBytes 0 = arg.constBytes
  str : arguments.constStr 0 = arg.constStr

theorem carries_bound (arg : SqlArg) : Carries arg.bound arg := ⟨rfl, rfl⟩

def supportedArgs : ArrowArray → Option (List SqlArg)
  | .binary cells => some (cells.map .ofBlob)
  | .largeBinary cells => some (cells.map .ofBlob)
  | .utf8 cells => some (cells.map .ofVarchar)
  | .largeUtf8 cells => some (cells.map .ofVarchar)
  | _ => none

theorem supportedArgs_length {col : ArrowArray} {args : List SqlArg}
    (h : supportedArgs col = some args) : args.length = col.len := by
  cases col <;> simp [supportedArgs, ArrowArray.len] at h ⊢ <;> simp [← h]

theorem run_resolveProgram (host : Host) (arg : SqlArg) :
    (arg.resolveProgram host.target).run host.answer = arg.resolve host := by
  cases arg <;> rfl

section Cells
variable {col : ArrowArray} {args : List SqlArg} {row : Nat} {arg : SqlArg}

theorem inputBytesProgram_null (target : Target) (h : col.isNull row = true) :
    inputBytesProgram target col row = pure (.ok none) := if_pos h

theorem inputBytesProgram_supported (target : Target) (h : supportedArgs col = some args)
    (harg : args[row]? = some arg) :
    inputBytesProgram target col row =
      arg.resolveProgram target >>= fun bytes => pure (.ok bytes) := by
  cases col with
  | binary cells | largeBinary cells =>
    obtain rfl : cells.map .ofBlob = args := by simpa [supportedArgs] using h
    obtain ⟨cell, hcell, rfl⟩ : ∃ cell, cells[row]? = some cell ∧ SqlArg.ofBlob cell = arg := by
      simpa using harg
    rw [inputBytesProgram, ArrowArray.isNull_of_cells rfl hcell, hcell]
    cases cell <;> rfl
  | utf8 cells | largeUtf8 cells =>
    obtain rfl : cells.map .ofVarchar = args := by simpa [supportedArgs] using h
    obtain ⟨cell, hcell, rfl⟩ : ∃ cell, cells[row]? = some cell ∧ SqlArg.ofVarchar cell = arg := by
      simpa using harg
    rw [inputBytesProgram, ArrowArray.isNull_of_cells rfl hcell, hcell]
    cases cell <;> rfl
  | _ => simp [supportedArgs] at h

theorem inputBytesProgram_unsupported (target : Target) (h : supportedArgs col = none)
    (hvalid : col.isNull row = false) :
    inputBytesProgram target col row = pure (.error (unsupported col.dataType)) := by
  cases col <;> simp_all [supportedArgs, inputBytesProgram]

theorem inputBytes_null {host : Host} (h : col.isNull row = true) :
    inputBytes host col row = .ok none := by
  rw [inputBytes, inputBytesProgram_null host.target h, Program.run_pure]

theorem inputBytes_supported (host : Host) (h : supportedArgs col = some args)
    (harg : args[row]? = some arg) : inputBytes host col row = .ok (arg.resolve host) := by
  rw [inputBytes, inputBytesProgram_supported host.target h harg, Program.run_bind,
    Program.run_pure, run_resolveProgram]

theorem inputBytes_unsupported (host : Host) (h : supportedArgs col = none)
    (hvalid : col.isNull row = false) :
    inputBytes host col row = .error (unsupported col.dataType) := by
  rw [inputBytes, inputBytesProgram_unsupported host.target h hvalid, Program.run_pure]

end Cells

@[simp] theorem constInputBytesProgram_str (target : Target) (path : String) :
    constInputBytesProgram target none (some path) = readPathProgram target path := rfl

@[simp] theorem constInputBytes_bytes (host : Host) (content : Bytes) (str : Option String) :
    constInputBytes host (some content) str = some content := rfl

@[simp] theorem constInputBytes_str (host : Host) (path : String) :
    constInputBytes host none (some path) = readPath host path := rfl

theorem constInputBytes_eq_resolve (host : Host) (arg : SqlArg) :
    constInputBytes host arg.constBytes arg.constStr = arg.resolve host := by
  cases arg <;> rfl

theorem constInputBytes_carries (host : Host) {arguments : Arguments} {arg : SqlArg}
    (h : Carries arguments arg) :
    constInputBytes host (arguments.constBytes 0) (arguments.constStr 0) = arg.resolve host := by
  rw [h.bytes, h.str, constInputBytes_eq_resolve]

end EvtxWorker.Input
