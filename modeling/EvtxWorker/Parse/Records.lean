import EvtxWorker.Library.Drain
import EvtxWorker.Parse.Row

namespace EvtxWorker.Parse
open Unwinding Unwind Json

abbrev Bytes := List UInt8

structure EvtxParser where
  recordsJson : List (Pull SerializedRecord)

structure Crates where
  fromBuffer : Bytes → Unwind (Option EvtxParser)
  fromStr : String → Option Value

def maxInputBytes : Nat := 256 * 1024 * 1024

def maxRecords : Nat := 5000000

def elfFileMagic : Bytes := [0x45, 0x6C, 0x66, 0x46, 0x69, 0x6C, 0x65, 0x00]

def hasMagic (bytes : Bytes) : Bool :=
  decide (elfFileMagic.length ≤ bytes.length) && bytes.take elfFileMagic.length == elfFileMagic

def rejected (bytes : Bytes) : Bool :=
  decide (maxInputBytes < bytes.length) || !hasMagic bytes

section Guard
variable {α : Type} (crates : Crates) (fallback : α)

def withParser (body : EvtxParser → Unwind α) (bytes : Bytes) : Unwind α := do
  match ← crates.fromBuffer bytes with
  | some parser => body parser
  | none => return fallback

def guarded (inner : Bytes → Unwind α) (bytes : Bytes) : Unwind α :=
  if rejected bytes then return fallback
  else return (catchUnwind (inner bytes)).getD fallback

end Guard

variable (crates : Crates)

def parseStep (rows : List EvtxRow) (rec : Option SerializedRecord) : ForInStep (List EvtxRow) :=
  if maxRecords ≤ rows.length then .done rows
  else
    match rec with
    | some rec => .yield (rows ++ [rowOf crates.fromStr rec])
    | none => .yield rows

def parseRecordsInner : Bytes → Unwind (List EvtxRow) :=
  withParser crates [] fun parser => drain (parseStep crates) [] parser.recordsJson

def parseRecords : Bytes → Unwind (List EvtxRow) := guarded [] (parseRecordsInner crates)

def countStep (n : Int64) (rec : Option SerializedRecord) : ForInStep Int64 :=
  let n := if rec.isSome then n + 1 else n
  if Int64.ofNat maxRecords ≤ n then .done n else .yield n

def recordCountInner : Bytes → Unwind Int64 :=
  withParser crates 0 fun parser => drain countStep 0 parser.recordsJson

def recordCount : Bytes → Unwind Int64 := guarded 0 (recordCountInner crates)

def isValidInner (bytes : Bytes) : Unwind Bool := do
  return (← crates.fromBuffer bytes).isSome

def isValid : Bytes → Unwind Bool := guarded false (isValidInner crates)

theorem hasMagic_iff (bytes : Bytes) : hasMagic bytes = true ↔ elfFileMagic <+: bytes := by
  simp only [hasMagic, Bool.and_eq_true, decide_eq_true_eq, beq_iff_eq]
  constructor
  · rintro ⟨-, h⟩
    exact List.prefix_iff_eq_take.mpr h.symm
  · intro h
    exact ⟨h.length_le, (List.prefix_iff_eq_take.mp h).symm⟩

theorem rejected_eq_false_iff (bytes : Bytes) :
    rejected bytes = false ↔ bytes.length ≤ maxInputBytes ∧ elfFileMagic <+: bytes := by
  simp [rejected, ← hasMagic_iff]

end EvtxWorker.Parse
