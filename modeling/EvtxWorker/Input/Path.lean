import EvtxWorker.Library.Program
import EvtxWorker.Parse.Records
import Mathlib.Algebra.Group.Nat.Defs

namespace EvtxWorker.Input
open Programs Parse Json

inductive Node where
  | regular (content : Bytes) (fits : content.length < 2 ^ 64) (readable : Bool)
  | special (len : UInt64) (stream : Option Bytes)

structure Metadata where
  isFile : Bool
  len : UInt64

namespace Node

def metadata : Node → Metadata
  | regular content _ _ => ⟨true, UInt64.ofNat content.length⟩
  | special len _ => ⟨false, len⟩

def read : Node → Option Bytes
  | regular content _ readable => if readable then some content else none
  | special _ stream => stream

end Node

abbrev FileSystem := String → Option Node

namespace FileSystem

def metadata (fs : FileSystem) (path : String) : Option Metadata := (fs path).map Node.metadata

def read (fs : FileSystem) (path : String) : Option Bytes := (fs path).bind Node.read

end FileSystem

inductive Target where
  | native64 | wasm32
deriving DecidableEq, Repr

def Target.pointerWidth : Target → Nat
  | .native64 => 64
  | .wasm32 => 32

structure Host where
  target : Target
  atMetadata : FileSystem
  atRead : FileSystem

def Host.still (target : Target) (fs : FileSystem) : Host := ⟨target, fs, fs⟩

def asUsize (target : Target) (n : UInt64) : Nat := n.toNat % 2 ^ target.pointerWidth

inductive OsCall where
  | metadata (path : String)
  | read (path : String)
deriving DecidableEq

def OsCall.Answer : OsCall → Type
  | metadata _ => Option Metadata
  | read _ => Option Bytes

abbrev Os := Program OsCall OsCall.Answer

def Os.metadata (path : String) : Os (Option Metadata) := .ask (OsCall.metadata path)

def Os.read (path : String) : Os (Option Bytes) := .ask (OsCall.read path)

def Host.answer (host : Host) : ∀ call : OsCall, call.Answer
  | .metadata path => host.atMetadata.metadata path
  | .read path => host.atRead.read path

def readPathProgram (target : Target) (path : String) : Os (Option Bytes) := do
  let path := trim path
  if path.isEmpty then return none
  let some found ← Os.metadata path | return none
  if !found.isFile || decide (maxInputBytes < asUsize target found.len) then return none
  Os.read path

def readPath (host : Host) (path : String) : Option Bytes :=
  (readPathProgram host.target path).run host.answer

def Passes (target : Target) (seen : FileSystem) (path : String) : Prop :=
  trim path ≠ "" ∧ ∃ found, seen.metadata (trim path) = some found ∧ found.isFile = true ∧
    asUsize target found.len ≤ maxInputBytes

def Names (fs : FileSystem) (path : String) (content : Bytes) : Prop :=
  ∃ fits, fs path = some (.regular content fits true)

def UsableFile (target : Target) (fs : FileSystem) (path : String) (content : Bytes) : Prop :=
  trim path ≠ "" ∧ Names fs (trim path) content ∧
    content.length % 2 ^ target.pointerWidth ≤ maxInputBytes

theorem metadata_len {content : Bytes} (fits : content.length < 2 ^ 64) :
    (UInt64.ofNat content.length).toNat = content.length :=
  UInt64.toNat_ofNat_of_lt' fits

variable {host : Host} {target : Target} {fs : FileSystem} {path : String}

theorem run_metadata (host : Host) (path : String) :
    (Os.metadata path).run host.answer = host.atMetadata.metadata path :=
  Program.run_ask host.answer (OsCall.metadata path)

theorem run_read (host : Host) (path : String) :
    (Os.read path).run host.answer = host.atRead.read path :=
  Program.run_ask host.answer (OsCall.read path)

theorem calls_metadata (host : Host) (path : String) :
    (Os.metadata path).calls host.answer = [.metadata path] :=
  Program.calls_ask host.answer (OsCall.metadata path)

theorem calls_read (host : Host) (path : String) :
    (Os.read path).calls host.answer = [.read path] :=
  Program.calls_ask host.answer (OsCall.read path)

theorem readPathProgram_passes (h : Passes target host.atMetadata path) :
    (readPathProgram target path).run host.answer = host.atRead.read (trim path) ∧
    (readPathProgram target path).calls host.answer =
      [.metadata (trim path), .read (trim path)] := by
  obtain ⟨hne, found, hfound, hfile, hsize⟩ := h
  have hsmall : ¬ maxInputBytes < asUsize target found.len := Nat.not_lt_of_le hsize
  simp [readPathProgram, run_metadata, run_read, calls_metadata, calls_read, hne, hfound, hfile,
    hsmall]

theorem readPathProgram_refused (h : ¬ Passes target host.atMetadata path) :
    (readPathProgram target path).run host.answer = none ∧
    (readPathProgram target path).calls host.answer =
      if trim path = "" then [] else [.metadata (trim path)] := by
  by_cases hne : trim path = ""
  · simp [readPathProgram, hne]
  cases hfound : host.atMetadata.metadata (trim path) with
  | none => simp [readPathProgram, run_metadata, calls_metadata, hne, hfound]
  | some found =>
    have hgate : found.isFile = true → maxInputBytes < asUsize target found.len := by
      intro hfile
      by_contra hsize
      exact h ⟨hne, found, hfound, hfile, Nat.le_of_not_lt hsize⟩
    by_cases hfile : found.isFile = true
    · simp [readPathProgram, run_metadata, calls_metadata, hne, hfound, hfile, hgate hfile]
    · simp [readPathProgram, run_metadata, calls_metadata, hne, hfound, hfile]

theorem mem_calls_readPathProgram {call : OsCall}
    (h : call ∈ (readPathProgram target path).calls host.answer) :
    call = .metadata (trim path) ∨ call = .read (trim path) := by
  by_cases hpass : Passes target host.atMetadata path
  · rw [(readPathProgram_passes hpass).2] at h
    simpa using h
  · rw [(readPathProgram_refused hpass).2] at h
    split_ifs at h with hne
    · cases h
    · exact .inl (List.mem_singleton.mp h)

theorem readPath_passes (h : Passes host.target host.atMetadata path) :
    readPath host path = host.atRead.read (trim path) := (readPathProgram_passes h).1

theorem readPath_refused (h : ¬ Passes host.target host.atMetadata path) :
    readPath host path = none := (readPathProgram_refused h).1

theorem readPath_eq_some {content : Bytes} :
    readPath host path = some content ↔
      Passes host.target host.atMetadata path ∧ host.atRead.read (trim path) = some content := by
  by_cases h : Passes host.target host.atMetadata path
  · rw [readPath_passes h, and_iff_right h]
  · rw [readPath_refused h]
    exact ⟨nofun, fun hpass => absurd hpass.1 h⟩

theorem passes_regular {content : Bytes} {fits : content.length < 2 ^ 64} {readable : Bool}
    (hnode : fs (trim path) = some (.regular content fits readable)) :
    Passes target fs path ↔
      trim path ≠ "" ∧ content.length % 2 ^ target.pointerWidth ≤ maxInputBytes := by
  have hfound : fs.metadata (trim path) = some ⟨true, UInt64.ofNat content.length⟩ := by
    rw [FileSystem.metadata, hnode]
    rfl
  rw [Passes, hfound]
  refine and_congr_right fun _ => ?_
  constructor
  · rintro ⟨_, ⟨rfl⟩, -, hsize⟩
    rwa [asUsize, metadata_len fits] at hsize
  · intro hsize
    refine ⟨_, rfl, rfl, ?_⟩
    rwa [asUsize, metadata_len fits]

theorem readPath_still (content : Bytes) :
    readPath (Host.still target fs) path = some content ↔ UsableFile target fs path content := by
  rw [readPath_eq_some]
  constructor
  · rintro ⟨hpass, hread⟩
    cases hnode : fs (trim path) with
    | none => simp [Host.still, FileSystem.read, hnode] at hread
    | some node =>
      cases node with
      | regular found fits readable =>
        obtain ⟨hne, hsize⟩ := (passes_regular hnode).mp hpass
        obtain ⟨rfl, rfl⟩ : readable = true ∧ found = content := by
          simpa [Host.still, FileSystem.read, Node.read, hnode] using hread
        exact ⟨hne, ⟨fits, hnode⟩, hsize⟩
      | special len stream =>
        obtain ⟨-, found, hfound, hfile, -⟩ := hpass
        simp [Host.still, FileSystem.metadata, hnode] at hfound
        simp [← hfound, Node.metadata] at hfile
  · rintro ⟨hne, ⟨fits, hnode⟩, hsize⟩
    refine ⟨(passes_regular hnode).mpr ⟨hne, hsize⟩, ?_⟩
    simp [Host.still, FileSystem.read, Node.read, hnode]

theorem readPath_still_none :
    readPath (Host.still target fs) path = none ↔
      ∀ content, ¬ UsableFile target fs path content := by
  rw [Option.eq_none_iff_forall_ne_some]
  simp only [ne_eq, readPath_still]

end EvtxWorker.Input
