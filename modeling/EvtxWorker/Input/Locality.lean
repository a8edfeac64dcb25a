import EvtxWorker.Library.Lists
import EvtxWorker.Input.Resolve

namespace EvtxWorker.Input
open Programs Program Arrow Sdk Parse Json

theorem trim_padded {before after path : String} (hbefore : ∀ c ∈ before.toList, isWhitespace c)
    (hafter : ∀ c ∈ after.toList, isWhitespace c) : trim (before ++ path ++ after) = trim path := by
  rw [trim, trim, String.toList_append, String.toList_append,
    Lists.strip_padded hbefore hafter]

structure SeesAlike (host host' : Host) (path path' : String) : Prop where
  target : host.target = host'.target
  name : trim path = trim path'
  atMetadata : host.atMetadata (trim path) = host'.atMetadata (trim path)
  atRead : host.atRead (trim path) = host'.atRead (trim path)

inductive Alike (host host' : Host) : SqlArg → SqlArg → Prop
  | null : Alike host host' .null .null
  | blob (content : Bytes) : Alike host host' (.blob content) (.blob content)
  | varchar {path path' : String} :
      SeesAlike host host' path path' → Alike host host' (.varchar path) (.varchar path')

variable {host host' : Host} {path path' : String} {arg arg' : SqlArg}

theorem seesAlike_padded (host : Host) {before after path : String}
    (hbefore : ∀ c ∈ before.toList, isWhitespace c)
    (hafter : ∀ c ∈ after.toList, isWhitespace c) :
    SeesAlike host host path (before ++ path ++ after) :=
  ⟨rfl, (trim_padded hbefore hafter).symm, rfl, rfl⟩

theorem readPathProgram_trim (target : Target) (h : trim path = trim path') :
    readPathProgram target path = readPathProgram target path' := by
  rw [readPathProgram, readPathProgram, h]

theorem readPath_alike (h : SeesAlike host host' path path') :
    readPath host path = readPath host' path' := by
  rw [readPath, readPath, ← readPathProgram_trim _ h.name, ← h.target]
  apply run_congr
  intro call hcall
  rcases mem_calls_readPathProgram hcall with rfl | rfl
  · exact congrArg (Option.map Node.metadata) h.atMetadata
  · exact congrArg (Option.bind · Node.read) h.atRead

theorem resolve_alike (h : Alike host host' arg arg') : arg.resolve host = arg'.resolve host' := by
  cases h with
  | null | blob content => simp only [SqlArg.resolve]
  | varchar hsees => simp only [SqlArg.resolve, readPath_alike hsees]

end EvtxWorker.Input
