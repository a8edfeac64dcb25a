import EvtxWorker.Input.Resolve

namespace EvtxWorker.Input
open Programs Program Arrow Sdk Parse Json

def RegularWithin (seen : FileSystem) (path : String) (content : Bytes) : Prop :=
  content.length ≤ maxInputBytes ∧
    ∃ fits readable, seen (trim path) = some (.regular content fits readable)

def CellResolves (host : Host) (path : String) (P : Option Bytes → Prop) : Prop :=
  ∀ col args row, supportedArgs col = some args → args[row]? = some (.varchar path) →
    ∃ result, inputBytes host col row = .ok result ∧ P result

def PathBounded (host : Host) (path : String) : Prop :=
  CellResolves host path (fun result =>
    ∀ content, result = some content → RegularWithin host.atRead path content) ∧
  ∀ content, constInputBytes host none (some path) = some content →
    RegularWithin host.atRead path content

variable {host : Host} {target : Target} {fs : FileSystem} {path : String}

theorem cellResolves_iff {P : Option Bytes → Prop} :
    CellResolves host path P ↔ P (readPath host path) := by
  constructor
  · intro h
    obtain ⟨result, hresult, hP⟩ := h (.utf8 [some path]) _ 0 rfl rfl
    have hcell : inputBytes host (.utf8 [some path]) 0 =
      .ok ((SqlArg.varchar path).resolve host) := inputBytes_supported host rfl rfl
    rw [hcell] at hresult
    obtain rfl := Except.ok.inj hresult
    exact hP
  · intro hP col args row hargs harg
    exact ⟨_, inputBytes_supported host hargs harg, hP⟩

theorem pathBounded_iff_read :
    PathBounded host path ↔
      ∀ content, readPath host path = some content → RegularWithin host.atRead path content := by
  rw [PathBounded, cellResolves_iff, constInputBytes_str, and_self_iff]

def Harmless : Option Node → Prop
  | none => True
  | some (.regular content _ readable) => readable = true → content.length ≤ maxInputBytes
  | some (.special _ stream) => stream = none

theorem harmless_iff :
    Harmless (fs (trim path)) ↔
      ∀ content, fs.read (trim path) = some content → RegularWithin fs path content := by
  rw [FileSystem.read]
  cases hnode : fs (trim path) with
  | none => simp [Harmless]
  | some node =>
    cases node with
    | regular found fits readable =>
      have hread : (some (Node.regular found fits readable)).bind Node.read =
        if readable then some found else none := rfl
      rw [Harmless, hread]
      constructor
      · intro h content hcontent
        split_ifs at hcontent with hreadable
        obtain rfl := Option.some_inj.mp hcontent
        exact ⟨h hreadable, fits, readable, hnode⟩
      · intro h hreadable
        exact (h found (if_pos hreadable)).1
    | special len stream =>
      have hread : (some (Node.special len stream)).bind Node.read = stream := rfl
      rw [Harmless, hread]
      constructor
      · rintro rfl content ⟨⟩
      · intro h
        rw [Option.eq_none_iff_forall_ne_some]
        intro content hcontent
        obtain ⟨-, fits, readable, hregular⟩ := h content hcontent
        rw [hnode] at hregular
        cases hregular

theorem path_bounded_iff (host : Host) (path : String) :
    PathBounded host path ↔
      (Passes host.target host.atMetadata path → Harmless (host.atRead (trim path))) := by
  rw [pathBounded_iff_read, harmless_iff]
  simp only [readPath_eq_some, and_imp]
  exact ⟨fun h hpass content => h content hpass, fun h content hpass => h hpass content⟩

def file (content : Bytes) (fits : content.length < 2 ^ 64) : FileSystem := fun _ =>
  some (.regular content fits true)

def device (stream : Bytes) : FileSystem := fun _ => some (.special 0 (some stream))

def zeros (n : Nat) : Bytes := List.replicate n 0

theorem zeros_length (n : Nat) : (zeros n).length = n := List.length_replicate

theorem zeros_fits {n : Nat} (h : n < 2 ^ 64) : (zeros n).length < 2 ^ 64 :=
  (zeros_length n).symm ▸ h

def grown : Host where
  target := .native64
  atMetadata := file [] (by decide)
  atRead := file (zeros (maxInputBytes + 1)) (zeros_fits (by decide))

def swapped : Host where
  target := .native64
  atMetadata := file [] (by decide)
  atRead := device [0]

theorem passes_file {content : Bytes} {fits : content.length < 2 ^ 64} (hne : trim path ≠ "")
    (hsize : content.length % 2 ^ target.pointerWidth ≤ maxInputBytes) :
    Passes target (file content fits) path :=
  (passes_regular rfl).mpr ⟨hne, hsize⟩

theorem changed_file_unbounded :
    constInputBytes grown none (some "log.evtx") = some (zeros (maxInputBytes + 1)) ∧
    constInputBytes swapped none (some "log.evtx") = some [0] ∧
    ¬ PathBounded grown "log.evtx" ∧ ¬ PathBounded swapped "log.evtx" := by
  have hgrown : Passes grown.target grown.atMetadata "log.evtx" :=
    passes_file (by decide) (by decide)
  have hswapped : Passes swapped.target swapped.atMetadata "log.evtx" :=
    passes_file (by decide) (by decide)
  have hlong : readPath grown "log.evtx" = some (zeros (maxInputBytes + 1)) :=
    readPath_eq_some.mpr ⟨hgrown, rfl⟩
  have hstream : readPath swapped "log.evtx" = some [0] := readPath_eq_some.mpr ⟨hswapped, rfl⟩
  refine ⟨?_, ?_, ?_, ?_⟩
  · rw [constInputBytes_str, hlong]
  · rw [constInputBytes_str, hstream]
  · intro h
    obtain ⟨hsize, -⟩ := pathBounded_iff_read.mp h _ hlong
    rw [zeros_length] at hsize
    omega
  · intro h
    obtain ⟨-, fits, readable, hregular⟩ := pathBounded_iff_read.mp h _ hstream
    cases hregular

def StartsReading {α : Type} (host : Host) (program : Os α) : Prop :=
  ∃ name, .read name ∈ program.calls host.answer

def GateHolds (host : Host) (path : String) (len : Nat) : Prop :=
  (∀ col args row, supportedArgs col = some args → args[row]? = some (.varchar path) →
    StartsReading host (inputBytesProgram host.target col row) → len ≤ maxInputBytes) ∧
  (StartsReading host (constInputBytesProgram host.target none (some path)) →
    len ≤ maxInputBytes)

theorem startsReading_readPath :
    StartsReading host (readPathProgram target path) ↔ Passes target host.atMetadata path := by
  by_cases hpass : Passes target host.atMetadata path
  · rw [StartsReading, (readPathProgram_passes hpass).2, iff_true_right hpass]
    exact ⟨trim path, List.mem_cons_of_mem _ (List.mem_singleton_self _)⟩
  · rw [StartsReading, (readPathProgram_refused hpass).2, iff_false_right hpass]
    rintro ⟨name, hname⟩
    split_ifs at hname
    · cases hname
    · cases List.mem_singleton.mp hname

theorem startsReading_cell {col : ArrowArray} {args : List SqlArg} {row : Nat}
    (hargs : supportedArgs col = some args) (harg : args[row]? = some (.varchar path)) :
    StartsReading host (inputBytesProgram target col row) ↔
      Passes target host.atMetadata path := by
  rw [inputBytesProgram_supported target hargs harg, SqlArg.resolveProgram, StartsReading,
    calls_bind, calls_pure, List.append_nil]
  exact startsReading_readPath

theorem gateHolds_iff_passes {len : Nat} :
    GateHolds host path len ↔
      (Passes host.target host.atMetadata path → len ≤ maxInputBytes) := by
  rw [GateHolds, constInputBytesProgram_str, startsReading_readPath]
  constructor
  · exact And.right
  · intro h
    refine ⟨?_, h⟩
    intro col args row hargs harg
    rwa [startsReading_cell hargs harg]

theorem gate_holds_iff {content : Bytes} {fits : content.length < 2 ^ 64} {readable : Bool}
    (hnode : host.atMetadata (trim path) = some (.regular content fits readable)) :
    (GateHolds host path content.length ↔
      trim path = "" ∨ content.length ≤ maxInputBytes ∨
        maxInputBytes < content.length % 2 ^ host.target.pointerWidth) ∧
    (host.target = .native64 → GateHolds host path content.length) := by
  have hgate : GateHolds host path content.length ↔
      trim path = "" ∨ content.length ≤ maxInputBytes ∨
        maxInputBytes < content.length % 2 ^ host.target.pointerWidth := by
    rw [gateHolds_iff_passes, passes_regular hnode, imp_iff_not_or, not_and_or, not_ne_iff,
      or_assoc, Nat.not_le, or_comm (a := maxInputBytes < _)]
  refine ⟨hgate, ?_⟩
  intro hnative
  have hwhole : content.length % 2 ^ host.target.pointerWidth = content.length := by
    rw [hnative]
    exact Nat.mod_eq_of_lt fits
  rw [hgate, hwhole]
  omega

def sampleHost : Host := Host.still .wasm32 (file (zeros 69632) (zeros_fits (by decide)))

theorem gate_holds_sample :
    StartsReading sampleHost (constInputBytesProgram .wasm32 none (some "log.evtx")) ∧
    GateHolds sampleHost "log.evtx" (zeros 69632).length := by
  have hnode : sampleHost.atMetadata (trim "log.evtx") =
      some (.regular (zeros 69632) (zeros_fits (by decide)) true) := rfl
  have hsize : (zeros 69632).length ≤ maxInputBytes := by
    rw [zeros_length]
    decide
  refine ⟨?_, (gate_holds_iff hnode).1.mpr (.inr (.inl hsize))⟩
  rw [constInputBytesProgram_str, startsReading_readPath, passes_regular hnode]
  exact ⟨by decide, (Nat.mod_le _ _).trans hsize⟩

def unread (n : Nat) (fits : n < 2 ^ 64) : FileSystem := fun _ =>
  some (.regular (zeros n) (zeros_fits fits) false)

def wasm4GiB : Host := Host.still .wasm32 (unread (2 ^ 32) (by decide))

theorem wasm_gate_passes_4GiB :
    (constInputBytesProgram .wasm32 none (some "log.evtx")).calls wasm4GiB.answer =
      [.metadata "log.evtx", .read "log.evtx"] ∧
    ¬ GateHolds wasm4GiB "log.evtx" (zeros (2 ^ 32)).length := by
  have hname : trim "log.evtx" = "log.evtx" := by decide
  have hpass : Passes .wasm32 wasm4GiB.atMetadata "log.evtx" :=
    (passes_regular rfl).mpr ⟨by decide, by rw [zeros_length]; decide⟩
  refine ⟨?_, ?_⟩
  · rw [constInputBytesProgram_str, (readPathProgram_passes hpass).2, hname]
  · intro h
    have hsize := gateHolds_iff_passes.mp h hpass
    rw [zeros_length] at hsize
    exact absurd hsize (by decide)

end EvtxWorker.Input
