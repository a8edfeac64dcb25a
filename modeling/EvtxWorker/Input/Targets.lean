import EvtxWorker.Input.Gate

namespace EvtxWorker.Input
open Programs Program Arrow Sdk Parse Json

def Target.holds (target : Target) (content : Bytes) : Bool :=
  content.length < 2 ^ (target.pointerWidth - 1)

structure Builds (native wasm : Host) : Prop where
  nativeTarget : native.target = .native64
  wasmTarget : wasm.target = .wasm32
  metadata : wasm.atMetadata = native.atMetadata
  reads : ∀ name, wasm.atRead.read name = (native.atRead.read name).filter Target.wasm32.holds

structure Meets (host : Host) (path : String) (found : Metadata) (content : Bytes) : Prop where
  named : trim path ≠ ""
  seen : host.atMetadata.metadata (trim path) = some found
  file : found.isFile = true
  yields : host.atRead.read (trim path) = some content

def LengthSteady (host : Host) (path : String) : Prop :=
  ∀ found content, Meets host path found content → found.len.toNat = content.length

structure Portable (host : Host) (path : String) : Prop where
  passed : ∀ found content, Meets host path found content → found.len.toNat ≤ maxInputBytes →
    content.length < 2 ^ 31
  wrapped : ∀ found content, Meets host path found content → maxInputBytes < found.len.toNat →
    found.len.toNat % 2 ^ 32 ≤ maxInputBytes → 2 ^ 31 ≤ content.length

variable {host native wasm : Host} {path : String} {found : Metadata} {content : Bytes}

theorem readPath_meets : readPath host path = some content ↔
    ∃ found, Meets host path found content ∧ asUsize host.target found.len ≤ maxInputBytes := by
  rw [readPath_eq_some]
  constructor
  · rintro ⟨⟨hnamed, found, hseen, hfile, hsize⟩, hyields⟩
    exact ⟨found, ⟨hnamed, hseen, hfile, hyields⟩, hsize⟩
  · rintro ⟨found, ⟨hnamed, hseen, hfile, hyields⟩, hsize⟩
    exact ⟨⟨hnamed, found, hseen, hfile, hsize⟩, hyields⟩

theorem meets_wasm (h : Builds native wasm) :
    Meets wasm path found content ↔
      Meets native path found content ∧ content.length < 2 ^ 31 := by
  have hheld : Target.wasm32.holds content = true ↔ content.length < 2 ^ 31 := decide_eq_true_iff
  constructor
  · rintro ⟨hnamed, hseen, hfile, hyields⟩
    rw [h.reads, Option.filter_eq_some_iff, hheld] at hyields
    exact ⟨⟨hnamed, h.metadata ▸ hseen, hfile, hyields.1⟩, hyields.2⟩
  · rintro ⟨⟨hnamed, hseen, hfile, hyields⟩, hshort⟩
    refine ⟨hnamed, h.metadata.symm ▸ hseen, hfile, ?_⟩
    rw [h.reads, Option.filter_eq_some_iff, hheld]
    exact ⟨hyields, hshort⟩

theorem readPath_native (h : Builds native wasm) : readPath native path = some content ↔
    ∃ found, Meets native path found content ∧ found.len.toNat ≤ maxInputBytes := by
  have hlen (found : Metadata) : asUsize .native64 found.len = found.len.toNat :=
    Nat.mod_eq_of_lt found.len.toNat_lt
  simp only [readPath_meets, h.nativeTarget, hlen]

theorem readPath_wasm (h : Builds native wasm) : readPath wasm path = some content ↔
    ∃ found, Meets native path found content ∧ content.length < 2 ^ 31 ∧
      found.len.toNat % 2 ^ 32 ≤ maxInputBytes := by
  simp only [readPath_meets, meets_wasm h, h.wasmTarget, and_assoc]
  rfl

theorem meets_found {found' : Metadata} {content' : Bytes} (h : Meets host path found content)
    (h' : Meets host path found' content') : found' = found := by
  have hseen := h'.seen
  rw [h.seen] at hseen
  exact (Option.some_inj.mp hseen).symm

theorem gate_wraps {n : Nat} (h : n ≤ maxInputBytes) : n % 2 ^ 32 ≤ maxInputBytes :=
  (Nat.mod_le n _).trans h

theorem readPath_builds_iff (h : Builds native wasm) :
    readPath native path = readPath wasm path ↔ Portable native path := by
  rw [Option.ext_iff]
  simp only [readPath_native h, readPath_wasm h]
  constructor
  · intro hsame
    constructor
    · intro found content hmeets hsize
      obtain ⟨_, -, hshort, -⟩ := (hsame content).mp ⟨found, hmeets, hsize⟩
      exact hshort
    · intro found content hmeets hsize hwrap
      by_contra hshort
      have hshort := Nat.lt_of_not_le hshort
      obtain ⟨found', hmeets', hsize'⟩ := (hsame content).mpr ⟨found, hmeets, hshort, hwrap⟩
      rw [meets_found hmeets hmeets'] at hsize'
      exact absurd hsize (Nat.not_lt_of_le hsize')
  · intro hportable content
    constructor
    · rintro ⟨found, hmeets, hsize⟩
      exact ⟨found, hmeets, hportable.passed found content hmeets hsize, gate_wraps hsize⟩
    · rintro ⟨found, hmeets, hshort, hwrap⟩
      rcases Nat.lt_or_ge maxInputBytes found.len.toNat with hsize | hsize
      · exact absurd hshort (Nat.not_lt_of_le (hportable.wrapped found content hmeets hsize hwrap))
      · exact ⟨found, hmeets, hsize⟩

theorem lengthSteady_unchanged (h : host.atMetadata (trim path) = host.atRead (trim path)) :
    LengthSteady host path := by
  rintro found content ⟨-, hseen, hfile, hyields⟩
  rw [FileSystem.metadata, h] at hseen
  rw [FileSystem.read] at hyields
  cases hnode : host.atRead (trim path) with
  | none =>
    rw [hnode] at hseen
    cases hseen
  | some node =>
    rw [hnode] at hseen hyields
    cases node with
    | special len stream =>
      cases hseen
      cases hfile
    | regular bytes fits readable =>
      cases hseen
      cases readable with
      | false => cases hyields
      | true =>
        cases hyields
        exact metadata_len fits

theorem portable_steady (h : LengthSteady host path) : Portable host path := by
  constructor
  · intro found content hmeets hsize
    rw [h found content hmeets] at hsize
    exact hsize.trans_lt (by decide)
  · intro found content hmeets hsize hwrap
    rw [h found content hmeets, maxInputBytes] at *
    omega

def pathAt (col : ArrowArray) (row : Nat) : Option String :=
  match col with
  | .utf8 cells => (cells[row]?).join
  | .largeUtf8 cells => (cells[row]?).join
  | _ => none

theorem inputBytesProgram_path {col : ArrowArray} {row : Nat} (target : Target)
    (h : pathAt col row = some path) :
    inputBytesProgram target col row =
      readPathProgram target path >>= fun bytes => pure (.ok bytes) := by
  cases col with
  | utf8 cells | largeUtf8 cells =>
    have hcell : cells[row]? = some (some path) := Option.join_eq_some_iff.mp h
    rw [inputBytesProgram, ArrowArray.isNull_of_cells rfl hcell, hcell]
    rfl
  | _ => cases h

theorem inputBytes_path {col : ArrowArray} {row : Nat} (h : pathAt col row = some path) :
    inputBytes host col row = .ok (readPath host path) := by
  rw [inputBytes, inputBytesProgram_path host.target h, run_bind, run_pure, readPath]

theorem inputBytesProgram_pathless {col : ArrowArray} {row : Nat} (target target' : Target)
    (h : pathAt col row = none) :
    ∃ result, inputBytesProgram target col row = pure result ∧
      inputBytesProgram target' col row = pure result := by
  cases hnull : col.isNull row with
  | true => exact ⟨_, inputBytesProgram_null target hnull, inputBytesProgram_null target' hnull⟩
  | false =>
    cases col with
    | utf8 cells | largeUtf8 cells =>
      have hcell : (cells[row]?).join = none := h
      simp [inputBytesProgram, hnull, hcell]
    | _ => simp [inputBytesProgram, hnull]

theorem inputBytes_builds_iff (h : Builds native wasm) {col : ArrowArray} {row : Nat} :
    inputBytes native col row = inputBytes wasm col row ↔
      ∀ path, pathAt col row = some path → Portable native path := by
  cases hpath : pathAt col row with
  | none =>
    obtain ⟨result, hnative, hwasm⟩ :=
      inputBytesProgram_pathless native.target wasm.target hpath
    rw [inputBytes, inputBytes, hnative, hwasm, run_pure, run_pure, iff_true_left rfl]
    intro _ hsome
    cases hsome
  | some path =>
    rw [inputBytes_path hpath, inputBytes_path hpath, Except.ok.injEq, readPath_builds_iff h]
    constructor
    · intro hportable _ hsome
      exact Option.some_inj.mp hsome ▸ hportable
    · intro hall
      exact hall path rfl

theorem constInputBytes_builds_iff (h : Builds native wasm) {bytesArg : Option Bytes}
    {strArg : Option String} :
    constInputBytes native bytesArg strArg = constInputBytes wasm bytesArg strArg ↔
      ∀ path, bytesArg = none → strArg = some path → Portable native path := by
  cases bytesArg with
  | some content => exact iff_of_true rfl nofun
  | none =>
    cases strArg with
    | none => exact iff_of_true rfl nofun
    | some path =>
      rw [constInputBytes_str, constInputBytes_str, readPath_builds_iff h]
      exact ⟨fun hportable _ _ hsome => Option.some_inj.mp hsome ▸ hportable,
        fun hall => hall path rfl rfl⟩

theorem builds_resolve_alike (h : Builds native wasm) :
    (∀ path, readPath native path = readPath wasm path ↔ Portable native path) ∧
    (∀ col row, inputBytes native col row = inputBytes wasm col row ↔
      ∀ path, pathAt col row = some path → Portable native path) ∧
    (∀ bytesArg strArg,
      constInputBytes native bytesArg strArg = constInputBytes wasm bytesArg strArg ↔
        ∀ path, bytesArg = none → strArg = some path → Portable native path) ∧
    (∀ path, LengthSteady native path → Portable native path) ∧
    ∀ path, native.atMetadata (trim path) = native.atRead (trim path) →
      LengthSteady native path :=
  ⟨fun _ => readPath_builds_iff h, fun _ _ => inputBytes_builds_iff h,
    fun _ _ => constInputBytes_builds_iff h, fun _ => portable_steady,
    fun _ => lengthSteady_unchanged⟩

theorem holds_zeros {n : Nat} : Target.wasm32.holds (zeros n) = true ↔ n < 2 ^ 31 := by
  rw [Target.holds, decide_eq_true_iff, zeros_length]
  rfl

def sampleNative : Host := { sampleHost with target := .native64 }

theorem sample_builds : Builds sampleNative sampleHost where
  nativeTarget := rfl
  wasmTarget := rfl
  metadata := rfl
  reads name := (Option.filter_eq_some_iff.mpr ⟨rfl, holds_zeros.mpr (by decide)⟩).symm

def swollenNative : Host := { grown with atRead := file (zeros (2 ^ 31)) (zeros_fits (by decide)) }

def swollenWasm : Host := { grown with target := .wasm32, atRead := unread (2 ^ 31) (by decide) }

theorem swollen_builds : Builds swollenNative swollenWasm where
  nativeTarget := rfl
  wasmTarget := rfl
  metadata := rfl
  reads name := by
    have hread : swollenNative.atRead.read name = some (zeros (2 ^ 31)) := rfl
    have hlong : ¬ Target.wasm32.holds (zeros (2 ^ 31)) = true := by
      rw [holds_zeros]
      decide
    rw [hread, Option.filter_some, if_neg hlong]
    rfl

theorem builds_resolve_alike_sample :
    readPath sampleNative "log.evtx" = readPath sampleHost "log.evtx" ∧
    readPath swollenNative "log.evtx" ≠ readPath swollenWasm "log.evtx" := by
  refine ⟨?_, ?_⟩
  · obtain ⟨hread, -, -, hsteady, hunchanged⟩ := builds_resolve_alike sample_builds
    exact (hread "log.evtx").mpr (hsteady _ (hunchanged _ rfl))
  · intro hsame
    have hportable := ((builds_resolve_alike swollen_builds).1 "log.evtx").mp hsame
    have hmeets : Meets swollenNative "log.evtx" ⟨true, 0⟩ (zeros (2 ^ 31)) :=
      ⟨by decide, rfl, rfl, rfl⟩
    have hshort := hportable.passed _ _ hmeets (by decide)
    rw [zeros_length] at hshort
    exact absurd hshort (by decide)

end EvtxWorker.Input
