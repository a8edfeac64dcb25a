import EvtxWorker.Library.Defaults
import EvtxWorker.Library.Machine

namespace EvtxWorker.Catalog
open Unwinding Defaults

inductive OsString where
  | unicode (text : String)
  | other (bytes : List UInt8)
deriving DecidableEq

abbrev Environment := String → Option OsString

namespace Environment

def var (env : Environment) (key : String) : Option String :=
  match env key with
  | some (.unicode text) => some text
  | _ => none

def setVar (env : Environment) (key value : String) : Environment :=
  Function.update env key (some (.unicode value))

end Environment

structure CatSchema where
  name : String
  views : List String
deriving DecidableEq

structure CatalogModel where
  name : String
  schemas : List CatSchema
deriving DecidableEq

structure EvtxRecords where
  inputType : String
deriving DecidableEq

namespace EvtxRecords

def blob : EvtxRecords := ⟨"blob"⟩

def path : EvtxRecords := ⟨"varchar"⟩

end EvtxRecords

structure Worker where
  scalars : List String
  tables : List EvtxRecords
  catalog : Option CatalogModel
deriving DecidableEq

namespace Worker

def new : Worker := ⟨[], [], none⟩

def registerScalar (worker : Worker) (name : String) : Worker :=
  { worker with scalars := worker.scalars ++ [name] }

def registerTable (worker : Worker) (table : EvtxRecords) : Worker :=
  { worker with tables := worker.tables ++ [table] }

def setCatalog (worker : Worker) (catalog : CatalogModel) : Worker :=
  { worker with catalog := some catalog }

end Worker

def registerScalars (worker : Worker) : Worker :=
  (worker.registerScalar "evtx_record_count").registerScalar "is_valid_evtx"

def registerTables (worker : Worker) : Worker :=
  (worker.registerTable .blob).registerTable .path

def catalogMetadata (name : String) : CatalogModel :=
  ⟨name, [⟨"main", ["windows_event_id_reference"]⟩]⟩

def catalogVariable : String := "VGI_WORKER_CATALOG_NAME"

def storageVariable : String := "VGI_WORKER_SHARED_STORAGE"

def catalogName (env : Environment) : String × Environment :=
  let env := if (env catalogVariable).isNone then env.setVar catalogVariable "evtx" else env
  ((env.var catalogVariable).getD "evtx", env)

def buildWorker (env : Environment) : Worker × Environment :=
  let (name, env) := catalogName env
  let worker := registerTables (registerScalars Worker.new)
  (worker.setCatalog (catalogMetadata name), env)

def wasmInit (env : Environment) : Environment :=
  if (env storageVariable).isNone then env.setVar storageVariable "memory" else env

inductive Start where
  | wasmInit
  | buildWorker
deriving DecidableEq

def start (env : Environment) : Start → Option Worker × Environment
  | .wasmInit => (none, wasmInit env)
  | .buildWorker => (some (buildWorker env).1, (buildWorker env).2)

def Start.setting : Start → String × OsString
  | wasmInit => (storageVariable, .unicode "memory")
  | buildWorker => (catalogVariable, .unicode "evtx")

def OsString.nameOf : OsString → String
  | unicode text => text
  | other _ => "evtx"

variable {env : Environment} {steps : List Start}

theorem start_environment (env : Environment) (s : Start) :
    (start env s).2 = fill s.setting.1 s.setting.2 env := by
  cases s <;> rfl

theorem final_environment (env : Environment) (steps : List Start) :
    final start env steps = fillAll (steps.map Start.setting) env := by
  induction steps generalizing env with
  | nil => rfl
  | cons s steps ih =>
    rw [final_cons, start_environment, ih]
    rfl

theorem setting_value {s t : Start} (h : s.setting.1 = t.setting.1) :
    s.setting.2 = t.setting.2 := by
  cases s <;> cases t <;> first | rfl | exact absurd h (by decide)

theorem final_set {s : Start} (h : s ∈ steps) :
    final start env steps s.setting.1 = some ((env s.setting.1).getD s.setting.2) := by
  rw [final_environment]
  apply fillAll_key
  · intro d hd hkey
    obtain ⟨t, -, rfl⟩ := List.mem_map.mp hd
    exact setting_value hkey
  · exact List.mem_map_of_mem h

theorem final_getD (s : Start) :
    (final start env steps s.setting.1).getD s.setting.2 = (env s.setting.1).getD s.setting.2 := by
  by_cases h : s ∈ steps
  · rw [final_set h, Option.getD_some]
  · rw [final_environment, fillAll_other]
    intro d hd hkey
    obtain ⟨t, ht, rfl⟩ := List.mem_map.mp hd
    have hst : s = t := by
      cases s <;> cases t <;> first | rfl | exact absurd hkey (by decide)
    exact h (hst ▸ ht)

theorem catalogName_eq (env : Environment) :
    (catalogName env).1 = ((env catalogVariable).getD (.unicode "evtx")).nameOf := by
  cases h : env catalogVariable with
  | none => simp [catalogName, h, Environment.var, Environment.setVar, OsString.nameOf]
  | some value => cases value <;> simp [catalogName, h, Environment.var, OsString.nameOf]

theorem buildWorker_eq (env : Environment) : (buildWorker env).1 =
    (registerTables (registerScalars Worker.new)).setCatalog
      (catalogMetadata (catalogName env).1) := rfl

theorem build_stable : (buildWorker (final start env steps)).1 = (buildWorker env).1 := by
  have hname := @final_getD env steps .buildWorker
  rw [Start.setting] at hname
  rw [buildWorker_eq, buildWorker_eq, catalogName_eq, catalogName_eq, hname]

theorem built_worker {worker : Worker} (h : some worker ∈ outputs start env steps) :
    worker = (buildWorker env).1 := by
  induction steps generalizing env with
  | nil => cases h
  | cons s steps ih =>
    rw [outputs_cons] at h
    rcases List.mem_cons.mp h with hs | hrest
    · cases s with
      | wasmInit => cases hs
      | buildWorker => exact Option.some_inj.mp hs
    · have hstable := @build_stable env [s]
      rw [ih hrest]
      exact hstable

theorem final_var (h : .buildWorker ∈ steps) :
    (final start env steps).var catalogVariable = some (catalogName env).1 ↔
      ∀ bytes, env catalogVariable ≠ some (.other bytes) := by
  have hset := @final_set env steps .buildWorker h
  rw [Start.setting] at hset
  rw [Environment.var, hset, catalogName_eq]
  cases henv : env catalogVariable with
  | none => simp [OsString.nameOf]
  | some value => cases value <;> simp [OsString.nameOf]

theorem starts_agree (env : Environment) (steps : List Start) :
    (∀ worker, some worker ∈ outputs start env steps → worker = (buildWorker env).1) ∧
    (∀ key value, env key = some value → final start env steps key = some value) ∧
    (∀ key, key ≠ catalogVariable → key ≠ storageVariable →
      final start env steps key = env key) ∧
    (.wasmInit ∈ steps → final start env steps storageVariable =
      some ((env storageVariable).getD (.unicode "memory"))) ∧
    (.buildWorker ∈ steps →
      ((final start env steps).var catalogVariable = some (catalogName env).1 ↔
        ∀ bytes, env catalogVariable ≠ some (.other bytes))) := by
  refine ⟨fun _ => built_worker, ?_, ?_, final_set, final_var⟩
  · intro key value h
    rw [final_environment]
    exact fillAll_present h
  · intro key hcatalog hstorage
    rw [final_environment, fillAll_other]
    intro d hd
    obtain ⟨s, -, rfl⟩ := List.mem_map.mp hd
    cases s with
    | wasmInit => exact hstorage
    | buildWorker => exact hcatalog

end EvtxWorker.Catalog
