import EvtxWorker.Scalar.Cells
import EvtxWorker.Table.EvtxRecords
import Mathlib.Data.List.Forall2

namespace EvtxWorker.Sql
open Unwinding Unwind Arrow Sdk Parse Input Scalar Table Json

inductive Means (fs : FileSystem) : SqlArg → SqlArg → Prop
  | null : Means fs .null .null
  | file {path : String} {content : Bytes} : trim path ≠ "" → Names fs (trim path) content →
      content.length ≤ maxInputBytes → Means fs (.varchar path) (.blob content)

section Resolution
variable {target : Target} {fs : FileSystem} {path : String} {content : Bytes}

theorem usableFile_of_small (htrim : trim path ≠ "") (hnames : Names fs (trim path) content)
    (hsize : content.length ≤ maxInputBytes) : UsableFile target fs path content :=
  ⟨htrim, hnames, (Nat.mod_le _ _).trans hsize⟩

theorem readPath_names (htrim : trim path ≠ "") (hnames : Names fs (trim path) content)
    (hsize : content.length ≤ maxInputBytes) :
    readPath (Host.still target fs) path = some content :=
  (readPath_still content).mpr (usableFile_of_small htrim hnames hsize)

theorem resolve_means {arg arg' : SqlArg} (h : Means fs arg arg') :
    arg.resolve (Host.still target fs) = arg'.resolve (Host.still target fs) := by
  cases h with
  | null => rfl
  | file htrim hnames hsize =>
    rw [SqlArg.resolve, SqlArg.resolve, readPath_names htrim hnames hsize]

theorem inspectArg_means {β : Type} (value : Bytes → β) {args args' : List SqlArg}
    (h : List.Forall₂ (Means fs) args args') :
    args.map (inspectArg (Host.still target fs) value) =
      args'.map (inspectArg (Host.still target fs) value) := by
  induction h with
  | nil => rfl
  | cons hmeans _ ih => rw [List.map_cons, List.map_cons, ih, inspectArg, resolve_means hmeans,
      inspectArg]

end Resolution

section Runs
variable (crates : Crates) {target : Target} {fs : FileSystem} {name : String}
  {arguments arguments' : Arguments} {batch batch' : RecordBatch} {col col' : ArrowArray}
  {rest rest' : List ArrowArray} {args args' : List SqlArg}

theorem scalars_means (hcol : batch.columns = col :: rest) (hcol' : batch'.columns = col' :: rest')
    (hargs : supportedArgs col = some args) (hargs' : supportedArgs col' = some args')
    (hmeans : List.Forall₂ (Means fs) args args') :
    ∃ counts valids,
      Delivers (countRun crates (Host.still target fs) name arguments batch) (.int64 counts) ∧
      Delivers (countRun crates (Host.still target fs) name arguments' batch') (.int64 counts) ∧
      Delivers (validRun crates (Host.still target fs) name arguments batch) (.boolean valids) ∧
      Delivers (validRun crates (Host.still target fs) name arguments' batch')
        (.boolean valids) := by
  choose count hcount _ using recordCount_bounded crates
  choose valid hvalid _ using isValid_cases crates
  refine ⟨_, _, inspect_delivers int64_dataType hcount hcol hargs, ?_,
    inspect_delivers boolean_dataType hvalid hcol hargs, ?_⟩
  · rw [inspectArg_means count hmeans]
    exact inspect_delivers int64_dataType hcount hcol' hargs'
  · rw [inspectArg_means valid hmeans]
    exact inspect_delivers boolean_dataType hvalid hcol' hargs'

theorem producer_means {params params' : ProcessParams} {arg arg' : SqlArg}
    (hschema : params.outputSchema = params'.outputSchema) (h : Carries params.arguments arg)
    (h' : Carries params'.arguments arg') (hmeans : Means fs arg arg') :
    producer crates (Host.still target fs) params =
      producer crates (Host.still target fs) params' := by
  rw [producer, producer, constInputBytes_carries _ h, constInputBytes_carries _ h',
    resolve_means hmeans, hschema]

end Runs

theorem trimmed_path_means_file {target : Target} {fs : FileSystem} {path : String}
    {content : Bytes} (htrim : trim path ≠ "") (hnames : Names fs (trim path) content)
    (hsize : content.length ≤ maxInputBytes) :
    (∀ col col' args args' row row', supportedArgs col = some args →
      args[row]? = some (.varchar path) → supportedArgs col' = some args' →
      args'[row']? = some (.blob content) →
      inputBytes (Host.still target fs) col row = .ok (some content) ∧
      inputBytes (Host.still target fs) col' row' = .ok (some content)) ∧
    constInputBytes (Host.still target fs) none (some path) =
      constInputBytes (Host.still target fs) (some content) none ∧
    (∀ crates name arguments arguments' batch batch' col col' rest rest' args args',
      batch.columns = col :: rest → batch'.columns = col' :: rest' →
      supportedArgs col = some args → supportedArgs col' = some args' →
      List.Forall₂ (Means fs) args args' →
      ∃ counts valids,
        Delivers (countRun crates (Host.still target fs) name arguments batch) (.int64 counts) ∧
        Delivers (countRun crates (Host.still target fs) name arguments' batch') (.int64 counts) ∧
        Delivers (validRun crates (Host.still target fs) name arguments batch) (.boolean valids) ∧
        Delivers (validRun crates (Host.still target fs) name arguments' batch')
          (.boolean valids)) ∧
    ∀ crates params params', params.outputSchema = params'.outputSchema →
      Carries params.arguments (.varchar path) → Carries params'.arguments (.blob content) →
      producer crates (Host.still target fs) params =
        producer crates (Host.still target fs) params' := by
  have hread : readPath (Host.still target fs) path = some content :=
    readPath_names htrim hnames hsize
  refine ⟨?_, ?_, ?_, ?_⟩
  · intro col col' args args' row row' hargs harg hargs' harg'
    refine ⟨?_, inputBytes_supported _ hargs' harg'⟩
    rw [inputBytes_supported _ hargs harg, SqlArg.resolve, hread]
  · rw [constInputBytes_str, constInputBytes_bytes, hread]
  · intro crates name arguments arguments' batch batch' col col' rest rest' args args' hcol hcol'
      hargs hargs' hmeans
    exact scalars_means crates hcol hcol' hargs hargs' hmeans
  · intro crates params params' hschema hcarries hcarries'
    exact producer_means crates hschema hcarries hcarries' (.file htrim hnames hsize)

def onlyName (name : String) : FileSystem := fun path =>
  if path = name then some (.regular elfFileMagic (by decide) true) else none

theorem names_onlyName (name : String) : Names (onlyName name) name elfFileMagic :=
  ⟨by decide, if_pos rfl⟩

theorem trimmed_path_means_file_spaced :
    constInputBytes (Host.still .native64 (onlyName "a")) none (some " a") =
      constInputBytes (Host.still .native64 (onlyName "a")) (some elfFileMagic) none := by
  have htrim : trim " a" = "a" := by decide
  have hnames : Names (onlyName "a") (trim " a") elfFileMagic := by
    rw [htrim]
    exact names_onlyName "a"
  exact (trimmed_path_means_file (by simp [htrim]) hnames (by decide)).2.1

theorem spaced_name_unread :
    Names (onlyName " a") " a" elfFileMagic ∧ elfFileMagic.length ≤ maxInputBytes ∧
    inputBytes (Host.still .native64 (onlyName " a")) (.utf8 [some " a"]) 0 = .ok none ∧
    inputBytes (Host.still .native64 (onlyName " a")) (.binary [some elfFileMagic]) 0 =
      .ok (some elfFileMagic) ∧
    constInputBytes (Host.still .native64 (onlyName " a")) none (some " a") = none ∧
    constInputBytes (Host.still .native64 (onlyName " a")) (some elfFileMagic) none =
      some elfFileMagic := by
  have htrim : trim " a" = "a" := by decide
  have hread : readPath (Host.still .native64 (onlyName " a")) " a" = none := by
    rw [readPath_still_none]
    rintro content ⟨-, ⟨fits, hnode⟩, -⟩
    simp [htrim, onlyName] at hnode
  have hcell : inputBytes (Host.still .native64 (onlyName " a")) (.utf8 [some " a"]) 0 =
      .ok ((SqlArg.varchar " a").resolve (Host.still .native64 (onlyName " a"))) :=
    inputBytes_supported _ rfl rfl
  refine ⟨names_onlyName " a", by decide, ?_, rfl, ?_, rfl⟩
  · rw [hcell, SqlArg.resolve, hread]
  · rw [constInputBytes_str, hread]

end EvtxWorker.Sql
