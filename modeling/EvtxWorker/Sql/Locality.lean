import EvtxWorker.Input.Locality
import EvtxWorker.Scalar.Live
import EvtxWorker.Table.EvtxRecords

namespace EvtxWorker.Sql
open Unwinding Unwind Arrow Sdk Parse Input Scalar Table Json

def CellwiseAlike (hosts hosts' : Nat → Host) (args args' : List SqlArg) : Prop :=
  args.length = args'.length ∧ ∀ (row : Nat) (arg arg' : SqlArg), args[row]? = some arg →
    args'[row]? = some arg' → Alike (hosts row) (hosts' row) arg arg'

theorem liveCells_alike {β : Type} (value : Bytes → β) {hosts hosts' : Nat → Host}
    {args args' : List SqlArg} (h : CellwiseAlike hosts hosts' args args') :
    liveCells hosts value args = liveCells hosts' value args' := by
  obtain ⟨hlen, hcells⟩ := h
  apply List.ext_getElem?
  intro row
  rw [liveCells, liveCells, List.getElem?_mapIdx, List.getElem?_mapIdx]
  by_cases hrow : row < args.length
  · have harg := List.getElem?_eq_getElem hrow
    have harg' := List.getElem?_eq_getElem (hlen ▸ hrow)
    rw [harg, harg', Option.map_some, Option.map_some, inspectArg, inspectArg,
      resolve_alike (hcells row _ _ harg harg')]
  · rw [List.getElem?_eq_none (Nat.le_of_not_lt hrow),
      List.getElem?_eq_none (hlen ▸ Nat.le_of_not_lt hrow)]
    simp only [Option.map_none]

section Runs
variable (crates : Crates) {hosts hosts' : Nat → Host} {host host' : Host} {name : String}
  {arguments arguments' : Arguments} {batch batch' : RecordBatch} {col col' : ArrowArray}
  {rest rest' : List ArrowArray} {args args' : List SqlArg}

theorem scalars_alike (hcol : batch.columns = col :: rest) (hcol' : batch'.columns = col' :: rest')
    (hargs : supportedArgs col = some args) (hargs' : supportedArgs col' = some args')
    (halike : CellwiseAlike hosts hosts' args args') :
    ∃ counts valids,
      Delivers (countLive crates hosts name arguments batch) (.int64 counts) ∧
      Delivers (countLive crates hosts' name arguments' batch') (.int64 counts) ∧
      Delivers (validLive crates hosts name arguments batch) (.boolean valids) ∧
      Delivers (validLive crates hosts' name arguments' batch') (.boolean valids) := by
  choose count hcount _ using recordCount_bounded crates
  choose valid hvalid _ using isValid_cases crates
  refine ⟨_, _, inspectLive_delivers int64_dataType hcount hcol hargs, ?_,
    inspectLive_delivers boolean_dataType hvalid hcol hargs, ?_⟩
  · rw [liveCells_alike count halike]
    exact inspectLive_delivers int64_dataType hcount hcol' hargs'
  · rw [liveCells_alike valid halike]
    exact inspectLive_delivers boolean_dataType hvalid hcol' hargs'

theorem producer_alike {params params' : ProcessParams} {arg arg' : SqlArg}
    (hschema : params.outputSchema = params'.outputSchema) (h : Carries params.arguments arg)
    (h' : Carries params'.arguments arg') (halike : Alike host host' arg arg') :
    producer crates host params = producer crates host' params' := by
  rw [producer, producer, constInputBytes_carries _ h, constInputBytes_carries _ h',
    resolve_alike halike, hschema]

end Runs

theorem named_files_decide (crates : Crates) :
    (∀ hosts hosts' name arguments arguments' batch batch' col col' rest rest' args args',
      batch.columns = col :: rest → batch'.columns = col' :: rest' →
      supportedArgs col = some args → supportedArgs col' = some args' →
      CellwiseAlike hosts hosts' args args' →
      ∃ counts valids,
        Delivers (countLive crates hosts name arguments batch) (.int64 counts) ∧
        Delivers (countLive crates hosts' name arguments' batch') (.int64 counts) ∧
        Delivers (validLive crates hosts name arguments batch) (.boolean valids) ∧
        Delivers (validLive crates hosts' name arguments' batch') (.boolean valids)) ∧
    (∀ hosts hosts' name arguments batch col rest, batch.columns = col :: rest →
      supportedArgs col = none →
      countLive crates hosts name arguments batch = countLive crates hosts' name arguments batch ∧
      validLive crates hosts name arguments batch = validLive crates hosts' name arguments batch) ∧
    (∀ host host' params params' arg arg', params.outputSchema = params'.outputSchema →
      Carries params.arguments arg → Carries params'.arguments arg' → Alike host host' arg arg' →
      producer crates host params = producer crates host' params') ∧
    ∀ host before after path, (∀ c ∈ String.toList before, isWhitespace c) →
      (∀ c ∈ String.toList after, isWhitespace c) →
      Alike host host (.varchar path) (.varchar (before ++ path ++ after)) := by
  refine ⟨?_, ?_, ?_, ?_⟩
  · intro hosts hosts' name arguments arguments' batch batch' col col' rest rest' args args' hcol
      hcol' hargs hargs' halike
    exact scalars_alike crates hcol hcol' hargs hargs' halike
  · intro hosts hosts' name arguments batch col rest hcol hargs
    exact ⟨inspectLive_hostless hcol hargs, inspectLive_hostless hcol hargs⟩
  · intro host host' params params' arg arg' hschema h h' halike
    exact producer_alike crates hschema h h' halike
  · intro host before after path hbefore hafter
    exact .varchar (seesAlike_padded host hbefore hafter)

end EvtxWorker.Sql
