import EvtxWorker.Scalar.Live
import EvtxWorker.Table.Outcomes

namespace EvtxWorker.Sql
open Unwinding Unwind Arrow Sdk Parse Input Scalar Table

structure Coherent (valid : Option Bool) (count : Option Int64) : Prop where
  null : valid = none ↔ count = none
  invalid : valid = some false → count = some 0
  counted : ∀ n, count = some n → 0 ≤ n.toInt ∧ n.toInt ≤ maxRecords ∧ (0 < n → valid = some true)

section Bytes
variable {crates : Crates} {count : Bytes → Int64} {valid : Bytes → Bool}
  (hcount : ∀ bytes, recordCount crates bytes = .ret (count bytes))
include hcount

theorem count_within (bytes : Bytes) :
    0 ≤ (count bytes).toInt ∧ (count bytes).toInt ≤ maxRecords := by
  rcases recordCount_cases crates bytes with ⟨parser, n, -, hrun, hn⟩ | hrun
  · rw [ret_unique (hcount bytes) hrun, hn]
    exact ⟨Int.natCast_nonneg _, Int.ofNat_le.mpr (Nat.min_le_left _ _)⟩
  · rw [ret_unique (hcount bytes) hrun]
    decide

variable (hvalid : ∀ bytes, isValid crates bytes = .ret (valid bytes))
include hvalid

theorem invalid_empty {bytes : Bytes} (h : valid bytes = false) :
    count bytes = 0 ∧ parseRecords crates bytes = .ret [] := by
  obtain ⟨v, hv, hopens⟩ := isValid_cases crates bytes
  obtain rfl := ret_unique (hvalid bytes) hv
  have hno : ∀ parser, ¬ Opens crates bytes parser := by
    intro parser ho
    rw [hopens.mpr ⟨parser, ho⟩] at h
    cases h
  exact ⟨ret_unique (hcount bytes) (recordCount_unopened hno), parseRecords_unopened hno⟩

theorem coherent_bytes (bytes : Option Bytes) : Coherent (bytes.map valid) (bytes.map count) := by
  cases bytes with
  | none => exact ⟨iff_of_true rfl rfl, nofun, nofun⟩
  | some content =>
    refine ⟨iff_of_false nofun nofun, ?_, ?_⟩
    · intro hinvalid
      exact congrArg some (invalid_empty hcount hvalid (Option.some_inj.mp hinvalid)).1
    · rintro n hn
      obtain rfl := Option.some_inj.mp hn
      obtain ⟨hlow, hhigh⟩ := count_within hcount content
      refine ⟨hlow, hhigh, fun hpos => ?_⟩
      cases hv : valid content with
      | true => rw [Option.map_some, hv]
      | false =>
        rw [(invalid_empty hcount hvalid hv).1] at hpos
        exact absurd hpos (by decide)

theorem rows_of_invalid {bytes : Option Bytes} {rows : List EvtxRow} (h : Loads crates bytes rows)
    (hinvalid : bytes.map valid = none ∨ bytes.map valid = some false) : rows = [] := by
  cases bytes with
  | none => exact h
  | some content =>
    rcases hinvalid with hnone | hfalse
    · cases hnone
    · exact ret_unique h (invalid_empty hcount hvalid (Option.some_inj.mp hfalse)).2

end Bytes

theorem liveCells_at {β : Type} {hosts : Nat → Host} {value : Bytes → β} {args : List SqlArg}
    {arg : SqlArg} {row : Nat} (harg : args[row]? = some arg) :
    (liveCells hosts value args)[row]? = some ((arg.resolve (hosts row)).map value) := by
  simp [liveCells, harg, inspectArg]

theorem callAt_rows {p : RecordsProducer} {i : Nat} {out : RecordBatch} (h : p.done = false)
    (hout : callAt RecordsProducer.nextBatch i p = .ret (.ok (some out))) :
    out.numRows = p.rows.length := by
  cases i with
  | zero => exact (nextBatch_contents h hout).2.1
  | succ i =>
    rw [callAt_later h] at hout
    cases hout

theorem answers_coherent {crates : Crates} {hosts hosts' : Nat → Host} {host : Host}
    {name name' : String} {arguments arguments' : Arguments} {params : ProcessParams}
    {batch batch' : RecordBatch} {col col' : ArrowArray} {rest rest' : List ArrowArray}
    {args args' : List SqlArg} {row row' : Nat} {arg arg' arg'' : SqlArg} {bytes : Option Bytes}
    (hcol : batch.columns = col :: rest) (hargs : supportedArgs col = some args)
    (harg : args[row]? = some arg) (hbytes : arg.resolve (hosts row) = bytes)
    (hcol' : batch'.columns = col' :: rest') (hargs' : supportedArgs col' = some args')
    (harg' : args'[row']? = some arg') (hbytes' : arg'.resolve (hosts' row') = bytes)
    (hcarries : Carries params.arguments arg'') (hbytes'' : arg''.resolve host = bytes) :
    ∃ valids counts valid count,
      Delivers (validLive crates hosts name arguments batch) (.boolean valids) ∧
      Delivers (countLive crates hosts' name' arguments' batch') (.int64 counts) ∧
      valids[row]? = some valid ∧ counts[row']? = some count ∧
      Coherent valid count ∧
      ∃ p, producer crates host params = .ret (.ok p) ∧
        ∀ i out, callAt RecordsProducer.nextBatch i p = .ret (.ok (some out)) →
          valid = none ∨ valid = some false → out.numRows = 0 := by
  choose count hcount _ using recordCount_bounded crates
  choose valid hvalid _ using isValid_cases crates
  obtain ⟨rows, hrows⟩ := loads_exists crates bytes
  have hresolve : constInputBytes host (params.arguments.constBytes 0)
      (params.arguments.constStr 0) = bytes := by
    rw [constInputBytes_carries host hcarries, hbytes'']
  refine ⟨_, _, bytes.map valid, bytes.map count,
    inspectLive_delivers boolean_dataType hvalid hcol hargs,
    inspectLive_delivers int64_dataType hcount hcol' hargs', ?_, ?_,
    coherent_bytes hcount hvalid bytes, _, producer_loads (hresolve ▸ hrows), ?_⟩
  · rw [liveCells_at harg, hbytes]
  · rw [liveCells_at harg', hbytes']
  · intro i out hout hinvalid
    rw [callAt_rows rfl hout, rows_of_invalid hcount hvalid hrows hinvalid, List.length_nil]

theorem answers_coherent_mixed :
    ∃ valids counts, ∃ (valid : Option Bool) (count : Option Int64),
      Delivers (validLive mixedCrates (fun _ => Host.still .native64 fun _ => none) "valid"
        SqlArg.null.bound (columnBatch (.binary [some elfFileMagic]))) (.boolean valids) ∧
      Delivers (countLive mixedCrates (fun _ => Host.still .wasm32 fun _ => none) "count"
        SqlArg.null.bound (columnBatch (.largeBinary [none, some elfFileMagic]))) (.int64 counts) ∧
      valids[0]? = some valid ∧ counts[1]? = some count ∧ Coherent valid count ∧
      ∃ p, producer mixedCrates (Host.still .native64 fun _ => none)
          ⟨onBind.outputSchema, (SqlArg.blob elfFileMagic).bound⟩ = .ret (.ok p) ∧
        ∀ i out, callAt RecordsProducer.nextBatch i p = .ret (.ok (some out)) →
          valid = none ∨ valid = some false → out.numRows = 0 := by
  have hargs : supportedArgs (.binary [some elfFileMagic]) = some [.blob elfFileMagic] := rfl
  have hargs' : supportedArgs (.largeBinary [none, some elfFileMagic]) =
      some [.null, .blob elfFileMagic] := rfl
  exact answers_coherent rfl hargs rfl rfl rfl hargs' rfl rfl (carries_bound _) rfl

end EvtxWorker.Sql
