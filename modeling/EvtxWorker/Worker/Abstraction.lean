import EvtxWorker.Parse.Pulled
import EvtxWorker.Worker.Service

namespace EvtxWorker.Worker
open Unwinding Unwind Arrow Sdk Parse Input Scalar Table RecordsProducer

def fitted (rows : List EvtxRow) : Option (List EvtxRow) :=
  if TextFits rows then some rows else none

def shown (p : RecordsProducer) : Schema × Option (Option (List EvtxRow)) :=
  (p.schema, if p.done then none else some (fitted p.rows))

structure SameAnswers (crates crates' : Crates) (bytes : Bytes) : Prop where
  counts : recordCount crates bytes = recordCount crates' bytes
  valids : isValid crates bytes = isValid crates' bytes
  tables : fitted <$> parseRecords crates bytes = fitted <$> parseRecords crates' bytes

section Producers
variable {p q : RecordsProducer}

theorem fitted_cases {rows rows' : List EvtxRow} (h : fitted rows = fitted rows') :
    rows = rows' ∨ ¬ TextFits rows ∧ ¬ TextFits rows' := by
  rw [fitted, fitted] at h
  split at h <;> split at h
  · exact .inl (Option.some_inj.mp h)
  · cases h
  · cases h
  · exact .inr ⟨‹_›, ‹_›⟩

theorem shown_done (h : p.done = true) : shown p = (p.schema, none) := by rw [shown, if_pos h]

theorem shown_fresh (h : p.done = false) : shown p = (p.schema, some (fitted p.rows)) := by
  rw [shown, h, if_neg Bool.false_ne_true]

theorem nextBatch_done_after (p : RecordsProducer) : p.nextBatch.2.done = true := by
  cases h : p.done with
  | true => rwa [nextBatch_done h]
  | false => rw [nextBatch_fresh h]

theorem shown_next (h : shown p = shown q) : shown p.nextBatch.2 = shown q.nextBatch.2 := by
  rw [shown_done (nextBatch_done_after p), shown_done (nextBatch_done_after q), schema_next,
    schema_next]
  exact congrArg (fun view => (view.1, none)) h

theorem nextBatch_sealed (h : shown p = shown q) : p.nextBatch.1 = q.nextBatch.1 := by
  cases hp : p.done with
  | true =>
    cases hq : q.done with
    | true => rw [nextBatch_done hp, nextBatch_done hq]
    | false =>
      rw [shown_done hp, shown_fresh hq] at h
      cases congrArg Prod.snd h
  | false =>
    cases hq : q.done with
    | true =>
      rw [shown_fresh hp, shown_done hq] at h
      cases congrArg Prod.snd h
    | false =>
      rw [shown_fresh hp, shown_fresh hq, Prod.mk.injEq, Option.some_inj] at h
      obtain ⟨hschema, htable⟩ := h
      rcases fitted_cases htable with hrows | ⟨hunfit, hunfit'⟩
      · obtain ⟨schema, rows, done⟩ := p
        obtain ⟨schema', rows', done'⟩ := q
        cases hschema
        cases hrows
        cases hp
        cases hq
        rfl
      · rw [(nextBatch_panics_iff hp).mpr hunfit, (nextBatch_panics_iff hq).mpr hunfit']

end Producers

section Sufficient
variable {crates crates' : Crates} {pool pool' : List RecordsProducer}

theorem scalars_same (h : ∀ bytes, SameAnswers crates crates' bytes) :
    EvtxRecordCount.processLive crates = EvtxRecordCount.processLive crates' ∧
      IsValidEvtx.processLive crates = IsValidEvtx.processLive crates' := by
  have hcount : recordCount crates = recordCount crates' := funext fun bytes => (h bytes).counts
  have hvalid : isValid crates = isValid crates' := funext fun bytes => (h bytes).valids
  constructor
  · funext hosts
    rw [EvtxRecordCount.processLive, EvtxRecordCount.processLive, hcount]
  · funext hosts
    rw [IsValidEvtx.processLive, IsValidEvtx.processLive, hvalid]

theorem fitted_loads (h : ∀ bytes, SameAnswers crates crates' bytes) {bytes : Option Bytes}
    {rows rows' : List EvtxRow} (hrows : Loads crates bytes rows)
    (hrows' : Loads crates' bytes rows') : fitted rows = fitted rows' := by
  cases bytes with
  | none => rw [show rows = [] from hrows, show rows' = [] from hrows']
  | some content =>
    have htables := (h content).tables
    rw [show parseRecords crates content = .ret rows from hrows,
      show parseRecords crates' content = .ret rows' from hrows', map_ret, map_ret] at htables
    exact Unwind.ret.inj htables

theorem serve_same (h : ∀ bytes, SameAnswers crates crates' bytes)
    (hpool : pool.map shown = pool'.map shown) (r : Request) :
    (serve crates pool r).1 = (serve crates' pool' r).1 ∧
      (serve crates pool r).2.map shown = (serve crates' pool' r).2.map shown := by
  obtain ⟨hcount, hvalid⟩ := scalars_same h
  cases r with
  | recordCount hosts params batch =>
    simp only [serve, hcount]
    exact ⟨trivial, hpool⟩
  | isValid hosts params batch =>
    simp only [serve, hvalid]
    exact ⟨trivial, hpool⟩
  | records host params =>
    obtain ⟨rows, hrows, hp⟩ := producer_opens crates host params
    obtain ⟨rows', hrows', hp'⟩ := producer_opens crates' host params
    have hlen : pool.length = pool'.length := by
      simpa using congrArg List.length hpool
    have htable := fitted_loads h hrows hrows'
    rw [serve_records hp, serve_records hp', hlen, List.map_append, List.map_append, hpool]
    refine ⟨rfl, ?_⟩
    simp only [List.map_cons, List.map_nil, shown, htable]
  | nextBatch handle =>
    have hslot : pool[handle]?.map shown = pool'[handle]?.map shown := by
      rw [← List.getElem?_map, hpool, List.getElem?_map]
    cases hp : pool[handle]? with
    | none =>
      rw [hp, Option.map_none] at hslot
      have hp' := Option.map_eq_none_iff.mp hslot.symm
      simp only [serve, hp, hp']
      exact ⟨trivial, hpool⟩
    | some p =>
      rw [hp, Option.map_some] at hslot
      obtain ⟨q, hq, hshown⟩ := Option.map_eq_some_iff.mp hslot.symm
      simp only [serve, hp, hq, List.map_set, nextBatch_sealed hshown, shown_next hshown, hpool,
        and_self]

theorem answers_same (h : ∀ bytes, SameAnswers crates crates' bytes) (rs : List Request) :
    answers crates [] rs = answers crates' [] rs := by
  have hstart : ([] : List RecordsProducer).map shown = ([] : List RecordsProducer).map shown := rfl
  have hall : ∀ r ∈ rs, True := fun _ _ => trivial
  have hrun := outputs_simulated id
    (fun pool pool' : List RecordsProducer => pool.map shown = pool'.map shown) (fun _ => True)
    (fun _ _ r hpool _ => serve_same h hpool r) hstart hall
  rwa [List.map_id] at hrun

end Sufficient

def probe (bytes : Bytes) : List Request :=
  [.recordCount (fun _ => Host.still .native64 fun _ => none)
      ⟨(EvtxRecordCount.onBind "result").outputSchema, SqlArg.null.bound⟩
      (columnBatch (.binary [some bytes])),
    .isValid (fun _ => Host.still .native64 fun _ => none)
      ⟨(IsValidEvtx.onBind "result").outputSchema, SqlArg.null.bound⟩
      (columnBatch (.binary [some bytes])),
    .records (Host.still .native64 fun _ => none)
      ⟨onBind.outputSchema, (SqlArg.blob bytes).bound⟩,
    .nextBatch 0]

section Necessary
variable {crates crates' : Crates}

theorem probe_bound (bytes : Bytes) : ∀ r ∈ probe bytes, r.Bound := by
  have hsupported : Supported (columnBatch (.binary [some bytes])) :=
    ⟨.binary [some bytes], [], [.blob bytes], rfl, rfl⟩
  simp only [probe, List.forall_mem_cons]
  exact ⟨⟨⟨_, rfl⟩, hsupported⟩, ⟨⟨_, rfl⟩, hsupported⟩, rfl, trivial, List.forall_mem_nil _⟩

theorem probe_observed (crates : Crates) (bytes : Bytes) :
    (answers crates [] (probe bytes)).map observe =
      [.counts [some (countOf crates bytes : Int)], .valids [some (readable crates bytes)],
        .opened 0,
        if TextFits (tableOf crates bytes) then .rows (tableOf crates bytes) else .crashed] := by
  rw [answers_refine serves_nil (probe_bound bytes)]
  rfl

theorem fitted_of_observed {rows rows' : List EvtxRow}
    (h : (if TextFits rows then Observation.rows rows else .crashed) =
      if TextFits rows' then .rows rows' else .crashed) : fitted rows = fitted rows' := by
  by_cases hfits : TextFits rows <;> by_cases hfits' : TextFits rows'
  · rw [if_pos hfits, if_pos hfits'] at h
    rw [Observation.rows.inj h]
  · rw [if_pos hfits, if_neg hfits'] at h
    cases h
  · rw [if_neg hfits, if_pos hfits'] at h
    cases h
  · rw [fitted, fitted, if_neg hfits, if_neg hfits']

theorem same_of_answers (h : ∀ rs, answers crates [] rs = answers crates' [] rs)
    (bytes : Bytes) : SameAnswers crates crates' bytes := by
  have hprobe := congrArg (List.map observe) (h (probe bytes))
  rw [probe_observed, probe_observed] at hprobe
  simp only [List.cons.injEq, Observation.counts.injEq, Observation.valids.injEq, Option.some_inj,
    Int.natCast_inj, and_true, true_and] at hprobe
  obtain ⟨hcount, hvalid, htable⟩ := hprobe
  constructor
  · obtain ⟨n, hn, hvalue⟩ := recordCount_log crates bytes
    obtain ⟨n', hn', hvalue'⟩ := recordCount_log crates' bytes
    have hsame : n = n' := Int64.toInt_inj.mp (by rw [hvalue, hvalue', hcount])
    rw [hn, hn', hsame]
  · rw [isValid_log, isValid_log, hvalid]
  · rw [parseRecords_log, parseRecords_log, map_ret, map_ret, fitted_of_observed htable]

end Necessary

theorem indistinguishable_iff (crates crates' : Crates) :
    (∀ rs, answers crates [] rs = answers crates' [] rs) ↔
      ∀ bytes, SameAnswers crates crates' bytes :=
  ⟨same_of_answers, answers_same⟩

theorem runs_see_pulled {crates crates' : Crates} (hstr : crates'.fromStr = crates.fromStr)
    (h : ∀ bytes, pulledOf crates' bytes = pulledOf crates bytes) (rs : List Request) :
    answers crates' [] rs = answers crates [] rs := by
  apply answers_same
  intro bytes
  obtain ⟨hrows, hcount, hvalid⟩ := entry_points_pulled hstr (h bytes)
  exact ⟨hcount, hvalid, congrArg (fitted <$> ·) hrows⟩

def stopping (unseen : List (Pull SerializedRecord)) : Crates where
  fromBuffer _ := .ret (some ⟨[.ok auditRecord, .err, .panic] ++ unseen⟩)
  fromStr := mixedCrates.fromStr

theorem runs_see_pulled_interleaved :
    answers (stopping [.ok emptyRecord, .panic]) [] interleavedRun =
      answers (stopping []) [] interleavedRun := by
  have hstr : (stopping [.ok emptyRecord, .panic]).fromStr = (stopping []).fromStr := rfl
  refine runs_see_pulled hstr ?_ interleavedRun
  intro bytes
  rw [pulledOf, pulledOf, logOf, logOf]
  split
  · rfl
  · rfl

end EvtxWorker.Worker
