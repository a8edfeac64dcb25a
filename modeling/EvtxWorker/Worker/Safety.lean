import EvtxWorker.Worker.Session

namespace EvtxWorker.Worker
open Unwinding Unwind Arrow Sdk Parse Input Scalar Table RecordsProducer

def Request.HasColumn : Request → Prop
  | recordCount _ _ batch => batch.columns ≠ []
  | isValid _ _ batch => batch.columns ≠ []
  | records _ _ => True
  | nextBatch _ => True

section Scalars
variable {β : Type} {hosts : Nat → Host} {measure : Bytes → Unwind β} {value : Bytes → β}
  {finish : List (Option β) → ArrowArray} {params : ProcessParams} {batch : RecordBatch}

theorem tryNew_ne_panic (schema : Schema) (columns : List ArrowArray) :
    (Call.tryNew schema columns).run ≠ .panic := nofun

theorem inspectLive_panics_iff (hvalue : ∀ bytes, measure bytes = .ret (value bytes)) :
    inspectLive hosts measure finish params batch = .panic ↔ batch.columns = [] := by
  constructor
  · intro hpanic
    cases hcol : batch.columns with
    | nil => rfl
    | cons col rest =>
      exfalso
      cases hargs : supportedArgs col with
      | some args =>
        rw [inspectLive_supported hvalue hcol hargs] at hpanic
        exact tryNew_ne_panic _ _ hpanic
      | none =>
        rw [inspectLive_unsupported (hosts 0) hcol hargs] at hpanic
        by_cases hvalid : ∃ row < batch.numRows, col.isNull row = false
        · rw [inspect_unsupported hcol hargs hvalid] at hpanic
          cases hpanic
        · rw [inspect_all_null hcol (by simpa using hvalid)] at hpanic
          exact tryNew_ne_panic _ _ hpanic
  · exact inspectLive_empty

end Scalars

variable {crates : Crates} {pool : List RecordsProducer} {rs : List Request}

theorem serve_panics_iff (r : Request) :
    (serve crates pool r).1.Panics ↔
      ¬ r.HasColumn ∨ ∃ i, (i, .panic) ∈ (outcome nextBatch pool (eventOf crates r)).toList := by
  choose count hcount _ using recordCount_bounded crates
  choose valid hvalid _ using isValid_cases crates
  cases r with
  | recordCount hosts params batch =>
    rw [serve, Answer.Panics, EvtxRecordCount.processLive, inspectLive_panics_iff hcount]
    simp [Request.HasColumn, eventOf, outcome]
  | isValid hosts params batch =>
    rw [serve, Answer.Panics, IsValidEvtx.processLive, inspectLive_panics_iff hvalid]
    simp [Request.HasColumn, eventOf, outcome]
  | records host params =>
    obtain ⟨rows, -, hp⟩ := producer_opens crates host params
    rw [serve_records hp, eventOf_records hp]
    simp [Answer.Panics, Request.HasColumn, outcome]
  | nextBatch handle =>
    rw [serve, eventOf, outcome]
    cases hp : pool[handle]? with
    | none => simp [Answer.Panics, Request.HasColumn]
    | some p => simp [Answer.Panics, Request.HasColumn, eq_comm]

theorem answers_panic_iff (pool : List RecordsProducer) (rs : List Request) :
    (∃ a ∈ answers crates pool rs, a.Panics) ↔
      (∃ r ∈ rs, ¬ r.HasColumn) ∨
        ∃ i, (i, .panic) ∈ outcomes nextBatch pool (rs.map (eventOf crates)) := by
  rw [answers]
  induction rs generalizing pool with
  | nil => simp [outcomes]
  | cons r rs ih =>
    simp only [outputs_cons, List.mem_cons, exists_eq_or_imp, serve_panics_iff, ih, serve_pool,
      List.map_cons, outcomes, List.mem_append, exists_or]
    exact or_or_or_comm

theorem enter_mem_events {p : RecordsProducer} (h : .enter p ∈ rs.map (eventOf crates)) :
    ∃ host params, .records host params ∈ rs ∧ producer crates host params = .ret (.ok p) := by
  obtain ⟨r, hr, hevent⟩ := List.mem_map.mp h
  cases r with
  | recordCount hosts params batch | isValid hosts params batch | nextBatch handle => cases hevent
  | records host params =>
    obtain ⟨rows, -, hp⟩ := producer_opens crates host params
    rw [eventOf_records hp] at hevent
    cases hevent
    exact ⟨host, params, hr, hp⟩

theorem producer_fresh {host : Host} {params : ProcessParams} {p : RecordsProducer}
    (h : producer crates host params = .ret (.ok p)) : p.done = false := by
  obtain ⟨rows, -, hp⟩ := producer_opens crates host params
  rw [hp] at h
  cases h
  rfl

theorem events_enter_split {before after : List (Event RecordsProducer)} {p : RecordsProducer}
    (h : rs.map (eventOf crates) = before ++ .enter p :: after) :
    ∃ before' host params after', rs = before' ++ .records host params :: after' ∧
      before'.map (eventOf crates) = before ∧ after'.map (eventOf crates) = after ∧
      producer crates host params = .ret (.ok p) := by
  obtain ⟨before', rest, rfl, hbefore, hrest⟩ := List.map_eq_append_iff.mp h
  obtain ⟨r, after', rfl, hevent, hafter⟩ := List.map_eq_cons_iff.mp hrest
  have hmem : .enter p ∈ [r].map (eventOf crates) := by simp [hevent]
  obtain ⟨host, params, hr, hp⟩ := enter_mem_events hmem
  obtain rfl := List.mem_singleton.mp hr
  exact ⟨before', host, params, after', rfl, hbefore, hafter, hp⟩

theorem asked_pos_iff {handle : Nat} : 0 < asked handle rs ↔ .nextBatch handle ∈ rs := by
  rw [asked, List.countP_pos_iff]
  constructor
  · rintro ⟨r, hr, hasks⟩
    cases r with
    | nextBatch h =>
      obtain rfl : h = handle := by simpa [Request.asks] using hasks
      exact hr
    | recordCount hosts params batch | isValid hosts params batch | records host params =>
      cases hasks
  · intro h
    exact ⟨_, h, by simp [Request.asks]⟩

theorem events_once {p : RecordsProducer} (hp : .enter p ∈ rs.map (eventOf crates)) :
    nextBatch p.nextBatch.2 = (.ret (.ok none), p.nextBatch.2) := by
  obtain ⟨host, params, -, hproducer⟩ := enter_mem_events hp
  exact nextBatch_second (producer_fresh hproducer)

theorem outcome_origin {handle : Nat} {out : Unwind (Except RpcError (Option RecordBatch))}
    (hout : out ≠ .ret (.ok none)) :
    (handle, out) ∈ outcomes nextBatch [] (rs.map (eventOf crates)) ↔
      ∃ before host params after p, rs = before ++ .records host params :: after ∧
        openings before = handle ∧ .nextBatch handle ∈ after ∧
        producer crates host params = .ret (.ok p) ∧ p.nextBatch.1 = out := by
  rw [mem_outcomes_once (fun p => events_once) hout]
  constructor
  · rintro ⟨before, p, after, hsplit, hhandle, hasked, hp⟩
    obtain ⟨before', host, params, after', rfl, rfl, rfl, hproducer⟩ := events_enter_split hsplit
    rw [entered_events] at hhandle
    rw [polled_events, asked_pos_iff] at hasked
    exact ⟨before', host, params, after', p, rfl, hhandle, hasked, hproducer, hp⟩
  · rintro ⟨before, host, params, after, p, rfl, hhandle, hasked, hproducer, hp⟩
    refine ⟨_, _, _, events_split hproducer before after, ?_, ?_, hp⟩
    · rw [entered_events, hhandle]
    · rw [polled_events, asked_pos_iff]
      exact hasked

theorem run_calm_iff (crates : Crates) (rs : List Request) :
    (∀ a ∈ answers crates [] rs, ¬ a.Panics) ↔
      (∀ r ∈ rs, r.HasColumn) ∧
      ∀ before host params after rows, rs = before ++ .records host params :: after →
        .nextBatch (openings before) ∈ after →
        Loads crates
          (constInputBytes host (params.arguments.constBytes 0) (params.arguments.constStr 0))
          rows → TextFits rows := by
  have hpanic : (.panic : Unwind (Except RpcError (Option RecordBatch))) ≠ .ret (.ok none) := nofun
  have hpanics := @answers_panic_iff crates [] rs
  simp only [outcome_origin hpanic] at hpanics
  constructor
  · intro hcalm
    have hnone : ¬ ∃ a ∈ answers crates [] rs, a.Panics := by simpa using hcalm
    rw [hpanics, not_or] at hnone
    refine ⟨by simpa using hnone.1, ?_⟩
    intro before host params after rows hsplit hasked hrows
    by_contra hfits
    exact hnone.2 ⟨_, before, host, params, after, _, hsplit, rfl, hasked, producer_loads hrows,
      (nextBatch_panics_iff rfl).mpr hfits⟩
  · rintro ⟨hcolumns, hfits⟩ a ha hbad
    rcases hpanics.mp ⟨a, ha, hbad⟩ with ⟨r, hr, hmissing⟩ |
      ⟨_, before, host, params, after, p, hsplit, rfl, hasked, hproducer, hp⟩
    · exact hmissing (hcolumns r hr)
    · obtain ⟨rows, hrows, hopened⟩ := producer_opens crates host params
      rw [hopened] at hproducer
      cases hproducer
      have hroom := hfits before host params after rows hsplit hasked hrows
      exact (nextBatch_panics_iff rfl).mp hp hroom

end EvtxWorker.Worker
