import EvtxWorker.Table.Outcomes
import EvtxWorker.Worker.Safety

namespace EvtxWorker.Worker
open Unwinding Unwind Arrow Sdk Parse Input Scalar Table RecordsProducer

def heardAt (handle : Nat) (as : List Answer) :
    List (Unwind (Except RpcError (Option RecordBatch))) :=
  heard handle (as.filterMap Answer.outcome)

variable {crates : Crates} {before after : List Request} {host : Host} {params : ProcessParams}
  {rows : List EvtxRow} {p : RecordsProducer}

theorem heardAt_opened (hp : producer crates host params = .ret (.ok p)) (before after) :
    heardAt (openings before) (answers crates [] (before ++ .records host params :: after)) =
      calls nextBatch (asked (openings before) after) p := by
  have hslot : ([] : List RecordsProducer).length + entered (before.map (eventOf crates)) =
      openings before := by rw [entered_events, List.length_nil, Nat.zero_add]
  rw [heardAt, answers_outcomes, events_split hp, heard_entered hslot, polled_events]

theorem answer_opened (hp : producer crates host params = .ret (.ok p)) (before after) :
    (answers crates [] (before ++ .records host params :: after))[before.length]? =
      some (.opened (.ret (.ok (openings before)))) := by
  have hlen := outputs_length (serve crates) [] before
  rw [answers, outputs_append, List.getElem?_append_right (Nat.le_of_eq hlen), hlen, Nat.sub_self,
    outputs_cons, serve_records hp, ← served_length]
  rfl

theorem calls_fresh (h : p.done = false) (n : Nat) :
    calls nextBatch (n + 1) p = p.nextBatch.1 :: List.replicate n (.ret (.ok none)) := by
  rw [calls, calls_exhausted (nextBatch_second h)]

theorem producer_hears_own_rows (crates : Crates) (host : Host) (params : ProcessParams) :
    ∃ rows first, Loads crates
        (constInputBytes host (params.arguments.constBytes 0) (params.arguments.constStr 0)) rows ∧
      (¬ TextFits rows → first = .panic) ∧
      (TextFits rows → ¬ RecordBatch.Conforms params.outputSchema (columnsOf rows) →
        ∃ e, first = .ret (.error e)) ∧
      (TextFits rows → RecordBatch.Conforms params.outputSchema (columnsOf rows) →
        ∃ batch, first = .ret (.ok (some batch)) ∧ readRows batch = some rows ∧
          batch.schema = params.outputSchema) ∧
      ∀ before after,
        (answers crates [] (before ++ .records host params :: after))[before.length]? =
          some (.opened (.ret (.ok (openings before)))) ∧
        (asked (openings before) after = 0 →
          heardAt (openings before)
            (answers crates [] (before ++ .records host params :: after)) = []) ∧
        ∀ n, asked (openings before) after = n + 1 →
          heardAt (openings before) (answers crates [] (before ++ .records host params :: after)) =
            first :: List.replicate n (.ret (.ok none)) := by
  obtain ⟨rows, hrows, hp⟩ := producer_opens crates host params
  have hfresh : (⟨params.outputSchema, rows, false⟩ : RecordsProducer).done = false := rfl
  refine ⟨rows, (nextBatch ⟨params.outputSchema, rows, false⟩).1, hrows,
    (nextBatch_panics_iff hfresh).mpr, nextBatch_rejects hfresh, ?_, ?_⟩
  · intro hfits hschema
    obtain ⟨batch, hfirst, hcolumns, hlen, hbatch⟩ := nextBatch_delivers hfresh hfits hschema
    exact ⟨batch, hfirst, readRows_columnsOf hcolumns hlen, hbatch⟩
  · intro before after
    have hheard := heardAt_opened hp before after
    refine ⟨answer_opened hp before after, ?_, ?_⟩
    · intro hnone
      rw [hheard, hnone, calls]
    · intro n hn
      rw [hheard, hn, calls_fresh hfresh]

theorem mem_answers_polled {handle : Nat} {out : Unwind (Except RpcError (Option RecordBatch))}
    {rs : List Request} (h : .polled handle out ∈ answers crates [] rs) :
    (handle, out) ∈ outcomes nextBatch [] (rs.map (eventOf crates)) := by
  rw [← answers_outcomes]
  exact List.mem_filterMap.mpr ⟨_, h, rfl⟩

theorem batch_origin {rs : List Request} {handle : Nat} {batch : RecordBatch}
    (h : .polled handle (.ret (.ok (some batch))) ∈ answers crates [] rs) :
    ∃ before host params after rows,
      rs = before ++ .records host params :: after ∧ openings before = handle ∧
      .nextBatch handle ∈ after ∧ batch.schema = params.outputSchema ∧
      readRows batch = some rows ∧
      (rows = [] ∨ ∃ content parser,
        constInputBytes host (params.arguments.constBytes 0) (params.arguments.constStr 0) =
          some content ∧
        Opens crates content parser ∧ rows = imageOf crates parser) ∧
      ∀ row ∈ rows, ColumnsOf (crates.fromStr row.eventJson) row := by
  have hbatch : (.ret (.ok (some batch)) : Unwind (Except RpcError (Option RecordBatch))) ≠
      .ret (.ok none) := nofun
  obtain ⟨before, host, params, after, p, hsplit, hhandle, hasked, hproducer, hfirst⟩ :=
    (outcome_origin hbatch).mp (mem_answers_polled h)
  obtain ⟨rows, hrows, hopened⟩ := producer_opens crates host params
  rw [hopened] at hproducer
  cases hproducer
  obtain ⟨hread, -, hschema⟩ := nextBatch_contents rfl hfirst
  have horigin := loads_cases hrows
  refine ⟨before, host, params, after, rows, hsplit, hhandle, hasked, hschema, hread, horigin, ?_⟩
  rcases horigin with rfl | ⟨content, parser, -, -, rfl⟩
  · simp
  · intro row hrow
    obtain ⟨rec, -, rfl⟩ := List.mem_map.mp hrow
    exact (rowOf_renders crates.fromStr rec).columns

def quietHost : Host := Host.still .native64 fun _ => none

def openWith (arg : SqlArg) : Request := .records quietHost ⟨onBind.outputSchema, arg.bound⟩

def interleavedRun : List Request :=
  [openWith (.blob elfFileMagic), .nextBatch 1, openWith .null,
    .recordCount (fun _ => quietHost)
      ⟨(EvtxRecordCount.onBind "result").outputSchema, SqlArg.null.bound⟩
      (columnBatch (.binary [some elfFileMagic, none])),
    .nextBatch 1, .nextBatch 0, .nextBatch 0, .nextBatch 1]

theorem polled_of_heard {handle : Nat} {out : Unwind (Except RpcError (Option RecordBatch))}
    {as : List Answer} (h : out ∈ heardAt handle as) : .polled handle out ∈ as := by
  obtain ⟨a, ha, hout⟩ := List.mem_filterMap.mp (mem_heard.mp h)
  cases a with
  | polled i found =>
    cases hout
    exact ha
  | _ => cases hout

theorem interleavedRun_delivers :
    ∃ batch, readRows batch = some mixedRows ∧
      .polled 0 (.ret (.ok (some batch))) ∈ answers mixedCrates [] interleavedRun := by
  have hp : producer mixedCrates quietHost ⟨onBind.outputSchema, (SqlArg.blob elfFileMagic).bound⟩ =
      .ret (.ok ⟨onBind.outputSchema, mixedRows, false⟩) := producer_loads mixed_loads
  have hfresh : (⟨onBind.outputSchema, mixedRows, false⟩ : RecordsProducer).done = false := rfl
  obtain ⟨batch, hfirst, hcolumns, hlen, -⟩ :=
    nextBatch_delivers hfresh mixedRows_fit (conforms_outputSchema mixedRows)
  have hheard : heardAt 0 (answers mixedCrates [] interleavedRun) =
      calls nextBatch 2 ⟨onBind.outputSchema, mixedRows, false⟩ :=
    heardAt_opened hp [] interleavedRun.tail
  refine ⟨batch, readRows_columnsOf hcolumns hlen, polled_of_heard ?_⟩
  rw [hheard, calls_fresh hfresh, hfirst]
  exact List.mem_cons_self ..

theorem batch_origin_interleaved :
    ∃ batch, readRows batch = some mixedRows ∧
      ∀ row ∈ mixedRows, ColumnsOf (mixedCrates.fromStr row.eventJson) row := by
  obtain ⟨batch, hrows, hmem⟩ := interleavedRun_delivers
  obtain ⟨-, -, -, -, rows, -, -, -, -, hread, -, hcolumns⟩ := batch_origin hmem
  rw [hrows] at hread
  obtain rfl := Option.some_inj.mp hread
  exact ⟨batch, hrows, hcolumns⟩

end EvtxWorker.Worker
