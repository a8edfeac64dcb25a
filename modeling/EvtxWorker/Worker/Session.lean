import EvtxWorker.Library.Machine
import EvtxWorker.Library.Pool
import EvtxWorker.Scalar.Live
import EvtxWorker.Table.Delivery

namespace EvtxWorker.Worker
open Unwinding Unwind Arrow Sdk Parse Input Scalar Table RecordsProducer

inductive Request where
  | recordCount (hosts : Nat → Host) (params : ProcessParams) (batch : RecordBatch)
  | isValid (hosts : Nat → Host) (params : ProcessParams) (batch : RecordBatch)
  | records (host : Host) (params : ProcessParams)
  | nextBatch (handle : Nat)

inductive Answer where
  | scalar (out : Unwind (Except RpcError RecordBatch))
  | opened (out : Unwind (Except RpcError Nat))
  | polled (handle : Nat) (out : Unwind (Except RpcError (Option RecordBatch)))
  | noProducer

def Answer.outcome : Answer → Option (Nat × Unwind (Except RpcError (Option RecordBatch)))
  | polled handle out => some (handle, out)
  | _ => none

def Answer.Panics : Answer → Prop
  | scalar out => out = .panic
  | opened out => out = .panic
  | polled _ out => out = .panic
  | noProducer => False

section Serve
variable (crates : Crates)

def serve (pool : List RecordsProducer) : Request → Answer × List RecordsProducer
  | .recordCount hosts params batch =>
    (.scalar (EvtxRecordCount.processLive crates hosts params batch), pool)
  | .isValid hosts params batch =>
    (.scalar (IsValidEvtx.processLive crates hosts params batch), pool)
  | .records host params =>
    match producer crates host params with
    | .ret (.ok p) => (.opened (.ret (.ok pool.length)), pool ++ [p])
    | .ret (.error e) => (.opened (.ret (.error e)), pool)
    | .panic => (.opened .panic, pool)
  | .nextBatch handle =>
    match pool[handle]? with
    | some p => (.polled handle p.nextBatch.1, pool.set handle p.nextBatch.2)
    | none => (.noProducer, pool)

def answers : List RecordsProducer → List Request → List Answer := outputs (serve crates)

def served : List RecordsProducer → List Request → List RecordsProducer := final (serve crates)

def eventOf : Request → Event RecordsProducer
  | .records host params =>
    match producer crates host params with
    | .ret (.ok p) => .enter p
    | _ => .idle
  | .nextBatch handle => .poll handle
  | _ => .idle

end Serve

def Request.opens : Request → Bool
  | records _ _ => true
  | _ => false

def Request.asks (handle : Nat) : Request → Bool
  | nextBatch h => h == handle
  | _ => false

def openings (rs : List Request) : Nat := rs.countP Request.opens

def asked (handle : Nat) (rs : List Request) : Nat := rs.countP (Request.asks handle)

variable {crates : Crates} {pool : List RecordsProducer} {host : Host} {params : ProcessParams}

theorem producer_opens (crates : Crates) (host : Host) (params : ProcessParams) :
    ∃ rows, Loads crates
        (constInputBytes host (params.arguments.constBytes 0) (params.arguments.constStr 0)) rows ∧
      producer crates host params = .ret (.ok ⟨params.outputSchema, rows, false⟩) := by
  obtain ⟨rows, hrows⟩ := loads_exists crates
    (constInputBytes host (params.arguments.constBytes 0) (params.arguments.constStr 0))
  exact ⟨rows, hrows, producer_loads hrows⟩

theorem eventOf_records {p : RecordsProducer} (h : producer crates host params = .ret (.ok p)) :
    eventOf crates (.records host params) = .enter p := by
  simp only [eventOf, h]

theorem serve_records {p : RecordsProducer} (h : producer crates host params = .ret (.ok p)) :
    serve crates pool (.records host params) =
      (.opened (.ret (.ok pool.length)), pool ++ [p]) := by
  simp only [serve, h]

theorem serve_pool (r : Request) :
    (serve crates pool r).2 = advance nextBatch pool (eventOf crates r) := by
  cases r with
  | recordCount hosts params batch | isValid hosts params batch => rfl
  | records host params =>
    obtain ⟨rows, -, hp⟩ := producer_opens crates host params
    rw [serve_records hp, eventOf_records hp, advance]
  | nextBatch handle =>
    rw [serve, eventOf, advance, List.modify_eq_set_getElem?]
    cases pool[handle]? <;> rfl

theorem serve_outcome (r : Request) :
    (serve crates pool r).1.outcome = outcome nextBatch pool (eventOf crates r) := by
  cases r with
  | recordCount hosts params batch | isValid hosts params batch => rfl
  | records host params =>
    obtain ⟨rows, -, hp⟩ := producer_opens crates host params
    rw [serve_records hp, eventOf_records hp]
    rfl
  | nextBatch handle =>
    rw [serve, eventOf, outcome]
    cases pool[handle]? <;> rfl

theorem answers_outcomes (pool : List RecordsProducer) (rs : List Request) :
    (answers crates pool rs).filterMap Answer.outcome =
      outcomes nextBatch pool (rs.map (eventOf crates)) := by
  induction rs generalizing pool with
  | nil => rfl
  | cons r rs ih =>
    rw [answers] at ih ⊢
    rw [outputs_cons, List.filterMap_cons, serve_outcome, ih, serve_pool, List.map_cons, outcomes]
    cases outcome nextBatch pool (eventOf crates r) <;> rfl

theorem served_events (pool : List RecordsProducer) (rs : List Request) :
    served crates pool rs = (rs.map (eventOf crates)).foldl (advance nextBatch) pool := by
  induction rs generalizing pool with
  | nil => rfl
  | cons r rs ih =>
    rw [List.map_cons, List.foldl_cons, ← serve_pool, ← ih, served, final_cons]

theorem enters_eventOf (r : Request) : (eventOf crates r).enters = r.opens := by
  cases r with
  | recordCount hosts params batch | isValid hosts params batch => rfl
  | nextBatch handle => rfl
  | records host params =>
    obtain ⟨rows, -, hp⟩ := producer_opens crates host params
    rw [eventOf_records hp]
    rfl

theorem polls_eventOf (handle : Nat) (r : Request) :
    (eventOf crates r).polls handle = r.asks handle := by
  cases r with
  | recordCount hosts params batch | isValid hosts params batch => rfl
  | nextBatch h => rfl
  | records host params =>
    obtain ⟨rows, -, hp⟩ := producer_opens crates host params
    rw [eventOf_records hp]
    rfl

theorem entered_events (rs : List Request) :
    entered (rs.map (eventOf crates)) = openings rs := by
  rw [entered, List.countP_map, openings]
  congr 1
  exact funext enters_eventOf

theorem polled_events (handle : Nat) (rs : List Request) :
    polled handle (rs.map (eventOf crates)) = asked handle rs := by
  rw [polled, List.countP_map, asked]
  congr 1
  exact funext (polls_eventOf handle)

theorem events_split {p : RecordsProducer} (hp : producer crates host params = .ret (.ok p))
    (before after : List Request) :
    (before ++ .records host params :: after).map (eventOf crates) =
      before.map (eventOf crates) ++ .enter p :: after.map (eventOf crates) := by
  rw [List.map_append, List.map_cons, eventOf_records hp]

theorem served_length (rs : List Request) : (served crates [] rs).length = openings rs := by
  rw [served_events, foldl_advance_length, entered_events, List.length_nil, Nat.zero_add]

end EvtxWorker.Worker
