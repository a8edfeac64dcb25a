import EvtxWorker.Worker.Delivery
import Mathlib.Algebra.GroupWithZero.Nat
import Mathlib.Algebra.Order.BigOperators.Group.List

namespace EvtxWorker.Worker
open Unwinding Unwind Arrow Sdk Parse Input Scalar Table RecordsProducer

def settled (p : RecordsProducer) : Nat :=
  if p.done = true ∧ Deliverable p then p.rows.length else 0

def batchRows : Unwind (Except RpcError (Option RecordBatch)) → Nat
  | .ret (.ok (some batch)) => batch.numRows
  | _ => 0

def delivered (as : List Answer) : Nat := gains batchRows (as.filterMap Answer.outcome)

theorem settled_fresh {p : RecordsProducer} (h : p.done = false) : settled p = 0 := by
  simp [settled, h]

theorem settled_next (p : RecordsProducer) :
    settled p.nextBatch.2 = settled p + batchRows p.nextBatch.1 := by
  cases h : p.done with
  | true =>
    rw [nextBatch_done h]
    rfl
  | false =>
    have hnext : p.nextBatch.2 = { p with done := true } := by rw [nextBatch_fresh h]
    have hdone : settled { p with done := true } = if Deliverable p then p.rows.length else 0 :=
      if_congr (by simpa using ⟨fun hd => ⟨hd.fits, hd.schema⟩, fun hd => ⟨hd.fits, hd.schema⟩⟩)
        rfl rfl
    rw [hnext, hdone, settled_fresh h, Nat.zero_add]
    rcases nextBatch_cases h with ⟨hdeliver, batch, hbatch, -, hrows, -⟩ | ⟨hdeliver, hfail⟩
    · rw [if_pos hdeliver, hbatch, batchRows, hrows]
    · rw [if_neg hdeliver]
      rcases hfail with hpanic | ⟨e, he⟩
      · rw [hpanic]
        rfl
      · rw [he]
        rfl

variable {crates : Crates} {rs : List Request}

theorem rows_kept (p : RecordsProducer) : p.nextBatch.2.rows = p.rows := by
  cases h : p.done with
  | true => rw [nextBatch_done h]
  | false => rw [nextBatch_fresh h]

theorem producer_rows_le {host : Host} {params : ProcessParams} {p : RecordsProducer}
    (h : producer crates host params = .ret (.ok p)) : p.rows.length ≤ maxRecords := by
  obtain ⟨rows, hrows, hp⟩ := producer_opens crates host params
  rw [hp] at h
  cases h
  rcases loads_cases hrows with rfl | ⟨content, parser, -, -, rfl⟩
  · exact Nat.zero_le _
  · rw [imageOf_length]
    exact Nat.min_le_left _ _

theorem served_rows_le {p : RecordsProducer} (hp : p ∈ served crates [] rs) :
    p.rows.length ≤ maxRecords := by
  rw [served_events] at hp
  refine run_forall (fun p => p.rows.length ≤ maxRecords) ?_ (by simp) ?_ p hp
  · intro q hq
    rwa [rows_kept]
  · intro q hq
    obtain ⟨host, params, -, hproducer⟩ := enter_mem_events hq
    exact producer_rows_le hproducer

theorem settled_le (p : RecordsProducer) : settled p ≤ p.rows.length := by
  rw [settled]
  split_ifs
  · exact le_rfl
  · exact Nat.zero_le _

theorem delivered_eq_settled (crates : Crates) (rs : List Request) :
    delivered (answers crates [] rs) = holding settled (served crates [] rs) := by
  have henter : ∀ p, .enter p ∈ rs.map (eventOf crates) → settled p = 0 := by
    intro p hp
    obtain ⟨host, params, -, hproducer⟩ := enter_mem_events hp
    exact settled_fresh (producer_fresh hproducer)
  rw [delivered, answers_outcomes, served_events, holding_run settled_next henter]
  exact (Nat.zero_add _).symm

theorem delivered_le (crates : Crates) (rs : List Request) :
    delivered (answers crates [] rs) ≤ openings rs * maxRecords := by
  rw [delivered_eq_settled, holding, ← served_length, ← Nat.nsmul_eq_mul,
    ← List.length_map settled]
  apply List.sum_le_card_nsmul
  intro n hn
  obtain ⟨p, hp, rfl⟩ := List.mem_map.mp hn
  exact (settled_le p).trans (served_rows_le hp)

theorem rows_accounted (crates : Crates) (rs : List Request) :
    delivered (answers crates [] rs) =
      ((served crates [] rs).map fun p =>
        if p.done = true ∧ Deliverable p then p.rows.length else 0).sum ∧
    delivered (answers crates [] rs) ≤ openings rs * maxRecords ∧
    (served crates [] rs).length = openings rs ∧
    ∀ p ∈ served crates [] rs, p.rows.length ≤ maxRecords :=
  ⟨delivered_eq_settled crates rs, delivered_le crates rs, served_length rs,
    fun _ => served_rows_le⟩

end EvtxWorker.Worker
