import EvtxWorker.Library.Unwind
import Mathlib.Algebra.Order.Monoid.Canonical.Defs
import Mathlib.Algebra.BigOperators.Group.List.Basic
import Mathlib.Algebra.Order.BigOperators.Group.List

namespace Unwinding
open Unwind

variable {α M : Type} [AddCommMonoid M]

def weigh (weight : α → M) (cells : List (Option α)) : M :=
  (cells.map fun cell => cell.elim 0 weight).sum

@[simp] theorem weigh_append (weight : α → M) (cells more : List (Option α)) :
    weigh weight (cells ++ more) = weigh weight cells + weigh weight more := by
  simp [weigh]

theorem weigh_replicate (weight : α → M) (n : Nat) (a : α) :
    weigh weight (List.replicate n (some a)) = n • weight a := by
  simp [weigh]

variable [PartialOrder M]

structure Buffer (weight : α → M) (cap : M) where
  cells : List (Option α)
  fits : weigh weight cells ≤ cap

namespace Buffer
variable {weight : α → M} {cap : M} [DecidableLE M]

def append (b : Buffer weight cap) (cell : Option α) : Unwind (Buffer weight cap) :=
  if h : weigh weight (b.cells ++ [cell]) ≤ cap then .ret ⟨b.cells ++ [cell], h⟩ else .panic

theorem append_ret {b : Buffer weight cap} {cell : Option α}
    (h : weigh weight (b.cells ++ [cell]) ≤ cap) :
    b.append cell = .ret ⟨b.cells ++ [cell], h⟩ := dif_pos h

theorem append_cells {b b' : Buffer weight cap} {cell : Option α} (h : b.append cell = .ret b') :
    b'.cells = b.cells ++ [cell] := by
  rw [append] at h
  split_ifs at h
  cases h
  rfl

end Buffer

variable [CanonicallyOrderedAdd M]

theorem weigh_le_append (weight : α → M) (cells more : List (Option α)) :
    weigh weight cells ≤ weigh weight (cells ++ more) := by
  rw [weigh_append]
  exact le_self_add

theorem weigh_le_nsmul [AddLeftMono M] {weight : α → M} {limit : M} {cells : List (Option α)}
    (h : ∀ a, some a ∈ cells → weight a ≤ limit) :
    weigh weight cells ≤ cells.length • limit := by
  rw [weigh, ← List.length_map (fun cell => cell.elim 0 weight)]
  apply List.sum_le_card_nsmul
  intro x hx
  obtain ⟨cell, hcell, rfl⟩ := List.mem_map.mp hx
  cases cell with
  | none => exact zero_le
  | some a => exact h a hcell

def Buffer.new {weight : α → M} {cap : M} : Buffer weight cap := ⟨[], zero_le⟩

end Unwinding
