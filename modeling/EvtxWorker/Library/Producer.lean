import EvtxWorker.Library.Unwind

namespace Unwinding
open Unwind

variable {σ ε β : Type} (next : σ → Unwind (Except ε (Option β)) × σ)

def calls : Nat → σ → List (Unwind (Except ε (Option β)))
  | 0, _ => []
  | n + 1, s => (next s).1 :: calls n (next s).2

def after : Nat → σ → σ
  | 0, s => s
  | n + 1, s => after n (next s).2

def callAt (n : Nat) (s : σ) : Unwind (Except ε (Option β)) := (next (after next n s)).1

inductive Drains : σ → List β → Prop
  | finished {s} : (next s).1 = .ret (.ok none) → Drains s []
  | batch {s b bs} : (next s).1 = .ret (.ok (some b)) → Drains (next s).2 bs → Drains s (b :: bs)

variable {next}

theorem Drains.unique {s : σ} {bs bs' : List β} (h : Drains next s bs) (h' : Drains next s bs') :
    bs = bs' := by
  induction h generalizing bs' with
  | finished hend =>
    cases h' with
    | finished => rfl
    | batch hnext => simp [hend] at hnext
  | batch hnext _ ih =>
    cases h' with
    | finished hend => simp [hnext] at hend
    | batch hnext' hrest =>
      rw [hnext] at hnext'
      cases hnext'
      rw [ih hrest]

theorem after_exhausted {s : σ} (h : next s = (.ret (.ok none), s)) (n : Nat) :
    after next n s = s := by
  induction n with
  | zero => rfl
  | succ n ih => rw [after, h, ih]

theorem after_once {s : σ} (h : next (next s).2 = (.ret (.ok none), (next s).2)) (n : Nat) :
    after next (n + 1) s = (next s).2 := after_exhausted h n

theorem callAt_once {s : σ} (h : next (next s).2 = (.ret (.ok none), (next s).2)) (n : Nat) :
    callAt next (n + 1) s = .ret (.ok none) := by
  rw [callAt, after_once h, h]

theorem calls_exhausted {s : σ} (h : next s = (.ret (.ok none), s)) (n : Nat) :
    calls next n s = List.replicate n (.ret (.ok none)) := by
  induction n with
  | zero => rfl
  | succ n ih => rw [calls, h, ih, List.replicate_succ]

theorem panic_mem_calls_once {s : σ} (h : next (next s).2 = (.ret (.ok none), (next s).2)) :
    (∀ n, .panic ∉ calls next n s) ↔ (next s).1 ≠ .panic := by
  constructor
  · intro hcalm hpanic
    exact hcalm 1 (by simp [calls, hpanic])
  · intro hfirst n
    cases n with
    | zero => simp [calls]
    | succ n => simp [calls, calls_exhausted h, hfirst.symm]

theorem drains_once {s : σ} {b : β} (hfirst : (next s).1 = .ret (.ok (some b)))
    (hlast : next (next s).2 = (.ret (.ok none), (next s).2)) : Drains next s [b] :=
  .batch hfirst (.finished (by rw [hlast]))

end Unwinding
