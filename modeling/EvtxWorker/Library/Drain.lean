import EvtxWorker.Library.Unwind
import Mathlib.Data.List.Basic

namespace Unwinding
open Unwind

inductive Pull (α : Type) where
  | ok (a : α)
  | err
  | panic
deriving DecidableEq, Repr

variable {α σ τ : Type}

def Pull.item : Pull α → Unwind (Option α)
  | .ok a => .ret (some a)
  | .err => .ret none
  | .panic => .panic

def Pull.ok? : Pull α → Option α
  | .ok a => some a
  | _ => none

@[simp] theorem Pull.ok?_ok (a : α) : (Pull.ok a).ok? = some a := rfl
@[simp] theorem Pull.ok?_err : (Pull.err : Pull α).ok? = none := rfl
@[simp] theorem Pull.ok?_panic : (Pull.panic : Pull α).ok? = none := rfl

def drain (body : σ → Option α → ForInStep σ) : σ → List (Pull α) → Unwind σ
  | s, [] => .ret s
  | s, p :: ps => p.item >>= fun i =>
    match body s i with
    | .yield s' => drain body s' ps
    | .done s' => .ret s'

@[simp] theorem drain_nil (body : σ → Option α → ForInStep σ) (s : σ) :
    drain body s [] = .ret s := rfl

@[simp] theorem drain_panic (body : σ → Option α → ForInStep σ) (s : σ) (ps : List (Pull α)) :
    drain body s (.panic :: ps) = .panic := rfl

theorem drain_yield {body : σ → Option α → ForInStep σ} {s s' : σ} {p : Pull α} {i : Option α}
    (ps : List (Pull α)) (hp : p.item = .ret i) (h : body s i = .yield s') :
    drain body s (p :: ps) = drain body s' ps := by
  simp [drain, hp, h]

theorem drain_done {body : σ → Option α → ForInStep σ} {s s' : σ} {p : Pull α} {i : Option α}
    (ps : List (Pull α)) (hp : p.item = .ret i) (h : body s i = .done s') :
    drain body s (p :: ps) = .ret s' := by
  simp [drain, hp, h]

inductive StepRelated (Y D : σ → τ → Prop) : ForInStep σ → ForInStep τ → Prop
  | yields {s t} : Y s t → StepRelated Y D (.yield s) (.yield t)
  | stops {s t} : D s t → StepRelated Y D (.done s) (.done t)

theorem drain_related {Y D : σ → τ → Prop} {f : σ → Option α → ForInStep σ}
    {g : τ → Option α → ForInStep τ} (hend : ∀ s t, Y s t → D s t)
    (hstep : ∀ s t i, Y s t → StepRelated Y D (f s i) (g t i))
    {s : σ} {t : τ} (h : Y s t) (ps : List (Pull α)) :
    Related D (drain f s ps) (drain g t ps) := by
  induction ps generalizing s t with
  | nil => exact .returns (hend s t h)
  | cons p ps ih =>
    cases hp : p.item with
    | panic => simpa [drain, hp] using Related.panics
    | ret i =>
      have hi := hstep s t i h
      cases hf : f s i <;> cases hg : g t i <;> rw [hf, hg] at hi <;> cases hi
      · rw [drain_done ps hp hf, drain_done ps hp hg]
        exact .returns ‹_›
      · rw [drain_yield ps hp hf, drain_yield ps hp hg]
        exact ih ‹_›

end Unwinding
