import Mathlib.Data.List.Basic

namespace Programs

inductive Program (ι : Type) (ρ : ι → Type) (α : Type) where
  | ret (a : α)
  | call (i : ι) (next : ρ i → Program ι ρ α)

namespace Program
variable {ι : Type} {ρ : ι → Type} {α β : Type}

protected def bind : Program ι ρ α → (α → Program ι ρ β) → Program ι ρ β
  | ret a, f => f a
  | call i next, f => call i fun r => (next r).bind f

instance : Monad (Program ι ρ) where
  pure := ret
  bind := Program.bind

def ask (i : ι) : Program ι ρ (ρ i) := call i ret

def run (answer : ∀ i, ρ i) : Program ι ρ α → α
  | ret a => a
  | call i next => (next (answer i)).run answer

def calls (answer : ∀ i, ρ i) : Program ι ρ α → List ι
  | ret _ => []
  | call i next => i :: (next (answer i)).calls answer

variable (answer : ∀ i, ρ i)

@[simp] theorem run_pure (a : α) : run answer (pure a : Program ι ρ α) = a := rfl

@[simp] theorem calls_pure (a : α) : calls answer (pure a : Program ι ρ α) = [] := rfl

@[simp] theorem run_ask (i : ι) : run answer (ask i : Program ι ρ (ρ i)) = answer i := rfl

@[simp] theorem calls_ask (i : ι) : calls answer (ask i : Program ι ρ (ρ i)) = [i] := rfl

@[simp] theorem run_bind (x : Program ι ρ α) (f : α → Program ι ρ β) :
    run answer (x >>= f) = run answer (f (run answer x)) := by
  induction x with
  | ret a => rfl
  | call i next ih => exact ih (answer i)

@[simp] theorem calls_bind (x : Program ι ρ α) (f : α → Program ι ρ β) :
    calls answer (x >>= f) = calls answer x ++ calls answer (f (run answer x)) := by
  induction x with
  | ret a => rfl
  | call i next ih => exact congrArg (i :: ·) (ih (answer i))

variable {answer} {answer' : ∀ i, ρ i}

theorem run_congr {x : Program ι ρ α} (h : ∀ i ∈ x.calls answer, answer i = answer' i) :
    x.run answer = x.run answer' := by
  induction x with
  | ret a => rfl
  | call i next ih =>
    obtain ⟨hhead, htail⟩ := List.forall_mem_cons.mp h
    rw [run, run, ih (answer i) htail, hhead]

end Program
end Programs
