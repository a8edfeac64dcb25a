import Mathlib.Data.List.Basic

namespace Unwinding

variable {σ τ ι ο ο' : Type} (step : σ → ι → ο × σ)

def outputs : σ → List ι → List ο
  | _, [] => []
  | s, i :: is => (step s i).1 :: outputs (step s i).2 is

def final (s : σ) (is : List ι) : σ := is.foldl (fun s i => (step s i).2) s

@[simp] theorem outputs_nil (s : σ) : outputs step s [] = [] := rfl

@[simp] theorem outputs_cons (s : σ) (i : ι) (is : List ι) :
    outputs step s (i :: is) = (step s i).1 :: outputs step (step s i).2 is := rfl

@[simp] theorem final_nil (s : σ) : final step s [] = s := rfl

@[simp] theorem final_cons (s : σ) (i : ι) (is : List ι) :
    final step s (i :: is) = final step (step s i).2 is := rfl

theorem outputs_append (s : σ) (is js : List ι) :
    outputs step s (is ++ js) = outputs step s is ++ outputs step (final step s is) js := by
  induction is generalizing s with
  | nil => rfl
  | cons i is ih =>
    rw [List.cons_append, outputs_cons, outputs_cons, ih, final_cons, List.cons_append]

theorem outputs_length (s : σ) (is : List ι) : (outputs step s is).length = is.length := by
  induction is generalizing s with
  | nil => rfl
  | cons i is ih => rw [outputs_cons, List.length_cons, ih, List.length_cons]

variable {step}

theorem outputs_simulated {step' : τ → ι → ο' × τ} (observe : ο → ο') (R : σ → τ → Prop)
    (P : ι → Prop)
    (hstep : ∀ s t i, R s t → P i →
      observe (step s i).1 = (step' t i).1 ∧ R (step s i).2 (step' t i).2)
    {s : σ} {t : τ} (h : R s t) {is : List ι} (his : ∀ i ∈ is, P i) :
    (outputs step s is).map observe = outputs step' t is := by
  induction is generalizing s t with
  | nil => rfl
  | cons i is ih =>
    obtain ⟨hobserve, hnext⟩ := hstep s t i h (his i (List.mem_cons_self ..))
    rw [outputs_cons, List.map_cons, hobserve, outputs_cons,
      ih hnext fun j hj => his j (List.mem_cons_of_mem _ hj)]

end Unwinding
