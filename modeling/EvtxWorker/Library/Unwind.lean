import Mathlib.Logic.Basic

namespace Unwinding

inductive Unwind (α : Type) where
  | ret (a : α)
  | panic
deriving DecidableEq, Repr

namespace Unwind
variable {α β γ δ : Type}

protected def bind : Unwind α → (α → Unwind β) → Unwind β
  | ret a, f => f a
  | panic, _ => panic

instance : Monad Unwind where
  pure := ret
  bind := Unwind.bind

instance : LawfulMonad Unwind := LawfulMonad.mk' Unwind
  (fun x => by cases x <;> rfl) (fun _ _ => rfl) (fun x _ _ => by cases x <;> rfl)

@[simp] theorem pure_eq_ret (a : α) : (pure a : Unwind α) = ret a := rfl

@[simp] theorem ret_bind (a : α) (f : α → Unwind β) : (ret a >>= f) = f a := rfl

@[simp] theorem panic_bind (f : α → Unwind β) : (panic >>= f) = panic := rfl

@[simp] theorem map_ret (f : α → β) (a : α) : f <$> ret a = ret (f a) := rfl

@[simp] theorem map_panic (f : α → β) : f <$> (panic : Unwind α) = panic := rfl

theorem ret_unique {x : Unwind α} {a b : α} (h : x = ret a) (h' : x = ret b) : a = b := by
  rw [h] at h'
  cases h'
  rfl

theorem bind_eq_ret {x : Unwind α} {f : α → Unwind β} {b : β} :
    x >>= f = ret b ↔ ∃ a, x = ret a ∧ f a = ret b := by
  cases x <;> simp

def catchUnwind : Unwind α → Option α
  | ret a => some a
  | panic => none

@[simp] theorem catchUnwind_ret (a : α) : catchUnwind (ret a) = some a := rfl

@[simp] theorem catchUnwind_panic : catchUnwind (panic : Unwind α) = none := rfl

inductive Related (R : α → β → Prop) : Unwind α → Unwind β → Prop
  | returns {a b} : R a b → Related R (ret a) (ret b)
  | panics : Related R panic panic

theorem Related.eq_ret {R : α → β → Prop} {x : Unwind α} {b : β} (h : Related R x (ret b)) :
    ∃ a, x = ret a ∧ R a b := by
  cases h with
  | returns hab => exact ⟨_, rfl, hab⟩

theorem Related.eq_panic {R : α → β → Prop} {x : Unwind α} (h : Related R x panic) :
    x = panic := by
  cases h with
  | panics => rfl

section Fold
variable {f : β → α → Unwind β} {H : β → List α → Prop}

theorem foldlM_holds (hstep : ∀ {s as a s'}, H s as → f s a = ret s' → H s' (as ++ [a]))
    {s s' : β} {as more : List α} (hs : H s as) (hrun : more.foldlM f s = ret s') :
    H s' (as ++ more) := by
  induction more generalizing s as with
  | nil =>
    obtain rfl : s = s' := by simpa using hrun
    simpa using hs
  | cons a more ih =>
    rw [List.foldlM_cons] at hrun
    obtain ⟨mid, hmid, hrest⟩ := bind_eq_ret.mp hrun
    simpa using ih (hstep hs hmid) hrest

theorem foldlM_ret (P : List α → Prop) (hinit : ∀ {as more}, P (as ++ more) → P as)
    (hstep : ∀ {s as a}, H s as → P (as ++ [a]) → ∃ s', f s a = ret s' ∧ H s' (as ++ [a]))
    {s : β} {as : List α} (more : List α) (hs : H s as) (hfits : P (as ++ more)) :
    ∃ s', more.foldlM f s = ret s' := by
  induction more generalizing s as with
  | nil => exact ⟨s, rfl⟩
  | cons a more ih =>
    have hfits' : P ((as ++ [a]) ++ more) := by simpa using hfits
    obtain ⟨mid, hmid, hs'⟩ := hstep hs (hinit hfits')
    obtain ⟨s', hrun⟩ := ih hs' hfits'
    exact ⟨s', by rw [List.foldlM_cons, hmid, ret_bind, hrun]⟩

end Fold

end Unwind
end Unwinding
