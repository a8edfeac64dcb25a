import Mathlib.Data.List.Induction

namespace Unwinding
variable {m : Type → Type} [Monad m] {α β ε : Type}

def buildCells (cell : α → m β) (as : List α) : m (List β) :=
  as.foldlM (fun out a => do return out ++ [← cell a]) []

variable [LawfulMonad m]

theorem foldlM_snoc (cell : α → m β) (out : List β) (as : List α) :
    as.foldlM (fun out a => do return out ++ [← cell a]) out = (out ++ ·) <$> as.mapM cell := by
  induction as generalizing out with
  | nil => simp
  | cons a as ih =>
    simp only [List.foldlM_cons, List.mapM_cons, bind_assoc, pure_bind, ih,
      ← bind_pure_comp, List.append_assoc, List.cons_append, List.nil_append]

theorem buildCells_eq_mapM (cell : α → m β) (as : List α) :
    buildCells cell as = as.mapM cell := by
  rw [buildCells, foldlM_snoc]
  exact id_map _

theorem buildCells_rows {cell : Nat → m β} {value : α → β} {xs : List α}
    (h : ∀ row x, xs[row]? = some x → cell row = pure (value x)) :
    buildCells cell (List.range xs.length) = pure (xs.map value) := by
  rw [buildCells_eq_mapM]
  induction xs using List.reverseRecOn with
  | nil => simp
  | append_singleton xs x ih =>
    have hlast : cell xs.length = pure (value x) := h _ _ (by simp)
    have hinit := ih fun row y hy => h row y (by
      rw [List.getElem?_append_left (List.getElem?_eq_some_iff.mp hy).1, hy])
    rw [List.length_append, List.length_singleton, List.range_succ, List.mapM_append, hinit]
    simp [hlast]

theorem buildCells_throw {cell : α → ExceptT ε m β} {e : ε} {as : List α}
    (hcell : ∀ a ∈ as, cell a = throw e ∨ ∃ b, cell a = pure b)
    (hex : ∃ a ∈ as, cell a = throw e) : buildCells cell as = throw e := by
  rw [buildCells_eq_mapM]
  induction as with
  | nil => simp at hex
  | cons a as ih =>
    rw [List.mapM_cons]
    rcases hcell a (by simp) with ha | ⟨b, ha⟩
    · rw [ha, ExceptT.bind_throw]
    · obtain ⟨c, hc, hthrow⟩ := hex
      rcases List.mem_cons.mp hc with rfl | hc
      · rw [hthrow, ExceptT.bind_throw]
      · rw [ha, pure_bind, ih (fun d hd => hcell d (by simp [hd])) ⟨c, hc, hthrow⟩,
          ExceptT.bind_throw]

end Unwinding
