import Mathlib.Algebra.Group.Int.Defs
import Mathlib.Algebra.Group.Nat.Defs
import Mathlib.Data.List.Basic

namespace Signed

theorem toInt64_low {u : UInt64} (h : u.toNat < 2 ^ 63) : u.toInt64.toInt = u.toNat := by
  have hword : u.toInt64.toInt = u.toBitVec.toInt := rfl
  have hnat : u.toBitVec.toNat = u.toNat := rfl
  rw [hword, BitVec.toInt_eq_toNat_of_lt (by omega), hnat]

theorem toInt64_high {u : UInt64} (h : 2 ^ 63 ≤ u.toNat) :
    u.toInt64.toInt = u.toNat - 2 ^ 64 := by
  have hword : u.toInt64.toInt = u.toBitVec.toInt := rfl
  have hnat : u.toBitVec.toNat = u.toNat := rfl
  rw [hword, BitVec.toInt_eq_toNat_cond, if_neg (by omega), hnat]
  rfl

theorem toInt64_lt_iff {u w : UInt64} (h : u < w) :
    u.toInt64 < w.toInt64 ↔ (2 ^ 63 ≤ w.toNat → 2 ^ 63 ≤ u.toNat) := by
  have hlt : u.toNat < w.toNat := UInt64.lt_iff_toNat_lt.mp h
  have hu := u.toNat_lt
  have hw := w.toNat_lt
  rw [Int64.lt_iff_toInt_lt]
  by_cases hu63 : u.toNat < 2 ^ 63 <;> by_cases hw63 : w.toNat < 2 ^ 63
  · rw [toInt64_low hu63, toInt64_low hw63]
    omega
  · rw [toInt64_low hu63, toInt64_high (Nat.le_of_not_lt hw63)]
    omega
  · omega
  · rw [toInt64_high (Nat.le_of_not_lt hu63), toInt64_high (Nat.le_of_not_lt hw63)]
    omega

theorem toInt64_eq_iff (u : UInt64) : u.toInt64.toInt = u.toNat ↔ u.toNat < 2 ^ 63 := by
  constructor
  · intro h
    by_contra hu
    rw [toInt64_high (Nat.le_of_not_lt hu)] at h
    omega
  · exact toInt64_low

variable {us : List UInt64}

theorem ascending_low_or_high (hasc : us.Pairwise (· < ·))
    (hsigned : (us.map UInt64.toInt64).Pairwise (· < ·)) :
    (∀ u ∈ us, u.toNat < 2 ^ 63) ∨ ∀ u ∈ us, 2 ^ 63 ≤ u.toNat := by
  cases us with
  | nil => exact .inl nofun
  | cons u us =>
    obtain ⟨hfirst, -⟩ := List.pairwise_cons.mp hasc
    obtain ⟨hsignedFirst, -⟩ := List.pairwise_cons.mp hsigned
    by_cases hu : u.toNat < 2 ^ 63
    · refine .inl (List.forall_mem_cons.mpr ⟨hu, ?_⟩)
      intro w hw
      have hkeep := (toInt64_lt_iff (hfirst w hw)).mp (hsignedFirst _ (List.mem_map_of_mem hw))
      omega
    · refine .inr (List.forall_mem_cons.mpr ⟨Nat.le_of_not_lt hu, ?_⟩)
      intro w hw
      have hlt : u.toNat < w.toNat := UInt64.lt_iff_toNat_lt.mp (hfirst w hw)
      omega

theorem ascending_signed_iff (hasc : us.Pairwise (· < ·)) :
    (us.map UInt64.toInt64).Pairwise (· < ·) ↔
      (∀ u ∈ us, u.toNat < 2 ^ 63) ∨ ∀ u ∈ us, 2 ^ 63 ≤ u.toNat := by
  constructor
  · exact ascending_low_or_high hasc
  · intro h
    rw [List.pairwise_map]
    apply hasc.imp_of_mem
    intro u w hu hw hlt
    rw [toInt64_lt_iff hlt]
    intro hw63
    rcases h with hlow | hhigh
    · exact absurd (hlow w hw) (Nat.not_lt_of_le hw63)
    · exact hhigh u hu

theorem same_numbers_iff :
    (us.map UInt64.toInt64).map Int64.toInt = us.map (fun u => (u.toNat : Int)) ↔
      ∀ u ∈ us, u.toNat < 2 ^ 63 := by
  rw [List.map_map, List.map_inj_left]
  exact forall₂_congr fun u _ => toInt64_eq_iff u

end Signed
