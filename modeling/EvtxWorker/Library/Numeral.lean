import Mathlib.Data.Nat.Digits.Defs

namespace Numeral

variable {α : Type} (digit : α → Option Nat) (base : Nat) (fits : Int → Prop) [DecidablePred fits]

def checked (n : Int) : Option Int := if fits n then some n else none

def push (sign acc : Int) (a : α) : Option Int := do
  let scaled ← checked fits (acc * base)
  let d ← digit a
  checked fits (scaled + sign * d)

def horner (n : Nat) (ds : List Nat) : Nat := ds.foldl (fun n d => n * base + d) n

variable {digit base fits}

theorem horner_zero (ds : List Nat) : horner base 0 ds = Nat.ofDigits base ds.reverse := by
  rw [horner, Nat.ofDigits_eq_foldr, List.foldr_reverse]
  congr 1
  funext n d
  simp [Nat.add_comm, Nat.mul_comm]

theorem le_horner (hbase : 0 < base) (n : Nat) (ds : List Nat) : n ≤ horner base n ds := by
  induction ds generalizing n with
  | nil => exact le_rfl
  | cons d ds ih =>
    calc n ≤ n * base := Nat.le_mul_of_pos_right n hbase
      _ ≤ n * base + d := Nat.le_add_right _ _
      _ ≤ horner base n (d :: ds) := ih _

theorem checked_fits {n : Int} (h : fits n) : checked fits n = some n := if_pos h

theorem checked_exceeds {n : Int} (h : ¬ fits n) : checked fits n = none := if_neg h

theorem checked_eq_some {n z : Int} : checked fits n = some z ↔ n = z ∧ fits z := by
  by_cases h : fits n
  · rw [checked_fits h, Option.some_inj]
    exact ⟨fun hz => ⟨hz, hz ▸ h⟩, And.left⟩
  · rw [checked_exceeds h]
    exact ⟨nofun, fun hz => absurd (hz.1 ▸ hz.2) h⟩

theorem mapM_cons_eq_some {a : α} {as : List α} {ds : List Nat} :
    (a :: as).mapM digit = some ds ↔
      ∃ d rest, digit a = some d ∧ as.mapM digit = some rest ∧ d :: rest = ds := by
  rw [List.mapM_cons]
  constructor
  · intro h
    obtain ⟨d, hd, h⟩ := Option.bind_eq_some_iff.mp h
    obtain ⟨rest, hrest, h⟩ := Option.bind_eq_some_iff.mp h
    exact ⟨d, rest, hd, hrest, Option.some_inj.mp h⟩
  · rintro ⟨d, rest, hd, hrest, rfl⟩
    simp [hd, hrest]

variable {sign : Int} (hmono : ∀ {j k : Nat}, j ≤ k → fits (sign * k) → fits (sign * j))
include hmono

theorem push_eq (n : Nat) (a : α) :
    push digit base fits sign (sign * n) a =
      (digit a).bind fun d => checked fits (sign * (n * base + d : Nat)) := by
  have hscaled : sign * n * base = sign * (n * base : Nat) := by
    rw [mul_assoc, Nat.cast_mul]
  have hsum (d : Nat) : sign * (n * base : Nat) + sign * d = sign * (n * base + d : Nat) := by
    rw [← mul_add, Nat.cast_add]
  rw [push, hscaled]
  cases digit a with
  | none => cases checked fits (sign * (n * base : Nat)) <;> rfl
  | some d =>
    by_cases hfits : fits (sign * (n * base : Nat))
    · rw [checked_fits hfits, Option.bind_some, ← hsum]
      rfl
    · have hno : ¬ fits (sign * (n * base + d : Nat)) :=
        fun h => hfits (hmono (Nat.le_add_right _ _) h)
      rw [checked_exceeds hfits, Option.bind_some, checked_exceeds hno]
      rfl

theorem foldlM_push_iff (hbase : 0 < base) {n : Nat} (hn : fits (sign * n)) {as : List α}
    {z : Int} :
    as.foldlM (push digit base fits sign) (sign * n) = some z ↔
      ∃ ds, as.mapM digit = some ds ∧ z = sign * (horner base n ds : Nat) ∧ fits z := by
  induction as generalizing n with
  | nil =>
    constructor
    · rintro ⟨rfl⟩
      exact ⟨[], rfl, rfl, hn⟩
    · rintro ⟨ds, ⟨rfl⟩, rfl, -⟩
      rfl
  | cons a as ih =>
    rw [List.foldlM_cons, push_eq hmono]
    simp only [mapM_cons_eq_some]
    cases hd : digit a with
    | none => simp
    | some d =>
      rw [Option.bind_some]
      by_cases hfits : fits (sign * (n * base + d : Nat))
      · rw [checked_fits hfits]
        refine (ih hfits).trans ⟨?_, ?_⟩
        · rintro ⟨rest, hrest, hz⟩
          exact ⟨d :: rest, ⟨d, rest, rfl, hrest, rfl⟩, hz⟩
        · rintro ⟨_, ⟨_, rest, ⟨rfl⟩, hrest, rfl⟩, hz⟩
          exact ⟨rest, hrest, hz⟩
      · rw [checked_exceeds hfits]
        refine ⟨nofun, ?_⟩
        rintro ⟨_, ⟨_, rest, ⟨rfl⟩, -, rfl⟩, rfl, hz⟩
        exact absurd (hmono (le_horner hbase _ rest) hz) hfits

end Numeral
