import Mathlib.Logic.Function.Basic

namespace Defaults

variable {κ ν : Type} [DecidableEq κ]

def fill (key : κ) (value : ν) (env : κ → Option ν) : κ → Option ν :=
  if (env key).isNone then Function.update env key (some value) else env

variable {key other : κ} {value : ν} {env : κ → Option ν}

theorem fill_key (key : κ) (value : ν) (env : κ → Option ν) :
    fill key value env key = some ((env key).getD value) := by
  rw [fill]
  cases h : env key with
  | none => simp
  | some w => simp [h]

theorem fill_other (h : other ≠ key) (value : ν) (env : κ → Option ν) :
    fill key value env other = env other := by
  rw [fill]
  split
  · exact Function.update_of_ne h _ _
  · rfl

theorem fill_present {w : ν} (h : env other = some w) (key : κ) (value : ν) :
    fill key value env other = some w := by
  by_cases hkey : other = key
  · rw [← hkey, fill_key, h, Option.getD_some]
  · rw [fill_other hkey, h]

def fillAll (defaults : List (κ × ν)) (env : κ → Option ν) : κ → Option ν :=
  defaults.foldl (fun env d => fill d.1 d.2 env) env

variable {defaults : List (κ × ν)}

theorem fillAll_present {w : ν} (h : env other = some w) : fillAll defaults env other = some w := by
  induction defaults generalizing env with
  | nil => exact h
  | cons d defaults ih => exact ih (fill_present h d.1 d.2)

theorem fillAll_other (h : ∀ d ∈ defaults, other ≠ d.1) :
    fillAll defaults env other = env other := by
  induction defaults generalizing env with
  | nil => rfl
  | cons d defaults ih =>
    have hrest := @ih (fill d.1 d.2 env) fun e he => h e (List.mem_cons_of_mem _ he)
    rw [fillAll, List.foldl_cons]
    exact hrest.trans (fill_other (h d (List.mem_cons_self ..)) d.2 env)

theorem fillAll_key (h : ∀ d ∈ defaults, d.1 = key → d.2 = value) (hmem : (key, value) ∈ defaults) :
    fillAll defaults env key = some ((env key).getD value) := by
  induction defaults generalizing env with
  | nil => cases hmem
  | cons d defaults ih =>
    rw [fillAll, List.foldl_cons]
    by_cases hkey : d.1 = key
    · have hvalue := h d (List.mem_cons_self ..) hkey
      have hfilled : fill d.1 d.2 env key = some ((env key).getD value) := by
        rw [hkey, hvalue, fill_key]
      exact fillAll_present hfilled
    · have htail : (key, value) ∈ defaults := by
        rcases List.mem_cons.mp hmem with rfl | htail
        · exact absurd rfl hkey
        · exact htail
      have hsame := fill_other (Ne.symm hkey) d.2 env
      rw [← hsame]
      exact ih (fun e he => h e (List.mem_cons_of_mem _ he)) htail

end Defaults
