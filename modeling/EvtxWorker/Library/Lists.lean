import Mathlib.Data.List.DropRight

namespace Lists

section Stripping
variable {α : Type} {p : α → Bool} {before body after : List α}

theorem dropWhile_surrounded (hbefore : ∀ c ∈ before, p c) (hne : body ≠ [])
    (hbody : ∀ c ∈ body, p c = false) : (before ++ body ++ after).dropWhile p = body ++ after := by
  obtain ⟨c, cs, rfl⟩ := List.exists_cons_of_ne_nil hne
  have hhead : p c = false := hbody c (List.mem_cons_self ..)
  rw [List.append_assoc, List.dropWhile_append_of_pos hbefore, List.cons_append,
    List.dropWhile_cons_of_neg (by simp [hhead])]

theorem strip_surrounded (hbefore : ∀ c ∈ before, p c) (hafter : ∀ c ∈ after, p c)
    (hne : body ≠ []) (hbody : ∀ c ∈ body, p c = false) :
    ((before ++ body ++ after).dropWhile p).rdropWhile p = body := by
  have hback := @dropWhile_surrounded _ p after.reverse body.reverse [] (by simpa using hafter)
    (by simpa using hne) (by simpa using hbody)
  have hreversed : (body ++ after).reverse.dropWhile p = body.reverse := by simpa using hback
  rw [dropWhile_surrounded hbefore hne hbody, List.rdropWhile, hreversed, List.reverse_reverse]

theorem strip_padded (hbefore : ∀ c ∈ before, p c) (hafter : ∀ c ∈ after, p c) (body : List α) :
    ((before ++ body ++ after).dropWhile p).rdropWhile p = (body.dropWhile p).rdropWhile p := by
  have hreversed : ∀ c ∈ after.reverse, p c := by simpa using hafter
  rw [List.append_assoc, List.dropWhile_append_of_pos hbefore, List.dropWhile_append]
  split_ifs with hblank
  · rw [List.isEmpty_iff] at hblank
    rw [hblank, List.dropWhile_eq_nil_iff.mpr hafter]
  · rw [List.rdropWhile, List.reverse_append, List.dropWhile_append_of_pos hreversed,
      List.rdropWhile]

end Stripping

section Members
variable {κ ν : Type} [DecidableEq κ] {key other : κ}

def replaceValue (key : κ) (w : ν) (members : List (κ × ν)) : List (κ × ν) :=
  members.map fun m => if m.1 = key then (m.1, w) else m

theorem lookup_past (h : other ≠ key) (x : ν) (members : List (κ × ν)) :
    List.lookup other ((key, x) :: members) = members.lookup other := by
  rw [List.lookup_cons, beq_false_of_ne h]

theorem lookup_replaceValue {members : List (κ × ν)} {v : ν} (w : ν)
    (h : members.lookup key = some v) :
    (replaceValue key w members).lookup key = some w := by
  induction members with
  | nil => cases h
  | cons m members ih =>
    obtain ⟨name, x⟩ := m
    rw [replaceValue, List.map_cons]
    by_cases hname : name = key
    · rw [if_pos hname, hname, List.lookup_cons_self]
    · rw [if_neg hname, lookup_past (Ne.symm hname)]
      rw [lookup_past (Ne.symm hname)] at h
      exact ih h

theorem lookup_replaceValue_ne (h : other ≠ key) (w : ν) (members : List (κ × ν)) :
    (replaceValue key w members).lookup other = members.lookup other := by
  induction members with
  | nil => rfl
  | cons m members ih =>
    obtain ⟨name, x⟩ := m
    rw [replaceValue, List.map_cons]
    by_cases hname : name = key
    · rw [if_pos hname, hname, lookup_past h, lookup_past h]
      exact ih
    · rw [if_neg hname]
      by_cases hother : other = name
      · rw [hother, List.lookup_cons_self, List.lookup_cons_self]
      · rw [lookup_past hother, lookup_past hother]
        exact ih

end Members
end Lists
