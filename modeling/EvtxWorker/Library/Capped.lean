import EvtxWorker.Library.Drain

namespace Unwinding
open Unwind

variable {α σ : Type}

def oks (ps : List (Pull α)) : List α := ps.filterMap Pull.ok?

@[simp] theorem oks_nil : oks ([] : List (Pull α)) = [] := rfl
@[simp] theorem oks_ok (a : α) (ps : List (Pull α)) : oks (.ok a :: ps) = a :: oks ps := rfl
@[simp] theorem oks_err (ps : List (Pull α)) : oks (.err :: ps) = oks ps := rfl
@[simp] theorem oks_panic (ps : List (Pull α)) : oks (.panic :: ps) = oks ps := rfl

@[simp] theorem oks_append (ps qs : List (Pull α)) : oks (ps ++ qs) = oks ps ++ oks qs :=
  List.filterMap_append

theorem oks_replicate (n : Nat) (a : α) :
    oks (List.replicate n (.ok a)) = List.replicate n a := by
  induction n with
  | zero => rfl
  | succ n ih => simpa [List.replicate_succ] using ih

theorem panic_not_mem_replicate (n : Nat) (a : α) :
    Pull.panic ∉ List.replicate n (Pull.ok a) := by
  intro h
  exact absurd (List.eq_of_mem_replicate h) (by simp)

def window : Nat → List (Pull α) → List (Pull α)
  | 0, _ => []
  | _ + 1, [] => []
  | k + 1, .ok a :: ps => .ok a :: window k ps
  | k + 1, .err :: ps => .err :: window (k + 1) ps
  | k + 1, .panic :: ps => .panic :: window (k + 1) ps

def beyond : Nat → List (Pull α) → List (Pull α)
  | 0, ps => ps
  | _ + 1, [] => []
  | k + 1, .ok _ :: ps => beyond k ps
  | k + 1, .err :: ps => beyond (k + 1) ps
  | k + 1, .panic :: ps => beyond (k + 1) ps

theorem window_append_beyond (k : Nat) (ps : List (Pull α)) :
    window k ps ++ beyond k ps = ps := by
  fun_induction window k ps <;> simp_all [beyond]

def reached (k : Nat) (ps : List (Pull α)) : List (Pull α) :=
  window k ps ++ (beyond k ps).take 1

@[simp] theorem reached_nil (k : Nat) : reached k ([] : List (Pull α)) = [] := by
  cases k <;> rfl

@[simp] theorem reached_zero (p : Pull α) (ps : List (Pull α)) : reached 0 (p :: ps) = [p] := rfl

@[simp] theorem reached_ok (k : Nat) (a : α) (ps : List (Pull α)) :
    reached (k + 1) (.ok a :: ps) = .ok a :: reached k ps := rfl

@[simp] theorem reached_err (k : Nat) (ps : List (Pull α)) :
    reached (k + 1) (.err :: ps) = .err :: reached (k + 1) ps := rfl

@[simp] theorem reached_panic (k : Nat) (ps : List (Pull α)) :
    reached (k + 1) (.panic :: ps) = .panic :: reached (k + 1) ps := rfl

theorem mem_of_mem_reached {k : Nat} {ps : List (Pull α)} {p : Pull α} (h : p ∈ reached k ps) :
    p ∈ ps := by
  rw [← window_append_beyond k ps]
  rcases List.mem_append.mp h with hw | hb
  · exact List.mem_append_left _ hw
  · exact List.mem_append_right _ (List.mem_of_mem_take hb)

theorem foldl_snoc {β : Type} (f : α → β) (bs : List β) (as : List α) :
    as.foldl (fun bs a => bs ++ [f a]) bs = bs ++ as.map f := by
  induction as generalizing bs with
  | nil => simp
  | cons a as ih => simp [ih]

section Loops
variable (cap : Nat) (size : σ → Nat) (push : σ → α → σ)

def testFirst (s : σ) (i : Option α) : ForInStep σ :=
  if cap ≤ size s then .done s else .yield (i.elim s (push s))

def testLast (s : σ) (i : Option α) : ForInStep σ :=
  let s' := i.elim s (push s)
  if cap ≤ size s' then .done s' else .yield s'

variable {cap size push}

theorem testFirst_full {s : σ} (h : size s + 0 = cap) (i : Option α) :
    testFirst cap size push s i = .done s := by
  have : cap ≤ size s := by omega
  simp [testFirst, this]

theorem testFirst_room {s : σ} {k : Nat} (h : size s + (k + 1) = cap) (i : Option α) :
    testFirst cap size push s i = .yield (i.elim s (push s)) := by
  have : ¬ cap ≤ size s := by omega
  simp [testFirst, this]

theorem testLast_err {s : σ} {k : Nat} (h : size s + (k + 1) = cap) :
    testLast cap size push s none = .yield s := by
  have : ¬ cap ≤ size s := by omega
  simp [testLast, this]

variable (hsize : ∀ s a, size (push s a) = size s + 1)
include hsize

theorem drain_testFirst_calm {s : σ} {k : Nat} (hk : size s + k = cap) {ps : List (Pull α)}
    (h : .panic ∉ reached k ps) :
    drain (testFirst cap size push) s ps = .ret (((oks ps).take k).foldl push s) := by
  induction ps generalizing s k with
  | nil => simp
  | cons p ps ih =>
    cases k with
    | zero =>
      cases p with
      | panic => simp at h
      | ok a => rw [drain_done ps rfl (testFirst_full hk _)]; simp
      | err => rw [drain_done ps rfl (testFirst_full hk _)]; simp
    | succ k =>
      cases p with
      | panic => simp at h
      | ok a =>
        rw [drain_yield ps rfl (testFirst_room hk _)]
        have hk' : size (push s a) + k = cap := by rw [hsize]; omega
        simpa using ih hk' (by simpa using h)
      | err =>
        rw [drain_yield ps rfl (testFirst_room hk _)]
        simpa using ih hk (by simpa using h)

theorem drain_testFirst_panic {s : σ} {k : Nat} (hk : size s + k = cap) {ps : List (Pull α)}
    (h : .panic ∈ reached k ps) : drain (testFirst cap size push) s ps = .panic := by
  induction ps generalizing s k with
  | nil => simp at h
  | cons p ps ih =>
    cases k with
    | zero =>
      have hp : Pull.panic = p := by simpa using h
      subst hp
      rfl
    | succ k =>
      cases p with
      | panic => rfl
      | ok a =>
        rw [drain_yield ps rfl (testFirst_room hk _)]
        have hk' : size (push s a) + k = cap := by rw [hsize]; omega
        exact ih hk' (by simpa using h)
      | err =>
        rw [drain_yield ps rfl (testFirst_room hk _)]
        exact ih hk (by simpa using h)

theorem testLast_fills {s : σ} (h : size s + (0 + 1) = cap) (a : α) :
    testLast cap size push s (some a) = .done (push s a) := by
  have : cap ≤ size (push s a) := by rw [hsize]; omega
  simp [testLast, this]

theorem testLast_room {s : σ} {k : Nat} (h : size s + (k + 1 + 1) = cap) (a : α) :
    testLast cap size push s (some a) = .yield (push s a) := by
  have : ¬ cap ≤ size (push s a) := by rw [hsize]; omega
  simp [testLast, this]

theorem drain_testLast_calm {s : σ} {k : Nat} (hk : size s + (k + 1) = cap) {ps : List (Pull α)}
    (h : .panic ∉ window (k + 1) ps) :
    drain (testLast cap size push) s ps = .ret (((oks ps).take (k + 1)).foldl push s) := by
  induction ps generalizing s k with
  | nil => simp
  | cons p ps ih =>
    cases p with
    | panic => simp [window] at h
    | err =>
      rw [drain_yield ps rfl (testLast_err hk)]
      simpa using ih hk (by simpa [window] using h)
    | ok a =>
      cases k with
      | zero =>
        rw [drain_done ps rfl (testLast_fills hsize hk a)]
        simp
      | succ k =>
        rw [drain_yield ps rfl (testLast_room hsize hk a)]
        have hk' : size (push s a) + (k + 1) = cap := by rw [hsize]; omega
        simpa using ih hk' (by simpa [window] using h)

theorem drain_testLast_panic {s : σ} {k : Nat} (hk : size s + (k + 1) = cap) {ps : List (Pull α)}
    (h : .panic ∈ window (k + 1) ps) : drain (testLast cap size push) s ps = .panic := by
  induction ps generalizing s k with
  | nil => simp [window] at h
  | cons p ps ih =>
    cases p with
    | panic => rfl
    | err =>
      rw [drain_yield ps rfl (testLast_err hk)]
      exact ih hk (by simpa [window] using h)
    | ok a =>
      cases k with
      | zero => simp [window] at h
      | succ k =>
        rw [drain_yield ps rfl (testLast_room hsize hk a)]
        have hk' : size (push s a) + (k + 1) = cap := by rw [hsize]; omega
        exact ih hk' (by simpa [window] using h)

end Loops

def Overrun (k : Nat) (ps : List (Pull α)) : Prop :=
  ∃ pre a post, ps = pre ++ .ok a :: .panic :: post ∧ .panic ∉ pre ∧ (oks pre).length + 1 = k

theorem window_split {k : Nat} {pre : List (Pull α)} (h : (oks pre).length + 1 = k) (a : α)
    (post : List (Pull α)) :
    window k (pre ++ .ok a :: post) = pre ++ [.ok a] ∧ beyond k (pre ++ .ok a :: post) = post := by
  induction pre generalizing k with
  | nil => subst h; simp [window, beyond]
  | cons p pre ih =>
    cases p with
    | ok b =>
      obtain ⟨k, rfl⟩ : ∃ j, k = j + 1 := ⟨_, h.symm⟩
      simpa [window, beyond] using ih (by simpa using h)
    | err => subst h; simpa [window, beyond] using ih rfl
    | panic => subst h; simpa [window, beyond] using ih rfl

theorem exists_split_of_beyond {k : Nat} {ps post : List (Pull α)} {p : Pull α}
    (h : beyond (k + 1) ps = p :: post) :
    ∃ pre a, ps = pre ++ .ok a :: p :: post ∧ (oks pre).length = k := by
  induction ps generalizing k with
  | nil => simp [beyond] at h
  | cons q ps ih =>
    cases q with
    | err =>
      obtain ⟨pre, a, rfl, hl⟩ := ih (by simpa [beyond] using h)
      exact ⟨.err :: pre, a, rfl, by simpa using hl⟩
    | panic =>
      obtain ⟨pre, a, rfl, hl⟩ := ih (by simpa [beyond] using h)
      exact ⟨.panic :: pre, a, rfl, by simpa using hl⟩
    | ok b =>
      cases k with
      | zero => exact ⟨[], b, by simpa [beyond] using h, rfl⟩
      | succ k =>
        obtain ⟨pre, a, rfl, hl⟩ := ih (by simpa [beyond] using h)
        exact ⟨.ok b :: pre, a, rfl, by simpa using hl⟩

theorem overrun_iff {k : Nat} {ps : List (Pull α)} :
    Overrun (k + 1) ps ↔ .panic ∉ window (k + 1) ps ∧ .panic ∈ reached (k + 1) ps := by
  constructor
  · rintro ⟨pre, a, post, rfl, hcalm, hl⟩
    obtain ⟨hw, hb⟩ := window_split hl a (.panic :: post)
    simp [reached, hw, hb, hcalm]
  · rintro ⟨hw, hr⟩
    have hb : .panic ∈ (beyond (k + 1) ps).take 1 := (List.mem_append.mp hr).resolve_left hw
    cases hbe : beyond (k + 1) ps with
    | nil => simp [hbe] at hb
    | cons p post =>
      have hp : Pull.panic = p := by simpa [hbe] using hb
      subst hp
      obtain ⟨pre, a, rfl, hl⟩ := exists_split_of_beyond hbe
      refine ⟨pre, a, post, rfl, ?_, by omega⟩
      rw [(window_split (by omega) a _).1] at hw
      simpa using hw

end Unwinding
