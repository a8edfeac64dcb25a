import EvtxWorker.Library.Capped

namespace Unwinding
open Unwind

variable {α σ τ : Type}

def consumed (body : σ → Option α → ForInStep σ) : σ → List (Pull α) → List (Pull α)
  | _, [] => []
  | s, p :: ps =>
    p :: match p.item with
      | .panic => []
      | .ret i =>
        match body s i with
        | .yield s' => consumed body s' ps
        | .done _ => []

section Loop
variable {body : σ → Option α → ForInStep σ} {s s' : σ} {p : Pull α} {i : Option α}

@[simp] theorem consumed_nil (body : σ → Option α → ForInStep σ) (s : σ) :
    consumed body s [] = [] := rfl

@[simp] theorem consumed_panic (body : σ → Option α → ForInStep σ) (s : σ) (ps : List (Pull α)) :
    consumed body s (.panic :: ps) = [.panic] := rfl

theorem consumed_yield (ps : List (Pull α)) (hp : p.item = .ret i) (h : body s i = .yield s') :
    consumed body s (p :: ps) = p :: consumed body s' ps := by
  simp [consumed, hp, h]

theorem consumed_done (ps : List (Pull α)) (hp : p.item = .ret i) (h : body s i = .done s') :
    consumed body s (p :: ps) = [p] := by
  simp [consumed, hp, h]

theorem consumed_initial (body : σ → Option α → ForInStep σ) (s : σ) (ps : List (Pull α)) :
    consumed body s ps <+: ps := by
  induction ps generalizing s with
  | nil => exact List.prefix_refl _
  | cons p ps ih =>
    cases hp : p.item with
    | panic => simp [consumed, hp]
    | ret i =>
      cases h : body s i with
      | done s' => simp [consumed_done ps hp h]
      | yield s' =>
        rw [consumed_yield ps hp h, List.prefix_cons_inj]
        exact ih s'

theorem drain_between {ps qs : List (Pull α)} (hpulled : consumed body s ps <+: qs)
    (hqs : qs <+: ps) : drain body s qs = drain body s ps := by
  induction ps generalizing s qs with
  | nil => rw [List.prefix_nil.mp hqs]
  | cons p ps ih =>
    cases qs with
    | nil => simp [consumed] at hpulled
    | cons q qs =>
      obtain ⟨rfl, hrest⟩ := List.cons_prefix_cons.mp hqs
      cases hq : q.item with
      | panic => simp [drain, hq]
      | ret i =>
        cases hbody : body s i with
        | done s' => rw [drain_done _ hq hbody, drain_done _ hq hbody]
        | yield s' =>
          rw [consumed_yield ps hq hbody, List.prefix_cons_inj] at hpulled
          rw [drain_yield _ hq hbody, drain_yield _ hq hbody, ih hpulled hrest]

theorem drain_poisoned {ps : List (Pull α)} {n : Nat} (h : n < (consumed body s ps).length) :
    drain body s (ps.set n .panic) = .panic := by
  induction ps generalizing s n with
  | nil => cases h
  | cons p ps ih =>
    cases n with
    | zero => rfl
    | succ n =>
      rw [List.set_cons_succ]
      cases hp : p.item with
      | panic => simp [drain, hp]
      | ret i =>
        cases hbody : body s i with
        | done s' => simp [consumed_done ps hp hbody] at h
        | yield s' =>
          rw [drain_yield _ hp hbody]
          exact ih (by simpa [consumed_yield ps hp hbody] using h)

theorem drain_spared {ps : List (Pull α)} {n : Nat} (h : (consumed body s ps).length ≤ n)
    (p : Pull α) : drain body s (ps.set n p) = drain body s ps := by
  induction ps generalizing s n with
  | nil => rfl
  | cons q ps ih =>
    cases n with
    | zero => simp [consumed] at h
    | succ n =>
      rw [List.set_cons_succ]
      cases hq : q.item with
      | panic => simp [drain, hq]
      | ret i =>
        cases hbody : body s i with
        | done s' => rw [drain_done _ hq hbody, drain_done _ hq hbody]
        | yield s' =>
          rw [drain_yield _ hq hbody, drain_yield _ hq hbody]
          exact ih (by simpa [consumed_yield ps hq hbody] using h)

end Loop

structure ExactPulls (body : σ → Option α → ForInStep σ) (s : σ) (ps pulled : List (Pull α)) :
    Prop where
  initial : pulled <+: ps
  enough : drain body s pulled = drain body s ps
  felt : ∀ i < pulled.length, drain body s (ps.set i .panic) = .panic
  unseen : ∀ i p, pulled.length ≤ i → drain body s (ps.set i p) = drain body s ps

theorem consumed_exact (body : σ → Option α → ForInStep σ) (s : σ) (ps : List (Pull α)) :
    ExactPulls body s ps (consumed body s ps) where
  initial := consumed_initial body s ps
  enough := drain_between (List.prefix_refl _) (consumed_initial body s ps)
  felt _ h := drain_poisoned h
  unseen _ p h := drain_spared h p

theorem consumed_related {Y D : σ → τ → Prop} {f : σ → Option α → ForInStep σ}
    {g : τ → Option α → ForInStep τ} (hstep : ∀ s t i, Y s t → StepRelated Y D (f s i) (g t i))
    {s : σ} {t : τ} (h : Y s t) (ps : List (Pull α)) : consumed f s ps = consumed g t ps := by
  induction ps generalizing s t with
  | nil => rfl
  | cons p ps ih =>
    cases hp : p.item with
    | panic => simp [consumed, hp]
    | ret i =>
      have hi := hstep s t i h
      cases hf : f s i <;> cases hg : g t i <;> rw [hf, hg] at hi <;> cases hi
      · rw [consumed_done ps hp hf, consumed_done ps hp hg]
      · rw [consumed_yield ps hp hf, consumed_yield ps hp hg, ih ‹_›]

def untilPanic : List (Pull α) → List (Pull α)
  | [] => []
  | .panic :: _ => [.panic]
  | p :: ps => p :: untilPanic ps

@[simp] theorem untilPanic_nil : untilPanic ([] : List (Pull α)) = [] := rfl
@[simp] theorem untilPanic_ok (a : α) (ps : List (Pull α)) :
    untilPanic (.ok a :: ps) = .ok a :: untilPanic ps := rfl
@[simp] theorem untilPanic_err (ps : List (Pull α)) :
    untilPanic (.err :: ps) = .err :: untilPanic ps := rfl
@[simp] theorem untilPanic_panic (ps : List (Pull α)) : untilPanic (.panic :: ps) = [.panic] := rfl

theorem untilPanic_calm {ps : List (Pull α)} (h : .panic ∉ ps) : untilPanic ps = ps := by
  induction ps with
  | nil => rfl
  | cons p ps ih =>
    have hps := ih fun hmem => h (List.mem_cons_of_mem _ hmem)
    cases p with
    | panic => simp at h
    | ok a => rw [untilPanic_ok, hps]
    | err => rw [untilPanic_err, hps]

theorem untilPanic_initial (ps : List (Pull α)) : untilPanic ps <+: ps := by
  induction ps with
  | nil => exact List.prefix_refl _
  | cons p ps ih => cases p <;> simp [ih]

theorem panic_mem_untilPanic {ps : List (Pull α)} (h : .panic ∈ ps) : .panic ∈ untilPanic ps := by
  induction ps with
  | nil => cases h
  | cons p ps ih =>
    cases p with
    | panic => simp
    | ok a | err => simpa using ih (by simpa using h)

theorem untilPanic_append (ps qs : List (Pull α)) :
    untilPanic ps <+: untilPanic (ps ++ qs) ∧
      (untilPanic (ps ++ qs)).length ≤ (untilPanic ps).length + qs.length := by
  induction ps with
  | nil => exact ⟨List.nil_prefix, by simpa using (untilPanic_initial qs).length_le⟩
  | cons p ps ih =>
    obtain ⟨hinitial, hlen⟩ := ih
    cases p with
    | panic => exact ⟨List.prefix_refl _, Nat.le_add_right _ _⟩
    | ok a | err =>
      refine ⟨by simpa using hinitial, ?_⟩
      simp only [List.cons_append, untilPanic_ok, untilPanic_err, List.length_cons]
      omega

theorem oks_length_window (k : Nat) (ps : List (Pull α)) : (oks (window k ps)).length ≤ k := by
  fun_induction window k ps <;> simp_all

theorem window_full {k : Nat} {ps : List (Pull α)} (h : k ≤ (oks ps).length) :
    (oks (window k ps)).length = k := by
  fun_induction window k ps <;> simp_all

theorem window_short {k : Nat} {ps : List (Pull α)} (h : (oks ps).length < k) :
    window k ps = ps := by
  fun_induction window k ps <;> simp_all

theorem window_prefix_append (k : Nat) (ps qs : List (Pull α)) :
    window k ps <+: window k (ps ++ qs) := by
  fun_induction window k ps <;> simp_all [window]

theorem reached_prefix_append (k : Nat) (ps qs : List (Pull α)) :
    reached k ps <+: reached k (ps ++ qs) := by
  induction ps generalizing k with
  | nil => simp
  | cons p ps ih =>
    cases k with
    | zero => simp
    | succ k =>
      cases p with
      | ok a => simpa using ih k
      | err | panic => simpa using ih (k + 1)

section Caps
variable {cap : Nat} {size : σ → Nat} {push : σ → α → σ}
  (hsize : ∀ s a, size (push s a) = size s + 1)
include hsize

theorem consumed_testFirst {s : σ} {k : Nat} (hk : size s + k = cap) (ps : List (Pull α)) :
    consumed (testFirst cap size push) s ps = untilPanic (reached k ps) := by
  induction ps generalizing s k with
  | nil => simp
  | cons p ps ih =>
    cases k with
    | zero =>
      cases p with
      | panic => rfl
      | ok a => rw [consumed_done ps rfl (testFirst_full hk _)]; rfl
      | err => rw [consumed_done ps rfl (testFirst_full hk _)]; rfl
    | succ k =>
      cases p with
      | panic => rfl
      | ok a =>
        have hk' : size (push s a) + k = cap := by rw [hsize]; omega
        rw [consumed_yield ps rfl (testFirst_room hk _), reached_ok, untilPanic_ok]
        exact congrArg _ (ih hk')
      | err =>
        rw [consumed_yield ps rfl (testFirst_room hk _), reached_err, untilPanic_err]
        exact congrArg _ (ih hk)

theorem consumed_testLast {s : σ} {k : Nat} (hk : size s + (k + 1) = cap) (ps : List (Pull α)) :
    consumed (testLast cap size push) s ps = untilPanic (window (k + 1) ps) := by
  induction ps generalizing s k with
  | nil => rfl
  | cons p ps ih =>
    cases p with
    | panic => rfl
    | err =>
      rw [consumed_yield ps rfl (testLast_err hk), window, untilPanic_err]
      exact congrArg _ (ih hk)
    | ok a =>
      cases k with
      | zero =>
        rw [consumed_done ps rfl (testLast_fills hsize hk a)]
        simp [window]
      | succ k =>
        have hk' : size (push s a) + (k + 1) = cap := by rw [hsize]; omega
        rw [consumed_yield ps rfl (testLast_room hsize hk a), window, untilPanic_ok]
        exact congrArg _ (ih hk')

end Caps

end Unwinding
