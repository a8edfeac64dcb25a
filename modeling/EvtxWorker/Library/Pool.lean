import EvtxWorker.Library.Producer
import Mathlib.Algebra.BigOperators.Group.List.Basic

namespace Unwinding
open Unwind

inductive Event (σ : Type) where
  | enter (s : σ)
  | poll (i : Nat)
  | idle

namespace Event
variable {σ : Type}

def enters : Event σ → Bool
  | enter _ => true
  | _ => false

def polls (i : Nat) : Event σ → Bool
  | poll j => j == i
  | _ => false

end Event

variable {σ ε β : Type} (next : σ → Unwind (Except ε (Option β)) × σ)

def advance (pool : List σ) : Event σ → List σ
  | .enter s => pool ++ [s]
  | .poll i => pool.modify i fun s => (next s).2
  | .idle => pool

def outcome (pool : List σ) : Event σ → Option (Nat × Unwind (Except ε (Option β)))
  | .poll i => pool[i]?.map fun s => (i, (next s).1)
  | _ => none

def outcomes : List σ → List (Event σ) → List (Nat × Unwind (Except ε (Option β)))
  | _, [] => []
  | pool, e :: es => (outcome next pool e).toList ++ outcomes (advance next pool e) es

def heard (i : Nat) (outs : List (Nat × Unwind (Except ε (Option β)))) :
    List (Unwind (Except ε (Option β))) :=
  outs.filterMap fun o => if o.1 = i then some o.2 else none

def entered (es : List (Event σ)) : Nat := es.countP Event.enters

def polled (i : Nat) (es : List (Event σ)) : Nat := es.countP (Event.polls i)

section Counting
variable {i j : Nat} {s : σ} {es : List (Event σ)}

@[simp] theorem entered_enter : entered (.enter s :: es) = entered es + 1 :=
  List.countP_cons_of_pos rfl

@[simp] theorem entered_poll : entered (.poll i :: es) = entered es := rfl

@[simp] theorem entered_idle : entered (.idle :: es) = entered es := rfl

@[simp] theorem polled_enter : polled i (.enter s :: es) = polled i es := rfl

@[simp] theorem polled_idle : polled i (.idle :: es) = polled i es := rfl

@[simp] theorem polled_self : polled i (.poll i :: es) = polled i es + 1 :=
  List.countP_cons_of_pos (by simp [Event.polls])

theorem entered_append (es es' : List (Event σ)) : entered (es ++ es') = entered es + entered es' :=
  List.countP_append

theorem exists_enter {n : Nat} (h : n < entered es) :
    ∃ before s after, es = before ++ .enter s :: after ∧ entered before = n := by
  induction es generalizing n with
  | nil => cases h
  | cons e es ih =>
    cases e with
    | enter s =>
      cases n with
      | zero => exact ⟨[], s, es, rfl, rfl⟩
      | succ n =>
        obtain ⟨before, t, after, rfl, rfl⟩ := ih (Nat.lt_of_succ_lt_succ (by simpa using h))
        exact ⟨.enter s :: before, t, after, rfl, entered_enter⟩
    | poll j =>
      obtain ⟨before, t, after, rfl, rfl⟩ := ih h
      exact ⟨.poll j :: before, t, after, rfl, rfl⟩
    | idle =>
      obtain ⟨before, t, after, rfl, rfl⟩ := ih h
      exact ⟨.idle :: before, t, after, rfl, rfl⟩

end Counting

section Runs
variable {next} {i j : Nat} {s : σ} {pool : List σ} {e : Event σ} {es es' : List (Event σ)}

theorem advance_length : (advance next pool e).length = pool.length + entered [e] := by
  cases e <;> simp [advance, entered, Event.enters]

theorem foldl_advance_length (pool : List σ) (es : List (Event σ)) :
    (es.foldl (advance next) pool).length = pool.length + entered es := by
  induction es generalizing pool with
  | nil => rfl
  | cons e es ih =>
    have hcons : entered (e :: es) = entered [e] + entered es := entered_append [e] es
    rw [List.foldl_cons, ih, advance_length, hcons, Nat.add_assoc]

theorem outcomes_append (pool : List σ) (es es' : List (Event σ)) :
    outcomes next pool (es ++ es') =
      outcomes next pool es ++ outcomes next (es.foldl (advance next) pool) es' := by
  induction es generalizing pool with
  | nil => rfl
  | cons e es ih =>
    rw [List.cons_append, outcomes, outcomes, ih, List.append_assoc, List.foldl_cons]

theorem heard_append (i : Nat) (outs outs' : List (Nat × Unwind (Except ε (Option β)))) :
    heard i (outs ++ outs') = heard i outs ++ heard i outs' := List.filterMap_append

theorem mem_heard {o : Unwind (Except ε (Option β))}
    {outs : List (Nat × Unwind (Except ε (Option β)))} : o ∈ heard i outs ↔ (i, o) ∈ outs := by
  simp [heard]

theorem heard_other (h : e.polls i = false) : heard i (outcome next pool e).toList = [] := by
  cases e with
  | enter t => rfl
  | idle => rfl
  | poll j =>
    have hne : j ≠ i := by simpa [Event.polls] using h
    rw [outcome]
    cases pool[j]? <;> simp [heard, hne]

theorem heard_self (h : pool[i]? = some s) :
    heard i (outcome next pool (.poll i)).toList = [(next s).1] := by
  simp [outcome, h, heard]

theorem advance_other (h : pool[i]? = some s) (he : e.polls i = false) :
    (advance next pool e)[i]? = some s := by
  cases e with
  | enter t => rw [advance, List.getElem?_append_left (List.getElem?_eq_some_iff.mp h).1, h]
  | idle => exact h
  | poll j =>
    have hne : j ≠ i := by simpa [Event.polls] using he
    rw [advance, List.getElem?_modify_ne _ _ hne, h]

theorem advance_self (h : pool[i]? = some s) :
    (advance next pool (.poll i))[i]? = some (next s).2 := by
  rw [advance, List.getElem?_modify_eq, h]
  rfl

theorem heard_present (h : pool[i]? = some s) (es : List (Event σ)) :
    heard i (outcomes next pool es) = calls next (polled i es) s := by
  induction es generalizing pool s with
  | nil => rfl
  | cons e es ih =>
    rw [outcomes, heard_append]
    cases he : e.polls i with
    | false =>
      have hpolled : polled i (e :: es) = polled i es := List.countP_cons_of_neg (by simp [he])
      rw [heard_other he, List.nil_append, ih (advance_other h he), hpolled]
    | true =>
      obtain rfl : e = .poll i := by
        cases e with
        | poll j => simpa [Event.polls] using he
        | enter t | idle => cases he
      rw [heard_self h, ih (advance_self h), polled_self, calls]
      rfl

theorem heard_absent (h : pool.length + entered es ≤ i) : heard i (outcomes next pool es) = [] := by
  induction es generalizing pool with
  | nil => rfl
  | cons e es ih =>
    have hcons : entered (e :: es) = entered [e] + entered es := entered_append [e] es
    have hhead : heard i (outcome next pool e).toList = [] := by
      cases e with
      | enter t => rfl
      | idle => rfl
      | poll j =>
        rw [outcome]
        cases hj : pool[j]? with
        | none => rfl
        | some t =>
          have hlt := (List.getElem?_eq_some_iff.mp hj).1
          have hne : j ≠ i := by omega
          simp [heard, hne]
    rw [outcomes, heard_append, hhead, List.nil_append]
    exact ih (by rw [advance_length]; omega)

theorem heard_entered (h : pool.length + entered es = i) (s : σ) (es' : List (Event σ)) :
    heard i (outcomes next pool (es ++ .enter s :: es')) = calls next (polled i es') s := by
  have hslot : (advance next (es.foldl (advance next) pool) (.enter s))[i]? = some s := by
    have hlen : (es.foldl (advance next) pool).length = i := by rw [foldl_advance_length, h]
    rw [advance, List.getElem?_append_right (Nat.le_of_eq hlen), hlen,
      Nat.sub_self]
    rfl
  rw [outcomes_append, heard_append, heard_absent (Nat.le_of_eq h), outcomes, List.nil_append]
  exact heard_present hslot es'

theorem mem_calls_once {s : σ} {o : Unwind (Except ε (Option β))} {n : Nat}
    (h : next (next s).2 = (.ret (.ok none), (next s).2)) (ho : o ≠ .ret (.ok none)) :
    o ∈ calls next n s ↔ 0 < n ∧ (next s).1 = o := by
  cases n with
  | zero => simp [calls]
  | succ n => simp [calls, calls_exhausted h, ho, eq_comm]

theorem mem_outcomes_iff {i : Nat} {o : Unwind (Except ε (Option β))} :
    (i, o) ∈ outcomes next [] es ↔ ∃ before s after, es = before ++ .enter s :: after ∧
      entered before = i ∧ o ∈ calls next (polled i after) s := by
  rw [← mem_heard]
  constructor
  · intro hheard
    have hlt : i < entered es := by
      by_contra hle
      rw [heard_absent (by simpa using hle)] at hheard
      cases hheard
    obtain ⟨before, s, after, rfl, rfl⟩ := exists_enter hlt
    rw [heard_entered (Nat.zero_add _)] at hheard
    exact ⟨before, s, after, rfl, rfl, hheard⟩
  · rintro ⟨before, s, after, rfl, rfl, hcall⟩
    rwa [heard_entered (Nat.zero_add _)]

theorem mem_outcomes_once {i : Nat} {o : Unwind (Except ε (Option β))}
    (honce : ∀ s, .enter s ∈ es → next (next s).2 = (.ret (.ok none), (next s).2))
    (ho : o ≠ .ret (.ok none)) :
    (i, o) ∈ outcomes next [] es ↔ ∃ before s after, es = before ++ .enter s :: after ∧
      entered before = i ∧ 0 < polled i after ∧ (next s).1 = o := by
  rw [mem_outcomes_iff]
  constructor
  · rintro ⟨before, s, after, rfl, hi, hcall⟩
    exact ⟨before, s, after, rfl, hi, (mem_calls_once (honce s (by simp)) ho).mp hcall⟩
  · rintro ⟨before, s, after, rfl, hi, hcall⟩
    exact ⟨before, s, after, rfl, hi, (mem_calls_once (honce s (by simp)) ho).mpr hcall⟩

theorem advance_forall {P : σ → Prop} (hnext : ∀ s, P s → P (next s).2)
    (hpool : ∀ s ∈ pool, P s) (henter : ∀ s, e = .enter s → P s) :
    ∀ s ∈ advance next pool e, P s := by
  intro s hs
  cases e with
  | enter t =>
    rcases List.mem_append.mp hs with hs | hs
    · exact hpool s hs
    · obtain rfl := List.mem_singleton.mp hs
      exact henter s rfl
  | idle => exact hpool s hs
  | poll i =>
    obtain ⟨j, hj⟩ := List.mem_iff_getElem?.mp hs
    rw [advance, List.getElem?_modify] at hj
    obtain ⟨t, ht, hst⟩ := Option.map_eq_some_iff.mp hj
    have hP := hpool t (List.mem_of_getElem? ht)
    split_ifs at hst
    · exact hst ▸ hnext t hP
    · exact hst ▸ hP

theorem run_forall (P : σ → Prop) (hnext : ∀ s, P s → P (next s).2)
    (hpool : ∀ s ∈ pool, P s) (henter : ∀ s, .enter s ∈ es → P s) :
    ∀ s ∈ es.foldl (advance next) pool, P s := by
  induction es generalizing pool with
  | nil => exact hpool
  | cons e es ih =>
    apply ih (advance_forall hnext hpool fun s hs => henter s (by simp [hs]))
    exact fun s hs => henter s (List.mem_cons_of_mem _ hs)

end Runs

section Ledger
variable {M : Type} [AddCommMonoid M] (value : σ → M) (gain : Unwind (Except ε (Option β)) → M)

def holding (pool : List σ) : M := (pool.map value).sum

def gains (outs : List (Nat × Unwind (Except ε (Option β)))) : M :=
  (outs.map fun o => gain o.2).sum

variable {value gain} {next} {pool : List σ} {e : Event σ} {es : List (Event σ)}

theorem gains_append (outs outs' : List (Nat × Unwind (Except ε (Option β)))) :
    gains gain (outs ++ outs') = gains gain outs + gains gain outs' := by
  rw [gains, gains, gains, List.map_append, List.sum_append]

variable (hstep : ∀ s, value (next s).2 = value s + gain (next s).1)
include hstep

theorem holding_poll (pool : List σ) (i : Nat) :
    holding value (advance next pool (.poll i)) =
      holding value pool + gains gain (outcome next pool (.poll i)).toList := by
  simp only [advance, outcome]
  induction pool generalizing i with
  | nil => simp [holding, gains]
  | cons s pool ih =>
    cases i with
    | zero => simp [holding, gains, hstep, add_right_comm]
    | succ i =>
      have hrest := ih i
      simp only [holding] at hrest ⊢
      rw [List.modify_succ_cons, List.map_cons, List.sum_cons, hrest, List.map_cons, List.sum_cons,
        List.getElem?_cons_succ, add_assoc]
      cases pool[i]? <;> rfl

theorem holding_advance (henter : ∀ s, e = .enter s → value s = 0) :
    holding value (advance next pool e) =
      holding value pool + gains gain (outcome next pool e).toList := by
  cases e with
  | enter s => simp [advance, outcome, holding, gains, henter s rfl]
  | poll i => exact holding_poll hstep pool i
  | idle => simp [advance, outcome, gains]

theorem holding_run (henter : ∀ s, .enter s ∈ es → value s = 0) (pool : List σ) :
    holding value (es.foldl (advance next) pool) =
      holding value pool + gains gain (outcomes next pool es) := by
  induction es generalizing pool with
  | nil => simp [outcomes, gains]
  | cons e es ih =>
    have hrest := ih (fun s hs => henter s (List.mem_cons_of_mem _ hs)) (advance next pool e)
    rw [List.foldl_cons, hrest, holding_advance hstep fun s hs => henter s (by simp [hs]),
      outcomes, gains_append, add_assoc]

end Ledger

end Unwinding
