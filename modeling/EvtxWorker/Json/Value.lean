import Mathlib.Algebra.Group.Nat.Defs

namespace EvtxWorker.Json

inductive Number where
  | posInt (n : UInt64)
  | negInt (n : Int64) (neg : n < 0)
  | float (bits : UInt64)

inductive Value where
  | null
  | bool (b : Bool)
  | number (n : Number)
  | string (s : String)
  | array (items : List Value)
  | object (members : List (String × Value))

namespace Value

def get : Value → String → Option Value
  | .object members, key => members.lookup key
  | _, _ => none

def asI64 : Value → Option Int64
  | .number (.posInt n) => if n.toNat < 2 ^ 63 then some n.toInt64 else none
  | .number (.negInt n _) => some n
  | _ => none

def asU64 : Value → Option UInt64
  | .number (.posInt n) => some n
  | _ => none

def asStr : Value → Option String
  | .string s => some s
  | _ => none

end Value

inductive SameValue : Value → Value → Prop
  | null : SameValue .null .null
  | bool (b : Bool) : SameValue (.bool b) (.bool b)
  | number (n : Number) : SameValue (.number n) (.number n)
  | string (s : String) : SameValue (.string s) (.string s)
  | array {items items' : List Value} : items.length = items'.length →
      (∀ (i : Nat) v w, items[i]? = some v → items'[i]? = some w → SameValue v w) →
      SameValue (.array items) (.array items')
  | object {members members' : List (String × Value)} :
      (∀ key, (members.lookup key).isSome = (members'.lookup key).isSome) →
      (∀ key v w, members.lookup key = some v → members'.lookup key = some w → SameValue v w) →
      SameValue (.object members) (.object members')

theorem sizeOf_of_lookup {members : List (String × Value)} {key : String} {v : Value}
    (h : members.lookup key = some v) : sizeOf v < sizeOf members := by
  obtain ⟨before, after, rfl, -⟩ := List.lookup_eq_some_iff.mp h
  have hmem : (key, v) ∈ before ++ (key, v) :: after := by simp
  have hpair : sizeOf v < sizeOf (key, v) := by
    rw [Prod.mk.sizeOf_spec]
    omega
  exact Nat.lt_trans hpair (List.sizeOf_lt_of_mem hmem)

theorem sameValue_refl (v : Value) : SameValue v v := by
  match v with
  | .null => exact .null
  | .bool b => exact .bool b
  | .number n => exact .number n
  | .string s => exact .string s
  | .array items =>
    refine .array rfl fun i v w hv hw => ?_
    obtain rfl := Option.some_inj.mp (hv.symm.trans hw)
    have hlt := List.sizeOf_lt_of_mem (List.mem_of_getElem? hv)
    exact sameValue_refl v
  | .object members =>
    refine .object (fun _ => rfl) fun key v w hv hw => ?_
    obtain rfl := Option.some_inj.mp (hv.symm.trans hw)
    have hlt := sizeOf_of_lookup hv
    exact sameValue_refl v
termination_by sizeOf v

section Same
variable {α : Type} {v w : Value}

theorem asStr_same (h : SameValue v w) : v.asStr = w.asStr := by cases h <;> rfl

theorem get_same (h : SameValue v w) (key : String) :
    Option.Rel SameValue (v.get key) (w.get key) := by
  cases h with
  | @object members members' hkeys hvalues =>
    have hkey := hkeys key
    rw [Value.get, Value.get]
    cases hv : members.lookup key <;> cases hw : members'.lookup key <;> rw [hv, hw] at hkey
    · exact .none
    · cases hkey
    · cases hkey
    · exact .some (hvalues key _ _ hv hw)
  | _ => exact .none

theorem bind_same {f : Value → Option α} (hf : ∀ v w, SameValue v w → f v = f w)
    {o o' : Option Value} (h : Option.Rel SameValue o o') : o.bind f = o'.bind f := by
  cases h with
  | none => rfl
  | some h => exact hf _ _ h

theorem get_bind_same {f : Value → Option α} (hf : ∀ v w, SameValue v w → f v = f w)
    (h : SameValue v w) (key : String) : (v.get key).bind f = (w.get key).bind f :=
  bind_same hf (get_same h key)

end Same

end EvtxWorker.Json
