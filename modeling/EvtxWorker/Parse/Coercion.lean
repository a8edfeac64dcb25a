import EvtxWorker.Json.Decimal
import EvtxWorker.Library.Signed
import EvtxWorker.Parse.Row

namespace EvtxWorker.Parse
open Json Signed

inductive Denotes : Value → Int → Prop
  | unsigned (u : UInt64) : Denotes (.number (.posInt u)) u.toNat
  | signed (i : Int64) (neg : i < 0) : Denotes (.number (.negInt i neg)) i.toInt
  | text {s z} : DecimalText (trim s).toList z → Denotes (.string s) z

inductive Scalar : Value → Prop
  | number (k : Number) : Scalar (.number k)
  | string (s : String) : Scalar (.string s)

inductive Form (z : Int) : Value → Prop
  | unsigned {u : UInt64} : u.toNat = z → Form z (.number (.posInt u))
  | signed {i : Int64} {neg : i < 0} : i.toInt = z → Form z (.number (.negInt i neg))
  | beyond {bits : UInt64} : z < -2 ^ 63 ∨ 2 ^ 64 ≤ z → Form z (.number (.float bits))
  | text {before body after} : (∀ c ∈ before, isWhitespace c) → (∀ c ∈ after, isWhitespace c) →
      DecimalText body z → Form z (.string (String.ofList (before ++ body ++ after)))

inductive EventIdForm (z : Int) : Value → Prop
  | bare {v} : Form z v → EventIdForm z v
  | text {members v} : members.lookup "#text" = some v → Form z v → EventIdForm z (.object members)

theorem valueAsI32_unsigned (u : UInt64) :
    valueAsI32 (.number (.posInt u)) = i32TryFrom u.toNat := by
  by_cases hu : u.toNat < 2 ^ 63
  · have hi : (Value.number (.posInt u)).asI64 = some u.toInt64 := if_pos hu
    simp only [valueAsI32, hi, toInt64_low hu]
  · have hi : (Value.number (.posInt u)).asI64 = none := if_neg hu
    simp only [valueAsI32, hi, Value.asU64]

theorem valueAsI32_string (s : String) : valueAsI32 (.string s) = parseI32 (trim s) := by
  simp only [valueAsI32, Value.asI64, Value.asU64, Value.asStr, Option.bind_some]

theorem valueAsI32_text {s : String} {z : Int} (h : DecimalText (trim s).toList z) :
    valueAsI32 (.string s) = i32TryFrom z := by
  ext n
  rw [valueAsI32_string, parseI32_eq_some, i32TryFrom_eq_some]
  constructor
  · intro hn
    exact decimalText_unique hn h
  · rintro rfl
    exact h

theorem valueAsI32_of_denotes {v : Value} {z : Int} (h : Denotes v z) :
    valueAsI32 v = i32TryFrom z := by
  cases h with
  | unsigned u => exact valueAsI32_unsigned u
  | signed i neg => rfl
  | text h => exact valueAsI32_text h

theorem denotes_of_valueAsI32 {v : Value} {n : Int32} (h : valueAsI32 v = some n) :
    Denotes v n.toInt := by
  cases v with
  | number k =>
    cases k with
    | posInt u =>
      rw [valueAsI32_unsigned] at h
      exact i32TryFrom_eq_some.mp h ▸ .unsigned u
    | negInt i neg => exact i32TryFrom_eq_some.mp h ▸ .signed i neg
    | float bits => cases h
  | string s =>
    rw [valueAsI32_string] at h
    exact .text (parseI32_eq_some.mp h)
  | null => cases h
  | bool b => cases h
  | array items => cases h
  | object members => cases h

theorem valueAsI32_eq_some {v : Value} {n : Int32} :
    valueAsI32 v = some n ↔ Denotes v n.toInt := by
  constructor
  · exact denotes_of_valueAsI32
  · intro h
    rw [valueAsI32_of_denotes h, i32TryFrom_eq_some]

theorem valueAsI32_eq_none {v : Value} :
    valueAsI32 v = none ↔ ∀ z, Denotes v z → ¬ InI32 z := by
  constructor
  · intro hnone z hv hz
    rw [valueAsI32_of_denotes hv, i32TryFrom_eq_none] at hnone
    exact hnone hz
  · intro h
    cases hv : valueAsI32 v with
    | none => rfl
    | some n => exact absurd (inI32_toInt n) (h _ (valueAsI32_eq_some.mp hv))

theorem valueAsI32_of_form {v : Value} {z : Int} (h : Form z v) : valueAsI32 v = i32TryFrom z := by
  cases h with
  | unsigned hz => exact hz ▸ valueAsI32_unsigned _
  | signed hz => exact hz ▸ rfl
  | beyond hz =>
    have hout : ¬ InI32 z := by
      rintro ⟨hlo, hhi⟩
      omega
    rw [i32TryFrom_eq_none.mpr hout]
    rfl
  | text hbefore hafter hbody =>
    obtain ⟨hne, hsolid⟩ := decimalText_solid hbody
    apply valueAsI32_text
    rw [trim_surrounded hbefore hafter hne hsolid, String.toList_ofList]
    exact hbody

theorem intField_of_form {system v : Value} {key : String} {z : Int} (hv : Form z v)
    (hkey : system.get key = some v) : intField system key = i32TryFrom z := by
  rw [intField, hkey, Option.bind_some, valueAsI32_of_form hv]

theorem scalar_get {v : Value} (h : Scalar v) (key : String) : v.get key = none := by
  cases h <;> rfl

theorem form_scalar {v : Value} {z : Int} (h : Form z v) : Scalar v := by
  cases h with
  | unsigned _ => exact .number _
  | signed _ => exact .number _
  | beyond _ => exact .number _
  | text _ _ _ => exact .string _

theorem extractEventId_eq {system v : Value} (hv : system.get "EventID" = some v) :
    extractEventId system = (valueAsI32 v).or ((v.get "#text").bind valueAsI32) := by
  rw [extractEventId, hv]
  rfl

theorem extractEventId_bare {system v : Value} (hs : Scalar v)
    (hv : system.get "EventID" = some v) : extractEventId system = valueAsI32 v := by
  rw [extractEventId_eq hv, scalar_get hs, Option.bind_none, Option.or_none]

theorem extractEventId_text {system v : Value} {members : List (String × Value)}
    (htext : members.lookup "#text" = some v) (hv : system.get "EventID" = some (.object members)) :
    extractEventId system = valueAsI32 v := by
  rw [extractEventId_eq hv, Value.get, htext, Option.bind_some]
  rfl

theorem extractEventId_of_form {system v : Value} {z : Int} (hv : EventIdForm z v)
    (hkey : system.get "EventID" = some v) : extractEventId system = i32TryFrom z := by
  cases hv with
  | bare hv => rw [extractEventId_bare (form_scalar hv) hkey, valueAsI32_of_form hv]
  | text htext hv => rw [extractEventId_text htext hkey, valueAsI32_of_form hv]

theorem integer_coercion_exact :
    (∀ v (n : Int32), valueAsI32 v = some n ↔ Denotes v n.toInt) ∧
    (∀ v, valueAsI32 v = none ↔ ∀ z, Denotes v z → ¬ InI32 z) ∧
    (∀ z v system key, Form z v → system.get key = some v →
      intField system key = i32TryFrom z) ∧
    ∀ z v system, EventIdForm z v → system.get "EventID" = some v →
      extractEventId system = i32TryFrom z :=
  ⟨fun _ _ => valueAsI32_eq_some, fun _ => valueAsI32_eq_none,
    fun _ _ _ _ => intField_of_form, fun _ _ _ => extractEventId_of_form⟩

theorem integer_coercion_exact_padded :
    extractEventId (.object [("EventID", .object [("#text", .string "\t+04624 ")])]) =
      some 4624 := by
  have hdigits : IsDigits ['0', '4', '6', '2', '4'] :=
    ⟨List.cons_ne_nil _ _, List.all_eq_true.mp rfl⟩
  have hvalue : decimalValue ['0', '4', '6', '2', '4'] = 4624 := by decide
  have hbody : DecimalText "+04624".toList 4624 := by
    have hplus := DecimalText.plus hdigits
    rwa [hvalue] at hplus
  have hform : Form 4624 (.string "\t+04624 ") :=
    @Form.text 4624 ['\t'] _ [' '] (List.forall_mem_singleton.mpr rfl)
      (List.forall_mem_singleton.mpr rfl) hbody
  exact integer_coercion_exact.2.2.2 4624 _ _ (.text rfl hform) rfl

end EvtxWorker.Parse
