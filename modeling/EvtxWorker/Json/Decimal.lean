import EvtxWorker.Library.Lists
import EvtxWorker.Library.Numeral
import EvtxWorker.Json.Text

namespace EvtxWorker.Json
open Lists Numeral

def InI32 (n : Int) : Prop := -2 ^ 31 ≤ n ∧ n < 2 ^ 31

instance : DecidablePred InI32 := fun n => inferInstanceAs (Decidable (-2 ^ 31 ≤ n ∧ n < 2 ^ 31))

def decimalValue (digits : List Char) : Nat :=
  Nat.ofDigits 10 (digits.reverse.map fun c => c.toNat - '0'.toNat)

def IsDigits (digits : List Char) : Prop := digits ≠ [] ∧ ∀ c ∈ digits, c.isDigit = true

inductive DecimalText : List Char → Int → Prop
  | plain {digits} : IsDigits digits → DecimalText digits (decimalValue digits)
  | plus {digits} : IsDigits digits → DecimalText ('+' :: digits) (decimalValue digits)
  | minus {digits} : IsDigits digits → DecimalText ('-' :: digits) (-decimalValue digits)

theorem inI32_toInt (n : Int32) : InI32 n.toInt :=
  ⟨n.le_toInt, n.toInt_lt⟩

theorem toInt_ofInt {z : Int} (h : InI32 z) : (Int32.ofInt z).toInt = z := by
  obtain ⟨hlo, hhi⟩ := h
  exact Int32.toInt_ofInt_of_le hlo hhi

theorem i32TryFrom_eq_some {z : Int} {n : Int32} : i32TryFrom z = some n ↔ n.toInt = z := by
  constructor
  · intro h
    obtain ⟨w, hw, rfl⟩ := Option.map_eq_some_iff.mp h
    obtain ⟨rfl, hfits⟩ := (@checked_eq_some InI32 _ z w).mp hw
    exact toInt_ofInt hfits
  · rintro rfl
    have hfits : i32Checked n.toInt = some n.toInt := if_pos (inI32_toInt n)
    rw [i32TryFrom, hfits, Option.map_some, Int32.ofInt_toInt]

theorem i32TryFrom_eq_none {z : Int} : i32TryFrom z = none ↔ ¬ InI32 z := by
  constructor
  · intro hnone hz
    have hsome := i32TryFrom_eq_some.mpr (toInt_ofInt hz)
    rw [hnone] at hsome
    cases hsome
  · intro hz
    cases hn : i32TryFrom z with
    | none => rfl
    | some n => exact absurd (i32TryFrom_eq_some.mp hn ▸ inI32_toInt n) hz

theorem isDigit_iff {c : Char} : c.isDigit = true ↔ '0' ≤ c ∧ c ≤ '9' := by
  simp [Char.isDigit, Char.le_def]

theorem toDigit_eq_some {c : Char} {d : Nat} :
    toDigit c = some d ↔ c.isDigit = true ∧ c.toNat - '0'.toNat = d := by
  rw [isDigit_iff, toDigit]
  split_ifs with h
  · rw [Option.some_inj]
    exact ⟨fun hd => ⟨h, hd⟩, And.right⟩
  · exact ⟨nofun, fun hd => absurd hd.1 h⟩

theorem mapM_toDigit {digits : List Char} {ds : List Nat} :
    digits.mapM toDigit = some ds ↔
      (∀ c ∈ digits, c.isDigit = true) ∧ ds = digits.map fun c => c.toNat - '0'.toNat := by
  induction digits generalizing ds with
  | nil =>
    constructor
    · rintro ⟨rfl⟩
      exact ⟨nofun, rfl⟩
    · rintro ⟨-, rfl⟩
      rfl
  | cons c digits ih =>
    rw [mapM_cons_eq_some]
    simp only [toDigit_eq_some, ih]
    constructor
    · rintro ⟨d, rest, ⟨hc, rfl⟩, ⟨hrest, rfl⟩, rfl⟩
      exact ⟨by simpa [hc] using hrest, rfl⟩
    · rintro ⟨hall, rfl⟩
      obtain ⟨hc, hrest⟩ := List.forall_mem_cons.mp hall
      exact ⟨_, _, ⟨hc, rfl⟩, ⟨hrest, rfl⟩, rfl⟩

theorem pushDigit_eq_push (sign : Int) : pushDigit sign = push toDigit 10 InI32 sign := rfl

theorem inI32_mono {sign : Int} (hsign : sign = 1 ∨ sign = -1) {j k : Nat} (hjk : j ≤ k)
    (h : InI32 (sign * k)) : InI32 (sign * j) := by
  obtain ⟨hlo, hhi⟩ := h
  rcases hsign with rfl | rfl <;> constructor <;> omega

theorem horner_decimal (digits : List Char) :
    horner 10 0 (digits.map fun c => c.toNat - '0'.toNat) = decimalValue digits := by
  rw [horner_zero, decimalValue, List.map_reverse]

theorem parseDigits_eq_some {sign : Int} (hsign : sign = 1 ∨ sign = -1) {digits : List Char}
    {n : Int32} :
    parseDigits sign digits = some n ↔
      (∀ c ∈ digits, c.isDigit = true) ∧ n.toInt = sign * decimalValue digits := by
  have hzero : InI32 (sign * (0 : Nat)) := by simp [InI32]
  have hloop (z : Int) : digits.foldlM (pushDigit sign) 0 = some z ↔
      (∀ c ∈ digits, c.isDigit = true) ∧ z = sign * decimalValue digits ∧ InI32 z := by
    have hrun := @foldlM_push_iff _ toDigit 10 InI32 _ sign (inI32_mono hsign) (by decide) 0 hzero
      digits z
    rw [Nat.cast_zero, mul_zero] at hrun
    rw [pushDigit_eq_push, hrun]
    simp only [mapM_toDigit]
    constructor
    · rintro ⟨_, ⟨hdigits, rfl⟩, hz, hfits⟩
      exact ⟨hdigits, by rw [hz, horner_decimal], hfits⟩
    · rintro ⟨hdigits, hz, hfits⟩
      exact ⟨_, ⟨hdigits, rfl⟩, by rw [hz, horner_decimal], hfits⟩
  rw [parseDigits, Option.map_eq_some_iff]
  constructor
  · rintro ⟨z, hz, rfl⟩
    obtain ⟨hdigits, hvalue, hfits⟩ := (hloop z).mp hz
    exact ⟨hdigits, by rw [toInt_ofInt hfits, hvalue]⟩
  · rintro ⟨hdigits, hvalue⟩
    exact ⟨n.toInt, (hloop _).mpr ⟨hdigits, hvalue, inI32_toInt n⟩, n.ofInt_toInt⟩

theorem not_isDigits_nil : ¬ IsDigits [] := fun h => h.1 rfl

theorem not_isDigits_cons {c : Char} (hc : c.isDigit = false) (cs : List Char) :
    ¬ IsDigits (c :: cs) := by
  rintro ⟨-, h⟩
  rw [h c (List.mem_cons_self ..)] at hc
  cases hc

theorem decimalText_plus {cs : List Char} {z : Int} :
    DecimalText ('+' :: cs) z ↔ IsDigits cs ∧ z = decimalValue cs := by
  constructor
  · intro h
    cases h with
    | plain hdigits => exact absurd hdigits (not_isDigits_cons (by decide) cs)
    | plus hdigits => exact ⟨hdigits, rfl⟩
  · rintro ⟨hdigits, rfl⟩
    exact .plus hdigits

theorem decimalText_minus {cs : List Char} {z : Int} :
    DecimalText ('-' :: cs) z ↔ IsDigits cs ∧ z = -decimalValue cs := by
  constructor
  · intro h
    cases h with
    | plain hdigits => exact absurd hdigits (not_isDigits_cons (by decide) cs)
    | minus hdigits => exact ⟨hdigits, rfl⟩
  · rintro ⟨hdigits, rfl⟩
    exact .minus hdigits

theorem decimalText_plain {cs : List Char} {z : Int} (hplus : ∀ rest, cs ≠ '+' :: rest)
    (hminus : ∀ rest, cs ≠ '-' :: rest) :
    DecimalText cs z ↔ IsDigits cs ∧ z = decimalValue cs := by
  constructor
  · intro h
    cases h with
    | plain hdigits => exact ⟨hdigits, rfl⟩
    | plus _ => exact absurd rfl (hplus _)
    | minus _ => exact absurd rfl (hminus _)
  · rintro ⟨hdigits, rfl⟩
    exact .plain hdigits

theorem parseSigned_eq_some {sign : Int} (hsign : sign = 1 ∨ sign = -1) {digits : List Char}
    (hne : digits ≠ []) {n : Int32} :
    parseDigits sign digits = some n ↔
      IsDigits digits ∧ n.toInt = sign * decimalValue digits := by
  rw [parseDigits_eq_some hsign, IsDigits, and_iff_right hne]

theorem parseI32_eq_some {s : String} {n : Int32} :
    parseI32 s = some n ↔ DecimalText s.toList n.toInt := by
  rw [parseI32]
  split
  case h_1 h =>
    rw [h]
    rw [decimalText_plain (fun _ => (List.cons_ne_nil _ _).symm)
      (fun _ => (List.cons_ne_nil _ _).symm)]
    exact ⟨nofun, fun hn => absurd hn.1 not_isDigits_nil⟩
  case h_2 h =>
    rw [h, decimalText_plus]
    exact ⟨nofun, fun hn => absurd hn.1 not_isDigits_nil⟩
  case h_3 h =>
    rw [h, decimalText_minus]
    exact ⟨nofun, fun hn => absurd hn.1 not_isDigits_nil⟩
  case h_4 digits hne h =>
    rw [h, decimalText_plus, parseSigned_eq_some (.inl rfl) hne, one_mul]
  case h_5 digits hne h =>
    rw [h, decimalText_minus, parseSigned_eq_some (.inr rfl) hne, neg_one_mul]
  case h_6 hne _ _ hplus hminus =>
    rw [decimalText_plain hplus hminus, parseSigned_eq_some (.inl rfl) hne, one_mul]

theorem trim_surrounded {before body after : List Char} (hbefore : ∀ c ∈ before, isWhitespace c)
    (hafter : ∀ c ∈ after, isWhitespace c) (hne : body ≠ [])
    (hbody : ∀ c ∈ body, isWhitespace c = false) :
    trim (String.ofList (before ++ body ++ after)) = String.ofList body := by
  rw [trim, String.toList_ofList, strip_surrounded hbefore hafter hne hbody]

theorem isWhitespace_digit {c : Char} (hc : c.isDigit = true) : isWhitespace c = false := by
  obtain ⟨hlo, hhi⟩ := isDigit_iff.mp hc
  have hlow : 48 ≤ c.toNat := hlo
  have hhigh : c.toNat ≤ 57 := hhi
  simp only [isWhitespace, Bool.or_eq_false_iff, Bool.and_eq_false_iff, beq_eq_false_iff_ne,
    decide_eq_false_iff_not]
  omega

theorem decimalText_solid {body : List Char} {z : Int} (h : DecimalText body z) :
    body ≠ [] ∧ ∀ c ∈ body, isWhitespace c = false := by
  have hdigits {digits : List Char} (hd : IsDigits digits) :
      ∀ c ∈ digits, isWhitespace c = false := fun c hc => isWhitespace_digit (hd.2 c hc)
  cases h with
  | plain hd => exact ⟨hd.1, hdigits hd⟩
  | plus hd => exact ⟨List.cons_ne_nil _ _, List.forall_mem_cons.mpr ⟨by decide, hdigits hd⟩⟩
  | minus hd => exact ⟨List.cons_ne_nil _ _, List.forall_mem_cons.mpr ⟨by decide, hdigits hd⟩⟩

theorem decimalText_unique {body : List Char} {y z : Int} (hy : DecimalText body y)
    (hz : DecimalText body z) : y = z := by
  cases hy with
  | plain hd =>
    cases hz with
    | plain _ => rfl
    | plus _ => exact absurd hd (not_isDigits_cons (by decide) _)
    | minus _ => exact absurd hd (not_isDigits_cons (by decide) _)
  | plus hd => exact (decimalText_plus.mp hz).2.symm
  | minus hd => exact (decimalText_minus.mp hz).2.symm

end EvtxWorker.Json
