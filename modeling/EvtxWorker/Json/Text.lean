import Mathlib.Algebra.Group.Int.Defs
import Mathlib.Data.List.DropRight

namespace EvtxWorker.Json

def isWhitespace (c : Char) : Bool :=
  (0x09 ≤ c.toNat && c.toNat ≤ 0x0D) || c.toNat == 0x20 || c.toNat == 0x85 || c.toNat == 0xA0 ||
  c.toNat == 0x1680 || (0x2000 ≤ c.toNat && c.toNat ≤ 0x200A) || c.toNat == 0x2028 ||
  c.toNat == 0x2029 || c.toNat == 0x202F || c.toNat == 0x205F || c.toNat == 0x3000

def trim (s : String) : String :=
  String.ofList ((s.toList.dropWhile isWhitespace).rdropWhile isWhitespace)

def i32Checked (n : Int) : Option Int :=
  if -2 ^ 31 ≤ n ∧ n < 2 ^ 31 then some n else none

def i32TryFrom (n : Int) : Option Int32 := (i32Checked n).map Int32.ofInt

def toDigit (c : Char) : Option Nat :=
  if '0' ≤ c ∧ c ≤ '9' then some (c.toNat - '0'.toNat) else none

def pushDigit (sign acc : Int) (c : Char) : Option Int := do
  let scaled ← i32Checked (acc * 10)
  let digit ← toDigit c
  i32Checked (scaled + sign * digit)

def parseDigits (sign : Int) (digits : List Char) : Option Int32 :=
  (digits.foldlM (pushDigit sign) 0).map Int32.ofInt

def parseI32 (s : String) : Option Int32 :=
  match s.toList with
  | [] => none
  | ['+'] => none
  | ['-'] => none
  | '+' :: digits => parseDigits 1 digits
  | '-' :: digits => parseDigits (-1) digits
  | digits => parseDigits 1 digits

structure Scan where
  depth : Nat
  deepest : Nat
  quoted : Bool
  escaped : Bool
deriving DecidableEq

def Scan.opened (s : Scan) : Scan :=
  { s with depth := s.depth + 1, deepest := max s.deepest (s.depth + 1) }

def Scan.next (s : Scan) (c : Char) : Scan :=
  if s.quoted then
    if s.escaped then { s with escaped := false }
    else if c = '\\' then { s with escaped := true }
    else if c = '"' then { s with quoted := false }
    else s
  else if c = '"' then { s with quoted := true }
  else if c = '[' ∨ c = '\x7b' then s.opened
  else if c = ']' ∨ c = '\x7d' then { s with depth := s.depth - 1 }
  else s

def nesting (text : String) : Nat :=
  (text.toList.foldl Scan.next ⟨0, 0, false, false⟩).deepest

theorem deepest_le_opened (s : Scan) : s.deepest ≤ s.opened.deepest := Nat.le_max_left _ _

theorem deepest_le_next (s : Scan) (c : Char) : s.deepest ≤ (s.next c).deepest := by
  unfold Scan.next
  split_ifs <;> simp [deepest_le_opened]

theorem deepest_le_foldl (s : Scan) (cs : List Char) :
    s.deepest ≤ (cs.foldl Scan.next s).deepest := by
  induction cs generalizing s with
  | nil => exact le_rfl
  | cons c cs ih => exact (deepest_le_next s c).trans (ih _)

theorem deepest_of_open (n : Nat) (s : Scan) (hq : s.quoted = false) (hd : s.depth ≤ s.deepest) :
    s.depth + n ≤ ((List.replicate n '[').foldl Scan.next s).deepest := by
  induction n generalizing s with
  | zero => exact hd
  | succ n ih =>
    have hnext : s.next '[' = s.opened := by simp [Scan.next, hq]
    have hdepth : s.opened.depth = s.depth + 1 := rfl
    have hrest := ih s.opened hq (Nat.le_max_right _ _)
    rw [List.replicate_succ, List.foldl_cons, hnext]
    omega

end EvtxWorker.Json
