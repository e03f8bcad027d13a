import Mathlib.Algebra.GroupWithZero.Nat
import Mathlib.Data.List.Basic
import Mathlib.Data.Rat.Defs

/-!
# JSON values and text patterns

Decoded JSON with exact rational numbers, plus the two infinities that an overflowing literal
decodes to.  An object keeps its members in source order and is read by name.  Text is measured
in UTF-16 code units, and a bounded identifier is a text over a character class.
-/

namespace VirtualHaibin.Foundation

/-- A decoded number: a rational, or an overflowed literal. -/
inductive Number where
  | finite (value : ℚ)
  | infinite (negative : Bool)
  deriving DecidableEq

/-- The integer a number is, when it lies in the range of exactly represented integers. -/
def Number.safeInteger? : Number → Option ℤ
  | .finite value =>
    if value.den = 1 ∧ -9007199254740991 ≤ value.num ∧ value.num ≤ 9007199254740991 then
      some value.num
    else none
  | .infinite _ => none

inductive Json where
  | null
  | bool (value : Bool)
  | num (value : Number)
  | str (value : String)
  | arr (items : List Json)
  | obj (members : List (String × Json))

namespace Json

def int (value : ℤ) : Json := .num (.finite value)

/-- A member by name; `none` is the absent member. -/
def member (members : List (String × Json)) (name : String) : Option Json :=
  (members.find? fun entry ↦ entry.1 = name).map Prod.snd

def orNull {α : Type*} (encode : α → Json) : Option α → Json
  | none => .null
  | some value => encode value

end Json

/-! ## Text -/

namespace Text

/-- Length in UTF-16 code units. -/
def utf16Length (text : String) : ℕ :=
  (text.toList.map fun c ↦ if 0x10000 ≤ c.toNat then 2 else 1).sum

/-- The whole text lies in a character class and its length in the given bounds. -/
def inClass (allowed : Char → Bool) (low high : ℕ) (text : String) : Bool :=
  text.toList.all allowed && decide (low ≤ text.toList.length) && decide (text.toList.length ≤ high)

def isLowerHex (c : Char) : Bool := c.isDigit || ('a' ≤ c && c ≤ 'f')

/-- Lowercase hexadecimal of a 256-bit digest. -/
def isDigest (text : String) : Bool := inClass isLowerHex 64 64 text

def hexDigit (n : ℕ) : Char := Nat.digitChar n

/-- One character inside a JSON string literal. -/
def escapeChar (c : Char) : List Char :=
  if c = '"' then ['\\', '"']
  else if c = '\\' then ['\\', '\\']
  else if c.toNat = 8 then ['\\', 'b']
  else if c.toNat = 9 then ['\\', 't']
  else if c.toNat = 10 then ['\\', 'n']
  else if c.toNat = 12 then ['\\', 'f']
  else if c.toNat = 13 then ['\\', 'r']
  else if c.toNat < 0x20 then ['\\', 'u', '0', '0', hexDigit (c.toNat / 16), hexDigit (c.toNat % 16)]
  else [c]

/-- The JSON string literal of a text. -/
def quote (text : String) : String :=
  "\"" ++ String.ofList (text.toList.flatMap escapeChar) ++ "\""

/-- The JSON array of string literals. -/
def quoteAll (texts : List String) : String :=
  "[" ++ String.intercalate "," (texts.map quote) ++ "]"

/-- A text over a class of basic characters is as long in code units as in characters. -/
theorem utf16Length_of_inClass {allowed : Char → Bool} {low high : ℕ} {text : String}
    (hbasic : ∀ c, allowed c = true → c.toNat < 0x10000) (h : inClass allowed low high text = true) :
    low ≤ utf16Length text ∧ utf16Length text ≤ high := by
  simp only [inClass, Bool.and_eq_true, List.all_eq_true, decide_eq_true_eq] at h
  obtain ⟨⟨hall, hlow⟩, hhigh⟩ := h
  have hlength : utf16Length text = text.toList.length := by
    unfold utf16Length
    rw [List.map_congr_left (g := fun _ ↦ 1) fun c hc ↦ if_neg (by have := hbasic c (hall c hc); omega)]
    simp
  omega

theorem isAlphanum_basic {c : Char} (h : c.isAlphanum = true) : c.toNat < 0x10000 := by
  have hranges : (decide (c.val ≥ 'A'.val ∧ c.val ≤ 'Z'.val) || (c.val ≥ 'a'.val && c.val ≤ 'z'.val) ||
    (c.val ≥ '0'.val && c.val ≤ '9'.val)) = true := h
  simp only [Bool.or_eq_true, Bool.and_eq_true, decide_eq_true_eq, UInt32.le_iff_toNat_le, ge_iff_le] at hranges
  rcases hranges with (⟨-, hle⟩ | ⟨-, hle⟩) | ⟨-, hle⟩ <;> exact Nat.lt_of_le_of_lt hle (by decide)

/-- The class of a text written out, judged on its characters. -/
theorem inClass_ofList {allowed : Char → Bool} {low high : ℕ} {cs : List Char}
    (h : (cs.all allowed && decide (low ≤ cs.length) && decide (cs.length ≤ high)) = true) :
    inClass allowed low high (String.ofList cs) = true := by
  rwa [inClass, String.toList_ofList]

theorem inClass_append {allowed : Char → Bool} {low : ℕ} (high high' : ℕ) {text text' : String}
    (h : inClass allowed low high text = true) (h' : inClass allowed 0 high' text' = true) :
    inClass allowed low (high + high') (text ++ text') = true := by
  simp only [inClass, Bool.and_eq_true, decide_eq_true_eq, String.toList_append, List.all_append,
    List.length_append] at h h' ⊢
  obtain ⟨⟨hall, hlow⟩, hhigh⟩ := h
  exact ⟨⟨⟨hall, h'.1.1⟩, by omega⟩, Nat.add_le_add hhigh h'.2⟩

example : quote "a\"b\n" = "\"a\\\"b\\n\"" := by decide

end Text

end VirtualHaibin.Foundation
