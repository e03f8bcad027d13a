import Mathlib.Data.List.Induction
import Mathlib.Data.Nat.Basic
import Mathlib.Tactic.IntervalCases

/-!
# Canonical decimal numerals and arbitrary-precision parsing

Canonical numerals are exactly the printed naturals: no sign, no leading zero, at most `width`
digits.  The reader accepts a larger language, the one of a dynamically typed host whose
integer constructor trims white space and knows radix prefixes, and agrees with the printer on
every canonical numeral.  Storage layers that keep amounts as text need only these two facts.
-/

namespace VirtualHaibin.Foundation.Decimal

/-- A numeral with no superfluous leading zero and at most `width` digits. -/
def isCanonical (width : ℕ) (text : String) : Bool :=
  match text.toList with
  | [] => false
  | digit :: rest =>
    digit.isDigit && rest.all Char.isDigit && (rest.isEmpty || digit ≠ '0') &&
      decide (rest.length < width)

theorem toDigits_length_le {width n : ℕ} (hwidth : 0 < width) :
    (Nat.toDigits 10 n).length ≤ width ↔ n < 10 ^ width :=
  Nat.length_toDigits_le_iff (by decide) hwidth

/-- A printed numeral of two or more digits does not start with zero. -/
theorem toDigits_head_ne_zero {n : ℕ} (hn : 0 < n) : ∀ rest, Nat.toDigits 10 n ≠ '0' :: rest := by
  induction n using Nat.strong_induction_on with
  | _ n ih =>
    intro rest heq
    rw [Nat.toDigits_eq_if (by decide)] at heq
    split at heq
    · simp only [List.cons.injEq, Nat.digitChar_eq_zero] at heq
      omega
    · rename_i hlarge
      have hquot : 0 < n / 10 := Nat.div_pos (by omega) (by decide)
      cases hdigits : Nat.toDigits 10 (n / 10) with
      | nil => exact Nat.toDigits_ne_nil hdigits
      | cons digit front =>
        rw [hdigits] at heq
        obtain ⟨rfl, -⟩ := List.cons.inj heq
        exact ih (n / 10) (by omega) hquot front hdigits

/-- Printing reads back the digits of a numeral without a leading zero. -/
theorem toDigits_ofDigitChars (digits : List Char) (hne : digits ≠ [])
    (hdigit : ∀ c ∈ digits, c.isDigit = true) (hlead : ∀ rest, digits = '0' :: rest → rest = []) :
    Nat.toDigits 10 (Nat.ofDigitChars 10 digits 0) = digits := by
  induction digits using List.reverseRecOn with
  | nil => exact absurd rfl hne
  | append_singleton front last ih =>
    have hlast : last.isDigit = true := hdigit last (by simp)
    have hvalue : last.toNat - '0'.toNat < 10 ∧ Nat.digitChar (last.toNat - '0'.toNat) = last := by
      simp only [Char.isDigit, Bool.and_eq_true, decide_eq_true_eq, ge_iff_le,
        UInt32.le_iff_toNat_le] at hlast
      obtain ⟨hlow, hhigh⟩ := hlast
      have h48 : 48 ≤ last.toNat := hlow
      have h57 : last.toNat ≤ 57 := hhigh
      refine ⟨by simp; omega, ?_⟩
      have hchar : last = Char.ofNat last.toNat := (Char.ofNat_toNat last).symm
      generalize last.toNat = code at *
      subst hchar
      interval_cases code <;> rfl
    rw [Nat.ofDigitChars_append, Nat.ofDigitChars_cons, Nat.ofDigitChars_nil]
    rcases List.eq_nil_or_concat front with rfl | ⟨init, tail, hfront⟩
    · simp only [Nat.ofDigitChars_nil, Nat.mul_zero, Nat.zero_add, List.nil_append]
      rw [Nat.toDigits_of_lt_base hvalue.1, hvalue.2]
    · have hfrontNe : front ≠ [] := by simp [hfront]
      have hfrontDigits := ih hfrontNe (fun c hc ↦ hdigit c (by simp [hc])) (by
        intro rest heq
        have hnil := hlead (rest ++ [last]) (by simp [heq])
        simp at hnil)
      have hpositive : 0 < Nat.ofDigitChars 10 front 0 := by
        rw [Nat.pos_iff_ne_zero]
        intro hzero
        rw [hzero, Nat.toDigits_zero] at hfrontDigits
        have hnil := hlead [last] (by simp [← hfrontDigits])
        simp at hnil
      rw [← Nat.toDigits_append_toDigits (by decide) hpositive hvalue.1, hfrontDigits,
        Nat.toDigits_of_lt_base hvalue.1, hvalue.2]

/-- Canonical numerals are exactly the printed naturals below the width bound. -/
theorem isCanonical_iff {width : ℕ} (hwidth : 0 < width) {text : String} :
    isCanonical width text = true ↔ ∃ n < 10 ^ width, text = n.repr := by
  constructor
  · intro hcanonical
    unfold isCanonical at hcanonical
    split at hcanonical
    · cases hcanonical
    · rename_i digit rest hlist
      simp only [Bool.and_eq_true, List.all_eq_true, Bool.or_eq_true, List.isEmpty_iff,
        decide_eq_true_eq] at hcanonical
      obtain ⟨⟨⟨hdigit, hrest⟩, hlead⟩, hlength⟩ := hcanonical
      have hdigits := toDigits_ofDigitChars (digit :: rest) (by simp)
        (by simpa using ⟨hdigit, hrest⟩) (by
          rintro other hcons
          obtain ⟨rfl, rfl⟩ := List.cons.inj hcons
          simpa using hlead)
      refine ⟨Nat.ofDigitChars 10 (digit :: rest) 0, ?_, ?_⟩
      · rw [← toDigits_length_le hwidth, hdigits]
        simp only [List.length_cons]
        omega
      · rw [← String.toList_inj, Nat.toList_repr, hdigits, hlist]
  · rintro ⟨n, hn, rfl⟩
    unfold isCanonical
    rw [Nat.toList_repr]
    have hlength := (toDigits_length_le hwidth).2 hn
    split
    · rename_i hnil
      exact absurd hnil Nat.toDigits_ne_nil
    · rename_i digit rest hcons
      have hall : ∀ c ∈ Nat.toDigits 10 n, c.isDigit = true := fun c hc ↦
        Nat.isDigit_of_mem_toDigits (by decide) (by decide) hc
      rw [hcons] at hall hlength
      have hlead : rest = [] ∨ digit ≠ '0' := by
        rcases Nat.eq_zero_or_pos n with rfl | hpositive
        · rw [Nat.toDigits_zero] at hcons
          exact .inl (List.cons.inj hcons).2.symm
        · exact .inr fun hzero ↦ toDigits_head_ne_zero hpositive rest (hzero ▸ hcons)
      simp only [List.mem_cons, forall_eq_or_imp] at hall
      simp only [List.length_cons] at hlength
      simp only [Bool.and_eq_true, List.all_eq_true, Bool.or_eq_true, List.isEmpty_iff,
        decide_eq_true_eq]
      exact ⟨⟨⟨hall.1, hall.2⟩, hlead⟩, by omega⟩

theorem isCanonical_repr {width n : ℕ} (hwidth : 0 < width) (hn : n < 10 ^ width) :
    isCanonical width n.repr = true :=
  (isCanonical_iff hwidth).2 ⟨n, hn, rfl⟩

/-! ## Reading integers -/

/-- White space and line terminators removed around an integer literal. -/
def isSpace (c : Char) : Bool :=
  c.toNat ∈ [0x09, 0x0A, 0x0B, 0x0C, 0x0D, 0x20, 0xA0, 0x1680, 0x2028, 0x2029, 0x202F, 0x205F,
    0x3000, 0xFEFF] || (0x2000 ≤ c.toNat && c.toNat ≤ 0x200A)

def trim (text : List Char) : List Char :=
  (text.dropWhile isSpace).reverse.dropWhile isSpace |>.reverse

def digitValue (c : Char) : ℕ :=
  if c.isDigit then c.toNat - 48
  else if 'a' ≤ c ∧ c ≤ 'f' then c.toNat - 87
  else if 'A' ≤ c ∧ c ≤ 'F' then c.toNat - 55
  else 16

/-- A non-empty digit string in the given radix. -/
def readRadix (radix : ℕ) (digits : List Char) : Option ℕ :=
  if digits ≠ [] ∧ digits.all (fun c ↦ digitValue c < radix) then
    some (digits.foldl (fun value c ↦ radix * value + digitValue c) 0)
  else none

/-- `BigInt(text)` of the host language; `none` is its syntax error. -/
def bigInt (text : String) : Option ℤ :=
  match trim text.toList with
  | [] => some 0
  | '-' :: digits => (readRadix 10 digits).map fun n ↦ -(n : ℤ)
  | '+' :: digits => (readRadix 10 digits).map fun n ↦ (n : ℤ)
  | '0' :: mark :: digits =>
    if mark = 'x' ∨ mark = 'X' then (readRadix 16 digits).map fun n ↦ (n : ℤ)
    else if mark = 'o' ∨ mark = 'O' then (readRadix 8 digits).map fun n ↦ (n : ℤ)
    else if mark = 'b' ∨ mark = 'B' then (readRadix 2 digits).map fun n ↦ (n : ℤ)
    else (readRadix 10 ('0' :: mark :: digits)).map fun n ↦ (n : ℤ)
  | digits => (readRadix 10 digits).map fun n ↦ (n : ℤ)

theorem isDigit_iff {c : Char} : c.isDigit = true ↔ 48 ≤ c.toNat ∧ c.toNat ≤ 57 := by
  simp only [Char.isDigit, Bool.and_eq_true, decide_eq_true_eq, ge_iff_le,
    UInt32.le_iff_toNat_le]
  exact Iff.rfl

theorem isSpace_of_isDigit {c : Char} (h : c.isDigit = true) : isSpace c = false := by
  obtain ⟨hlow, hhigh⟩ := isDigit_iff.1 h
  simp only [isSpace, List.mem_cons, List.not_mem_nil, or_false, Bool.or_eq_false_iff,
    decide_eq_false_iff_not, Bool.and_eq_false_iff]
  omega

theorem dropWhile_isSpace_digits {digits : List Char} (h : ∀ c ∈ digits, c.isDigit = true) :
    digits.dropWhile isSpace = digits := by
  cases digits with
  | nil => rfl
  | cons digit rest => rw [List.dropWhile_cons_of_neg (by simp [isSpace_of_isDigit (h digit (by simp))])]

theorem trim_digits {digits : List Char} (h : ∀ c ∈ digits, c.isDigit = true) :
    trim digits = digits := by
  unfold trim
  rw [dropWhile_isSpace_digits h, dropWhile_isSpace_digits (by simpa using h), List.reverse_reverse]

theorem digitValue_digit {c : Char} (h : c.isDigit = true) : digitValue c = c.toNat - 48 := by
  simp [digitValue, h]

theorem readRadix_ten {digits : List Char} (hne : digits ≠ [])
    (h : ∀ c ∈ digits, c.isDigit = true) :
    readRadix 10 digits = some (Nat.ofDigitChars 10 digits 0) := by
  have hall : digits.all (fun c ↦ digitValue c < 10) = true := by
    simp only [List.all_eq_true, decide_eq_true_eq]
    intro c hc
    rw [digitValue_digit (h c hc)]
    have := isDigit_iff.1 (h c hc)
    omega
  have hfold : ∀ start, digits.foldl (fun value c ↦ 10 * value + digitValue c) start =
      Nat.ofDigitChars 10 digits start := by
    clear hne hall
    induction digits with
    | nil => intro start; rfl
    | cons digit rest ih =>
      intro start
      rw [List.foldl_cons, Nat.ofDigitChars_cons, digitValue_digit (h digit (by simp))]
      exact ih (fun c hc ↦ h c (by simp [hc])) _
  rw [readRadix, if_pos ⟨hne, hall⟩, hfold]

/-- The reader inverts the printer. -/
@[simp] theorem bigInt_repr (n : ℕ) : bigInt n.repr = some (n : ℤ) := by
  have hall : ∀ c ∈ Nat.toDigits 10 n, c.isDigit = true := fun c hc ↦
    Nat.isDigit_of_mem_toDigits (by decide) (by decide) hc
  have hread := readRadix_ten (Nat.toDigits_ne_nil (n := n) (b := 10)) hall
  rw [Nat.ofDigitChars_ten_toDigits] at hread
  unfold bigInt
  rw [Nat.toList_repr, trim_digits hall]
  split
  · rename_i hnil
    exact absurd hnil Nat.toDigits_ne_nil
  · rename_i digits hcons
    have := hall '-' (by simp [hcons])
    exact absurd this (by decide)
  · rename_i digits hcons
    have := hall '+' (by simp [hcons])
    exact absurd this (by decide)
  · rename_i mark digits hcons
    have hmark := isDigit_iff.1 (hall mark (by simp [hcons]))
    have hletter : ∀ letter : Char, 57 < letter.toNat → mark ≠ letter := by
      rintro letter hlarge rfl
      omega
    rw [← hcons, hread]
    simp [hletter 'x' (by decide), hletter 'X' (by decide), hletter 'o' (by decide),
      hletter 'O' (by decide), hletter 'b' (by decide), hletter 'B' (by decide)]
  · rw [hread]
    rfl

theorem repr_injective : Function.Injective Nat.repr := fun m n h ↦ by
  have hread := congrArg bigInt h
  rw [bigInt_repr, bigInt_repr] at hread
  exact_mod_cast Option.some.inj hread

/-- The value of a canonical numeral, and zero on any other text. -/
def amount (text : String) : ℕ := ((bigInt text).getD 0).toNat

@[simp] theorem amount_repr (n : ℕ) : amount n.repr = n := by
  simp [amount]

example : bigInt " 0x1F " = some 31 ∧ bigInt "-7" = some (-7) ∧ bigInt "1.5" = none := by decide

end VirtualHaibin.Foundation.Decimal
