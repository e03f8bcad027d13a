import Mathlib.Algebra.Field.Rat
import Mathlib.Algebra.Order.Field.Rat
import Mathlib.Data.List.DropRight
import Mathlib.Tactic.FieldSimp
import Mathlib.Tactic.Ring

/-!
# Decimal numerals of digit texts

A digit text stands for a natural number, whatever zeros lead it.  A decimal point that splits it leaves
two digit texts, and dropping the zeros that lead the one and trail the other keeps the number.  Digits
are grouped in threes from the right.
-/

namespace VirtualHaibin.Foundation.Numeral

/-- The number that digits stand for. -/
def value (digits : List Char) : ℕ := Nat.ofDigitChars 10 digits 0

theorem value_append (front back : List Char) :
    value (front ++ back) = value front * 10 ^ back.length + value back := by
  unfold value
  rw [Nat.ofDigitChars_append, Nat.ofDigitChars_eq_ofDigitChars_zero, Nat.mul_comm]

@[simp]
theorem value_zeros (count : ℕ) : value (List.replicate count '0') = 0 := by
  simp [value]

theorem value_zeros_append (count : ℕ) (digits : List Char) :
    value (List.replicate count '0' ++ digits) = value digits := by
  rw [value_append, value_zeros, Nat.zero_mul, Nat.zero_add]

/-- Zeros in front of another digit are dropped. -/
def dropLeading : List Char → List Char
  | '0' :: c :: rest => if c.isDigit then dropLeading (c :: rest) else '0' :: c :: rest
  | digits => digits

/-- Zeros at the end are dropped. -/
def dropTrailing (digits : List Char) : List Char := digits.rdropWhile (· = '0')

theorem dropLeading_spec (digits : List Char) (hdigits : ∀ c ∈ digits, c.isDigit = true) (hne : digits ≠ []) :
    ∃ count, digits = List.replicate count '0' ++ dropLeading digits ∧ dropLeading digits ≠ [] ∧
      ∀ rest, dropLeading digits = '0' :: rest → rest = [] := by
  induction digits using dropLeading.induct with
  | case1 c rest hc ih =>
    obtain ⟨count, hsplit, hrest⟩ := ih (fun d hd ↦ hdigits d (List.mem_cons_of_mem _ hd)) (by simp)
    refine ⟨count + 1, ?_, ?_⟩
    · rw [dropLeading, if_pos hc, List.replicate_succ, List.cons_append, ← hsplit]
    · rwa [dropLeading, if_pos hc]
  | case2 c rest hc => exact absurd (hdigits c (by simp)) hc
  | case3 digits hlead =>
    have hself : dropLeading digits = digits := by
      unfold dropLeading
      split
      · rename_i c rest
        exact absurd rfl (hlead c rest)
      · rfl
    rw [hself]
    refine ⟨0, by simp, hne, fun rest hzero ↦ ?_⟩
    cases rest with
    | nil => rfl
    | cons c rest => exact absurd hzero (hlead c rest)

theorem dropTrailing_spec (digits : List Char) :
    ∃ count, digits = dropTrailing digits ++ List.replicate count '0' ∧
      (dropTrailing digits).getLast? ≠ some '0' := by
  refine ⟨(digits.rtakeWhile (· = '0')).length, ?_, ?_⟩
  · have hzeros : digits.rtakeWhile (· = '0') = List.replicate (digits.rtakeWhile (· = '0')).length '0' := by
      apply List.eq_replicate_of_mem
      intro c hc
      simpa using List.mem_rtakeWhile_imp hc
    rw [← hzeros]
    exact List.rdropWhile_append_rtakeWhile.symm
  · intro hlast
    have hne : dropTrailing digits ≠ [] := by
      intro hnil
      rw [hnil] at hlast
      cases hlast
    have hkept := List.rdropWhile_last_not (p := fun c ↦ decide (c = '0')) digits hne
    rw [List.getLast?_eq_some_getLast hne, Option.some.injEq] at hlast
    exact hkept (decide_eq_true hlast)

/-! ## Numerals -/

/-- A decimal numeral without superfluous zeros; no point without a fraction. -/
structure Reads (text : List Char) (number : ℚ) (whole fraction : List Char) : Prop where
  text_eq : text = if fraction = [] then whole else whole ++ '.' :: fraction
  digits : ∀ c ∈ whole ++ fraction, c.isDigit = true
  whole_ne_nil : whole ≠ []
  leading : ∀ rest, whole = '0' :: rest → rest = []
  trailing : fraction.getLast? ≠ some '0'
  exact : number = value whole + value fraction / 10 ^ fraction.length

/-- The text is the numeral of the number. -/
def IsNumeral (text : String) (number : ℚ) : Prop := ∃ whole fraction, Reads text.toList number whole fraction

/-- A numeral starts with a digit. -/
theorem IsNumeral.head_isDigit {text : String} {number : ℚ} (h : IsNumeral text number) :
    ∃ c rest, text.toList = c :: rest ∧ c.isDigit = true := by
  obtain ⟨whole, fraction, hreads⟩ := h
  cases hwhole : whole with
  | nil => exact absurd hwhole hreads.whole_ne_nil
  | cons c rest =>
    have hc : c.isDigit = true := hreads.digits c (by simp [hwhole])
    have htext := hreads.text_eq
    rw [hwhole] at htext
    split at htext
    · exact ⟨c, rest, htext, hc⟩
    · exact ⟨c, rest ++ '.' :: fraction, htext, hc⟩

/-- Digits split by a point, with the superfluous zeros dropped, stand for the number shifted by the
point. -/
theorem reads_of_split {front back : List Char} (hne : front ≠ [])
    (hdigits : ∀ c ∈ front ++ back, c.isDigit = true) :
    Reads (if dropTrailing back = [] then dropLeading front else dropLeading front ++ '.' :: dropTrailing back)
      (value (front ++ back) / 10 ^ back.length) (dropLeading front) (dropTrailing back) := by
  obtain ⟨zeros, hfront, hleadNe, hlead⟩ := dropLeading_spec front
    (fun c hc ↦ hdigits c (List.mem_append_left _ hc)) hne
  obtain ⟨count, hback, htrail⟩ := dropTrailing_spec back
  refine ⟨rfl, ?_, hleadNe, hlead, htrail, ?_⟩
  · intro c hc
    apply hdigits
    rw [hfront, hback]
    rcases List.mem_append.1 hc with hc | hc
    · exact List.mem_append_left _ (List.mem_append_right _ hc)
    · exact List.mem_append_right _ (List.mem_append_left _ hc)
  · have hwhole : value front = value (dropLeading front) := by
      conv_lhs => rw [hfront]
      exact value_zeros_append zeros _
    have hfraction : value back = value (dropTrailing back) * 10 ^ count := by
      conv_lhs => rw [hback]
      rw [value_append, value_zeros, List.length_replicate, Nat.add_zero]
    have hlength : back.length = (dropTrailing back).length + count := by
      conv_lhs => rw [hback]
      rw [List.length_append, List.length_replicate]
    rw [value_append, hwhole, hfraction, hlength]
    push_cast
    rw [pow_add]
    field_simp

/-- Digits with a separator before every third one counted from the right, and none in front. -/
def grouped (separator : Char) (digits : List Char) : List Char :=
  digits.zipIdx.flatMap fun entry ↦
    if 0 < entry.2 ∧ 3 ∣ digits.length - entry.2 then [separator, entry.1] else [entry.1]

/-- Without the separators the digits are left. -/
theorem filter_grouped {separator : Char} {digits : List Char} (h : separator ∉ digits) :
    (grouped separator digits).filter (· ≠ separator) = digits := by
  have hentry (entry : Char × ℕ) (hmem : entry ∈ digits.zipIdx) :
      (if 0 < entry.2 ∧ 3 ∣ digits.length - entry.2 then [separator, entry.1] else [entry.1]).filter
        (· ≠ separator) = [entry.1] := by
    have hne : entry.1 ≠ separator := by
      intro heq
      have hdigit := List.fst_mem_of_mem_zipIdx hmem
      rw [heq] at hdigit
      exact h hdigit
    split <;> simp [hne]
  calc
    (grouped separator digits).filter (· ≠ separator)
        = digits.zipIdx.flatMap fun entry ↦ [entry.1] := by
      rw [grouped, List.filter_flatMap]
      exact List.flatMap_congr hentry
    _ = digits.zipIdx.map Prod.fst := List.map_eq_flatMap.symm
    _ = digits := List.zipIdx_map_fst 0 digits

end VirtualHaibin.Foundation.Numeral
