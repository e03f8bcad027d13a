import VirtualHaibin.Foundation.Numeral

/-!
# Displayed amounts

Amounts are digit texts in base units and are formatted as texts.  A token amount is padded, cut where
the point stands, and rid of the zeros around it.  The cut counts from the end of the text, and an end
that is no characters away counts from the start, so without decimals there is nothing in front of the
point.
-/

namespace VirtualHaibin.Web

open Foundation Foundation.Numeral

/-- A position of `slice`: a negative one counts from the end. -/
def position (length : ℕ) (index : ℤ) : ℕ :=
  if index < 0 then (length + index).toNat else min index.toNat length

/-- `text.slice(start, stop)` -/
def slice (text : List Char) (start stop : ℤ) : List Char :=
  (text.take (position text.length stop)).drop (position text.length start)

/-- `/\w/` -/
def isWord (c : Char) : Bool := c.isAlphanum || c = '_'

/-- `\b` between the character in front and the one behind. -/
def isBoundary (previous : Option Char) (next : Char) : Bool := previous.any isWord != isWord next

/-- `(?=(\d{3})+(?!\d))` -/
def threesAhead : List Char → Bool
  | a :: b :: c :: rest =>
    a.isDigit && b.isDigit && c.isDigit && (!rest.head?.any Char.isDigit || threesAhead rest)
  | _ => false

/-- `.replace(/\B(?=(\d{3})+(?!\d))/g, ",")` behind the given character; nothing matches at the end. -/
def insertCommas : Option Char → List Char → List Char
  | _, [] => []
  | previous, c :: rest =>
    if !isBoundary previous c && threesAhead (c :: rest) then ',' :: c :: insertCommas (some c) rest
    else c :: insertCommas (some c) rest

/-- `/^\d+$/` -/
def isDigits (text : String) : Bool := text ≠ "" && text.toList.all Char.isDigit

/-- Integer base units with their commas. -/
def formatUnits (atomic : Option String) : String :=
  match atomic.filter isDigits with
  | none => "—"
  | some text => String.ofList (insertCommas none text.toList)

/-- Integer base units as a decimal token amount. -/
def formatToken (atomic : Option String) (decimals : ℕ := 6) : String :=
  match atomic.filter isDigits with
  | none => "—"
  | some text =>
    let padded := text.toList.leftpad (decimals + 1) '0'
    let whole := dropLeading (slice padded 0 (-decimals))
    let fraction := dropTrailing (slice padded (-decimals) padded.length)
    String.ofList (if fraction = [] then whole else whole ++ '.' :: fraction)

/-- The ends of a long identifier; its characters are single code units. -/
def shorten (value : Option String) (keep : ℕ := 4) : String :=
  match value.filter (· ≠ "") with
  | none => "—"
  | some text =>
    if text.length ≤ keep * 2 + 1 then text
    else String.ofList (slice text.toList 0 keep ++ '…' :: slice text.toList (-keep) text.length)

theorem threesAhead_iff {digits : List Char} (hdigits : ∀ c ∈ digits, c.isDigit = true) (hne : digits ≠ []) :
    threesAhead digits = true ↔ 3 ∣ digits.length := by
  induction digits using threesAhead.induct with
  | case1 a b c rest ih =>
    have hrest : ∀ d ∈ rest, d.isDigit = true := fun d hd ↦ hdigits d (by simp [hd])
    have habc : a.isDigit = true ∧ b.isDigit = true ∧ c.isDigit = true := by
      refine ⟨?_, ?_, ?_⟩ <;> apply hdigits <;> simp
    rw [threesAhead, habc.1, habc.2.1, habc.2.2, Bool.true_and, Bool.true_and, Bool.true_and]
    cases rest with
    | nil => simp
    | cons d rest =>
      have hd : d.isDigit = true := hrest d List.mem_cons_self
      rw [List.head?_cons, Option.any_some, hd, Bool.not_true, Bool.false_or, ih hrest (by simp)]
      simp only [List.length_cons]
      omega
  | case2 digits hshort =>
    unfold threesAhead
    split
    · rename_i a b c rest
      exact absurd rfl (hshort a b c rest)
    · match digits with
      | [] => exact absurd rfl hne
      | [a] => simp
      | [a, b] => simp
      | a :: b :: c :: rest => exact absurd rfl (hshort a b c rest)

/-- Behind a digit the commas stand where threes are left. -/
theorem insertCommas_behind {front : Char} (hfront : front.isDigit = true) {digits : List Char}
    (hdigits : ∀ c ∈ digits, c.isDigit = true) {index total : ℕ} (hindex : 0 < index)
    (htotal : total = index + digits.length) :
    insertCommas (some front) digits = (digits.zipIdx index).flatMap fun entry ↦
      if 0 < entry.2 ∧ 3 ∣ total - entry.2 then [',', entry.1] else [entry.1] := by
  induction digits generalizing front index with
  | nil => rfl
  | cons c rest ih =>
    have hc : c.isDigit = true := hdigits c List.mem_cons_self
    have hword : isBoundary (some front) c = false := by
      simp [isBoundary, isWord, Char.isAlphanum, hfront, hc]
    have hleft : total - index = (c :: rest).length := by omega
    have hrest := ih hc (fun d hd ↦ hdigits d (List.mem_cons_of_mem _ hd)) (Nat.succ_pos index)
      (by rw [htotal, List.length_cons]; omega)
    have hthrees := threesAhead_iff hdigits (List.cons_ne_nil c rest)
    rw [insertCommas, hword, Bool.not_false, Bool.true_and, List.zipIdx_cons, List.flatMap_cons, hleft, hrest]
    by_cases hthree : 3 ∣ (c :: rest).length
    · rw [if_pos (hthrees.2 hthree), if_pos ⟨hindex, hthree⟩]
      rfl
    · rw [if_neg (mt hthrees.1 hthree), if_neg (fun h ↦ hthree h.2)]
      rfl

theorem insertCommas_eq {digits : List Char} (hdigits : ∀ c ∈ digits, c.isDigit = true) :
    insertCommas none digits = grouped ',' digits := by
  cases digits with
  | nil => rfl
  | cons c rest =>
    have hc : c.isDigit = true := hdigits c List.mem_cons_self
    have hword : isBoundary none c = true := by simp [isBoundary, isWord, Char.isAlphanum, hc]
    have hrest := insertCommas_behind hc (fun d hd ↦ hdigits d (List.mem_cons_of_mem _ hd)) Nat.one_pos
      (show (c :: rest).length = 1 + rest.length by rw [List.length_cons, Nat.add_comm])
    rw [insertCommas, hword, Bool.not_true, Bool.false_and, if_neg Bool.false_ne_true, hrest, grouped,
      List.zipIdx_cons, List.flatMap_cons, if_neg (fun h ↦ absurd h.1 (Nat.lt_irrefl 0))]
    rfl

/-! ## The cut -/

theorem isDigits_iff {text : String} :
    isDigits text = true ↔ text.toList ≠ [] ∧ ∀ c ∈ text.toList, c.isDigit = true := by
  simp [isDigits]

theorem slice_whole {text : List Char} {decimals : ℕ} (hpositive : 0 < decimals) :
    slice text 0 (-decimals) = text.take (text.length - decimals) := by
  have hstop : position text.length (-decimals) = text.length - decimals := by
    unfold position
    rw [if_pos (by omega)]
    omega
  rw [slice, hstop, position, if_neg (by omega)]
  simp

theorem slice_fraction {text : List Char} {decimals : ℕ} (hpositive : 0 < decimals) :
    slice text (-decimals) text.length = text.drop (text.length - decimals) := by
  have hstart : position text.length (-decimals) = text.length - decimals := by
    unfold position
    rw [if_pos (by omega)]
    omega
  have hstop : position text.length text.length = text.length := by
    unfold position
    rw [if_neg (by omega)]
    omega
  rw [slice, hstart, hstop, List.take_length]

/-- With decimals the displayed amount is exact. -/
theorem formatToken_isNumeral {text : String} (hdigits : isDigits text = true) {decimals : ℕ}
    (hpositive : 0 < decimals) :
    IsNumeral (formatToken (some text) decimals) (value text.toList / 10 ^ decimals) := by
  obtain ⟨hne, hdigit⟩ := isDigits_iff.1 hdigits
  let padded := text.toList.leftpad (decimals + 1) '0'
  have hpadded : padded = List.replicate (decimals + 1 - text.toList.length) '0' ++ text.toList := rfl
  have hlength : decimals < padded.length := by
    rw [hpadded, List.length_append, List.length_replicate]
    omega
  have hall : ∀ c ∈ padded, c.isDigit = true := by
    intro c hc
    rcases List.mem_append.1 (hpadded ▸ hc) with hc | hc
    · rw [List.eq_of_mem_replicate hc]
      rfl
    · exact hdigit c hc
  have hvalue : value padded = value text.toList := by rw [hpadded, value_zeros_append]
  have hfront : padded.take (padded.length - decimals) ≠ [] := by
    rw [ne_eq, List.take_eq_nil_iff, not_or]
    exact ⟨by omega, List.ne_nil_of_length_pos (by omega)⟩
  have hback : (padded.drop (padded.length - decimals)).length = decimals := by
    rw [List.length_drop]
    omega
  have hreads := @reads_of_split _ (padded.drop (padded.length - decimals)) hfront
    (by rwa [List.take_append_drop])
  rw [List.take_append_drop, hvalue, hback] at hreads
  have hformat : (formatToken (some text) decimals).toList =
      if dropTrailing (padded.drop (padded.length - decimals)) = [] then
        dropLeading (padded.take (padded.length - decimals))
      else dropLeading (padded.take (padded.length - decimals)) ++
        '.' :: dropTrailing (padded.drop (padded.length - decimals)) := by
    unfold formatToken
    rw [Option.filter_some_pos hdigits]
    simp only [String.toList_ofList]
    rw [slice_whole hpositive, slice_fraction hpositive]
  rw [← hformat] at hreads
  exact ⟨_, _, hreads⟩

/-- Without decimals nothing is in front of the point. -/
theorem formatToken_zero {text : String} (hdigits : isDigits text = true) :
    ∃ fraction, (formatToken (some text) 0).toList = if fraction = [] then [] else '.' :: fraction := by
  refine ⟨dropTrailing (slice (text.toList.leftpad 1 '0') 0 (text.toList.leftpad 1 '0').length), ?_⟩
  unfold formatToken
  rw [Option.filter_some_pos hdigits]
  simp only [String.toList_ofList]
  have hwhole : slice (text.toList.leftpad 1 '0') 0 0 = [] := by simp [slice, position]
  simp only [Nat.zero_add, Int.neg_zero, Nat.cast_zero, hwhole]
  rfl

/-! ## What is displayed -/

/-- An amount is displayed exactly, in tokens and in units, and anything else as a dash. -/
structure DisplayedExactly (atomic : Option String) (decimals : ℕ) : Prop where
  token : ∀ text ∈ atomic, isDigits text = true →
    IsNumeral (formatToken atomic decimals) (value text.toList / 10 ^ decimals)
  units : ∀ text ∈ atomic, isDigits text = true → (formatUnits atomic).toList = grouped ',' text.toList
  withoutCommas : ∀ text ∈ atomic, isDigits text = true →
    String.ofList ((formatUnits atomic).toList.filter (· ≠ ',')) = text
  other : (∀ text ∈ atomic, isDigits text = false) → formatToken atomic decimals = "—" ∧ formatUnits atomic = "—"

theorem formatUnits_toList {text : String} (hdigits : isDigits text = true) :
    (formatUnits (some text)).toList = grouped ',' text.toList := by
  obtain ⟨-, hdigit⟩ := isDigits_iff.1 hdigits
  unfold formatUnits
  rw [Option.filter_some_pos hdigits]
  simp only [String.toList_ofList]
  exact insertCommas_eq hdigit

/-- Amounts are displayed exactly if and only if there are decimals, or no amount to display. -/
theorem displayedExactly_iff (atomic : Option String) (decimals : ℕ) :
    DisplayedExactly atomic decimals ↔ ((∃ text ∈ atomic, isDigits text = true) → 0 < decimals) := by
  constructor
  · intro h hamount
    obtain ⟨text, hatomic, hdigits⟩ := hamount
    rw [Nat.pos_iff_ne_zero]
    intro hzero
    have hnumeral := h.token text hatomic hdigits
    obtain rfl : atomic = some text := hatomic
    obtain ⟨fraction, hformat⟩ := formatToken_zero hdigits
    obtain ⟨c, rest, htext, hc⟩ := hnumeral.head_isDigit
    rw [hzero, hformat] at htext
    split at htext
    · cases htext
    · obtain rfl := (List.cons.inj htext).1
      exact absurd hc (by decide)
  · intro h
    refine ⟨?_, ?_, ?_, ?_⟩
    · intro text hatomic hdigits
      obtain rfl : atomic = some text := hatomic
      exact formatToken_isNumeral hdigits (h ⟨text, rfl, hdigits⟩)
    · intro text hatomic hdigits
      obtain rfl : atomic = some text := hatomic
      exact formatUnits_toList hdigits
    · intro text hatomic hdigits
      obtain rfl : atomic = some text := hatomic
      obtain ⟨-, hdigit⟩ := isDigits_iff.1 hdigits
      have hcomma : ',' ∉ text.toList := fun hmem ↦ absurd (hdigit ',' hmem) (by decide)
      rw [formatUnits_toList hdigits, filter_grouped hcomma, String.ofList_toList]
    · intro hother
      have hnone : atomic.filter isDigits = none := by
        rw [Option.filter_eq_none_iff]
        intro text hatomic
        rw [hother text hatomic]
        decide
      rw [formatToken, formatUnits, hnone]
      exact ⟨rfl, rfl⟩

/-- Five units of a token without decimals are displayed without an integer part. -/
theorem formatToken_undivided :
    formatToken (some "5") 0 = ".5" ∧ ¬ DisplayedExactly (some "5") 0 := by
  have hformat : formatToken (some "5") 0 = ".5" := by decide
  refine ⟨hformat, fun h ↦ ?_⟩
  obtain ⟨c, rest, htext, hc⟩ := (h.token "5" rfl (by decide)).head_isDigit
  rw [hformat] at htext
  obtain rfl := (List.cons.inj (htext : ['.', '5'] = c :: rest)).1
  exact absurd hc (by decide)

example : formatToken (some "10000") = "0.01" ∧ formatUnits (some "50000") = "50,000" := by decide

end VirtualHaibin.Web
