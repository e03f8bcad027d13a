import VirtualHaibin.Foundation.Json
import VirtualHaibin.Foundation.Decimal
import Mathlib.Data.List.Lex
import Mathlib.Data.List.Sort
import Mathlib.Tactic.FinCases

/-!
# Canonical JSON

Two JSON values are the same when they differ in the order of object members only, which sorting
the members decides.  An encoding into JSON is faithful when that much of its output determines
its input.  The text of the sorted value, in the style of RFC 8785, determines the value: every
construct is self-delimiting, so two texts that agree up to their continuations carry one value.
-/

namespace VirtualHaibin.Foundation

namespace Text

/-- The UTF-16 code units of a text. -/
def utf16 (text : String) : List ℕ :=
  text.toList.flatMap fun c ↦
    if c.toNat < 0x10000 then [c.toNat]
    else [0xD800 + (c.toNat - 0x10000) / 0x400, 0xDC00 + (c.toNat - 0x10000) % 0x400]

end Text

namespace Json

/-- Members by name, in code-unit order. -/
def sortMembers (members : List (String × Json)) : List (String × Json) :=
  members.insertionSort fun a b ↦ Text.utf16 a.1 ≤ Text.utf16 b.1

theorem sortMembers_perm (members : List (String × Json)) : (sortMembers members).Perm members :=
  List.perm_insertionSort _ members

mutual

/-- Every object's members sorted. -/
def normal : Json → Json
  | .null => .null
  | .bool value => .bool value
  | .num value => .num value
  | .str value => .str value
  | .arr items => .arr (normalItems items)
  | .obj members => .obj (sortMembers (normalMembers members))

def normalItems : List Json → List Json
  | [] => []
  | item :: rest => item.normal :: normalItems rest

def normalMembers : List (String × Json) → List (String × Json)
  | [] => []
  | (name, value) :: rest => (name, value.normal) :: normalMembers rest

end

@[simp] theorem normal_null : normal .null = .null := rfl
@[simp] theorem normal_bool (value : Bool) : normal (.bool value) = .bool value := rfl
@[simp] theorem normal_str (value : String) : normal (.str value) = .str value := rfl
@[simp] theorem normal_num (value : Number) : normal (.num value) = .num value := rfl
@[simp] theorem normal_int (value : ℤ) : normal (.int value) = .int value := rfl

theorem normal_arr (items : List Json) : normal (.arr items) = .arr (items.map normal) := by
  have hitems : normalItems items = items.map normal := by
    induction items with
    | nil => rfl
    | cons item rest ih => simp [normalItems, ih]
  simp [normal, hitems]

theorem normalMembers_eq (members : List (String × Json)) :
    normalMembers members = members.map fun entry ↦ (entry.1, entry.2.normal) := by
  induction members with
  | nil => rfl
  | cons entry rest ih => simp [normalMembers, ih]

theorem normal_obj (members : List (String × Json)) :
    normal (.obj members) = .obj (sortMembers (members.map fun entry ↦ (entry.1, entry.2.normal))) := by
  rw [normal, normalMembers_eq]

theorem int_injective {a b : ℤ} (h : int a = int b) : a = b := by
  simpa [int] using h

@[simp] theorem int_inj {a b : ℤ} : int a = int b ↔ a = b :=
  ⟨int_injective, fun h ↦ h ▸ rfl⟩

/-- The named values of an object determine its normal form, and the other way round. -/
theorem perm_of_normal_obj {xs ys : List (String × Json)} (h : normal (.obj xs) = normal (.obj ys)) :
    (xs.map fun entry ↦ (entry.1, entry.2.normal)).Perm
      (ys.map fun entry ↦ (entry.1, entry.2.normal)) := by
  rw [normal_obj, normal_obj] at h
  have hsorted := Json.obj.inj h
  exact (sortMembers_perm _).symm.trans (hsorted ▸ sortMembers_perm _)

/-- The names an object has. -/
theorem names_perm_of_normal_obj {xs ys : List (String × Json)}
    (h : normal (.obj xs) = normal (.obj ys)) : (xs.map Prod.fst).Perm (ys.map Prod.fst) := by
  simpa [Function.comp_def] using (perm_of_normal_obj h).map Prod.fst

/-- Two permutations of one another with the same distinct keys in the same places are equal. -/
theorem eq_of_perm_of_keys {α β : Type*} {xs ys : List (α × β)} (hperm : xs.Perm ys)
    (hkeys : xs.map Prod.fst = ys.map Prod.fst) (hnodup : (xs.map Prod.fst).Nodup) : xs = ys := by
  induction xs generalizing ys with
  | nil => exact hperm.nil_eq
  | cons x xs ih =>
    cases ys with
    | nil => simp at hkeys
    | cons y ys =>
      simp only [List.map_cons, List.cons.injEq] at hkeys
      obtain ⟨hkey, hrest⟩ := hkeys
      simp only [List.map_cons, List.nodup_cons] at hnodup
      obtain ⟨hfresh, hnodup⟩ := hnodup
      have hhead : x = y := by
        rcases List.mem_cons.1 (hperm.subset List.mem_cons_self) with heq | hmem
        · exact heq
        · exact absurd (hrest ▸ List.mem_map_of_mem hmem) hfresh
      subst hhead
      rw [ih hperm.cons_inv hrest hnodup]

/-- Objects with the same distinct names in the same order are the same only member by member. -/
theorem values_of_normal_obj {xs ys : List (String × Json)} (hnames : xs.map Prod.fst = ys.map Prod.fst)
    (hnodup : (xs.map Prod.fst).Nodup) (h : normal (.obj xs) = normal (.obj ys)) :
    xs.map (fun entry ↦ entry.2.normal) = ys.map fun entry ↦ entry.2.normal := by
  have heq := eq_of_perm_of_keys (perm_of_normal_obj h) (by simpa [Function.comp_def] using hnames)
    (by simpa [Function.comp_def] using hnodup)
  simpa [Function.comp_def] using congrArg (List.map Prod.snd) heq

/-! ## Faithful encodings -/

/-- The encoded value up to member order determines the encoded data. -/
def Faithful {α : Type*} (encode : α → Json) : Prop :=
  ∀ ⦃a b⦄, (encode a).normal = (encode b).normal → a = b

namespace Faithful

variable {α : Type*} {encode : α → Json}

theorem str : Faithful Json.str := fun a b h ↦ by simpa using h

theorem num : Faithful Json.num := fun a b h ↦ by simpa using h

/-- A nullable field, where the encoding itself is never null. -/
theorem orNull (hencode : Faithful encode) (hne : ∀ a, (encode a).normal ≠ .null) :
    Faithful (Json.orNull encode) := by
  rintro (_ | a) (_ | b) h
  · rfl
  · exact absurd h.symm (hne b)
  · exact absurd h (hne a)
  · exact congrArg some (hencode h)

/-- An object with distinct names, which a tag of the data fixes and whose number tells the tag,
and whose values determine the data of one tag. -/
theorem of_tagged_members {τ : Type*} {members : α → List (String × Json)} (tag : α → τ)
    (names : τ → List String) (hnodup : ∀ t, (names t).Nodup)
    (hlength : ∀ s t, (names s).length = (names t).length → s = t)
    (hnames : ∀ a, (members a).map Prod.fst = names (tag a))
    (hvalues : ∀ a b, tag a = tag b → (members a).map (fun entry ↦ entry.2.normal) =
      (members b).map (fun entry ↦ entry.2.normal) → a = b) :
    Faithful fun a ↦ .obj (members a) := fun a b h ↦ by
  have hperm := names_perm_of_normal_obj h
  rw [hnames, hnames] at hperm
  have htag := hlength _ _ hperm.length_eq
  refine hvalues a b htag (values_of_normal_obj ?_ (hnames a ▸ hnodup _) h)
  rw [hnames, hnames, htag]

/-- An object with fixed distinct names whose values determine the encoded data. -/
theorem of_members {members : α → List (String × Json)} (names : List String) (hnodup : names.Nodup)
    (hnames : ∀ a, (members a).map Prod.fst = names)
    (hvalues : ∀ a b, (members a).map (fun entry ↦ entry.2.normal) =
      (members b).map (fun entry ↦ entry.2.normal) → a = b) :
    Faithful fun a ↦ .obj (members a) :=
  of_tagged_members (fun _ ↦ ()) (fun _ ↦ names) (fun _ ↦ hnodup) (fun _ _ _ ↦ rfl) hnames
    fun a b _ h ↦ hvalues a b h

theorem iff (hencode : Faithful encode) {a b : α} : (encode a).normal = (encode b).normal ↔ a = b :=
  ⟨fun h ↦ hencode h, fun h ↦ h ▸ rfl⟩

end Faithful

@[simp] theorem normal_orNull_str {a b : Option String} :
    (orNull .str a).normal = (orNull .str b).normal ↔ a = b :=
  (Faithful.str.orNull fun _ h ↦ by simp at h).iff

@[simp] theorem normal_orNull_num {a b : Option Number} :
    (orNull .num a).normal = (orNull .num b).normal ↔ a = b :=
  (Faithful.num.orNull fun _ h ↦ by simp at h).iff

@[simp] theorem normal_strings {a b : List String} :
    (arr (a.map .str)).normal = (arr (b.map .str)).normal ↔ a = b := by
  have hinjective : Function.Injective (normal ∘ Json.str) := fun x y h ↦ by simpa using h
  rw [normal_arr, normal_arr, Json.arr.injEq, List.map_map, List.map_map]
  exact (List.map_injective_iff.2 hinjective).eq_iff

end Json

namespace Text

/-- What stands in front of a continuation determines both. -/
def SelfDelimiting {α : Type*} (encode : α → List Char) : Prop :=
  ∀ ⦃a b r s⦄, encode a ++ r = encode b ++ s → a = b ∧ r = s

/-- Texts without terminators, each followed by one, agree where their terminated forms do. -/
theorem eq_of_terminated (terminates : Char → Bool) {x y r s : List Char}
    (hx : ∀ c ∈ x, terminates c = false) (hy : ∀ c ∈ y, terminates c = false)
    (hr : ∀ c ∈ r.head?, terminates c = true) (hs : ∀ c ∈ s.head?, terminates c = true)
    (h : x ++ r = y ++ s) : x = y ∧ r = s := by
  induction x generalizing y with
  | nil =>
    cases y with
    | nil => exact ⟨rfl, h⟩
    | cons c y =>
      have hhead := hr c (by simp [show r = c :: (y ++ s) from h])
      simp [hy c List.mem_cons_self] at hhead
  | cons c x ih =>
    cases y with
    | nil =>
      have hhead := hs c (by simp [← show c :: (x ++ r) = s from h])
      simp [hx c List.mem_cons_self] at hhead
    | cons d y =>
      simp only [List.cons_append, List.cons.injEq] at h
      obtain ⟨rfl, hrest⟩ := h
      obtain ⟨rfl, rfl⟩ := ih (fun c hc ↦ hx c (List.mem_cons_of_mem _ hc))
        (fun c hc ↦ hy c (List.mem_cons_of_mem _ hc)) hrest
      exact ⟨rfl, rfl⟩

/-- A text splits at its first separator. -/
theorem eq_of_separator {separator : Char} {x y r s : List Char} (hx : separator ∉ x)
    (hy : separator ∉ y) (h : x ++ separator :: r = y ++ separator :: s) : x = y ∧ r = s := by
  obtain ⟨hxy, hrs⟩ := eq_of_terminated (fun c ↦ c = separator)
    (fun c hc ↦ decide_eq_false fun heq ↦ hx (heq ▸ hc))
    (fun c hc ↦ decide_eq_false fun heq ↦ hy (heq ▸ hc)) (by simp) (by simp) h
  exact ⟨hxy, (List.cons.inj hrs).2⟩

/-- The character that a short escape stands for. -/
def unescapeShort (c : Char) : Char :=
  if c = 'b' then Char.ofNat 8
  else if c = 't' then Char.ofNat 9
  else if c = 'n' then Char.ofNat 10
  else if c = 'f' then Char.ofNat 12
  else if c = 'r' then Char.ofNat 13
  else c

def hexValue (c : Char) : ℕ := if c.isDigit then c.toNat - 48 else c.toNat - 87

/-- The first character inside a string literal and what follows it; `none` at the closing quote. -/
def unescape : List Char → Option (Char × List Char)
  | [] => none
  | c :: rest =>
    if c = '"' then none
    else if c = '\\' then
      match rest with
      | 'u' :: '0' :: '0' :: high :: low :: rest =>
        some (Char.ofNat (16 * hexValue high + hexValue low), rest)
      | c :: rest => some (unescapeShort c, rest)
      | [] => none
    else some (c, rest)

theorem ofNat_eq_of_toNat {c : Char} {n : ℕ} (h : c.toNat = n) : Char.ofNat n = c := by
  rw [← h, Char.ofNat_toNat]

theorem unescape_escapeChar (c : Char) (rest : List Char) :
    unescape (escapeChar c ++ rest) = some (c, rest) := by
  unfold escapeChar
  split_ifs with hquote hback h8 h9 h10 h12 h13 hcontrol
  · simp [unescape, unescapeShort, hquote]
  · simp [unescape, unescapeShort, hback]
  · simp [unescape, unescapeShort, ← ofNat_eq_of_toNat h8]
  · simp [unescape, unescapeShort, ← ofNat_eq_of_toNat h9]
  · simp [unescape, unescapeShort, ← ofNat_eq_of_toNat h10]
  · simp [unescape, unescapeShort, ← ofNat_eq_of_toNat h12]
  · simp [unescape, unescapeShort, ← ofNat_eq_of_toNat h13]
  · have hvalue : ∀ n < 0x20, 16 * hexValue (hexDigit (n / 16)) + hexValue (hexDigit (n % 16)) = n := by
      decide
    simp [unescape, hvalue _ hcontrol]
  · simp [unescape, hquote, hback]

theorem escapeChar_selfDelimiting : SelfDelimiting escapeChar := fun a b r s h ↦ by
  have hread := unescape_escapeChar a r
  rw [h, unescape_escapeChar] at hread
  simpa [eq_comm] using hread

/-- The characters of a string literal. -/
def quoteChars (text : String) : List Char := '"' :: (text.toList.flatMap escapeChar ++ ['"'])

theorem quote_toList (text : String) : (quote text).toList = quoteChars text := by
  simp [quote, quoteChars]

theorem escaped_selfDelimiting {a b r s : List Char}
    (h : a.flatMap escapeChar ++ '"' :: r = b.flatMap escapeChar ++ '"' :: s) : a = b ∧ r = s := by
  have hclosing : ∀ (c : Char) (rest tail : List Char), '"' :: tail ≠ escapeChar c ++ rest := by
    intro c rest tail heq
    have := unescape_escapeChar c rest
    rw [← heq] at this
    simp [unescape] at this
  induction a generalizing b with
  | nil =>
    cases b with
    | nil => simpa using h
    | cons d b => exact absurd (by simpa using h) (hclosing d _ r)
  | cons c a ih =>
    cases b with
    | nil => exact absurd (by simpa using h.symm) (hclosing c _ s)
    | cons d b =>
      simp only [List.flatMap_cons, List.append_assoc] at h
      obtain ⟨rfl, hrest⟩ := escapeChar_selfDelimiting h
      obtain ⟨rfl, rfl⟩ := ih hrest
      exact ⟨rfl, rfl⟩

theorem quoteChars_selfDelimiting : SelfDelimiting quoteChars := fun a b r s h ↦ by
  simp only [quoteChars, List.cons_append, List.append_assoc, List.nil_append, List.cons.injEq,
    true_and] at h
  obtain ⟨htext, hrest⟩ := escaped_selfDelimiting h
  exact ⟨String.toList_injective htext, hrest⟩

end Text

/-! ## Canonical text -/

namespace Number

/-- Integers as the JSON printer has them; other values as exact fractions. -/
def text : Number → List Char
  | .finite value =>
    if value.den = 1 then value.num.repr.toList
    else value.num.repr.toList ++ '/' :: value.den.repr.toList
  | .infinite negative => if negative then "-Infinity".toList else "Infinity".toList

theorem digit_of_mem_repr {n : ℕ} {c : Char} (h : c ∈ n.repr.toList) : c.isDigit = true := by
  rw [Nat.repr_eq_ofList_toDigits, String.toList_ofList] at h
  exact Nat.isDigit_of_mem_toDigits (by decide) (by decide) h

/-- The characters of printed integers. -/
def isSigned (c : Char) : Bool := c.isDigit || c = '-'

theorem signed_of_mem_repr {n : ℤ} {c : Char} (h : c ∈ n.repr.toList) : isSigned c = true := by
  cases n with
  | ofNat n => simp [isSigned, digit_of_mem_repr h]
  | negSucc n =>
    have hchars : (Int.negSucc n).repr.toList = '-' :: (n + 1).repr.toList := by simp [Int.repr]
    rcases List.mem_cons.1 (hchars ▸ h) with rfl | hmem
    · rfl
    · simp [isSigned, digit_of_mem_repr hmem]

theorem intRepr_injective : Function.Injective Int.repr := by
  have hsign : ∀ m n : ℕ, m.repr ≠ "-" ++ n.repr := by
    intro m n heq
    have := digit_of_mem_repr (n := m) (c := '-') (by simp [heq])
    exact absurd this (by decide)
  rintro (m | m) (n | n) h
  · rw [Decimal.repr_injective h]
  · exact absurd h (hsign m (n + 1))
  · exact absurd h.symm (hsign n (m + 1))
  · have htail : (m + 1).repr = (n + 1).repr := by simpa [Int.repr] using h
    have := Decimal.repr_injective htail
    rw [show m = n by omega]

theorem text_injective : Function.Injective text := by
  have hfraction : ∀ n : ℤ, '/' ∉ n.repr.toList := fun n h ↦ absurd (signed_of_mem_repr h) (by decide)
  have hinfinite : ∀ q : ℚ, 'I' ∉ (finite q).text := by
    intro q hmem
    simp only [text] at hmem
    split at hmem
    · exact absurd (signed_of_mem_repr hmem) (by decide)
    · simp only [List.mem_append, List.mem_cons, Char.reduceEq, false_or] at hmem
      rcases hmem with hnum | hden
      · exact absurd (signed_of_mem_repr hnum) (by decide)
      · exact absurd (digit_of_mem_repr hden) (by decide)
  have hletter : ∀ negative, 'I' ∈ (infinite negative).text := by decide
  rintro (p | p) (q | q) h
  · simp only [text] at h
    split_ifs at h with hp hq hq
    · have hnum := intRepr_injective (String.toList_injective h)
      rw [Rat.ext hnum (hp.trans hq.symm)]
    · exact absurd (h ▸ List.mem_append_right _ List.mem_cons_self) (hfraction p.num)
    · exact absurd (h ▸ List.mem_append_right _ List.mem_cons_self) (hfraction q.num)
    · obtain ⟨hnum, hden⟩ := Text.eq_of_separator (hfraction p.num) (hfraction q.num) h
      rw [Rat.ext (intRepr_injective (String.toList_injective hnum))
        (Decimal.repr_injective (String.toList_injective hden))]
  · exact absurd (h ▸ hletter q) (hinfinite p)
  · exact absurd (h ▸ hletter p) (hinfinite q)
  · revert h
    revert p q
    decide

/-- The characters that end a number. -/
def isDelimiter (c : Char) : Bool := c = ',' || c = ']' || c = '}'

theorem not_delimiter_of_mem_text {n : Number} {c : Char} (h : c ∈ n.text) : isDelimiter c = false := by
  have hsigned : ∀ c : Char, isSigned c = true → isDelimiter c = false := by
    intro c hc
    simp only [isSigned, Bool.or_eq_true, Decimal.isDigit_iff, decide_eq_true_eq] at hc
    rcases hc with hdigit | rfl
    · have hne : ∀ d : Char, 57 < d.toNat ∨ d.toNat < 48 → c ≠ d := by
        rintro d hd rfl
        omega
      simp [isDelimiter, hne ',' (by decide), hne ']' (by decide), hne '}' (by decide)]
    · rfl
  cases n with
  | finite q =>
    simp only [text] at h
    split at h
    · exact hsigned c (signed_of_mem_repr h)
    · simp only [List.mem_append, List.mem_cons] at h
      rcases h with hnum | rfl | hden
      · exact hsigned c (signed_of_mem_repr hnum)
      · rfl
      · exact hsigned c (by simp [isSigned, digit_of_mem_repr hden])
  | infinite negative =>
    have hall : (text (.infinite negative)).all (fun c ↦ !isDelimiter c) = true := by
      cases negative <;> decide
    simpa using List.all_eq_true.1 hall c h

end Number

/-- A continuation that does not prolong a number. -/
def Delimited (rest : List Char) : Prop := ∀ c ∈ rest.head?, Number.isDelimiter c = true

theorem Number.text_eq {a b : Number} {r s : List Char} (hr : Delimited r) (hs : Delimited s)
    (h : a.text ++ r = b.text ++ s) : a = b ∧ r = s := by
  obtain ⟨htext, hrest⟩ := Text.eq_of_terminated isDelimiter (fun c hc ↦ not_delimiter_of_mem_text hc)
    (fun c hc ↦ not_delimiter_of_mem_text hc) hr hs h
  exact ⟨text_injective htext, hrest⟩

namespace Json

mutual

/-- The text of a value whose members are already in order. -/
def render : Json → List Char
  | .null => "null".toList
  | .bool value => if value then "true".toList else "false".toList
  | .num value => value.text
  | .str value => Text.quoteChars value
  | .arr items => '[' :: renderItems items
  | .obj members => '{' :: renderMembers members

def renderItems : List Json → List Char
  | [] => [']']
  | item :: rest => item.render ++ renderItemsTail rest

def renderItemsTail : List Json → List Char
  | [] => [']']
  | item :: rest => ',' :: (item.render ++ renderItemsTail rest)

def renderMembers : List (String × Json) → List Char
  | [] => ['}']
  | (name, value) :: rest => Text.quoteChars name ++ ':' :: (value.render ++ renderMembersTail rest)

def renderMembersTail : List (String × Json) → List Char
  | [] => ['}']
  | (name, value) :: rest =>
    ',' :: (Text.quoteChars name ++ ':' :: (value.render ++ renderMembersTail rest))

end

/-- The first character of a rendered value tells the constructor; 6 and 7 close a construct. -/
def kindOf : Option Char → ℕ
  | some 'n' => 0
  | some 't' => 1
  | some 'f' => 1
  | some '"' => 3
  | some '[' => 4
  | some '{' => 5
  | some ']' => 6
  | some '}' => 7
  | _ => 2

def kind : Json → ℕ
  | .null => 0
  | .bool _ => 1
  | .num _ => 2
  | .str _ => 3
  | .arr _ => 4
  | .obj _ => 5

theorem kindOf_text (n : Number) (rest : List Char) : kindOf (n.text ++ rest).head? = 2 := by
  have hsigned : ∀ c : Char, Number.isSigned c = true → kindOf (some c) = 2 := by
    intro c hc
    unfold kindOf
    split <;> first | rfl | (rename_i heq; obtain rfl := Option.some.inj heq; exact absurd hc (by decide))
  have hint : ∀ (n : ℤ) rest, kindOf (n.repr.toList ++ rest).head? = 2 := by
    intro n rest
    cases hchars : n.repr.toList with
    | nil =>
      cases n with
      | ofNat n => exact absurd hchars (by simp [Int.repr])
      | negSucc n => simp [Int.repr] at hchars
    | cons c chars => exact hsigned c (Number.signed_of_mem_repr (by rw [hchars]; exact List.mem_cons_self))
  cases n with
  | finite q =>
    simp only [Number.text]
    split
    · exact hint _ _
    · rw [List.append_assoc]
      exact hint _ _
  | infinite negative => cases negative <;> rfl

theorem kindOf_render (value : Json) (rest : List Char) :
    kindOf (value.render ++ rest).head? = value.kind := by
  cases value with
  | num n => exact kindOf_text n rest
  | bool value => cases value <;> rfl
  | _ => rfl

theorem kind_le (value : Json) : value.kind ≤ 5 := by cases value <;> simp [kind]

/-- A rendered value does not start with a closing bracket. -/
theorem render_ne_close {value : Json} {rest tail : List Char} {c : Char} (hc : 5 < kindOf (some c)) :
    c :: tail ≠ value.render ++ rest := by
  intro heq
  have hkind := kindOf_render value rest
  rw [← heq] at hkind
  have := value.kind_le
  rw [← hkind] at this
  exact absurd this (by simpa using hc)

theorem delimited_cons {c : Char} {rest : List Char} (h : Number.isDelimiter c = true) :
    Delimited (c :: rest) := by
  simpa [Delimited] using h

theorem renderItemsTail_delimited (items : List Json) (rest : List Char) :
    Delimited (renderItemsTail items ++ rest) := by
  cases items <;> exact delimited_cons rfl

theorem renderMembersTail_delimited (members : List (String × Json)) (rest : List Char) :
    Delimited (renderMembersTail members ++ rest) := by
  cases members <;> exact delimited_cons rfl

mutual

/-- A rendered value in front of a delimited continuation determines both. -/
theorem render_eq : ∀ (v w : Json) {r s : List Char}, Delimited r → Delimited s →
    v.render ++ r = w.render ++ s → v = w ∧ r = s
  | v, w, r, s, hr, hs, h => by
    have hkind : v.kind = w.kind := by rw [← kindOf_render v r, h, kindOf_render]
    match v, w with
    | .null, .null => simpa [render] using h
    | .bool a, .bool b => cases a <;> cases b <;> simp_all [render]
    | .num a, .num b =>
      obtain ⟨rfl, hrest⟩ := Number.text_eq hr hs h
      exact ⟨rfl, hrest⟩
    | .str a, .str b =>
      obtain ⟨rfl, hrest⟩ := Text.quoteChars_selfDelimiting h
      exact ⟨rfl, hrest⟩
    | .arr xs, .arr ys =>
      obtain ⟨rfl, hrest⟩ := renderItems_eq xs ys (List.cons.inj h).2
      exact ⟨rfl, hrest⟩
    | .obj xs, .obj ys =>
      obtain ⟨rfl, hrest⟩ := renderMembers_eq xs ys (List.cons.inj h).2
      exact ⟨rfl, hrest⟩

theorem renderItems_eq : ∀ (xs ys : List Json) {r s : List Char},
    renderItems xs ++ r = renderItems ys ++ s → xs = ys ∧ r = s
  | [], [], r, s, h => ⟨rfl, by simpa [renderItems] using h⟩
  | [], y :: ys, r, s, h => absurd (by simpa [renderItems] using h) (render_ne_close (by decide))
  | x :: xs, [], r, s, h => absurd (by simpa [renderItems] using h.symm) (render_ne_close (by decide))
  | x :: xs, y :: ys, r, s, h => by
    simp only [renderItems, List.append_assoc] at h
    obtain ⟨rfl, htail⟩ := render_eq x y (renderItemsTail_delimited xs r) (renderItemsTail_delimited ys s) h
    obtain ⟨rfl, hrest⟩ := renderItemsTail_eq xs ys htail
    exact ⟨rfl, hrest⟩

theorem renderItemsTail_eq : ∀ (xs ys : List Json) {r s : List Char},
    renderItemsTail xs ++ r = renderItemsTail ys ++ s → xs = ys ∧ r = s
  | [], [], r, s, h => ⟨rfl, by simpa [renderItemsTail] using h⟩
  | [], y :: ys, r, s, h => by simp [renderItemsTail] at h
  | x :: xs, [], r, s, h => by simp [renderItemsTail] at h
  | x :: xs, y :: ys, r, s, h => by
    simp only [renderItemsTail, List.cons_append, List.append_assoc, List.cons.injEq, true_and] at h
    obtain ⟨rfl, htail⟩ := render_eq x y (renderItemsTail_delimited xs r) (renderItemsTail_delimited ys s) h
    obtain ⟨rfl, hrest⟩ := renderItemsTail_eq xs ys htail
    exact ⟨rfl, hrest⟩

theorem renderMembers_eq : ∀ (xs ys : List (String × Json)) {r s : List Char},
    renderMembers xs ++ r = renderMembers ys ++ s → xs = ys ∧ r = s
  | [], [], r, s, h => ⟨rfl, by simpa [renderMembers] using h⟩
  | [], (n, y) :: ys, r, s, h => by simp [renderMembers, Text.quoteChars] at h
  | (m, x) :: xs, [], r, s, h => by simp [renderMembers, Text.quoteChars] at h
  | (m, x) :: xs, (n, y) :: ys, r, s, h => by
    simp only [renderMembers, List.cons_append, List.append_assoc] at h
    obtain ⟨rfl, hvalue⟩ := Text.quoteChars_selfDelimiting h
    obtain ⟨rfl, htail⟩ := render_eq x y (renderMembersTail_delimited xs r)
      (renderMembersTail_delimited ys s) (List.cons.inj hvalue).2
    obtain ⟨rfl, hrest⟩ := renderMembersTail_eq xs ys htail
    exact ⟨rfl, hrest⟩

theorem renderMembersTail_eq : ∀ (xs ys : List (String × Json)) {r s : List Char},
    renderMembersTail xs ++ r = renderMembersTail ys ++ s → xs = ys ∧ r = s
  | [], [], r, s, h => ⟨rfl, by simpa [renderMembersTail] using h⟩
  | [], (n, y) :: ys, r, s, h => by simp [renderMembersTail] at h
  | (m, x) :: xs, [], r, s, h => by simp [renderMembersTail] at h
  | (m, x) :: xs, (n, y) :: ys, r, s, h => by
    simp only [renderMembersTail, List.cons_append, List.append_assoc, List.cons.injEq, true_and] at h
    obtain ⟨rfl, hvalue⟩ := Text.quoteChars_selfDelimiting h
    obtain ⟨rfl, htail⟩ := render_eq x y (renderMembersTail_delimited xs r)
      (renderMembersTail_delimited ys s) (List.cons.inj hvalue).2
    obtain ⟨rfl, hrest⟩ := renderMembersTail_eq xs ys htail
    exact ⟨rfl, hrest⟩

end

/-- The canonical JSON text of a value. -/
def canonical (value : Json) : String := String.ofList value.normal.render

/-- One text is the canonical text of one value. -/
theorem canonical_injective {a b : Json} (h : a.canonical = b.canonical) : a.normal = b.normal := by
  have htext : a.normal.render ++ [] = b.normal.render ++ [] := by
    simpa using String.ofList_injective h
  exact (render_eq _ _ (by simp [Delimited]) (by simp [Delimited]) htext).1

/-- The array of string literals is the text of an array of strings. -/
theorem quoteAll_toList (texts : List String) :
    (Text.quoteAll texts).toList = (arr (texts.map .str)).render := by
  have hitems : renderItems (texts.map .str) =
      List.intercalate [','] (texts.map Text.quoteChars) ++ [']'] := by
    induction texts with
    | nil => rfl
    | cons text rest ih =>
      cases rest with
      | nil => simp [renderItems, renderItemsTail, render]
      | cons next rest =>
        calc renderItems ((text :: next :: rest).map .str)
            = Text.quoteChars text ++ ',' :: renderItems ((next :: rest).map .str) := rfl
          _ = _ := by rw [ih]; simp
  have hquote : texts.map (String.toList ∘ Text.quote) = texts.map Text.quoteChars :=
    List.map_congr_left fun text _ ↦ Text.quote_toList text
  simp [Text.quoteAll, render, hitems, hquote, String.toList_intercalate]

theorem quoteAll_injective : Function.Injective Text.quoteAll := fun a b h ↦ by
  have hrender : (arr (a.map .str)).render ++ [] = (arr (b.map .str)).render ++ [] := by
    rw [← quoteAll_toList, ← quoteAll_toList, h]
  have hvalue := (render_eq _ _ (by simp [Delimited]) (by simp [Delimited]) hrender).1
  exact normal_strings.1 (congrArg normal hvalue)

end Json

example : (Json.obj [("b", .int 2), ("a", .arr [.str "x\n", .null, .bool true])]).canonical =
    "\x7b\"a\":[\"x\\n\",null,true],\"b\":2\x7d" := by decide

end VirtualHaibin.Foundation
