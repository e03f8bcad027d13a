import VirtualHaibin.Foundation.Checked

/-!
# Strict schemas

Readers for hostile JSON: every object has exactly its known members, every text is bounded and
matches its pattern, every integer is exact and bounded below.  An error names the path of the value
it is about.  Each reader has an exact description of what it accepts.
-/

namespace VirtualHaibin.Foundation.Schema

open Checked

structure FormatError where
  path : String
  problem : String
  deriving DecidableEq

def FormatError.message (error : FormatError) : String := error.path ++ ": " ++ error.problem

/-- The result of reading one value; `none` is an absent member. -/
abbrev Reader (α : Type) := Option Json → Except FormatError α

def object (path : String) (required : List String) (optional : List String := []) :
    Reader (List (String × Json)) := fun value ↦
  match value with
  | some (.obj record) =>
    match unknownMember record (required ++ optional) with
    | some name => .error ⟨path, "unknown field " ++ Text.quote name⟩
    | none =>
      match required.find? fun name ↦ (Json.member record name).isNone with
      | some name => .error ⟨path, "missing field " ++ Text.quote name⟩
      | none => .ok record
  | _ => .error ⟨path, "must be an object"⟩

/-- A non-empty text of at most `max` code units. -/
def string (path : String) (max : ℕ) (pattern : String → Bool := fun _ ↦ true) : Reader String := fun value ↦
  match value with
  | some (.str text) =>
    if text = "" ∨ max < Text.utf16Length text then
      .error ⟨path, s!"must be a non-empty string of at most {max} characters"⟩
    else if pattern text then .ok text
    else .error ⟨path, "has an invalid format"⟩
  | _ => .error ⟨path, s!"must be a non-empty string of at most {max} characters"⟩

def integer (path : String) (min : ℤ := 0) : Reader ℤ := fun value ↦
  match value with
  | some (.num number) =>
    match number.safeInteger?.filter fun value ↦ min ≤ value with
    | some value => .ok value
    | none => .error ⟨path, s!"must be a safe integer >= {min}"⟩
  | _ => .error ⟨path, s!"must be a safe integer >= {min}"⟩

def nullable {α : Type} (read : Reader α) : Reader (Option α) := fun value ↦
  match value with
  | some .null => .ok none
  | value => (read value).map some

def literal (path expected : String) : Reader Unit := fun value ↦
  match value with
  | some (.str text) => guardThat (text = expected) ⟨path, "must be " ++ Text.quote expected⟩
  | _ => .error ⟨path, "must be " ++ Text.quote expected⟩

def literalInt (path : String) (expected : ℤ) : Reader Unit := fun value ↦
  match value with
  | some (.num number) => guardThat (number = .finite expected) ⟨path, s!"must be {expected}"⟩
  | _ => .error ⟨path, s!"must be {expected}"⟩

/-- Every item of a list in order, each with its position in the path. -/
def items {α : Type} (path : String) (read : String → Reader α) (values : List Json) :
    Except FormatError (List α) :=
  values.zipIdx.mapM fun entry ↦ read (path ++ "[" ++ entry.2.repr ++ "]") (some entry.1)

/-! ## What is accepted -/

/-- The bounds of a text field. -/
def Bounded (max : ℕ) (text : String) : Prop := text ≠ "" ∧ Text.utf16Length text ≤ max

instance (max : ℕ) (text : String) : Decidable (Bounded max text) := inferInstanceAs (Decidable (_ ∧ _))

/-- The bounds of an integer field. -/
def SafeFrom (min value : ℤ) : Prop :=
  min ≤ value ∧ -9007199254740991 ≤ value ∧ value ≤ 9007199254740991

instance (min value : ℤ) : Decidable (SafeFrom min value) := inferInstanceAs (Decidable (_ ∧ _ ∧ _))

theorem string_eq_ok {path : String} {max : ℕ} {pattern : String → Bool} {value : Option Json}
    {text : String} :
    string path max pattern value = .ok text ↔
      value = some (.str text) ∧ Bounded max text ∧ pattern text = true := by
  unfold string Bounded
  split
  · rename_i found
    split
    · rename_i hbad
      simp only [reduceCtorEq, false_iff, Option.some.injEq, Json.str.injEq, not_and, Bool.not_eq_true]
      rintro rfl ⟨hne, hle⟩
      rcases hbad with hbad | hbad
      · exact absurd hbad hne
      · omega
    · rename_i hgood
      rw [not_or, not_lt] at hgood
      split
      · rename_i hpattern
        constructor
        · intro h
          cases h
          exact ⟨rfl, hgood, hpattern⟩
        · rintro ⟨h, -, -⟩
          cases h
          rfl
      · rename_i hpattern
        simp only [reduceCtorEq, false_iff, Option.some.injEq, Json.str.injEq, not_and, Bool.not_eq_true]
        rintro rfl -
        simpa using hpattern
  · rename_i hne
    simp only [reduceCtorEq, false_iff, not_and]
    intro heq
    exact absurd heq (hne text)

theorem integer_eq_ok {path : String} {min : ℤ} {value : Option Json} {result : ℤ} :
    integer path min value = .ok result ↔ value = some (.int result) ∧ SafeFrom min result := by
  unfold integer SafeFrom Json.int
  split
  · rename_i number
    cases hsafe : number.safeInteger?.filter fun value ↦ min ≤ value with
    | none =>
      simp only [reduceCtorEq, Option.some.injEq, Json.num.injEq, false_iff]
      rintro ⟨rfl, hmin, hlow, hhigh⟩
      rw [safeInteger?_finite hlow hhigh, Option.filter_some_pos (by simpa using hmin)] at hsafe
      cases hsafe
    | some found =>
      obtain ⟨hfound, hmin⟩ := filter_eq_some.1 hsafe
      obtain ⟨rfl, hlow, hhigh⟩ := safeInteger?_eq_some hfound
      simp only [decide_eq_true_eq] at hmin
      constructor
      · intro h
        cases h
        exact ⟨rfl, hmin, hlow, hhigh⟩
      · rintro ⟨h, -⟩
        simp only [Option.some.injEq, Json.num.injEq, Number.finite.injEq, Rat.intCast_inj] at h
        rw [h]
  · rename_i hne
    simp only [reduceCtorEq, false_iff, not_and]
    intro heq
    exact absurd heq (hne _)

theorem literal_eq_ok {path expected : String} {value : Option Json} {result : Unit} :
    literal path expected value = .ok result ↔ value = some (.str expected) := by
  unfold literal
  split
  · simp
  · rename_i hne
    simp only [reduceCtorEq, false_iff]
    intro heq
    exact absurd heq (hne _)

theorem literalInt_eq_ok {path : String} {expected : ℤ} {value : Option Json} {result : Unit} :
    literalInt path expected value = .ok result ↔ value = some (.int expected) := by
  unfold literalInt Json.int
  split
  · simp
  · rename_i hne
    simp only [reduceCtorEq, false_iff]
    intro heq
    exact absurd heq (hne _)

theorem nullable_eq_ok {α : Type} {read : Reader α} {value : Option Json} {result : Option α} :
    nullable read value = .ok result ↔
      (value = some .null ∧ result = none) ∨
        (value ≠ some .null ∧ ∃ found, result = some found ∧ read value = .ok found) := by
  unfold nullable
  split
  · constructor
    · intro h
      cases h
      exact .inl ⟨rfl, rfl⟩
    · rintro (⟨-, rfl⟩ | ⟨hne, -⟩)
      · rfl
      · exact absurd rfl hne
  · rename_i hne
    cases hread : read value with
    | error e => simp [Except.map, show value ≠ some .null from hne]
    | ok found => simp [Except.map, show value ≠ some .null from hne, eq_comm]

/-- A written optional value reads back exactly when its content does. -/
theorem nullable_orNull {α β : Type} {read : Reader β} {encode : α → Json}
    (hne : ∀ a, encode a ≠ .null) (value : Option α) {result : Option β} :
    nullable read (some (Json.orNull encode value)) = .ok result ↔
      match value with
      | none => result = none
      | some a => ∃ found, result = some found ∧ read (some (encode a)) = .ok found := by
  rw [nullable_eq_ok]
  cases value with
  | none => simp [Json.orNull]
  | some a => simp [Json.orNull, hne a]

theorem object_eq_ok {path : String} {required optional : List String} {value : Option Json}
    {record : List (String × Json)} :
    object path required optional value = .ok record ↔
      value = some (.obj record) ∧ unknownMember record (required ++ optional) = none ∧
        ∀ name ∈ required, (Json.member record name).isSome = true := by
  unfold object
  split
  · rename_i found
    cases hunknown : unknownMember found (required ++ optional) with
    | some name =>
      simp only [reduceCtorEq, Option.some.injEq, Json.obj.injEq, false_iff]
      rintro ⟨rfl, hnone, -⟩
      rw [hunknown] at hnone
      cases hnone
    | none =>
      cases hmissing : required.find? fun name ↦ (Json.member found name).isNone with
      | some name =>
        simp only [reduceCtorEq, Option.some.injEq, Json.obj.injEq, false_iff]
        rintro ⟨rfl, -, hall⟩
        have hnone := List.find?_some hmissing
        have hsome := hall name (List.mem_of_find?_eq_some hmissing)
        simp only [Option.isNone_iff_eq_none] at hnone
        rw [hnone] at hsome
        cases hsome
      | none =>
        rw [List.find?_eq_none] at hmissing
        constructor
        · intro h
          cases h
          refine ⟨rfl, hunknown, fun name hname ↦ ?_⟩
          have hnot := hmissing name hname
          rw [Option.isNone_iff_eq_none] at hnot
          exact Option.isSome_iff_ne_none.2 hnot
        · rintro ⟨h, -, -⟩
          cases h
          rfl
  · rename_i hne
    simp only [reduceCtorEq, false_iff, not_and]
    intro heq
    exact absurd heq (hne record)

theorem mapM_eq_ok {ε α β : Type} {f : α → Except ε β} {values : List α} {results : List β} :
    values.mapM f = .ok results ↔ List.Forall₂ (fun value result ↦ f value = .ok result) values results := by
  induction values generalizing results with
  | nil =>
    rw [List.mapM_nil]
    constructor
    · intro h
      cases h
      exact .nil
    · intro h
      cases h
      rfl
  | cons value rest ih =>
    rw [List.mapM_cons, bind_eq_ok]
    constructor
    · rintro ⟨first, hfirst, h⟩
      rw [bind_eq_ok] at h
      obtain ⟨others, hothers, h⟩ := h
      cases h
      exact .cons hfirst (ih.1 hothers)
    · intro h
      cases h with
      | cons hfirst hrest =>
        refine ⟨_, hfirst, ?_⟩
        rw [bind_eq_ok]
        exact ⟨_, ih.2 hrest, rfl⟩

end VirtualHaibin.Foundation.Schema
