import VirtualHaibin.Foundation.Json

/-!
# Checked decoding

Validators read an untrusted value member by member and stop at the first failed check.  The
inversion rules turn a successful validation into the conjunction of its checks, and the
introduction rules run one on a value known to pass.
-/

namespace VirtualHaibin.Foundation.Checked

universe u

variable {ε α β : Type u}

/-- The value a check produced, or its error. -/
def required (value : Option α) (error : ε) : Except ε α :=
  match value with
  | some result => .ok result
  | none => .error error

/-- Continue only if the condition holds. -/
def guardThat (condition : Bool) (error : ε) : Except ε PUnit.{u + 1} :=
  if condition then .ok PUnit.unit else .error error

@[simp] theorem required_eq_ok {value : Option α} {error : ε} {result : α} :
    required value error = .ok result ↔ value = some result := by
  cases value <;> simp [required]

@[simp] theorem guardThat_eq_ok {condition : Bool} {error : ε} {result : PUnit} :
    guardThat condition error = .ok result ↔ condition = true := by
  cases condition <;> simp [guardThat]

@[simp] theorem required_some (result : α) (error : ε) : required (some result) error = .ok result := rfl

@[simp] theorem guardThat_true (error : ε) : guardThat true error = .ok PUnit.unit := rfl

theorem bind_eq_ok {x : Except ε α} {f : α → Except ε β} {b : β} :
    (x >>= f) = .ok b ↔ ∃ a, x = .ok a ∧ f a = .ok b := by
  cases x with
  | error e => simp [bind, Except.bind]
  | ok a => simp [bind, Except.bind]

@[simp] theorem ok_bind (a : α) (f : α → Except ε β) : ((.ok a : Except ε α) >>= f) = f a := rfl

@[simp] theorem pure_eq_ok (a : α) : (pure a : Except ε α) = .ok a := rfl

theorem guardThat_bind_eq_ok {condition : Bool} {error : ε} {f : PUnit → Except ε β} {b : β} :
    (guardThat condition error >>= f) = .ok b ↔ condition = true ∧ f PUnit.unit = .ok b := by
  cases condition <;> simp [guardThat, bind, Except.bind]

theorem required_bind_eq_ok {value : Option α} {error : ε} {f : α → Except ε β} {b : β} :
    (required value error >>= f) = .ok b ↔ ∃ a, value = some a ∧ f a = .ok b := by
  cases value <;> simp [required, bind, Except.bind]

/-! ## Loops that store one result -/

/-- A step that skips some items, stores the result of another one, and fails on a second. -/
def StoresOnce {ι : Type u} (step : Option α → ι → Except ε (Option α)) (skips : ι → Prop)
    (stores : ι → α → Prop) : Prop :=
  ∀ state item next, step state item = .ok next ↔
    (skips item ∧ next = state) ∨ (state = none ∧ ∃ result, stores item result ∧ next = some result)

section StoresOnce

variable {ι : Type u} {step : Option α → ι → Except ε (Option α)} {skips : ι → Prop}
  {stores : ι → α → Prop}

theorem StoresOnce.foldlM_some (hstep : StoresOnce step skips stores) {result : α} {next : Option α}
    (items : List ι) :
    items.foldlM step (some result) = .ok next ↔ next = some result ∧ ∀ item ∈ items, skips item := by
  induction items with
  | nil => simp [eq_comm]
  | cons item rest ih =>
    rw [List.foldlM_cons, bind_eq_ok]
    constructor
    · rintro ⟨middle, hitem, hrest⟩
      rcases (hstep _ _ _).1 hitem with ⟨hskips, rfl⟩ | ⟨hnone, -⟩
      · obtain ⟨rfl, hall⟩ := ih.1 hrest
        exact ⟨rfl, List.forall_mem_cons.2 ⟨hskips, hall⟩⟩
      · cases hnone
    · rintro ⟨rfl, hall⟩
      obtain ⟨hskips, hrest⟩ := List.forall_mem_cons.1 hall
      exact ⟨some result, (hstep _ _ _).2 (.inl ⟨hskips, rfl⟩), ih.2 ⟨rfl, hrest⟩⟩

/-- The loop ends with a result exactly if one item stores it and all others are skipped. -/
theorem StoresOnce.foldlM_none (hstep : StoresOnce step skips stores) {result : α} (items : List ι) :
    items.foldlM step none = .ok (some result) ↔
      ∃ before item after, items = before ++ item :: after ∧ stores item result ∧
        ∀ other ∈ before ++ after, skips other := by
  induction items with
  | nil => simp
  | cons item rest ih =>
    rw [List.foldlM_cons, bind_eq_ok]
    constructor
    · rintro ⟨middle, hitem, hrest⟩
      rcases (hstep _ _ _).1 hitem with ⟨hskips, rfl⟩ | ⟨-, stored, hstores, rfl⟩
      · obtain ⟨before, found, after, rfl, hfound, hall⟩ := ih.1 hrest
        exact ⟨item :: before, found, after, rfl, hfound, List.forall_mem_cons.2 ⟨hskips, hall⟩⟩
      · obtain ⟨heq, hall⟩ := (hstep.foldlM_some rest).1 hrest
        cases heq
        exact ⟨[], item, rest, rfl, hstores, hall⟩
    · rintro ⟨before, found, after, heq, hfound, hall⟩
      cases before with
      | nil =>
        obtain ⟨rfl, rfl⟩ := List.cons.inj heq
        exact ⟨some result, (hstep _ _ _).2 (.inr ⟨rfl, result, hfound, rfl⟩),
          (hstep.foldlM_some rest).2 ⟨rfl, hall⟩⟩
      | cons first before =>
        obtain ⟨rfl, rfl⟩ := List.cons.inj heq
        obtain ⟨hskips, hall⟩ := List.forall_mem_cons.1 hall
        exact ⟨none, (hstep _ _ _).2 (.inl ⟨hskips, rfl⟩), ih.2 ⟨before, found, after, rfl, hfound, hall⟩⟩

end StoresOnce

/-! ## Reading members -/

def text (members : List (String × Json)) (name : String) : Option String :=
  match Json.member members name with
  | some (.str value) => some value
  | _ => none

def safeInteger (members : List (String × Json)) (name : String) : Option ℤ :=
  match Json.member members name with
  | some (.num value) => value.safeInteger?
  | _ => none

def object? : Option Json → Option (List (String × Json))
  | some (.obj members) => some members
  | _ => none

theorem text_eq_some {members : List (String × Json)} {name value : String} :
    text members name = some value ↔ Json.member members name = some (.str value) := by
  unfold text
  split <;> simp_all

theorem object?_eq_some {value : Option Json} {members : List (String × Json)} :
    object? value = some members ↔ value = some (.obj members) := by
  unfold object?
  split <;> simp_all

/-- The first member whose name is not among the known ones. -/
def unknownMember (members : List (String × Json)) (known : List String) : Option String :=
  (members.map Prod.fst).find? fun name ↦ name ∉ known

theorem filter_eq_some {value : Option α} {p : α → Bool} {result : α} :
    value.filter p = some result ↔ value = some result ∧ p result = true := by
  cases value with
  | none => simp
  | some other =>
    simp only [Option.filter_some, Option.some.injEq]
    split
    · rename_i hp
      constructor
      · rintro h
        cases h
        exact ⟨rfl, hp⟩
      · rintro ⟨rfl, -⟩
        rfl
    · rename_i hp
      constructor
      · intro h
        cases h
      · rintro ⟨rfl, h⟩
        exact absurd h hp

/-- A number printed from an integer in the exact range reads back. -/
theorem safeInteger?_finite {value : ℤ} (hlow : -9007199254740991 ≤ value)
    (hhigh : value ≤ 9007199254740991) : (Number.finite (value : ℚ)).safeInteger? = some value := by
  simp [Number.safeInteger?, hlow, hhigh]

theorem safeInteger?_eq_some {number : Number} {value : ℤ} (h : number.safeInteger? = some value) :
    number = .finite (value : ℚ) ∧ -9007199254740991 ≤ value ∧ value ≤ 9007199254740991 := by
  cases number with
  | infinite negative => simp [Number.safeInteger?] at h
  | finite q =>
    simp only [Number.safeInteger?] at h
    split at h
    · rename_i hrange
      obtain ⟨hden, hlow, hhigh⟩ := hrange
      cases h
      refine ⟨?_, hlow, hhigh⟩
      congr 1
      exact ((Rat.den_eq_one_iff q).1 hden).symm
    · cases h

theorem safeInteger_eq_some {members : List (String × Json)} {name : String} {value : ℤ} :
    safeInteger members name = some value ↔ Json.member members name = some (.int value) ∧
      -9007199254740991 ≤ value ∧ value ≤ 9007199254740991 := by
  constructor
  · intro h
    unfold safeInteger at h
    split at h
    · rename_i number hmember
      obtain ⟨rfl, hrange⟩ := safeInteger?_eq_some h
      exact ⟨hmember, hrange⟩
    · cases h
  · rintro ⟨hmember, hlow, hhigh⟩
    simp only [safeInteger, hmember, Json.int]
    exact safeInteger?_finite hlow hhigh

theorem unknownMember_eq_none {members : List (String × Json)} {known : List String} :
    unknownMember members known = none ↔ ∀ name ∈ members.map Prod.fst, name ∈ known := by
  simp [unknownMember, List.find?_eq_none]

end VirtualHaibin.Foundation.Checked
