import Mathlib.Data.List.Basic
import Mathlib.Tactic.Common

/-!
# Programs that call the outside world

A program is a tree of calls with a branch for every answer.  `Plays program trace result` says that
the calls and answers of `trace` are a run of the program, whatever the world behind them is.  A run
without a result stands at a call that has not answered, or was cut off in a loop.  Programs that may
fail return an `Except`; their rules say at which call a failure arose.
-/

namespace VirtualHaibin.Foundation

universe u v

/-- Calls of type `ω` with answers of type `Answer call`. -/
inductive Program (ω : Type u) (Answer : ω → Type v) (α : Type v) : Type (max u v)
  | pure (result : α)
  /-- A loop that goes on after the rounds looked at. -/
  | running
  | call (call : ω) (next : Answer call → Program ω Answer α)

namespace Program

variable {ω : Type u} {Answer : ω → Type v} {α β γ ε ε' : Type v}

def bind : Program ω Answer α → (α → Program ω Answer β) → Program ω Answer β
  | .pure result, f => f result
  | .running, _ => .running
  | .call c next, f => .call c fun answer ↦ (next answer).bind f

instance : Monad (Program ω Answer) where
  pure := .pure
  bind := .bind

/-- One call. -/
def perform (c : ω) : Program ω Answer (Answer c) := .call c .pure

variable (Answer) in
/-- A call with its answer, if it has answered. -/
abbrev Event := Σ c : ω, Option (Answer c)

/-- The runs of a program. -/
inductive Plays : Program ω Answer α → List (Event Answer) → Option α → Prop
  | pure (result : α) : Plays (.pure result) [] (some result)
  | running : Plays .running [] none
  | waiting (c : ω) (next : Answer c → Program ω Answer α) : Plays (.call c next) [⟨c, none⟩] none
  | answered (c : ω) (next : Answer c → Program ω Answer α) (answer : Answer c) {trace : List (Event Answer)}
      {result : Option α} : Plays (next answer) trace result → Plays (.call c next) (⟨c, some answer⟩ :: trace) result

theorem plays_pure {value : α} {trace : List (Event Answer)} {result : Option α} :
    Plays (Pure.pure value : Program ω Answer α) trace result ↔ trace = [] ∧ result = some value := by
  constructor
  · rintro ⟨⟩
    exact ⟨rfl, rfl⟩
  · rintro ⟨rfl, rfl⟩
    exact .pure value

theorem plays_running {trace : List (Event Answer)} {result : Option α} :
    Plays (.running : Program ω Answer α) trace result ↔ trace = [] ∧ result = none := by
  constructor
  · rintro ⟨⟩
    exact ⟨rfl, rfl⟩
  · rintro ⟨rfl, rfl⟩
    exact .running

theorem plays_perform {c : ω} {trace : List (Event Answer)} {result : Option (Answer c)} :
    Plays (perform c) trace result ↔ trace = [⟨c, result⟩] := by
  constructor
  · rintro (_ | _ | _ | ⟨-, -, answer, ⟨⟩⟩)
    · rfl
    · rfl
  · rintro rfl
    cases result with
    | none => exact .waiting c _
    | some answer => exact .answered c _ answer (.pure answer)

theorem Plays.performed (c : ω) (answer : Answer c) : Plays (perform c) [⟨c, some answer⟩] (some answer) :=
  plays_perform.2 rfl

/-- A run of a sequence ends in its first part or goes through it. -/
theorem plays_bind {program : Program ω Answer α} {f : α → Program ω Answer β}
    {trace : List (Event Answer)} {result : Option β} :
    Plays (program >>= f) trace result ↔ (Plays program trace none ∧ result = none) ∨
      ∃ value before after, trace = before ++ after ∧ Plays program before (some value) ∧
        Plays (f value) after result := by
  show Plays (program.bind f) trace result ↔ _
  constructor
  · intro h
    induction program generalizing trace with
    | pure value => exact .inr ⟨value, [], trace, rfl, .pure value, h⟩
    | running =>
      cases h
      exact .inl ⟨.running, rfl⟩
    | call c next ih =>
      cases h with
      | waiting => exact .inl ⟨.waiting c next, rfl⟩
      | answered _ _ answer h =>
        rcases ih answer h with ⟨hfirst, rfl⟩ | ⟨value, before, after, rfl, hfirst, hthen⟩
        · exact .inl ⟨.answered c next answer hfirst, rfl⟩
        · exact .inr ⟨value, _, after, rfl, .answered c next answer hfirst, hthen⟩
  · rintro (⟨hfirst, rfl⟩ | ⟨value, before, after, rfl, hfirst, hthen⟩)
    · generalize hresult : (none : Option α) = first at hfirst
      induction hfirst with
      | pure => cases hresult
      | running => exact .running
      | waiting c next => exact .waiting c _
      | answered c next answer _ ih => exact .answered c _ answer (ih hresult)
    · generalize hresult : some value = first at hfirst
      induction hfirst with
      | pure =>
        cases hresult
        exact hthen
      | running => cases hresult
      | waiting => cases hresult
      | answered c next answer _ ih => exact .answered c _ answer (ih hresult)

/-! ## Programs that fail -/

theorem plays_ok {value : α} {trace : List (Event Answer)} {result : Option (Except ε α)} :
    Plays (Pure.pure value : ExceptT ε (Program ω Answer) α).run trace result ↔
      trace = [] ∧ result = some (.ok value) :=
  plays_pure

theorem plays_throw {error : ε} {trace : List (Event Answer)} {result : Option (Except ε α)} :
    Plays (throw error : ExceptT ε (Program ω Answer) α).run trace result ↔
      trace = [] ∧ result = some (.error error) :=
  plays_pure

/-- How a sequence that may fail can run. -/
theorem plays_then {program : ExceptT ε (Program ω Answer) α} {f : α → ExceptT ε (Program ω Answer) β}
    {trace : List (Event Answer)} {result : Option (Except ε β)} :
    Plays (program >>= f).run trace result ↔ (Plays program.run trace none ∧ result = none) ∨
      (∃ error, Plays program.run trace (some (.error error)) ∧ result = some (.error error)) ∨
      ∃ value before after, trace = before ++ after ∧ Plays program.run before (some (.ok value)) ∧
        Plays (f value).run after result := by
  show Plays (program.run >>= ExceptT.bindCont f) trace result ↔ _
  rw [plays_bind]
  refine or_congr_right ⟨?_, ?_⟩
  · rintro ⟨value | value, before, after, rfl, hfirst, hthen⟩
    · obtain ⟨rfl, rfl⟩ := plays_pure.1 hthen
      rw [List.append_nil]
      exact .inl ⟨value, hfirst, rfl⟩
    · exact .inr ⟨value, before, after, rfl, hfirst, hthen⟩
  · rintro (⟨error, hfirst, rfl⟩ | ⟨value, before, after, rfl, hfirst, hthen⟩)
    · exact ⟨.error error, trace, [], (List.append_nil trace).symm, hfirst, .pure _⟩
    · exact ⟨.ok value, before, after, rfl, hfirst, hthen⟩

theorem plays_then_ok {program : ExceptT ε (Program ω Answer) α} {f : α → ExceptT ε (Program ω Answer) β}
    {trace : List (Event Answer)} {result : β} :
    Plays (program >>= f).run trace (some (.ok result)) ↔ ∃ value before after, trace = before ++ after ∧
      Plays program.run before (some (.ok value)) ∧ Plays (f value).run after (some (.ok result)) := by
  rw [plays_then]
  simp

/-- Two runs, one after the other. -/
theorem Plays.then {program : ExceptT ε (Program ω Answer) α} {f : α → ExceptT ε (Program ω Answer) β}
    {before after : List (Event Answer)} {value : α} {result : Option (Except ε β)}
    (hfirst : Plays program.run before (some (.ok value))) (hthen : Plays (f value).run after result) :
    Plays (program >>= f).run (before ++ after) result :=
  plays_then.2 (.inr (.inr ⟨value, before, after, rfl, hfirst, hthen⟩))

/-- A computation without calls. -/
def compute (value : Except ε α) : ExceptT ε (Program ω Answer) α := ExceptT.mk (.pure value)

theorem plays_compute {value : Except ε α} {trace : List (Event Answer)} {result : Option (Except ε α)} :
    Plays (compute value : ExceptT ε (Program ω Answer) α).run trace result ↔ trace = [] ∧ result = some value :=
  plays_pure

theorem plays_compute_ok {value : Except ε α} {trace : List (Event Answer)} {result : α} :
    Plays (compute value : ExceptT ε (Program ω Answer) α).run trace (some (.ok result)) ↔
      trace = [] ∧ value = .ok result := by
  rw [plays_compute, Option.some.injEq, eq_comm (a := value)]

/-- A call that does not fail. -/
def ask (c : ω) : ExceptT ε (Program ω Answer) (Answer c) := ExceptT.mk (.call c fun answer ↦ .pure (.ok answer))

theorem plays_ask {c : ω} {trace : List (Event Answer)} {result : Option (Except ε (Answer c))} :
    Plays (ask c : ExceptT ε (Program ω Answer) (Answer c)).run trace result ↔
      (trace = [⟨c, none⟩] ∧ result = none) ∨ ∃ answer, trace = [⟨c, some answer⟩] ∧ result = some (.ok answer) := by
  constructor
  · rintro (_ | _ | _ | ⟨-, -, answer, ⟨⟩⟩)
    · exact .inl ⟨rfl, rfl⟩
    · exact .inr ⟨answer, rfl, rfl⟩
  · rintro (⟨rfl, rfl⟩ | ⟨answer, rfl, rfl⟩)
    · exact .waiting c _
    · exact .answered c _ answer (.pure _)

theorem Plays.asked (c : ω) (answer : Answer c) :
    Plays (ask c : ExceptT ε (Program ω Answer) (Answer c)).run [⟨c, some answer⟩] (some (.ok answer)) :=
  plays_ask.2 (.inr ⟨answer, rfl, rfl⟩)

/-- Rethrow a failure as another one. -/
def rethrow (f : ε → ε') (program : ExceptT ε (Program ω Answer) α) : ExceptT ε' (Program ω Answer) α :=
  ExceptT.mk (program.run >>= fun result ↦ .pure (result.mapError f))

theorem plays_rethrow {f : ε → ε'} {program : ExceptT ε (Program ω Answer) α} {trace : List (Event Answer)}
    {result : Option (Except ε' α)} : Plays (rethrow f program).run trace result ↔
      ∃ inner, Plays program.run trace inner ∧ result = inner.map fun inner ↦ inner.mapError f := by
  show Plays (program.run >>= fun result ↦ .pure (result.mapError f)) trace result ↔ _
  rw [plays_bind]
  constructor
  · rintro (⟨hfirst, rfl⟩ | ⟨value, before, after, rfl, hfirst, hthen⟩)
    · exact ⟨none, hfirst, rfl⟩
    · obtain ⟨rfl, rfl⟩ := plays_pure.1 hthen
      exact ⟨some value, (List.append_nil before).symm ▸ hfirst, rfl⟩
  · rintro ⟨inner, hfirst, rfl⟩
    cases inner with
    | none => exact .inl ⟨hfirst, rfl⟩
    | some value => exact .inr ⟨value, trace, [], (List.append_nil trace).symm, hfirst, .pure _⟩

/-- Go on with a failure as a value. -/
def recover (f : ε → α) (program : ExceptT ε (Program ω Answer) α) : ExceptT ε' (Program ω Answer) α :=
  ExceptT.mk (program.run >>= fun
    | .ok value => .pure (.ok value)
    | .error error => .pure (.ok (f error)))

/-- A recovered program runs like the program and does not fail. -/
theorem plays_recover {f : ε → α} {program : ExceptT ε (Program ω Answer) α} {trace : List (Event Answer)}
    {result : Option (Except ε' α)} : Plays (recover f program).run trace result ↔
      (Plays program.run trace none ∧ result = none) ∨
      (∃ error, Plays program.run trace (some (.error error)) ∧ result = some (.ok (f error))) ∨
      ∃ value, Plays program.run trace (some (.ok value)) ∧ result = some (.ok value) := by
  show Plays (program.run >>= _) trace result ↔ _
  rw [plays_bind]
  refine or_congr_right ⟨?_, ?_⟩
  · rintro ⟨value | value, before, after, rfl, hfirst, hthen⟩
    · obtain ⟨rfl, rfl⟩ := plays_pure.1 hthen
      rw [List.append_nil]
      exact .inl ⟨value, hfirst, rfl⟩
    · obtain ⟨rfl, rfl⟩ := plays_pure.1 hthen
      rw [List.append_nil]
      exact .inr ⟨value, hfirst, rfl⟩
  · rintro (⟨error, hfirst, rfl⟩ | ⟨value, hfirst, rfl⟩)
    · exact ⟨.error error, trace, [], (List.append_nil trace).symm, hfirst, .pure _⟩
    · exact ⟨.ok value, trace, [], (List.append_nil trace).symm, hfirst, .pure _⟩

/-! ## Which calls a program makes -/

/-- Every call the program may make is of a kind. -/
def Only (kind : ω → Prop) : Program ω Answer α → Prop
  | .pure _ | .running => True
  | .call c next => kind c ∧ ∀ answer, (next answer).Only kind

variable {kind : ω → Prop}

theorem Only.mem {program : Program ω Answer α} (honly : program.Only kind) {trace : List (Event Answer)}
    {result : Option α} (h : Plays program trace result) : ∀ event ∈ trace, kind event.1 := by
  induction h with
  | pure => simp
  | running => simp
  | waiting => simpa using honly.1
  | answered c next answer _ ih =>
    rw [List.forall_mem_cons]
    exact ⟨honly.1, ih (honly.2 answer)⟩

theorem Only.mono {kind' : ω → Prop} {program : Program ω Answer α} (honly : program.Only kind)
    (h : ∀ c, kind c → kind' c) : program.Only kind' := by
  induction program with
  | pure => trivial
  | running => trivial
  | call c next ih => exact ⟨h c honly.1, fun answer ↦ ih answer (honly.2 answer)⟩

theorem only_bind {program : Program ω Answer α} {f : α → Program ω Answer β} (honly : program.Only kind)
    (hthen : ∀ value, (f value).Only kind) : (program >>= f).Only kind := by
  show (program.bind f).Only kind
  induction program with
  | pure value => exact hthen value
  | running => trivial
  | call c next ih => exact ⟨honly.1, fun answer ↦ ih answer (honly.2 answer)⟩

theorem only_then {program : ExceptT ε (Program ω Answer) α} {f : α → ExceptT ε (Program ω Answer) β}
    (honly : program.run.Only kind) (hthen : ∀ value, (f value).run.Only kind) : (program >>= f).run.Only kind :=
  only_bind honly fun value ↦ by
    cases value with
    | error => trivial
    | ok value => exact hthen value

theorem only_recover {f : ε → α} {program : ExceptT ε (Program ω Answer) α} (honly : program.run.Only kind) :
    (recover f program : ExceptT ε' (Program ω Answer) α).run.Only kind :=
  only_bind honly fun value ↦ by cases value <;> trivial

theorem only_ask {c : ω} (h : kind c) : (ask c : ExceptT ε (Program ω Answer) (Answer c)).run.Only kind :=
  ⟨h, fun _ ↦ trivial⟩

theorem only_perform {c : ω} (h : kind c) : (perform c : Program ω Answer (Answer c)).Only kind :=
  ⟨h, fun _ ↦ trivial⟩

theorem only_rethrow {f : ε → ε'} {program : ExceptT ε (Program ω Answer) α} (honly : program.run.Only kind) :
    (rethrow f program).run.Only kind :=
  only_bind honly fun _ ↦ trivial

/-- Every failure the program may end in is of a kind. -/
def Throws (kind : ε → Prop) : Program ω Answer (Except ε α) → Prop
  | .pure (.error error) => kind error
  | .pure (.ok _) | .running => True
  | .call _ next => ∀ answer, (next answer).Throws kind

variable {failure : ε → Prop}

theorem Throws.error {program : Program ω Answer (Except ε α)} (hthrows : program.Throws failure)
    {trace : List (Event Answer)} {error : ε} (h : Plays program trace (some (.error error))) : failure error := by
  generalize hresult : some (Except.error error) = result at h
  induction h with
  | pure =>
    cases hresult
    exact hthrows
  | running => cases hresult
  | waiting => cases hresult
  | answered c next answer _ ih => exact ih (hthrows answer) hresult

theorem throws_then {program : ExceptT ε (Program ω Answer) α} {f : α → ExceptT ε (Program ω Answer) β}
    (hthrows : program.run.Throws failure) (hthen : ∀ value, (f value).run.Throws failure) :
    (program >>= f).run.Throws failure := by
  show (program.run.bind (ExceptT.bindCont f)).Throws failure
  generalize program.run = first at hthrows
  induction first with
  | pure value =>
    cases value with
    | error => exact hthrows
    | ok value => exact hthen value
  | running => trivial
  | call c next ih => exact fun answer ↦ ih answer (hthrows answer)

theorem throws_rethrow {f : ε' → ε} {program : ExceptT ε' (Program ω Answer) α} (h : ∀ error, failure (f error)) :
    (rethrow f program).run.Throws failure := by
  show (program.run.bind _).Throws failure
  generalize program.run = first
  induction first with
  | pure value =>
    cases value with
    | error => exact h _
    | ok => trivial
  | running => trivial
  | call c next ih => exact fun answer ↦ ih answer

theorem throws_recover {f : ε' → α} {program : ExceptT ε' (Program ω Answer) α} :
    (recover f program : ExceptT ε (Program ω Answer) α).run.Throws failure := by
  show (program.run.bind _).Throws failure
  generalize program.run = first
  induction first with
  | pure value => cases value <;> trivial
  | running => trivial
  | call c next ih => exact fun answer ↦ ih answer

theorem throws_ask {c : ω} : (ask c : ExceptT ε (Program ω Answer) (Answer c)).run.Throws failure := fun _ ↦ trivial

end Program

end VirtualHaibin.Foundation
