import Mathlib.Data.List.Basic

/-!
# Labelled transition systems

Runs of a partial step function, with a side condition on every step, and the induction rules
that turn what one step preserves into what every run preserves.
-/

namespace VirtualHaibin.Foundation

universe u v

variable {σ : Type u} {α : Type v}

/-- `Run step allowed init labels state`: the labels, in order, lead from `init` to `state`, and
each step satisfied `allowed` in the state it left. -/
inductive Run (step : σ → α → Option σ) (allowed : σ → α → Prop) (init : σ) : List α → σ → Prop
  | start : Run step allowed init [] init
  | next {labels : List α} {state state' : σ} {label : α} :
      Run step allowed init labels state → allowed state label → step state label = some state' →
        Run step allowed init (labels ++ [label]) state'

namespace Run

variable {step : σ → α → Option σ} {allowed allowed' : σ → α → Prop} {init : σ}

/-- An invariant that every allowed step preserves holds at the end of every run. -/
theorem invariant {invariant : σ → Prop} (hinit : invariant init)
    (hstep : ∀ state label state', invariant state → allowed state label →
      step state label = some state' → invariant state')
    {labels : List α} {state : σ} (hrun : Run step allowed init labels state) : invariant state := by
  induction hrun with
  | start => exact hinit
  | next _ hallowed hnext ih => exact hstep _ _ _ ih hallowed hnext

/-- The invariant rule for a property of a run that is itself at hand. -/
theorem invariant_run {invariant : List α → σ → Prop} (hinit : invariant [] init)
    (hstep : ∀ labels state label state', Run step allowed init labels state → invariant labels state →
      allowed state label → step state label = some state' → invariant (labels ++ [label]) state')
    {labels : List α} {state : σ} (hrun : Run step allowed init labels state) :
    invariant labels state := by
  induction hrun with
  | start => exact hinit
  | next hbefore hallowed hnext ih => exact hstep _ _ _ _ hbefore ih hallowed hnext

/-- Weakening the side condition, with an invariant of the run at hand. -/
theorem mono {invariant : σ → Prop} (hinit : invariant init)
    (hstep : ∀ state label state', invariant state → allowed state label →
      step state label = some state' → invariant state')
    (hallowed : ∀ state label, invariant state → allowed state label → allowed' state label)
    {labels : List α} {state : σ} (hrun : Run step allowed init labels state) :
    Run step allowed' init labels state := by
  induction hrun with
  | start => exact start
  | next hbefore hok hnext ih =>
    exact next ih (hallowed _ _ (hbefore.invariant hinit hstep) hok) hnext

theorem weaken (hallowed : ∀ state label, allowed state label → allowed' state label)
    {labels : List α} {state : σ} (hrun : Run step allowed init labels state) :
    Run step allowed' init labels state := by
  induction hrun with
  | start => exact start
  | next _ hok hnext ih => exact next ih (hallowed _ _ hok) hnext

/-- A run goes on from where another ended. -/
theorem append {labels more : List α} {middle state : σ} (hrun : Run step allowed init labels middle)
    (hmore : Run step allowed middle more state) : Run step allowed init (labels ++ more) state := by
  induction hmore with
  | start => rwa [List.append_nil]
  | next _ hallowed hnext ih =>
    rw [← List.append_assoc]
    exact next ih hallowed hnext

/-- The last step of a run. -/
theorem last {labels : List α} {label : α} {state : σ} (hrun : Run step allowed init (labels ++ [label]) state) :
    ∃ before, Run step allowed init labels before ∧ allowed before label ∧ step before label = some state := by
  generalize hwhole : labels ++ [label] = whole at hrun
  cases hrun with
  | start => simp at hwhole
  | next hbefore hallowed hnext =>
    obtain ⟨rfl, heq⟩ := List.append_inj' hwhole rfl
    cases heq
    exact ⟨_, hbefore, hallowed, hnext⟩

theorem of_nil {labels : List α} {state : σ} (hrun : Run step allowed init labels state) (h : labels = []) :
    state = init := by
  cases hrun with
  | start => rfl
  | next hbefore hallowed hnext => simp at h

/-- A run is determined by its labels. -/
theorem unique {labels : List α} {state state' : σ} (hrun : Run step allowed init labels state)
    (hrun' : Run step allowed' init labels state') : state = state' := by
  induction hrun generalizing state' with
  | start => exact (hrun'.of_nil rfl).symm
  | next hbefore hallowed hnext ih =>
    obtain ⟨before', hbefore', -, hnext'⟩ := hrun'.last
    rw [ih hbefore', hnext'] at hnext
    exact (Option.some.inj hnext).symm

/-- A run that meets two conditions meets both at every step. -/
theorem both {labels : List α} {state : σ} (hrun : Run step allowed init labels state)
    (hrun' : Run step allowed' init labels state) :
    Run step (fun state label ↦ allowed state label ∧ allowed' state label) init labels state := by
  induction hrun with
  | start => exact start
  | next hbefore hallowed hnext ih =>
    obtain ⟨before', hbefore', hallowed', -⟩ := hrun'.last
    obtain rfl := hbefore.unique hbefore'
    exact next (ih hbefore') ⟨hallowed, hallowed'⟩ hnext

/-- `Passed step allowed init labels property`: the run with these labels was in a state with the
property, at its end or before. -/
def Passed (step : σ → α → Option σ) (allowed : σ → α → Prop) (init : σ) (labels : List α)
    (property : σ → Prop) : Prop :=
  ∃ before after state, labels = before ++ after ∧ Run step allowed init before state ∧ property state

theorem passed_here {labels : List α} {state : σ} {property : σ → Prop}
    (hrun : Run step allowed init labels state) (hproperty : property state) :
    Passed step allowed init labels property :=
  ⟨labels, [], state, (List.append_nil labels).symm, hrun, hproperty⟩

theorem Passed.later {labels : List α} {property : σ → Prop} (h : Passed step allowed init labels property)
    (more : List α) : Passed step allowed init (labels ++ more) property := by
  obtain ⟨before, after, state, rfl, hrun, hproperty⟩ := h
  exact ⟨before, after ++ more, state, List.append_assoc _ _ _, hrun, hproperty⟩

/-- What holds at some time of a run and is kept by every step holds at its end. -/
theorem Passed.stable {property : σ → Prop}
    (hstable : ∀ state label state', property state → allowed state label → step state label = some state' →
      property state') {labels : List α} {state : σ} (h : Passed step allowed init labels property)
    (hrun : Run step allowed init labels state) : property state := by
  induction hrun with
  | start =>
    obtain ⟨before, after, middle, hlabels, hbefore, hproperty⟩ := h
    obtain ⟨rfl, -⟩ := List.append_eq_nil_iff.1 hlabels.symm
    exact hbefore.of_nil rfl ▸ hproperty
  | next hearlier hallowed hnext ih =>
    obtain ⟨before, after, middle, hlabels, hbefore, hproperty⟩ := h
    rcases List.eq_nil_or_concat after with rfl | ⟨after, final, rfl⟩
    · rw [List.append_nil] at hlabels
      subst hlabels
      exact hbefore.unique (next hearlier hallowed hnext) ▸ hproperty
    · rw [List.concat_eq_append, ← List.append_assoc] at hlabels
      obtain ⟨rfl, -⟩ := List.append_inj' hlabels rfl
      exact hstable _ _ _ (ih ⟨before, after, middle, rfl, hbefore, hproperty⟩) hallowed hnext

/-- A step of the run was the event: the steps before it, the state it left and its label are
related so. -/
def Took (step : σ → α → Option σ) (allowed : σ → α → Prop) (init : σ) (labels : List α)
    (event : List α → σ → α → Prop) : Prop :=
  ∃ before label after state, labels = before ++ label :: after ∧ Run step allowed init before state ∧
    event before state label

theorem not_took_nil {event : List α → σ → α → Prop} : ¬ Took step allowed init [] event := by
  rintro ⟨before, label, after, state, hlabels, -⟩
  simp at hlabels

theorem Took.later {labels : List α} {event : List α → σ → α → Prop}
    (h : Took step allowed init labels event) (more : List α) : Took step allowed init (labels ++ more) event := by
  obtain ⟨before, label, after, state, rfl, hrun, hevent⟩ := h
  exact ⟨before, label, after ++ more, state, by simp, hrun, hevent⟩

/-- One more step adds the event or leaves it where it was. -/
theorem took_snoc {labels : List α} {state : σ} {label : α} {event : List α → σ → α → Prop}
    (hrun : Run step allowed init labels state) :
    Took step allowed init (labels ++ [label]) event ↔
      Took step allowed init labels event ∨ event labels state label := by
  constructor
  · rintro ⟨before, other, after, state', hlabels, hbefore, hevent⟩
    rcases List.eq_nil_or_concat after with rfl | ⟨after, final, rfl⟩
    · obtain ⟨rfl, heq⟩ := List.append_inj' hlabels rfl
      cases heq
      exact .inr (hrun.unique hbefore ▸ hevent)
    · rw [List.concat_eq_append, ← List.cons_append, ← List.append_assoc] at hlabels
      obtain ⟨rfl, -⟩ := List.append_inj' hlabels rfl
      exact .inl ⟨before, other, after, state', rfl, hbefore, hevent⟩
  · rintro (⟨before, other, after, state', rfl, hbefore, hevent⟩ | hevent)
    · exact ⟨before, other, after ++ [label], state', by simp, hbefore, hevent⟩
    · exact ⟨labels, label, [], state, rfl, hrun, hevent⟩

end Run

end VirtualHaibin.Foundation
