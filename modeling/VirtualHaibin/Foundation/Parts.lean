import VirtualHaibin.Foundation.Transition
import Mathlib.Algebra.BigOperators.Group.List.Basic
import Mathlib.Algebra.GroupWithZero.Nat
import Mathlib.Algebra.Order.BigOperators.Group.List
import Mathlib.Algebra.Order.Group.Nat

/-!
# Parts and wholes

The run of one part of a composed system, and the sum of a list from the sums of its classes.
-/

namespace VirtualHaibin.Foundation

universe u v w

/-! ## The run of a part -/

namespace Run

variable {σ τ : Type u} {α β : Type v} {step : σ → α → Option σ} {allowed : σ → α → Prop} {init state : σ}
  {labels : List α}

/-- The steps of one part are a run of it when the others leave it alone. -/
theorem project {stepPart : τ → β → Option τ} {allowedPart : τ → β → Prop} (part : σ → τ) (label? : α → Option β)
    (hother : ∀ state label state', step state label = some state' → label? label = none → part state' = part state)
    (hown : ∀ state label state' own, allowed state label → step state label = some state' → label? label = some own →
      allowedPart (part state) own ∧ stepPart (part state) own = some (part state'))
    (hrun : Run step allowed init labels state) :
    Run stepPart allowedPart (part init) (labels.filterMap label?) (part state) := by
  induction hrun with
  | start => exact start
  | @next labels state state' label hbefore hallowed hnext ih =>
    rw [List.filterMap_append]
    cases hlabel : label? label with
    | none =>
      rw [List.filterMap_cons_none hlabel, List.filterMap_nil, List.append_nil, hother _ _ _ hnext hlabel]
      exact ih
    | some own =>
      obtain ⟨hallowedPart, hstep⟩ := hown _ _ _ _ hallowed hnext hlabel
      rw [List.filterMap_cons_some hlabel, List.filterMap_nil]
      exact next ih hallowedPart hstep

/-- What every label guarantees in the state it is taken in may be added to the side condition. -/
theorem strengthen {extra : σ → α → Prop}
    (hextra : ∀ before label after middle, labels = before ++ label :: after → Run step allowed init before middle →
      extra middle label) (hrun : Run step allowed init labels state) :
    Run step (fun state label ↦ allowed state label ∧ extra state label) init labels state := by
  induction hrun with
  | start => exact start
  | @next labels state state' label hbefore hallowed hnext ih =>
    apply next
    · apply ih
      intro before other after middle heq hmiddle
      refine hextra before other (after ++ [label]) middle ?_ hmiddle
      rw [heq, List.append_assoc, List.cons_append]
    · exact ⟨hallowed, hextra labels label [] state rfl hbefore⟩
    · exact hnext

end Run

/-! ## Sums over classes -/

/-- A list whose classes each sum to no more than a bound sums to no more than the bound for each class. -/
theorem sum_map_le_of_classes {α : Type u} {κ : Type w} [DecidableEq κ] {key : α → κ} {amount : α → ℕ} {bound : ℕ}
    (keys : List κ) (entries : List α) (hkeys : ∀ entry ∈ entries, key entry ∈ keys)
    (hclass : ∀ k ∈ keys, ((entries.filter fun entry ↦ key entry = k).map amount).sum ≤ bound) :
    (entries.map amount).sum ≤ keys.length * bound := by
  induction keys generalizing entries with
  | nil =>
    have hempty : entries = [] := List.eq_nil_iff_forall_not_mem.2 fun entry hmem ↦ by simpa using hkeys entry hmem
    simp [hempty]
  | cons k keys ih =>
    have hrest : ((entries.filter fun entry ↦ !decide (key entry = k)).map amount).sum ≤ keys.length * bound := by
      apply ih
      · intro entry hmem
        obtain ⟨hentry, hne⟩ := List.mem_filter.1 hmem
        exact (List.mem_cons.1 (hkeys entry hentry)).resolve_left (by simpa using hne)
      · intro other hother
        refine le_trans ?_ (hclass other (List.mem_cons_of_mem k hother))
        apply List.Sublist.sum_le_sum
        · apply List.Sublist.map
          rw [List.filter_filter]
          exact List.monotone_filter_right entries (by simp +contextual)
        · simp
    calc (entries.map amount).sum
        = ((entries.filter fun entry ↦ key entry = k).map amount).sum +
            ((entries.filter fun entry ↦ !decide (key entry = k)).map amount).sum := by
          rw [← List.sum_append, ← List.map_append]
          exact ((List.filter_append_perm _ entries).map amount).sum_eq.symm
      _ ≤ bound + keys.length * bound := Nat.add_le_add (hclass k List.mem_cons_self) hrest
      _ = (k :: keys).length * bound := by rw [List.length_cons, Nat.succ_mul, Nat.add_comm]

end VirtualHaibin.Foundation
