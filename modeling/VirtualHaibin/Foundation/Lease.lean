import Mathlib.Data.Set.Basic
import Mathlib.Logic.Function.Basic
import Mathlib.Tactic.Common

/-!
# Leases

A record that concurrent workers claim, arm with an intended effect and act on outside the record.
A claim that was never acted on may be given back.  One that may have been acted on is suspended,
and inspectors who look up the effect they observed settle it or void it.

The guards of a step read the status of the record and never who claimed it.  What a claim
protects therefore rests on a fence: a condition on the states in which a free record may be
claimed.  Two fences are studied, one on the workers and one on the inspectors.
-/

namespace VirtualHaibin.Foundation

universe u v

variable {κ : Type u} {ε : Type v}

/-- Where one worker stands. -/
inductive Phase (ε : Type v) where
  | asking
  | early
  | armed (effect : ε)
  | releasing
  | late
  | finished

/-- A worker that claimed the record and has not acted. -/
def Phase.unsent : Phase ε → Prop
  | .early | .armed _ | .releasing => True
  | _ => False

/-- The moves of a worker that leave the record alone. -/
inductive Phase.Drops : Phase ε → Phase ε → Prop
  | refl (phase : Phase ε) : Drops phase phase
  | finish (phase : Phase ε) : Drops phase .finished
  | giveUp {phase : Phase ε} (unsent : phase.unsent) : Drops phase .releasing
  | overrun {phase : Phase ε} (unsent : phase.unsent) : Drops phase .late

theorem Phase.Drops.unsent {p q : Phase ε} (h : p.Drops q) (hq : q.unsent) : p.unsent := by
  cases h with
  | refl => exact hq
  | finish => exact hq.elim
  | giveUp unsent => exact unsent
  | overrun unsent => exact unsent

theorem Phase.Drops.asking {p : Phase ε} (h : p.Drops .asking) : p = .asking := by
  cases h
  rfl

theorem Phase.Drops.armed {p : Phase ε} {effect : ε} (h : p.Drops (.armed effect)) : p = .armed effect := by
  cases h
  rfl

theorem Phase.Drops.past {p q : Phase ε} (h : p.Drops q) (hp : p = .late ∨ p = .finished) :
    q = .late ∨ q = .finished := by
  cases h with
  | refl => exact hp
  | finish => exact .inr rfl
  | giveUp unsent => rcases hp with rfl | rfl <;> exact unsent.elim
  | overrun unsent => exact .inl rfl

/-- What the record says.  An effect is absent until the claim is armed. -/
inductive Status (ε : Type v) where
  | free
  | claimed (effect : Option ε)
  | suspended (effect : Option ε)
  | settled
  | refused

/-- One action, with the claim that was the latest when it was taken. -/
structure Sending (κ : Type u) (ε : Type v) where
  worker : κ
  claim : Option κ
  effect : ε

/-- One verdict of an inspector: the effect it looked up and the effect in the record. -/
structure Verdict (ε : Type v) where
  inspected : ε
  recorded : Option ε
  void : Bool

/-- What happened to the record. -/
@[ext] structure Trail (κ : Type u) (ε : Type v) where
  /-- The worker that made the latest claim. -/
  holder : Option κ
  /-- Every arming worker with the claim that was the latest. -/
  armings : List (κ × Option κ)
  sent : List (Sending κ ε)
  /-- The claims that were given back without a verdict. -/
  released : List (Option κ)
  verdicts : List (Verdict ε)

def Trail.empty : Trail κ ε := ⟨none, [], [], [], []⟩

/-- An effect some inspector voided. -/
def Trail.Voided (trail : Trail κ ε) (effect : ε) : Prop :=
  ∃ verdict ∈ trail.verdicts, verdict.void = true ∧ verdict.inspected = effect

/-- The record, its workers and the effects that inspectors hold. -/
structure Lease (κ : Type u) (ε : Type v) extends Trail κ ε where
  status : Status ε
  phase : κ → Phase ε
  observed : Set ε

namespace Lease

variable [DecidableEq κ]

/-- The steps; `fence` must hold where a free record is claimed. -/
inductive Step (fence : Lease κ ε → Prop) (s : Lease κ ε) : Lease κ ε → Prop
  | quiet (phase : κ → Phase ε) (observed : Set ε) (drops : ∀ k, (s.phase k).Drops (phase k))
      (seen : ∀ effect ∈ observed, effect ∈ s.observed ∨ s.status = .suspended (some effect)) :
      Step fence s { s with phase := phase, observed := observed }
  | claim (k : κ) (phase : Phase ε) (fenced : fence s) (free : s.status = .free)
      (asking : s.phase k = .asking) (unsent : phase = .early ∨ phase = .releasing) :
      Step fence s
        { s with status := .claimed none, holder := some k, phase := Function.update s.phase k phase }
  | refuse (phase : κ → Phase ε) (free : s.status = .free) (drops : ∀ k, (s.phase k).Drops (phase k)) :
      Step fence s { s with status := .refused, phase := phase }
  | arm (k : κ) (effect : ε) (claimed : s.status = .claimed none) (early : s.phase k = .early) :
      Step fence s
        { s with
          status := .claimed (some effect), phase := Function.update s.phase k (.armed effect),
          armings := s.armings ++ [(k, s.holder)] }
  | send (k : κ) (effect : ε) (armed : s.phase k = .armed effect) :
      Step fence s
        { s with
          phase := Function.update s.phase k .late, sent := s.sent ++ [⟨k, s.holder, effect⟩] }
  | release (k : κ) (effect : Option ε) (claimed : s.status = .claimed effect)
      (releasing : s.phase k = .releasing) :
      Step fence s
        { s with
          status := .free, phase := Function.update s.phase k .finished,
          released := s.released ++ [s.holder] }
  | suspend (k : κ) (effect : Option ε) (claimed : s.status = .claimed effect) (late : s.phase k = .late) :
      Step fence s { s with status := .suspended effect, phase := Function.update s.phase k .finished }
  | settle (k : κ) (effect : Option ε) (claimed : s.status = .claimed effect) (late : s.phase k = .late) :
      Step fence s { s with status := .settled, phase := Function.update s.phase k .finished }
  | recoverUnarmed (claimed : s.status = .claimed none) :
      Step fence s { s with status := .free, released := s.released ++ [s.holder] }
  | recoverArmed (effect : ε) (claimed : s.status = .claimed (some effect)) :
      Step fence s { s with status := .suspended (some effect) }
  | judge (verdict : Verdict ε) (observed : Set ε) (mem : verdict.inspected ∈ s.observed)
      (kept : observed ⊆ s.observed) (suspended : s.status = .suspended verdict.recorded) :
      Step fence s
        { s with
          status := if verdict.void then .free else .settled, observed := observed,
          verdicts := s.verdicts ++ [verdict] }

/-- No worker stands between its claim and its action. -/
def WorkersFence (s : Lease κ ε) : Prop := ∀ k, ¬ (s.phase k).unsent

/-- No inspector holds an effect of an earlier claim. -/
def InspectorsFence (s : Lease κ ε) : Prop := s.observed = ∅

variable {fence : Lease κ ε → Prop} {s t : Lease κ ε}

theorem Step.mono {fence' : Lease κ ε → Prop} (h : Step fence s t) (hfence : fence s → fence' s) :
    Step fence' s t := by
  cases h with
  | quiet phase observed drops seen => exact .quiet phase observed drops seen
  | claim k phase fenced free asking unsent => exact .claim k phase (hfence fenced) free asking unsent
  | refuse phase free drops => exact .refuse phase free drops
  | arm k effect claimed early => exact .arm k effect claimed early
  | send k effect armed => exact .send k effect armed
  | release k effect claimed releasing => exact .release k effect claimed releasing
  | suspend k effect claimed late => exact .suspend k effect claimed late
  | settle k effect claimed late => exact .settle k effect claimed late
  | recoverUnarmed claimed => exact .recoverUnarmed claimed
  | recoverArmed effect claimed => exact .recoverArmed effect claimed
  | judge verdict observed mem kept suspended => exact .judge verdict observed mem kept suspended

/-- What an inspector holds is the effect of the record for as long as the record is suspended. -/
structure Inspected (s : Lease κ ε) : Prop where
  unclaimed : ∀ effect ∈ s.observed, ∀ recorded, s.status ≠ .claimed recorded
  current : ∀ effect ∈ s.observed, ∀ recorded, s.status = .suspended recorded → recorded = some effect
  verdicts : ∀ verdict ∈ s.verdicts, verdict.recorded = some verdict.inspected

omit [DecidableEq κ] in
theorem Inspected.of_observed (h : Inspected s) (hverdicts : t.verdicts = s.verdicts)
    (hunclaimed : ∀ effect ∈ t.observed, ∀ recorded, t.status ≠ .claimed recorded)
    (hcurrent : ∀ effect ∈ t.observed, ∀ recorded, t.status = .suspended recorded → recorded = some effect) :
    Inspected t :=
  ⟨hunclaimed, hcurrent, hverdicts ▸ h.verdicts⟩

theorem Inspected.step (h : Inspected s) (hstep : Step InspectorsFence s t) : Inspected t := by
  -- A claimed record is observed by nobody, so the steps on one have nothing to keep.
  have hunobserved : ∀ recorded, s.status = .claimed recorded → ∀ effect, effect ∉ s.observed :=
    fun recorded hclaimed effect hmem ↦ h.unclaimed effect hmem recorded hclaimed
  cases hstep with
  | quiet phase observed drops seen =>
    refine h.of_observed rfl (fun effect hmem recorded hclaimed ↦ ?_) (fun effect hmem recorded heq ↦ ?_)
    · rcases seen effect hmem with hold | hsuspended
      · exact h.unclaimed effect hold recorded hclaimed
      · rw [hsuspended] at hclaimed
        cases hclaimed
    · rcases seen effect hmem with hold | hsuspended
      · exact h.current effect hold recorded heq
      · rw [hsuspended] at heq
        cases heq
        rfl
  | claim k phase fenced free asking unsent =>
    have hnone : ∀ effect, effect ∉ s.observed := by
      intro effect hmem
      rw [fenced] at hmem
      exact hmem
    exact h.of_observed rfl (fun effect hmem ↦ absurd hmem (hnone effect))
      (fun effect hmem ↦ absurd hmem (hnone effect))
  | refuse phase free drops =>
    exact h.of_observed rfl (fun _ _ _ heq ↦ nomatch heq) (fun _ _ _ heq ↦ nomatch heq)
  | arm k effect claimed early =>
    exact h.of_observed rfl (fun other hmem ↦ absurd hmem (hunobserved _ claimed other))
      (fun _ _ _ heq ↦ nomatch heq)
  | send k effect armed => exact h.of_observed rfl h.unclaimed h.current
  | release k effect claimed releasing =>
    exact h.of_observed rfl (fun _ _ _ heq ↦ nomatch heq) (fun _ _ _ heq ↦ nomatch heq)
  | suspend k effect claimed late =>
    exact h.of_observed rfl (fun _ _ _ heq ↦ nomatch heq)
      (fun other hmem ↦ absurd hmem (hunobserved _ claimed other))
  | settle k effect claimed late =>
    exact h.of_observed rfl (fun _ _ _ heq ↦ nomatch heq) (fun _ _ _ heq ↦ nomatch heq)
  | recoverUnarmed claimed =>
    exact h.of_observed rfl (fun _ _ _ heq ↦ nomatch heq) (fun _ _ _ heq ↦ nomatch heq)
  | recoverArmed effect claimed =>
    exact h.of_observed rfl (fun _ _ _ heq ↦ nomatch heq)
      (fun other hmem ↦ absurd hmem (hunobserved _ claimed other))
  | judge verdict observed mem kept suspended =>
    refine ⟨fun _ _ recorded heq ↦ ?_, fun _ _ recorded heq ↦ ?_, fun other hmem ↦ ?_⟩
    · dsimp only at heq
      split at heq <;> cases heq
    · dsimp only at heq
      split at heq <;> cases heq
    · rcases List.mem_append.1 hmem with hold | hnew
      · exact h.verdicts other hold
      · obtain rfl := List.mem_singleton.1 hnew
        exact h.current _ mem _ suspended

/-! ## Claims under a fence on the workers -/

/-- A worker that has not acted holds the latest claim, and a claim acted under is never given back. -/
structure Owned (s : Lease κ ε) : Prop where
  own : ∀ k, (s.phase k).unsent → s.holder = some k
  claimed : ∀ effect, s.status = .claimed effect → ∃ k, s.holder = some k ∧ some k ∉ s.released
  holder_began : ∀ k, s.holder = some k → s.phase k ≠ .asking
  released_began : ∀ k, some k ∈ s.released → s.phase k ≠ .asking
  armed_recorded : ∀ k effect, s.phase k = .armed effect → ∀ recorded, s.status = .claimed recorded →
    recorded = some effect
  armed_kept : ∀ k effect, s.phase k = .armed effect → some k ∉ s.released
  armings_own : ∀ arming ∈ s.armings, arming.2 = some arming.1
  sent_own : ∀ sending ∈ s.sent, sending.claim = some sending.worker
  sent_past : ∀ sending ∈ s.sent, s.phase sending.worker = .late ∨ s.phase sending.worker = .finished
  sent_recorded : ∀ sending ∈ s.sent, sending.claim = s.holder → s.status ≠ .claimed none
  sent_kept : ∀ sending ∈ s.sent, sending.claim ∉ s.released

omit [DecidableEq κ] in
/-- Steps that neither claim, arm, act nor give back. -/
theorem Owned.of_drops (h : Owned s) (hdrops : ∀ k, (s.phase k).Drops (t.phase k))
    (hholder : t.holder = s.holder) (harmings : t.armings = s.armings) (hsent : t.sent = s.sent)
    (hreleased : t.released = s.released)
    (hclaimed : ∀ effect, t.status = .claimed effect → s.status = .claimed effect) : Owned t where
  own k hunsent := hholder ▸ h.own k ((hdrops k).unsent hunsent)
  claimed effect heq := by
    rw [hholder, hreleased]
    exact h.claimed effect (hclaimed effect heq)
  holder_began k heq hasking := h.holder_began k (hholder ▸ heq) (Phase.Drops.asking (hasking ▸ hdrops k))
  released_began k hmem hasking :=
    h.released_began k (hreleased ▸ hmem) (Phase.Drops.asking (hasking ▸ hdrops k))
  armed_recorded k effect harmed recorded heq :=
    h.armed_recorded k effect (Phase.Drops.armed (harmed ▸ hdrops k)) recorded (hclaimed recorded heq)
  armed_kept k effect harmed := by
    rw [hreleased]
    exact h.armed_kept k effect (Phase.Drops.armed (harmed ▸ hdrops k))
  armings_own := harmings ▸ h.armings_own
  sent_own := hsent ▸ h.sent_own
  sent_past sending hmem := (hdrops sending.worker).past (h.sent_past sending (hsent ▸ hmem))
  sent_recorded sending hmem heq hnone :=
    h.sent_recorded sending (hsent ▸ hmem) (hholder ▸ heq) (hclaimed none hnone)
  sent_kept sending hmem := by
    rw [hreleased]
    exact h.sent_kept sending (hsent ▸ hmem)

omit [DecidableEq κ] in
/-- Giving back a claim that no armed worker holds and nothing was sent under. -/
theorem Owned.give_back (h : Owned s) (hdrops : ∀ k, (s.phase k).Drops (t.phase k))
    (hholder : t.holder = s.holder) (harmings : t.armings = s.armings) (hsent : t.sent = s.sent)
    (hreleased : t.released = s.released ++ [s.holder]) (hfree : t.status = .free)
    (harmed : ∀ k effect, t.phase k = .armed effect → s.holder ≠ some k)
    (hunsent : ∀ sending ∈ s.sent, sending.claim ≠ s.holder) : Owned t where
  own k hk := hholder ▸ h.own k ((hdrops k).unsent hk)
  claimed effect heq := by
    rw [hfree] at heq
    cases heq
  holder_began k heq hasking := h.holder_began k (hholder ▸ heq) (Phase.Drops.asking (hasking ▸ hdrops k))
  released_began k hmem hasking := by
    have hbefore := Phase.Drops.asking (hasking ▸ hdrops k)
    rw [hreleased] at hmem
    rcases List.mem_append.1 hmem with hold | hnew
    · exact h.released_began k hold hbefore
    · exact h.holder_began k (List.mem_singleton.1 hnew).symm hbefore
  armed_recorded k effect _ recorded heq := by
    rw [hfree] at heq
    cases heq
  armed_kept k effect heq := by
    rw [hreleased]
    intro hmem
    rcases List.mem_append.1 hmem with hold | hnew
    · exact h.armed_kept k effect (Phase.Drops.armed (heq ▸ hdrops k)) hold
    · exact harmed k effect heq (List.mem_singleton.1 hnew).symm
  armings_own := harmings ▸ h.armings_own
  sent_own := hsent ▸ h.sent_own
  sent_past sending hmem := (hdrops sending.worker).past (h.sent_past sending (hsent ▸ hmem))
  sent_recorded _ _ _ hnone := by
    rw [hfree] at hnone
    cases hnone
  sent_kept sending hmem := by
    rw [hsent] at hmem
    rw [hreleased]
    intro hreleasedMem
    rcases List.mem_append.1 hreleasedMem with hold | hnew
    · exact h.sent_kept sending hmem hold
    · exact hunsent sending hmem (List.mem_singleton.1 hnew)

theorem drops_update {phase : κ → Phase ε} {k : κ} {new : Phase ε} (h : (phase k).Drops new) (j : κ) :
    (phase j).Drops (Function.update phase k new j) := by
  by_cases hj : j = k
  · subst hj
    rw [Function.update_self]
    exact h
  · rw [Function.update_of_ne hj]
    exact .refl _

omit [DecidableEq κ] in
/-- A worker that has acted is not the one that has not. -/
theorem Owned.sent_ne (h : Owned s) {k : κ} (hk : (s.phase k).unsent) {sending : Sending κ ε}
    (hmem : sending ∈ s.sent) : sending.worker ≠ k := by
  rintro rfl
  rcases h.sent_past sending hmem with heq | heq <;> rw [heq] at hk <;> exact hk.elim

omit [DecidableEq κ] in
theorem Owned.sent_claim_ne (h : Owned s) {k : κ} (hk : (s.phase k).unsent) {sending : Sending κ ε}
    (hmem : sending ∈ s.sent) : sending.claim ≠ s.holder := by
  rw [h.sent_own sending hmem, h.own k hk]
  intro heq
  exact h.sent_ne hk hmem (Option.some.inj heq)

theorem Owned.claim (h : Owned s) {k : κ} {phase : Phase ε} (hfence : WorkersFence s)
    (hasking : s.phase k = .asking) (hphase : phase = .early ∨ phase = .releasing) :
    Owned { s with status := .claimed none, holder := some k, phase := Function.update s.phase k phase } := by
  have hunsent : ∀ j, (Function.update s.phase k phase j).unsent → j = k := by
    intro j hj
    by_contra hne
    rw [Function.update_of_ne hne] at hj
    exact hfence j hj
  have harmed : ∀ j effect, Function.update s.phase k phase j ≠ .armed effect := by
    intro j effect heq
    obtain rfl := hunsent j (heq ▸ trivial)
    rw [Function.update_self] at heq
    rcases hphase with rfl | rfl <;> cases heq
  have hbegan : ∀ j, Function.update s.phase k phase j = .asking → s.phase j = .asking ∧ j ≠ k := by
    intro j heq
    by_cases hj : j = k
    · subst hj
      rw [Function.update_self] at heq
      rcases hphase with rfl | rfl <;> cases heq
    · rw [Function.update_of_ne hj] at heq
      exact ⟨heq, hj⟩
  have hne : ∀ sending ∈ s.sent, sending.worker ≠ k := by
    rintro sending hmem rfl
    rcases h.sent_past sending hmem with heq | heq <;> rw [hasking] at heq <;> cases heq
  exact {
    own := fun j hj ↦ congrArg some (hunsent j hj).symm
    claimed := fun _ _ ↦ ⟨k, rfl, fun hmem ↦ h.released_began k hmem hasking⟩
    holder_began := fun j heq hj ↦ (hbegan j hj).2 (Option.some.inj heq).symm
    released_began := fun j hmem hj ↦ h.released_began j hmem (hbegan j hj).1
    armed_recorded := fun j effect heq ↦ absurd heq (harmed j effect)
    armed_kept := fun j effect heq ↦ absurd heq (harmed j effect)
    armings_own := h.armings_own
    sent_own := h.sent_own
    sent_past := fun sending hmem ↦ by
      dsimp only
      rw [Function.update_of_ne (hne sending hmem)]
      exact h.sent_past sending hmem
    sent_recorded := fun sending hmem heq ↦ by
      rw [h.sent_own sending hmem] at heq
      exact absurd (Option.some.inj heq) (hne sending hmem)
    sent_kept := h.sent_kept }

theorem Owned.arm (h : Owned s) {k : κ} {effect : ε} (hclaimed : s.status = .claimed none)
    (hearly : s.phase k = .early) :
    Owned { s with
      status := .claimed (some effect), phase := Function.update s.phase k (.armed effect),
      armings := s.armings ++ [(k, s.holder)] } := by
  have hunsent : (s.phase k).unsent := by
    rw [hearly]
    trivial
  have hholder := h.own k hunsent
  have hcases : ∀ j phase, Function.update s.phase k (.armed effect) j = phase →
      j = k ∧ phase = .armed effect ∨ j ≠ k ∧ s.phase j = phase := by
    intro j phase heq
    by_cases hj : j = k
    · subst hj
      rw [Function.update_self] at heq
      exact .inl ⟨rfl, heq.symm⟩
    · rw [Function.update_of_ne hj] at heq
      exact .inr ⟨hj, heq⟩
  exact {
    own := fun j hj ↦ by
      rcases hcases j _ rfl with ⟨rfl, -⟩ | ⟨-, heq⟩
      · exact hholder
      · exact h.own j (heq ▸ hj)
    claimed := fun _ _ ↦ h.claimed none hclaimed
    holder_began := fun j heq hj ↦ by
      rcases hcases j _ hj with ⟨-, heq⟩ | ⟨-, hasking⟩
      · cases heq
      · exact h.holder_began j heq hasking
    released_began := fun j hmem hj ↦ by
      rcases hcases j _ hj with ⟨-, heq⟩ | ⟨-, hasking⟩
      · cases heq
      · exact h.released_began j hmem hasking
    armed_recorded := fun j other hj recorded heq ↦ by
      cases heq
      rcases hcases j _ hj with ⟨-, heq⟩ | ⟨-, harmed⟩
      · cases heq
        rfl
      · cases h.armed_recorded j other harmed none hclaimed
    armed_kept := fun j other hj ↦ by
      rcases hcases j _ hj with ⟨rfl, -⟩ | ⟨-, harmed⟩
      · obtain ⟨owner, howner, hkept⟩ := h.claimed none hclaimed
        rw [hholder] at howner
        exact howner ▸ hkept
      · exact h.armed_kept j other harmed
    armings_own := fun arming hmem ↦ by
      rcases List.mem_append.1 hmem with hold | hnew
      · exact h.armings_own arming hold
      · obtain rfl := List.mem_singleton.1 hnew
        exact hholder
    sent_own := h.sent_own
    sent_past := fun sending hmem ↦ by
      dsimp only
      rw [Function.update_of_ne (h.sent_ne hunsent hmem)]
      exact h.sent_past sending hmem
    sent_recorded := fun _ _ _ heq ↦ nomatch heq
    sent_kept := h.sent_kept }

theorem Owned.send (h : Owned s) {k : κ} {effect : ε} (harmed : s.phase k = .armed effect) :
    Owned { s with
      phase := Function.update s.phase k .late, sent := s.sent ++ [⟨k, s.holder, effect⟩] } := by
  have hunsent : (s.phase k).unsent := by
    rw [harmed]
    trivial
  have hholder := h.own k hunsent
  have hdrops : ∀ j, (s.phase j).Drops (Function.update s.phase k .late j) := drops_update (.overrun hunsent)
  have hquiet : Owned { s with phase := Function.update s.phase k .late } :=
    h.of_drops hdrops rfl rfl rfl rfl fun _ heq ↦ heq
  exact {
    own := hquiet.own
    claimed := hquiet.claimed
    holder_began := hquiet.holder_began
    released_began := hquiet.released_began
    armed_recorded := hquiet.armed_recorded
    armed_kept := hquiet.armed_kept
    armings_own := hquiet.armings_own
    sent_own := fun sending hmem ↦ by
      rcases List.mem_append.1 hmem with hold | hnew
      · exact h.sent_own sending hold
      · obtain rfl := List.mem_singleton.1 hnew
        exact hholder
    sent_past := fun sending hmem ↦ by
      rcases List.mem_append.1 hmem with hold | hnew
      · exact hquiet.sent_past sending hold
      · obtain rfl := List.mem_singleton.1 hnew
        exact .inl (Function.update_self k .late s.phase)
    sent_recorded := fun sending hmem heq hnone ↦ by
      rcases List.mem_append.1 hmem with hold | hnew
      · exact h.sent_recorded sending hold heq hnone
      · cases h.armed_recorded k effect harmed none hnone
    sent_kept := fun sending hmem ↦ by
      rcases List.mem_append.1 hmem with hold | hnew
      · exact h.sent_kept sending hold
      · obtain rfl := List.mem_singleton.1 hnew
        dsimp only
        rw [hholder]
        exact h.armed_kept k effect harmed }

theorem Owned.step (h : Owned s) (hstep : Step fence s t) (hfence : fence s → WorkersFence s) : Owned t := by
  cases hstep with
  | quiet phase observed drops seen => exact h.of_drops drops rfl rfl rfl rfl fun _ heq ↦ heq
  | claim k phase fenced free asking unsent => exact h.claim (hfence fenced) asking unsent
  | refuse phase free drops => exact h.of_drops drops rfl rfl rfl rfl fun _ heq ↦ nomatch heq
  | arm k effect claimed early => exact h.arm claimed early
  | send k effect armed => exact h.send armed
  | release k effect claimed releasing =>
    have hunsent : (s.phase k).unsent := by
      rw [releasing]
      trivial
    refine h.give_back (drops_update (.finish _)) rfl rfl rfl rfl rfl (fun j other harmed heq ↦ ?_)
      (fun sending hmem ↦ h.sent_claim_ne hunsent hmem)
    rw [h.own k hunsent] at heq
    obtain rfl := Option.some.inj heq
    dsimp only at harmed
    rw [Function.update_self] at harmed
    cases harmed
  | suspend k effect claimed late =>
    exact h.of_drops (drops_update (.finish _)) rfl rfl rfl rfl fun _ heq ↦ nomatch heq
  | settle k effect claimed late =>
    exact h.of_drops (drops_update (.finish _)) rfl rfl rfl rfl fun _ heq ↦ nomatch heq
  | recoverUnarmed claimed =>
    refine h.give_back (fun k ↦ .refl _) rfl rfl rfl rfl rfl (fun k effect harmed _ ↦ ?_)
      (fun sending hmem heq ↦ h.sent_recorded sending hmem heq claimed)
    cases h.armed_recorded k effect harmed none claimed
  | recoverArmed effect claimed => exact h.of_drops (fun k ↦ .refl _) rfl rfl rfl rfl fun _ heq ↦ nomatch heq
  | judge verdict observed mem kept suspended =>
    refine h.of_drops (fun k ↦ .refl _) rfl rfl rfl rfl fun effect heq ↦ ?_
    dsimp only at heq
    split at heq <;> cases heq

/-! ## Actions under both fences -/

/-- The record still shows an effect: the claim it was armed under is open or settled. -/
def Carries (s : Lease κ ε) (effect : ε) : Prop :=
  s.status = .claimed (some effect) ∨ s.status = .suspended (some effect) ∨ s.status = .settled

/-- Only the latest claim can have an action that no inspector voided, and the record shows it. -/
structure Exclusive (s : Lease κ ε) : Prop where
  sent_holder : ∀ sending ∈ s.sent, ¬ s.Voided sending.effect → sending.claim = s.holder
  sent_carried : ∀ sending ∈ s.sent, ¬ s.Voided sending.effect → s.Carries sending.effect
  armed_carried : ∀ k effect, s.phase k = .armed effect → ¬ s.Voided effect → s.Carries effect
  sent_voided : s.sent.Pairwise fun earlier _ ↦ s.Voided earlier.effect

omit [DecidableEq κ] in
theorem voided_mono {effect : ε} (h : s.Voided effect) (hverdicts : s.verdicts ⊆ t.verdicts) :
    t.Voided effect := by
  obtain ⟨verdict, hmem, hvoid, heq⟩ := h
  exact ⟨verdict, hverdicts hmem, hvoid, heq⟩

omit [DecidableEq κ] in
theorem not_carries_of_free (h : s.status = .free) (effect : ε) : ¬ s.Carries effect := by
  rintro (heq | heq | heq) <;> rw [h] at heq <;> cases heq

omit [DecidableEq κ] in
theorem not_carries_of_unarmed (h : s.status = .claimed none) (effect : ε) : ¬ s.Carries effect := by
  rintro (heq | heq | heq) <;> rw [h] at heq <;> cases heq

omit [DecidableEq κ] in
/-- Steps that take no action and keep showing what is not voided. -/
theorem Exclusive.of_carries (h : Exclusive s) (hdrops : ∀ k, (s.phase k).Drops (t.phase k))
    (hholder : t.holder = s.holder) (hsent : t.sent = s.sent) (hverdicts : s.verdicts ⊆ t.verdicts)
    (hcarries : ∀ effect, ¬ t.Voided effect → s.Carries effect → t.Carries effect) : Exclusive t where
  sent_holder sending hmem hopen := by
    rw [hholder]
    exact h.sent_holder sending (hsent ▸ hmem) fun hvoided ↦ hopen (voided_mono hvoided hverdicts)
  sent_carried sending hmem hopen := by
    apply hcarries _ hopen
    exact h.sent_carried sending (hsent ▸ hmem) fun hvoided ↦ hopen (voided_mono hvoided hverdicts)
  armed_carried k effect harmed hopen := by
    apply hcarries _ hopen
    exact h.armed_carried k effect (Phase.Drops.armed (harmed ▸ hdrops k)) fun hvoided ↦
      hopen (voided_mono hvoided hverdicts)
  sent_voided := by
    rw [hsent]
    exact h.sent_voided.imp fun hvoided ↦ voided_mono hvoided hverdicts

omit [DecidableEq κ] in
/-- Steps on a record that shows no effect, after which none is armed. -/
theorem Exclusive.of_not_carries (h : Exclusive s) (hcarries : ∀ effect, ¬ s.Carries effect)
    (hsent : t.sent = s.sent) (hverdicts : t.verdicts = s.verdicts)
    (harmed : ∀ k effect, t.phase k = .armed effect → s.phase k = .armed effect ∨ t.Carries effect) :
    Exclusive t := by
  have hvoided : ∀ effect, t.Voided effect ↔ s.Voided effect := by
    intro effect
    simp only [Trail.Voided, hverdicts]
  have hnone : ∀ sending ∈ t.sent, t.Voided sending.effect := by
    intro sending hmem
    rw [hvoided]
    by_contra hopen
    exact hcarries _ (h.sent_carried sending (hsent ▸ hmem) hopen)
  refine ⟨fun sending hmem hopen ↦ absurd (hnone sending hmem) hopen,
    fun sending hmem hopen ↦ absurd (hnone sending hmem) hopen, fun k effect heq hopen ↦ ?_, ?_⟩
  · rcases harmed k effect heq with hold | hnew
    · rw [hvoided] at hopen
      exact absurd (h.armed_carried k effect hold hopen) (hcarries effect)
    · exact hnew
  · rw [hsent]
    exact h.sent_voided.imp fun hearlier ↦ (hvoided _).2 hearlier

omit [DecidableEq κ] in
/-- While a worker has claimed and not acted, every earlier action is void. -/
theorem Exclusive.voided_of_unsent (h : Exclusive s) (howned : Owned s) {k : κ} (hunsent : (s.phase k).unsent) :
    ∀ sending ∈ s.sent, s.Voided sending.effect := by
  intro sending hmem
  by_contra hopen
  exact howned.sent_claim_ne hunsent hmem (h.sent_holder sending hmem hopen)

theorem Exclusive.send (h : Exclusive s) (howned : Owned s) {k : κ} {effect : ε}
    (harmed : s.phase k = .armed effect) :
    Exclusive { s with
      phase := Function.update s.phase k .late, sent := s.sent ++ [⟨k, s.holder, effect⟩] } := by
  have hunsent : (s.phase k).unsent := by
    rw [harmed]
    trivial
  have hearlier : ∀ sending ∈ s.sent, s.Voided sending.effect := h.voided_of_unsent howned hunsent
  refine ⟨fun sending hmem hopen ↦ ?_, fun sending hmem hopen ↦ ?_, fun j other hj hopen ↦ ?_, ?_⟩
  · rcases List.mem_append.1 hmem with hold | hnew
    · exact absurd (hearlier sending hold) hopen
    · obtain rfl := List.mem_singleton.1 hnew
      rfl
  · rcases List.mem_append.1 hmem with hold | hnew
    · exact absurd (hearlier sending hold) hopen
    · obtain rfl := List.mem_singleton.1 hnew
      exact h.armed_carried k effect harmed hopen
  · refine h.armed_carried j other (Phase.Drops.armed ?_) hopen
    exact hj ▸ drops_update (.overrun hunsent) j
  · refine List.pairwise_append.2 ⟨h.sent_voided, List.pairwise_singleton _ _, fun sending hmem _ _ ↦ ?_⟩
    exact hearlier sending hmem

theorem Exclusive.step (h : Exclusive s) (howned : Owned s) (hinspected : Inspected s)
    (hstep : Step fence s t) : Exclusive t := by
  cases hstep with
  | quiet phase observed drops seen =>
    exact h.of_carries drops rfl rfl (List.Subset.refl _) fun _ _ hcarries ↦ hcarries
  | claim k phase fenced free asking unsent =>
    refine h.of_not_carries (not_carries_of_free free) rfl rfl fun j effect harmed ↦ ?_
    dsimp only at harmed
    by_cases hj : j = k
    · subst hj
      rw [Function.update_self] at harmed
      rcases unsent with rfl | rfl <;> cases harmed
    · rw [Function.update_of_ne hj] at harmed
      exact .inl harmed
  | refuse phase free drops =>
    exact h.of_not_carries (not_carries_of_free free) rfl rfl fun j effect harmed ↦
      .inl (Phase.Drops.armed (harmed ▸ drops j))
  | arm k effect claimed early =>
    refine h.of_not_carries (not_carries_of_unarmed claimed) rfl rfl fun j other harmed ↦ ?_
    dsimp only at harmed
    by_cases hj : j = k
    · subst hj
      rw [Function.update_self] at harmed
      cases harmed
      exact .inr (.inl rfl)
    · rw [Function.update_of_ne hj] at harmed
      exact .inl harmed
  | send k effect armed => exact h.send howned armed
  | release k effect claimed releasing =>
    have hunsent : (s.phase k).unsent := by
      rw [releasing]
      trivial
    have hvoided : ∀ sending ∈ s.sent, s.Voided sending.effect := h.voided_of_unsent howned hunsent
    refine ⟨fun sending hmem hopen ↦ absurd (hvoided sending hmem) hopen,
      fun sending hmem hopen ↦ absurd (hvoided sending hmem) hopen, fun j effect harmed _ ↦ ?_,
      h.sent_voided⟩
    -- Another armed worker would hold the claim this one gives back.
    have hbefore : s.phase j = .armed effect :=
      Phase.Drops.armed (harmed ▸ drops_update (.finish _) j)
    have hj := howned.own j (by rw [hbefore]; trivial)
    rw [howned.own k hunsent] at hj
    obtain rfl := Option.some.inj hj
    rw [releasing] at hbefore
    cases hbefore
  | suspend k effect claimed late =>
    refine h.of_carries (drops_update (.finish _)) rfl rfl (List.Subset.refl _) fun other _ hcarries ↦ ?_
    rcases hcarries with heq | heq | heq <;> rw [claimed] at heq <;> cases heq
    exact .inr (.inl rfl)
  | settle k effect claimed late =>
    exact h.of_carries (drops_update (.finish _)) rfl rfl (List.Subset.refl _) fun _ _ _ ↦ .inr (.inr rfl)
  | recoverUnarmed claimed =>
    exact h.of_not_carries (not_carries_of_unarmed claimed) rfl rfl fun _ _ harmed ↦ .inl harmed
  | recoverArmed effect claimed =>
    refine h.of_carries (fun k ↦ .refl _) rfl rfl (List.Subset.refl _) fun other _ hcarries ↦ ?_
    rcases hcarries with heq | heq | heq <;> rw [claimed] at heq <;> cases heq
    exact .inr (.inl rfl)
  | judge verdict observed mem kept suspended =>
    refine h.of_carries (fun k ↦ .refl _) rfl rfl (List.subset_append_left _ _) fun other hopen hcarries ↦ ?_
    by_cases hvoid : verdict.void = true
    · -- The record shows the effect that this verdict voids.
      have hcurrent := hinspected.current _ mem _ suspended
      rw [hcurrent] at suspended
      have heq : verdict.inspected = other := by
        rcases hcarries with heq | heq | heq <;> rw [suspended] at heq <;> cases heq
        rfl
      exact absurd ⟨verdict, List.mem_append_right _ (List.mem_singleton_self _), hvoid, heq⟩ hopen
    · refine .inr (.inr ?_)
      simp [hvoid]

end Lease

end VirtualHaibin.Foundation
