import VirtualHaibin.Authority.Fencing
import VirtualHaibin.Authority.Reconcile

/-!
# Fencing between processes

The guards of the store look at the state of a row and never at the reservation it belongs to.  A
recorded attempt and a verdict therefore reach the right reservation in the runs that meet a
condition on their reservations, and not in every run.
-/

namespace VirtualHaibin.Authority

open Foundation Payments Evidence

/-! ## Attempts and reservations -/

section

variable {platform : Platform} {options : ℕ → AuthorityServiceOptions}

/-- An attempt is recorded, and a credential transmitted, only under a reservation of the same
process, and a reservation under which a credential left is never given back by a release or a
recovery. -/
structure FencedPayments (traced : Traced) : Prop where
  attempts : ∀ invocationId, ∀ arming ∈ (traced.history invocationId).armings,
    arming.2.map CallId.process = some arming.1.process
  credentials : ∀ invocationId, ∀ sending ∈ (traced.history invocationId).sent,
    sending.claim.map CallId.process = some sending.worker.process
  kept : ∀ invocationId, ∀ sending ∈ (traced.history invocationId).sent,
    sending.claim ∉ (traced.history invocationId).released

/-- A credential keeps the reservation it left under, and its row shows the attempt or a settlement, until a
reconciliation gives the reservation back that looked this attempt up and found it in the row. -/
def OnlyReconciled (traced : Traced) : Prop :=
  ∀ invocationId, ∀ sending ∈ (traced.history invocationId).sent,
    ⟨sending.effect, some sending.effect, true⟩ ∈ (traced.history invocationId).verdicts ∨
      (traced.history invocationId).holder = sending.claim ∧ (traced.lease invocationId).Carries sending.effect

/-- A reservation commits only while no other call holds an unsent payment of its invocation. -/
def ReservesAlone (platform : Platform) (options : ℕ → AuthorityServiceOptions) (traced : Traced)
    (action : Action) : Prop :=
  ∀ invocationId, Reserves platform options traced action invocationId →
    ∀ id call, traced.system.calls id = some call → call.auth.request.invocationId = invocationId →
      call.stage.isUnsent = false

/-- A reservation commits only while no reconciliation run holds a lookup of its invocation. -/
def ReservesUnobserved (platform : Platform) (options : ℕ → AuthorityServiceOptions) (traced : Traced)
    (action : Action) : Prop :=
  ∀ invocationId, Reserves platform options traced action invocationId →
    ∀ process run, traced.system.runs process = some run →
      ∀ lookup ∈ run.lookups, lookup.invocationId ≠ invocationId

theorem isUnsent_of_phase {stage : Stage} (h : stage.phase.unsent) : stage.isUnsent = true := by
  cases stage <;> first | rfl | exact h.elim

/-- An unsent phase belongs to a live call for the invocation. -/
theorem call_of_unsent {sys : System} {invocationId : String} {id : CallId}
    (h : (sys.phase invocationId id).unsent) :
    ∃ call, sys.calls id = some call ∧ call.auth.request.invocationId = invocationId ∧
      call.stage.isUnsent = true := by
  unfold System.phase at h
  split at h
  · rename_i call hcall
    split at h
    · rename_i hid
      exact ⟨call, hcall, hid, isUnsent_of_phase h⟩
    · exact h.elim
  · split at h <;> exact h.elim

theorem ReservesAlone.fenced {traced : Traced} {action : Action}
    (h : ReservesAlone platform options traced action) :
    Fenced platform options Lease.WorkersFence traced action := by
  intro invocationId hreserves id hunsent
  obtain ⟨call, hcall, hid, hstage⟩ := call_of_unsent hunsent
  rw [h invocationId hreserves id call hcall hid] at hstage
  cases hstage

theorem ReservesUnobserved.fenced {traced : Traced} {action : Action}
    (h : ReservesUnobserved platform options traced action) :
    Fenced platform options Lease.InspectorsFence traced action := by
  intro invocationId hreserves
  apply Set.eq_empty_of_forall_notMem
  rintro attempt ⟨process, run, hrun, hmem⟩
  exact h invocationId hreserves process run hrun _ hmem rfl

/-- The leases of all invocations keep to their claims. -/
def AllOwned (traced : Traced) : Prop := ∀ invocationId, (traced.lease invocationId).Owned

/-- The runs hold nothing of an earlier reservation. -/
def AllInspected (traced : Traced) : Prop := ∀ invocationId, (traced.lease invocationId).Inspected

/-- What both fences give: only the latest reservation can have a credential that no verdict voided. -/
structure AllFenced (traced : Traced) : Prop where
  owned : AllOwned traced
  inspected : AllInspected traced
  exclusive : ∀ invocationId, (traced.lease invocationId).Exclusive

theorem allOwned_initial : AllOwned Traced.initial := by
  intro invocationId
  exact {
    own := fun _ hunsent ↦ hunsent.elim
    claimed := fun _ heq ↦ nomatch heq
    holder_began := fun _ heq ↦ nomatch heq
    released_began := fun _ hmem ↦ nomatch hmem
    armed_recorded := fun _ _ heq ↦ nomatch heq
    armed_kept := fun _ _ heq ↦ nomatch heq
    armings_own := fun _ hmem ↦ nomatch hmem
    sent_own := fun _ hmem ↦ nomatch hmem
    sent_past := fun _ hmem ↦ nomatch hmem
    sent_recorded := fun _ hmem ↦ nomatch hmem
    sent_kept := fun _ hmem ↦ nomatch hmem }

theorem AllOwned.step {traced next : Traced} {action : Action} (h : AllOwned traced)
    (hfenced : Fenced platform options Lease.WorkersFence traced action)
    (hstep : traced.step platform options action = some next) : AllOwned next :=
  fun invocationId ↦ (h invocationId).step (Traced.step_lease hstep hfenced invocationId) id

theorem AllOwned.fencedPayments {traced : Traced} (h : AllOwned traced) : FencedPayments traced where
  attempts invocationId arming hmem := by
    rw [(h invocationId).armings_own arming hmem]
    rfl
  credentials invocationId sending hmem := by
    rw [(h invocationId).sent_own sending hmem]
    rfl
  kept invocationId sending hmem := (h invocationId).sent_kept sending hmem

theorem allInspected_initial : AllInspected Traced.initial := by
  intro invocationId
  have hnone : ∀ attempt, attempt ∉ (Traced.initial.lease invocationId).observed := by
    rintro attempt ⟨process, run, hrun, -⟩
    cases hrun
  exact ⟨fun attempt hmem ↦ absurd hmem (hnone attempt), fun attempt hmem ↦ absurd hmem (hnone attempt),
    fun _ hmem ↦ nomatch hmem⟩

theorem AllInspected.step {traced next : Traced} {action : Action} (h : AllInspected traced)
    (hfenced : Fenced platform options Lease.InspectorsFence traced action)
    (hstep : traced.step platform options action = some next) : AllInspected next :=
  fun invocationId ↦ (h invocationId).step (Traced.step_lease hstep hfenced invocationId)

theorem allFenced_initial : AllFenced Traced.initial where
  owned := allOwned_initial
  inspected := allInspected_initial
  exclusive _ := {
    sent_holder := fun _ hmem ↦ nomatch hmem
    sent_carried := fun _ hmem ↦ nomatch hmem
    armed_carried := fun _ _ heq ↦ nomatch heq
    sent_voided := .nil }

theorem AllFenced.step {traced next : Traced} {action : Action} (h : AllFenced traced)
    (halone : ReservesAlone platform options traced action)
    (hunobserved : ReservesUnobserved platform options traced action)
    (hstep : traced.step platform options action = some next) : AllFenced next where
  owned := h.owned.step halone.fenced hstep
  inspected := h.inspected.step hunobserved.fenced hstep
  exclusive invocationId := (h.exclusive invocationId).step (h.owned invocationId) (h.inspected invocationId)
    (Traced.step_lease hstep halone.fenced invocationId)

theorem AllFenced.onlyReconciled {traced : Traced} (h : AllFenced traced) : OnlyReconciled traced := by
  intro invocationId sending hmem
  by_cases hvoided : (traced.history invocationId).Voided sending.effect
  · obtain ⟨verdict, hverdict, hvoid, heq⟩ := hvoided
    have hrecorded := (h.inspected invocationId).verdicts verdict hverdict
    obtain ⟨inspected, recorded, void⟩ := verdict
    obtain rfl : inspected = sending.effect := heq
    obtain rfl : recorded = some sending.effect := hrecorded
    obtain rfl : void = true := hvoid
    exact .inl hverdict
  · have hexclusive := h.exclusive invocationId
    exact .inr ⟨(hexclusive.sent_holder sending hmem hvoided).symm, hexclusive.sent_carried sending hmem hvoided⟩

/-- Fencing holds in every state of every run that reserves alone.  Where the run reserves unobserved as well,
only a reconciliation of the credential gives its reservation back. -/
theorem fencedPayments_of_reservesAlone {labels : List Action} {traced : Traced}
    (hrun : Run (Traced.step platform options) (ReservesAlone platform options) Traced.initial labels traced) :
    FencedPayments traced ∧
      (Run (Traced.step platform options) (ReservesUnobserved platform options) Traced.initial labels traced →
        OnlyReconciled traced) := by
  have howned : AllOwned traced :=
    hrun.invariant allOwned_initial fun _ _ _ howned hallowed hstep ↦ howned.step hallowed.fenced hstep
  refine ⟨howned.fencedPayments, fun hunobserved ↦ ?_⟩
  have hfenced : AllFenced traced :=
    (hrun.both hunobserved).invariant allFenced_initial fun _ _ _ hfenced hallowed hstep ↦
      hfenced.step hallowed.1 hallowed.2 hstep
  exact hfenced.onlyReconciled

/-- A step of the system extends the history. -/
theorem Traced.step_eq {sys next : System}
    {action : Action} (history : History) (h : sys.step platform options action = some next) :
    Traced.step platform options ⟨sys, history⟩ action =
      some ⟨next, fun invocationId ↦ nextTrail sys action next invocationId (history invocationId)⟩ := by
  rw [Traced.step, h, Option.map_some]

/-- Every run has a history. -/
theorem Traced.run_of_run {sys : System}
    {allowed : System → Action → Prop} {allowed' : Traced → Action → Prop} {labels : List Action}
    (hallowed : ∀ traced action, allowed traced.system action → allowed' traced action)
    (hrun : Run (System.step platform options) allowed .initial labels sys) :
    ∃ history, Run (Traced.step platform options) allowed' Traced.initial labels ⟨sys, history⟩ := by
  induction hrun with
  | start => exact ⟨_, .start⟩
  | next _ hlabel hstep ih =>
    obtain ⟨history, hhistory⟩ := ih
    exact ⟨_, hhistory.next (hallowed _ _ hlabel) (Traced.step_eq history hstep)⟩

/-- Nothing reserves beside a call on its own that holds an unsent payment. -/
theorem reservesAlone_withCall {sys : System} {id : CallId} {auth : AuthenticatedRequest} {db : Db} {stage : Stage}
    (hsolo : ∀ other, other ≠ id → sys.calls other = none)
    (hheld : stage.isUnsent = true → db.status auth.request.invocationId ≠ .free) (history : History)
    (action : Action) : ReservesAlone platform options ⟨sys.withCall id auth db stage, history⟩ action := by
  intro invocationId hreserves other call hcall hid
  obtain ⟨_, -, hfree, -⟩ := hreserves
  by_cases hother : other = id
  · subst hother
    rw [System.withCall_calls] at hcall
    cases hcall
    rw [← hid] at hfree
    exact Bool.eq_false_iff.2 fun hunsent ↦ hheld hunsent hfree
  · have hnone : (sys.withCall id auth db stage).calls other = none := by
      rw [← hsolo other hother]
      simp [System.withCall, System.setCall, hother]
    rw [hnone] at hcall
    cases hcall

end

namespace Sample

/-- The second call for the invocation, in another process. -/
def rival : CallId := ⟨1, 0⟩

/-- The row as the startup of the other process left it. -/
def released : InvocationRecord :=
  Authority.recoveredRow "authority restarted while payment was in progress" 3050 reserved

def releasedDb : Db := db (grant "0" "0" 3050) released (reservedDb.transitions ++
  [⟨"invocation", some .RESERVED, .FAILED, released.stateReason, 3050⟩])

def regained : InvocationRecord := (reserveInput auth 3070 terms).written (some released) .RESERVED [] 3080

def regainedDb : Db := db (grant "5" "0" 3080) regained (releasedDb.transitions ++
  [⟨"invocation", some .FAILED, .RESERVED, none, 3080⟩])

theorem regains : releasedDb.access (some 3080) (reserve (reserveInput auth 3070 terms) (evaluate auth 3070 terms)) =
    (.ok (.reserved regained), regainedDb) := by
  rfl

theorem rival_reserving_step : callStep platform options releasedDb auth (.reserving 3070 terms)
    (.store (some 3080)) = some (regainedDb, .budgeting (payment regained)) := by
  have houtbound : outboundRequest platform options regained.request = some paidRequest := outbound
  have hstart : startPayment platform options (payment regained) = .budgeting (payment regained) := by
    simp [startPayment, outboundMatchesAuthorization, payment, houtbound]
  simp only [callStep, regains]
  exact congrArg (fun stage ↦ some (regainedDb, stage)) hstart

def overtakenRow : InvocationRecord := attemptedRow attempt serviceAuthorization 3200 regained

def overtakenDb : Db := db (grant "5" "0" 3080) overtakenRow (regainedDb.transitions ++
  [⟨"invocation", some .RESERVED, .RESERVED, some s!"payment attempt {attempt.payerSignature}", 3200⟩])

/-- The attempt of the first call is recorded under the reservation of the second. -/
theorem overtaken_step : callStep platform options regainedDb auth
    (.building (payment reserved) serviceAuthorization) (.submit attempt (some 3200)) =
      some (overtakenDb, .recorded (payment reserved) serviceAuthorization attempt) := by
  rfl

theorem rival_resuming_step : callStep platform options releasedDb auth (.known (some released)) (.resume 3070) =
    some (releasedDb, .fetching 3070 Evidence.Sample.profile paidRequest) :=
  congrArg (fun stage ↦ some (releasedDb, stage)) (@decided_at 3070 (by decide))
 
theorem rival_fetching_step : callStep platform options releasedDb auth
    (.fetching 3070 Evidence.Sample.profile paidRequest)
    (.challenge (.challenge challenge)) = some (releasedDb, .reserving 3070 terms) := by
  rfl

/-- The other process serves. -/
def rivalStarted : System :=
  { pending with processes := Function.update (Function.update pending.processes 1 .starting) 1 .serving }

def rivalPending : System := rivalStarted.setPending 1 "invocation" (some ⟨fingerprint, 0⟩)

/-- The first call stands before its attempt while the second is known to the other process. -/
theorem rival_arrived_run : Run (System.step platform fun _ ↦ options) honest .initial
    (authorizing ++ [.start 1] ++ [.recover 1 (some 3050)] ++ [.arrive rival input 3060 (some 3060)])
    ((rivalPending.withCall id auth releasedDb (.building (payment reserved) serviceAuthorization)).withCall rival
      auth releasedDb (.known (some released))) := by
  have hstart : System.step platform (fun _ ↦ options)
      (pending.withCall id auth reservedDb (.building (payment reserved) serviceAuthorization)) (.start 1) =
        some ({ pending with processes := Function.update pending.processes 1 .starting }.withCall id auth reservedDb
          (.building (payment reserved) serviceAuthorization)) := by
    rfl
  have hrecover : System.step platform (fun _ ↦ options)
      ({ pending with processes := Function.update pending.processes 1 .starting }.withCall id auth reservedDb
        (.building (payment reserved) serviceAuthorization)) (.recover 1 (some 3050)) =
          some (rivalStarted.withCall id auth releasedDb (.building (payment reserved) serviceAuthorization)) := by
    rfl
  have harrive : System.step platform (fun _ ↦ options)
      (rivalStarted.withCall id auth releasedDb (.building (payment reserved) serviceAuthorization))
      (.arrive rival input 3060 (some 3060)) =
        some ((rivalPending.withCall id auth releasedDb (.building (payment reserved) serviceAuthorization)).withCall
          rival auth releasedDb (.known (some released))) :=
    System.withCall_arrive rfl rfl (authenticated_at (by decide) (by decide)) rfl
  have hhonest : CollisionFree platform (fun _ ↦ options) digests (.arrive rival input 3060 (some 3060)) := by
    intro other hother
    rw [authenticated_at (by decide) (by decide)] at hother
    cases hother
    exact ⟨rfl, rfl, rfl⟩
  have hstarted := building_run.next (show honest _ (.start 1) from ⟨trivial, trivial⟩) hstart
  have hrecovered := hstarted.next (show honest _ (.recover 1 (some 3050)) from ⟨trivial, trivial⟩) hrecover
  exact hrecovered.next ⟨hhonest, trivial⟩ harrive

def overtaking : List Action :=
  authorizing ++ [.start 1] ++ [.recover 1 (some 3050)] ++ [.arrive rival input 3060 (some 3060)] ++
    [.call rival (.resume 3070)] ++ [.call rival (.challenge (.challenge challenge))]

theorem rival_reserving_run : Run (System.step platform fun _ ↦ options) honest .initial overtaking
    ((rivalPending.withCall id auth releasedDb (.building (payment reserved) serviceAuthorization)).withCall rival
      auth releasedDb (.reserving 3070 terms)) :=
  run_call (run_call rival_arrived_run ⟨trivial, trivial⟩ rival_resuming_step) ⟨trivial, trivial⟩ rival_fetching_step

/-- The system after the second call reserved, from the side of the first. -/
def overtakenBy (db : Db) (stage : Stage) : System :=
  (rivalPending.withCall rival auth regainedDb (.budgeting (payment regained))).withCall id auth db stage

/-- The first process transmits under the reservation of the second: the guards look at the state of the row. -/
theorem overtaken : ∃ labels traced,
    Run (Traced.step platform fun _ ↦ options) (fun traced ↦ honest traced.system) Traced.initial labels traced ∧
      ⟨id, some rival, attempt⟩ ∈ (traced.history "invocation").sent ∧ ¬ FencedPayments traced := by
  obtain ⟨history, hrun⟩ := Traced.run_of_run (fun _ _ h ↦ h) rival_reserving_run
  have hreserve : System.step platform (fun _ ↦ options)
      ((rivalPending.withCall id auth releasedDb (.building (payment reserved) serviceAuthorization)).withCall rival
        auth releasedDb (.reserving 3070 terms)) (.call rival (.store (some 3080))) =
          some (overtakenBy regainedDb (.building (payment reserved) serviceAuthorization)) := by
    rw [System.withCall_step, rival_reserving_step, Option.map_some, System.withCall_comm (by decide)]
    rfl
  have hsubmit : System.step platform (fun _ ↦ options)
      (overtakenBy regainedDb (.building (payment reserved) serviceAuthorization))
      (.call id (.submit attempt (some 3200)))
        = some (overtakenBy overtakenDb (.recorded (payment reserved) serviceAuthorization attempt)) := by
    rw [overtakenBy, System.withCall_step, overtaken_step]
    rfl
  have htransmit : System.step platform (fun _ ↦ options)
      (overtakenBy overtakenDb (.recorded (payment reserved) serviceAuthorization attempt)) (.transmit id) =
        some (((rivalPending.withCall rival auth regainedDb (.budgeting (payment regained))).sent
          ⟨id, auth, payment reserved, serviceAuthorization, attempt⟩).withCall id auth overtakenDb
            (.transmitted (payment reserved) serviceAuthorization attempt)) :=
    System.withCall_transmit _ _ _
  have hprepared : Prepares platform (fun _ ↦ options)
      (overtakenBy regainedDb (.building (payment reserved) serviceAuthorization))
      (.call id (.submit attempt (some 3200))) := by
    intro other payment authorization hcall
    rw [overtakenBy, System.withCall_calls] at hcall
    cases hcall
    exact ⟨answers, prepares⟩
  have hreserved := hrun.next (show honest _ (.call rival (.store (some 3080))) from ⟨trivial, trivial⟩)
    (Traced.step_eq history hreserve)
  have hsubmitted := hreserved.next (show honest _ (.call id (.submit attempt (some 3200))) from ⟨trivial, hprepared⟩)
    (Traced.step_eq _ hsubmit)
  have htransmitted := hsubmitted.next (show honest _ (.transmit id) from ⟨trivial, trivial⟩)
    (Traced.step_eq _ htransmit)
  have hsent : (⟨id, some rival, attempt⟩ : Sending CallId PaymentAttempt) ∈
      (history "invocation").sent ++ [⟨id, some rival, attempt⟩] := by
    simp
  refine ⟨_, _, htransmitted, hsent, fun hfenced ↦ ?_⟩
  have hprocess := hfenced.credentials "invocation" _ hsent
  cases hprocess

/-- A reservation is alone in every step of the purchase. -/
def alone (sys : System) (action : Action) : Prop :=
  ∀ history, ReservesAlone platform (fun _ ↦ options) ⟨sys, history⟩ action

theorem alone_of_idle {sys : System} (hidle : sys.calls = fun _ ↦ none) (action : Action) : alone sys action := by
  intro history invocationId _ id call hcall
  rw [show (⟨sys, history⟩ : Traced).system.calls id = none from congrFun hidle id] at hcall
  cases hcall

theorem alone_pending {db : Db} {stage : Stage} (hheld : stage.isUnsent = true → db.status "invocation" ≠ .free)
    (action : Action) : alone (pending.withCall id auth db stage) action :=
  fun history ↦ reservesAlone_withCall (fun _ _ ↦ rfl) hheld history action

/-- No run observes an invocation that a step reserves. -/
def unobserved (sys : System) (action : Action) : Prop :=
  ∀ history, ReservesUnobserved platform (fun _ ↦ options) ⟨sys, history⟩ action

theorem unobserved_of_idle {sys : System} (hidle : sys.runs = fun _ ↦ none) (action : Action) :
    unobserved sys action := by
  intro history invocationId _ process run hrun
  rw [show (⟨sys, history⟩ : Traced).system.runs process = none from congrFun hidle process] at hrun
  cases hrun

/-- The purchase up to its credential, in a run that may take its steps. -/
theorem transmitted_run_of {allowed : System → Action → Prop}
    (hidle : ∀ sys : System, sys.calls = (fun _ ↦ none) → sys.runs = (fun _ ↦ none) → ∀ action, allowed sys action)
    (hcall : ∀ db stage, (Stage.isUnsent stage = true → db.status "invocation" ≠ .free) →
      ∀ action, allowed (pending.withCall id auth db stage) action) :
    Run (System.step platform fun _ ↦ options) allowed .initial (paying ++ [.transmit id])
      ((pending.sent credential).withCall id auth attemptedDb
        (.transmitted (payment reserved) serviceAuthorization attempt)) := by
  have hreserved : reservedDb.status "invocation" ≠ .free := fun hfree ↦ by cases hfree
  have hattempted : attemptedDb.status "invocation" ≠ .free := fun hfree ↦ by cases hfree
  have harrived : Run (System.step platform fun _ ↦ options) allowed .initial
      [.start 0, .recover 0 (some 1000), .arrive id input 2500 (some 2500)]
      (pending.withCall id auth .empty (.known none)) :=
    ((Run.start.next (hidle _ rfl rfl _) starting_step).next (hidle _ rfl rfl _) serving_step).next
      (hidle _ rfl rfl _) arrives
  have hasked := run_call harrived (hcall _ _ (fun hunsent ↦ by cases hunsent) _) resuming_step
  have hfetched := run_call hasked (hcall _ _ (fun hunsent ↦ by cases hunsent) _) fetching_step
  have hheld := run_call hfetched (hcall _ _ (fun hunsent ↦ by cases hunsent) _) reserving_step
  have hbudgeted := run_call hheld (hcall _ _ (fun _ ↦ hreserved) _) budgeting_step
  have hsigned := run_call hbudgeted (hcall _ _ (fun _ ↦ hreserved) _) authorizing_step
  have hrecorded := run_call hsigned (hcall _ _ (fun _ ↦ hreserved) _) building_step
  exact hrecorded.next (hcall _ _ (fun _ ↦ hattempted) _) (System.withCall_transmit _ _ _)

/-- The purchase keeps to both fences, and its credential leaves. -/
theorem fencedPayments_of_reservesAlone_transmitted : ∃ history : History,
    Run (Traced.step platform fun _ ↦ options) (ReservesAlone platform fun _ ↦ options) Traced.initial
        (paying ++ [.transmit id]) ⟨(pending.sent credential).withCall id auth attemptedDb
          (.transmitted (payment reserved) serviceAuthorization attempt), history⟩ ∧
      FencedPayments ⟨(pending.sent credential).withCall id auth attemptedDb
        (.transmitted (payment reserved) serviceAuthorization attempt), history⟩ ∧
      OnlyReconciled ⟨(pending.sent credential).withCall id auth attemptedDb
        (.transmitted (payment reserved) serviceAuthorization attempt), history⟩ := by
  have hfenced : Run (System.step platform fun _ ↦ options) (fun sys action ↦ alone sys action ∧ unobserved sys action)
      .initial (paying ++ [.transmit id]) ((pending.sent credential).withCall id auth attemptedDb
        (.transmitted (payment reserved) serviceAuthorization attempt)) :=
    transmitted_run_of (fun _ hcalls hruns action ↦ ⟨alone_of_idle hcalls action, unobserved_of_idle hruns action⟩)
      fun _ _ hheld action ↦ ⟨alone_pending hheld action, unobserved_of_idle rfl action⟩
  obtain ⟨history, hboth⟩ := Traced.run_of_run (fun traced action hallowed ↦
    (⟨hallowed.1 traced.history, hallowed.2 traced.history⟩ : ReservesAlone platform (fun _ ↦ options) traced action ∧
      ReservesUnobserved platform (fun _ ↦ options) traced action)) hfenced
  have halone : Run (Traced.step platform fun _ ↦ options) (ReservesAlone platform fun _ ↦ options) Traced.initial
      (paying ++ [.transmit id]) _ := hboth.weaken fun _ _ hallowed ↦ hallowed.1
  obtain ⟨hpayments, hreconciled⟩ := fencedPayments_of_reservesAlone halone
  exact ⟨history, halone, hpayments, hreconciled (hboth.weaken fun _ _ hallowed ↦ hallowed.2)⟩

end Sample

/-! ## Verdicts -/

section

variable {platform : Platform} {options : ℕ → AuthorityServiceOptions}

/-- A verdict is applied only to the attempt it was looked up for. -/
def VerdictsMatch (traced : Traced) : Prop :=
  ∀ invocationId, ∀ verdict ∈ (traced.history invocationId).verdicts,
    verdict.recorded = some verdict.inspected

/-- Verdicts match in every state of every run that reserves unobserved. -/
theorem verdictsMatch_of_reservesUnobserved {labels : List Action} {traced : Traced}
    (hrun : Run (Traced.step platform options) (ReservesUnobserved platform options) Traced.initial labels
      traced) : VerdictsMatch traced := by
  have hinspected : AllInspected traced :=
    hrun.invariant allInspected_initial fun _ _ _ hinspected hallowed hstep ↦
      hinspected.step hallowed.fenced hstep
  exact fun invocationId ↦ (hinspected invocationId).verdicts

end

namespace Sample

/-- A system that some run over the sample platform ends in. -/
def Attained (allowed : System → Action → Prop) (sys : System) : Prop :=
  ∃ labels, Run (System.step platform fun _ ↦ options) allowed .initial labels sys

section

variable {allowed : System → Action → Prop} {sys sys' : System} {process : ℕ} {caller : CallId}
  {found : AuthenticatedRequest} {before after : Db} {stage stage' : Stage} {state state' : Db × Option ReconcileRun}

theorem Attained.next (h : Attained allowed sys) (action : Action) (hallowed : allowed sys action)
    (hstep : sys.step platform (fun _ ↦ options) action = some sys') : Attained allowed sys' := by
  obtain ⟨labels, hrun⟩ := h
  exact ⟨_, hrun.next hallowed hstep⟩

theorem Attained.call (h : Attained allowed (sys.withCall caller found before stage)) {event : CallEvent}
    (hallowed : allowed (sys.withCall caller found before stage) (.call caller event))
    (hstep : callStep platform options before found stage event = some (after, stage')) :
    Attained allowed (sys.withCall caller found after stage') := by
  obtain ⟨labels, hrun⟩ := h
  exact ⟨_, run_call hrun hallowed hstep⟩

theorem Attained.reconcile (h : Attained allowed (sys.withRun process state)) (event : ReconcileEvent)
    (hserving : sys.processes process = .serving)
    (hallowed : allowed (sys.withRun process state) (.reconcile process event))
    (hstep : reconcileStep platform options state.1 state.2 event = some state') :
    Attained allowed (sys.withRun process state') :=
  h.next (.reconcile process event) hallowed (System.withRun_step hserving hstep)

end

theorem unknown_step : callStep platform options attemptedDb auth
    (.transmitted (payment reserved) serviceAuthorization attempt) (.outcomeUnknown "socket hang up") =
      some (attemptedDb, .marking "socket hang up") := by
  rfl

def lookup : Lookup := ⟨"invocation", attempt⟩

def expiredReason : String := "no matching transaction and blockhash expired (height 901)"

/-- The first call has ended, and two processes serve. -/
def blockedSystem : System :=
  { (pending.sent credential).setPending 0 "invocation" none with
    processes := Function.update (Function.update pending.processes 1 .starting) 1 .serving }.withCall id auth
      unresolvedDb (.refused (reconciliationRequiredError "invocation"))

/-- The run of process 1 stands before the verdict it was answered. -/
def resolving : Option ReconcileRun := some (.resolving lookup (.failed expiredReason) [])

/-- The invocation is held, and the runs hold lookups of it alone. -/
structure Watched (sys : System) : Prop where
  held : sys.db.status "invocation" ≠ .free
  lookups : ∀ process run, sys.runs process = some run → ∀ lookup ∈ run.lookups, lookup.invocationId = "invocation"

theorem watched_of_idle {sys : System} (hheld : sys.db.status "invocation" ≠ .free)
    (hruns : sys.runs = fun _ ↦ none) : Watched sys := by
  refine ⟨hheld, fun process run hrun ↦ ?_⟩
  rw [hruns] at hrun
  cases hrun

theorem watched_blocked {state : Db × Option ReconcileRun} (hheld : state.1.status "invocation" ≠ .free)
    (hlookups : ∀ run, state.2 = some run → ∀ lookup ∈ run.lookups, lookup.invocationId = "invocation") :
    Watched (blockedSystem.withRun 1 state) := by
  refine ⟨hheld, fun process run hrun ↦ ?_⟩
  by_cases hprocess : process = 1
  · subst hprocess
    have hself : Function.update blockedSystem.runs 1 state.2 1 = some run := hrun
    rw [Function.update_self] at hself
    exact hlookups run hself
  · have hother : Function.update blockedSystem.runs 1 state.2 process = some run := hrun
    rw [Function.update_of_ne hprocess] at hother
    cases hother

theorem resolving_attained {allowed : System → Action → Prop}
    (hidle : ∀ sys : System, sys.calls = (fun _ ↦ none) → sys.runs = (fun _ ↦ none) → ∀ action, allowed sys action)
    (hcall : ∀ db stage, (Stage.isUnsent stage = true → db.status "invocation" ≠ .free) →
      ∀ action, allowed (pending.withCall id auth db stage) action)
    (hwatched : ∀ sys, Watched sys → ∀ action, allowed sys action) :
    Attained allowed (blockedSystem.withRun 1 (unresolvedDb, resolving)) := by
  have hattempted : attemptedDb.status "invocation" ≠ .free := fun hfree ↦ by cases hfree
  have hunresolved : unresolvedDb.status "invocation" ≠ .free := fun hfree ↦ by cases hfree
  have htransmitted : Attained allowed _ := ⟨_, transmitted_run_of hidle hcall⟩
  have hmarked := (htransmitted.call (hwatched _ (watched_of_idle hattempted rfl) _) unknown_step).call
    (hwatched _ (watched_of_idle hattempted rfl) _) marking_step
  have hfinished : Attained allowed (((pending.sent credential).setPending 0 "invocation" none).withCall id auth
      unresolvedDb (.refused (reconciliationRequiredError "invocation"))) :=
    hmarked.next (.finish id) (hwatched _ (watched_of_idle hunresolved rfl) _) rfl
  have hstarted : Attained allowed ({ (pending.sent credential).setPending 0 "invocation" none with
      processes := Function.update pending.processes 1 .starting }.withCall id auth unresolvedDb
        (.refused (reconciliationRequiredError "invocation"))) :=
    hfinished.next (.start 1) (hwatched _ (watched_of_idle hunresolved rfl) _) rfl
  have hserving : Attained allowed blockedSystem :=
    hstarted.next (.recover 1 (some 5100)) (hwatched _ (watched_of_idle hunresolved rfl) _) rfl
  have hself : blockedSystem.withRun 1 (unresolvedDb, none) = blockedSystem := System.withRun_idle rfl unresolvedDb
  rw [← hself] at hserving
  have hlisted : Attained allowed (blockedSystem.withRun 1 (unresolvedDb, some (.looking lookup []))) :=
    hserving.reconcile .list rfl (hwatched _ (watched_blocked hunresolved fun _ hnone ↦ by cases hnone) _) rfl
  refine hlisted.reconcile (.answer (.expired "901")) rfl (hwatched _ (watched_blocked hunresolved ?_) _) rfl
  intro run hrun other hother
  cases hrun
  rw [List.mem_singleton.1 hother]
  rfl

def freedRow : InvocationRecord :=
  reconciledRow (unresolvedRow "socket hang up" 4100 attempted) (.failed expiredReason) 6000

def freedDb : Db := db (grant "0" "0" 6000) freedRow (unresolvedDb.transitions ++
  [⟨"invocation", some .RECONCILIATION_REQUIRED, .FAILED, some s!"reconciled: {expiredReason}", 6000⟩])

theorem freeing_step : reconcileStep platform options unresolvedDb resolving (.store (some 6000)) =
    some (freedDb, none) := by
  rfl

theorem Watched.unobserved {sys : System} (h : Watched sys) (action : Action) : unobserved sys action := by
  intro history invocationId hreserves process run hrun lookup hlookup heq
  obtain ⟨_, -, hfree, -⟩ := hreserves
  have hinvocation : lookup.invocationId = "invocation" := h.lookups process run hrun lookup hlookup
  exact h.held (hinvocation ▸ heq ▸ hfree)

/-- A run that resolves what it looked up keeps to its fence. -/
theorem verdictsMatch_of_reservesUnobserved_freed : ∃ (labels : List Action) (history : History),
    Run (Traced.step platform fun _ ↦ options) (ReservesUnobserved platform fun _ ↦ options) Traced.initial labels
        ⟨blockedSystem.withRun 1 (freedDb, none), history⟩ ∧
      VerdictsMatch ⟨blockedSystem.withRun 1 (freedDb, none), history⟩ := by
  have hresolving : Attained unobserved (blockedSystem.withRun 1 (unresolvedDb, resolving)) :=
    resolving_attained (fun _ _ hidle ↦ unobserved_of_idle hidle) (fun _ _ _ ↦ unobserved_of_idle rfl) fun _ hwatched ↦
      hwatched.unobserved
  have hlookups : ∀ run, resolving = some run → ∀ lookup ∈ run.lookups, lookup.invocationId = "invocation" := by
    intro run hrun other hother
    cases hrun
    rw [List.mem_singleton.1 hother]
    rfl
  obtain ⟨labels, hrun⟩ := hresolving.reconcile (.store (some 6000)) rfl
    ((watched_blocked (fun hfree ↦ by cases hfree) hlookups).unobserved _) freeing_step
  obtain ⟨history, hhistory⟩ : ∃ history, Run (Traced.step platform fun _ ↦ options)
      (ReservesUnobserved platform fun _ ↦ options) Traced.initial labels
        ⟨blockedSystem.withRun 1 (freedDb, none), history⟩ :=
    Traced.run_of_run (fun traced _ hallowed ↦ hallowed traced.history) hrun
  exact ⟨labels, history, hhistory, verdictsMatch_of_reservesUnobserved hhistory⟩

/-- Process 0 resolves the invocation while process 1 holds its verdict. -/
theorem freed_attained : Attained (fun _ _ ↦ True)
    { blockedSystem.withRun 1 (unresolvedDb, resolving) with db := freedDb } := by
  have hresolving : Attained (fun _ _ ↦ True) (blockedSystem.withRun 1 (unresolvedDb, resolving)) :=
    resolving_attained (fun _ _ _ _ ↦ trivial) (fun _ _ _ _ ↦ trivial) fun _ _ _ ↦ trivial
  have hself : (blockedSystem.withRun 1 (unresolvedDb, resolving)).withRun 0 (unresolvedDb, none) =
      blockedSystem.withRun 1 (unresolvedDb, resolving) := System.withRun_idle rfl unresolvedDb
  rw [← hself] at hresolving
  have hlisted : Attained (fun _ _ ↦ True) ((blockedSystem.withRun 1 (unresolvedDb, resolving)).withRun 0
      (unresolvedDb, some (.looking lookup []))) :=
    hresolving.reconcile .list rfl trivial rfl
  have hanswered : Attained (fun _ _ ↦ True) ((blockedSystem.withRun 1 (unresolvedDb, resolving)).withRun 0
      (unresolvedDb, resolving)) :=
    hlisted.reconcile (.answer (.expired "901")) rfl trivial rfl
  have hfreed := hanswered.reconcile (.store (some 6000)) rfl trivial freeing_step
  rw [System.withRun_idle rfl] at hfreed
  exact hfreed

/-- The next call for the invocation, in process 0. -/
def second : CallId := ⟨0, 1⟩

/-- The retry is the pending one, beside a run that holds a verdict. -/
def retrying : System :=
  { blockedSystem.withRun 1 (unresolvedDb, resolving) with db := freedDb }.setPending 0 "invocation"
    (some ⟨fingerprint, 1⟩)

def renewed : InvocationRecord := (reserveInput auth 6200 terms).written (some freedRow) .RESERVED [] 6300

def renewedDb : Db := db (grant "5" "0" 6300) renewed (freedDb.transitions ++
  [⟨"invocation", some .FAILED, .RESERVED, none, 6300⟩])

theorem renews : freedDb.access (some 6300) (reserve (reserveInput auth 6200 terms) (evaluate auth 6200 terms)) =
    (.ok (.reserved renewed), renewedDb) := by
  rfl

theorem renewing_step : callStep platform options freedDb auth (.reserving 6200 terms) (.store (some 6300)) =
    some (renewedDb, .budgeting (payment renewed)) := by
  have houtbound : outboundRequest platform options renewed.request = some paidRequest := outbound
  have hstart : startPayment platform options (payment renewed) = .budgeting (payment renewed) := by
    simp [startPayment, outboundMatchesAuthorization, payment, houtbound]
  simp only [callStep, renews]
  exact congrArg (fun stage ↦ some (renewedDb, stage)) hstart

def renewedUnsigned : UnsignedServiceAuthorizationV1 :=
  unsignedServiceAuthorization platform options auth.permit (payment renewed) 6500

def renewedAuthorization : SignedServiceAuthorizationV1 :=
  ⟨renewedUnsigned, platform.signBytes options.authoritySigner
    (statementText platform SERVICE_AUTHORIZATION_DOMAIN renewedUnsigned.members)⟩

theorem renewed_authorizing_step : callStep platform options renewedDb auth (.authorizing (payment renewed))
    (.signed 6500) = some (renewedDb, .building (payment renewed) renewedAuthorization) := by
  have hsign : signServiceAuthorization platform renewedUnsigned options.authoritySigner =
      some renewedAuthorization := by
    rw [signServiceAuthorization, if_pos (show options.authoritySigner = renewedUnsigned.authority from rfl)]
    rfl
  have hunsigned : unsignedServiceAuthorization platform options auth.permit (payment renewed) 6500 =
      renewedUnsigned := rfl
  simp only [callStep, hunsigned, hsign, Option.map_some]

/-- A later attempt under a fresh blockhash. -/
def renewedAttempt : PaymentAttempt :=
  { attempt with
    payerSignature := Payments.Sample.facilitatorSignature, blockhash := Payments.Sample.wallet, preparedAt := 6550 }

def renewedAttemptDb : Db := db (grant "5" "0" 6300) (attemptedRow renewedAttempt renewedAuthorization 6600 renewed)
  (renewedDb.transitions ++ [⟨"invocation", some .RESERVED, .RESERVED,
    some s!"payment attempt {renewedAttempt.payerSignature}", 6600⟩])

theorem renewed_building_step : callStep platform options renewedDb auth
    (.building (payment renewed) renewedAuthorization) (.submit renewedAttempt (some 6600)) =
      some (renewedAttemptDb, .recorded (payment renewed) renewedAuthorization renewedAttempt) := by
  rfl

def reblockedDb : Db := db (grant "5" "0" 6300)
  (unresolvedRow "socket hang up" 7000 (attemptedRow renewedAttempt renewedAuthorization 6600 renewed))
  (renewedAttemptDb.transitions ++ [⟨"invocation", some .RESERVED, .RECONCILIATION_REQUIRED, some "socket hang up",
    7000⟩])

theorem renewed_marking_step : callStep platform options renewedAttemptDb auth (.marking "socket hang up")
    (.store (some 7000)) = some (reblockedDb, .refused (reconciliationRequiredError "invocation")) := by
  rfl

/-- The later attempt is unresolved while process 1 holds the verdict for the earlier one. -/
def reblocked : System :=
  (retrying.sent ⟨second, auth, payment renewed, renewedAuthorization, renewedAttempt⟩).withCall second auth
    reblockedDb (.refused (reconciliationRequiredError "invocation"))

theorem reblocked_attained : Attained (fun _ _ ↦ True) reblocked := by
  have harrived : Attained (fun _ _ ↦ True) (retrying.withCall second auth freedDb (.known (some freedRow))) :=
    freed_attained.next (.arrive second input 6100 (some 6100)) trivial
      (System.withCall_arrive rfl rfl (authenticated_at (by decide) (by decide)) rfl)
  have hresume : callStep platform options freedDb auth (.known (some freedRow)) (.resume 6200) =
      some (freedDb, .fetching 6200 Evidence.Sample.profile paidRequest) :=
    congrArg (fun stage ↦ some (freedDb, stage)) (@decided_at 6200 (by decide))
  have hfetched : Attained (fun _ _ ↦ True) (retrying.withCall second auth freedDb (.reserving 6200 terms)) :=
    (harrived.call trivial hresume).next (.call second (.challenge (.challenge challenge))) trivial
      (System.withCall_step _)
  have hbudgeted : Attained (fun _ _ ↦ True)
      (retrying.withCall second auth renewedDb (.authorizing (payment renewed))) :=
    (hfetched.call trivial renewing_step).next (.call second (.store (some 6400))) trivial (System.withCall_step _)
  have hrecorded := (hbudgeted.call trivial renewed_authorizing_step).call trivial renewed_building_step
  have htransmitted := hrecorded.next (.transmit second) trivial (System.withCall_transmit _ _ _)
  have hunknown : callStep platform options renewedAttemptDb auth
      (.transmitted (payment renewed) renewedAuthorization renewedAttempt) (.outcomeUnknown "socket hang up") =
        some (renewedAttemptDb, .marking "socket hang up") := by
    rfl
  exact (htransmitted.call trivial hunknown).call trivial renewed_marking_step

/-- The verdict for the earlier attempt voids the later one: the guard looks at the state of the row. -/
theorem verdict_outlives_attempt : ∃ labels traced,
    Run (Traced.step platform fun _ ↦ options) (fun _ _ ↦ True) Traced.initial labels traced ∧
      ⟨attempt, some renewedAttempt, true⟩ ∈ (traced.history "invocation").verdicts ∧ ¬ VerdictsMatch traced := by
  obtain ⟨labels, hrun⟩ := reblocked_attained
  have hany : ∀ (traced : Traced) (_ : Action), True → True := fun _ _ h ↦ h
  obtain ⟨history, hhistory⟩ := Traced.run_of_run hany hrun
  have hstep : reblocked.step platform (fun _ ↦ options) (.reconcile 1 (.store (some 7100))) =
      some (reblocked.withRun 1
        (((resolveReconciliation "invocation" (.failed expiredReason) 7100).run reblockedDb).2, none)) := by
    rfl
  have hvoided := hhistory.next (by exact trivial) (Traced.step_eq history hstep)
  have hverdict : (⟨attempt, some renewedAttempt, true⟩ : Verdict PaymentAttempt) ∈
      (history "invocation").verdicts ++ [⟨attempt, some renewedAttempt, true⟩] := by
    simp
  refine ⟨_, _, hvoided, hverdict, fun hmatch ↦ ?_⟩
  have hrecorded := hmatch "invocation" _ hverdict
  have hsignature := congrArg (Option.map PaymentAttempt.payerSignature) hrecorded
  revert hsignature
  decide

end Sample
end VirtualHaibin.Authority
