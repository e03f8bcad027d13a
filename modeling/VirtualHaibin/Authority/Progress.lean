import VirtualHaibin.Authority.System

/-!
# What a call step does

One inversion of the step of a call: the stage it left, the stage it entered, and the store
operation that committed in between.  Everything about calls is derived from it.
-/

namespace VirtualHaibin.Authority

open Foundation Foundation.Checked Mandate Payments Evidence

/-- A stage after the reservation and before anything was transmitted. -/
def Stage.isUnsent : Stage → Bool
  | .releasing _ _ _ | .budgeting _ | .authorizing _ | .building _ _ | .rejected _ | .recorded _ _ _ => true
  | _ => false

/-- What a stage inside `execute` pays for. -/
def Stage.execution : Stage → Option (Payment × SignedServiceAuthorizationV1)
  | .building payment serviceAuthorization | .recorded payment serviceAuthorization _
  | .transmitted payment serviceAuthorization _ => some (payment, serviceAuthorization)
  | _ => none

/-- A stage that is about to mark its invocation as unresolved. -/
def Stage.isMarking : Stage → Bool
  | .marking _ | .unrecorded _ => true
  | _ => false

def failedRow (reason : String) (now : ℤ) (row : InvocationRecord) : InvocationRecord :=
  { row with state := .FAILED, stateReason := some reason, updatedAt := now }

def unresolvedRow (reason : String) (now : ℤ) (row : InvocationRecord) : InvocationRecord :=
  { row with state := .RECONCILIATION_REQUIRED, stateReason := some reason, updatedAt := now }

def attemptedRow (attempt : PaymentAttempt) (serviceAuthorization : SignedServiceAuthorizationV1) (now : ℤ)
    (row : InvocationRecord) : InvocationRecord :=
  { row with
    paymentAttempt := some attempt, serviceAuthorization := some serviceAuthorization, updatedAt := now }

/-- The steps of a call, by what they do. -/
inductive Progress (platform : Platform) (options : AuthorityServiceOptions) (db : Db)
    (auth : AuthenticatedRequest) : Stage → CallEvent → Db → Stage → Prop
  | resolved {row : InvocationRecord} {event : CallEvent}
      (known : ¬(row.state = .FAILED ∧ row.fingerprint = auth.fingerprint)) :
      Progress platform options db auth (.known (some row)) event db
        (resolveExisting options row auth.fingerprint)
  | decided {row : Option InvocationRecord} (now : ℤ)
      (retry : ∀ found, row = some found → found.state = .FAILED ∧ found.fingerprint = auth.fingerprint) :
      Progress platform options db auth (.known row) (.resume now) db (decide platform options auth now)
  | challenged {decidedAt : ℤ} {profile : SettlementProfile} {paidRequest : PaidRequest}
      (result : ChallengeResult) :
      Progress platform options db auth (.fetching decidedAt profile paidRequest) (.challenge result) db
        (.reserving decidedAt (challengeTerms options auth profile paidRequest result))
  /-- A rejected promise, or a store operation that threw. -/
  | failed {stage : Stage} {event : CallEvent} (failure : Failure) :
      Progress platform options db auth stage event db (.done (.failed failure))
  | reserved {decidedAt : ℤ} {terms : ChallengeTerms} {now : ℤ} {result : ReserveResult} {db' : Db}
      (effect : ReserveEffect db db' (reserveInput auth decidedAt terms) (evaluate auth decidedAt terms) now
        result) :
      Progress platform options db auth (.reserving decidedAt terms) (.store (some now)) db'
        (afterReserve platform options auth terms (.ok result))
  | released {reason : String} {failure : Failure} {tolerant : Bool} {now : ℤ} {row : InvocationRecord}
      {db' : Db} {entry : TransitionRecord} (found : Found db auth.request.invocationId .RESERVED row)
      (released : Released db db' row (failedRow reason now row) entry now) :
      Progress platform options db auth (.releasing reason failure tolerant) (.store (some now)) db'
        (.done (.failed failure))
  | givenUp {stage : Stage} {event : CallEvent} (reason : String) (failure : Failure) (tolerant : Bool)
      (unsent : stage.isUnsent = true) :
      Progress platform options db auth stage event db (.releasing reason failure tolerant)
  | budgeted {payment : Payment} {event : CallEvent} :
      Progress platform options db auth (.budgeting payment) event db (.authorizing payment)
  | authorized {payment : Payment} {now : ℤ} {serviceAuthorization : SignedServiceAuthorizationV1}
      (signed : signServiceAuthorization platform
        (unsignedServiceAuthorization platform options auth.permit payment now) options.authoritySigner =
          some serviceAuthorization) :
      Progress platform options db auth (.authorizing payment) (.signed now) db
        (.building payment serviceAuthorization)
  | recorded {payment : Payment} {serviceAuthorization : SignedServiceAuthorizationV1}
      {attempt : PaymentAttempt} {now : ℤ} {row : InvocationRecord} {db' : Db} {entry : TransitionRecord}
      (found : Found db auth.request.invocationId .RESERVED row) (unarmed : row.paymentAttempt = none)
      (written : RowWritten db db' (some row) (attemptedRow attempt serviceAuthorization now row) entry) :
      Progress platform options db auth (.building payment serviceAuthorization)
        (.submit attempt (some now)) db' (.recorded payment serviceAuthorization attempt)
  | rejected {payment : Payment} {serviceAuthorization : SignedServiceAuthorizationV1} {event : CallEvent} :
      Progress platform options db auth (.building payment serviceAuthorization) event db (.rejected payment)
  | interrupted {stage : Stage} {execution : Payment × SignedServiceAuthorizationV1} (message : String)
      (executing : stage.execution = some execution) :
      Progress platform options db auth stage (.outcomeUnknown message) db (.marking message)
  | executed {stage : Stage} {payment : Payment} {serviceAuthorization : SignedServiceAuthorizationV1}
      (settlement : ConfirmedSettlement) (result : PaidResult)
      (executing : stage.execution = some (payment, serviceAuthorization)) :
      Progress platform options db auth stage (.executed settlement result) db
        (.confirming settlement (acceptAcknowledgement platform options auth.permit payment
          serviceAuthorization settlement result))
  | marked {stage : Stage} {reason : String} {now : ℤ} {row : InvocationRecord} {db' : Db}
      {entry : TransitionRecord} (marking : stage.isMarking = true)
      (found : Found db auth.request.invocationId .RESERVED row)
      (written : RowWritten db db' (some row) (unresolvedRow reason now row) entry) :
      Progress platform options db auth stage (.store (some now)) db'
        (.refused (reconciliationRequiredError auth.request.invocationId))
  | confirmed {settlement : ConfirmedSettlement} {result : PaidResult} {now : ℤ} {row : InvocationRecord}
      {db' : Db} {entry : TransitionRecord} (found : Found db auth.request.invocationId .RESERVED row)
      (consumed : Consumed db db' row
        (confirmedRow row ⟨settlement.transactionId, some settlement, some result⟩ now) entry now) :
      Progress platform options db auth (.confirming settlement result) (.store (some now)) db'
        (ensureReceipt options
          (confirmedRow row ⟨settlement.transactionId, some settlement, some result⟩ now) false)
  | unrecorded {settlement : ConfirmedSettlement} {result : PaidResult} {event : CallEvent}
      (reason : String) :
      Progress platform options db auth (.confirming settlement result) event db (.unrecorded reason)
  | attached {row found : InvocationRecord} {replay : Bool} {receipt stored : SignedAuthorizationReceipt}
      {now : ℤ} {db' : Db} (signed : signReceipt platform options row = some receipt)
      (find : db.invocations.find? row.invocationId = some found)
      (stores : (attachedRow receipt now found).receipt = some stored)
      (wrote : Table.Wrote db.invocations db'.invocations (some found) (attachedRow receipt now found))
      (grants : db'.grants = db.grants) (transitions : db'.transitions = db.transitions) :
      Progress platform options db auth (.signing row replay) (.store (some now)) db'
        (.done (.returned (resultOf options row stored replay)))

/-- A store operation ran and committed, or left the database as it was. -/
theorem access_cases {α : Type} {db db' : Db} {access : Option ℤ} {transaction : ℤ → Transaction α}
    {result : Except StoreError α} (h : db.access access transaction = (result, db')) :
    (∃ now a, access = some now ∧ result = .ok a ∧ transaction now db = .ok (a, db')) ∨
      ∃ error, result = .error error ∧ db' = db := by
  cases access with
  | none =>
    cases h
    exact .inr ⟨_, rfl, rfl⟩
  | some now =>
    rcases Transaction.run_eq h with ⟨a, rfl, hok⟩ | ⟨error, rfl, -, rfl⟩
    · exact .inl ⟨now, a, rfl, rfl, hok⟩
    · exact .inr ⟨error, rfl, rfl⟩

variable {platform : Platform} {options : AuthorityServiceOptions} {db db' : Db}
  {auth : AuthenticatedRequest} {stage stage' : Stage} {event : CallEvent}

section

-- The lemmas below each unfold the step of a call: its equations are derived here, once for all.
attribute [local simp] callStep

end

theorem known_progress {row : Option InvocationRecord}
    (h : callStep platform options db auth (.known row) event = some (db', stage')) :
    Progress platform options db auth (.known row) event db' stage' := by
  cases event with
  | resume now =>
    simp only [callStep] at h
    split at h
    · rename_i found hfilter
      cases h
      rw [filter_eq_some] at hfilter
      obtain ⟨rfl, hknown⟩ := hfilter
      apply Progress.resolved
      simpa [-not_and, Decidable.not_and_iff_or_not] using hknown
    · rename_i hfilter
      cases h
      refine .decided now fun found hfound ↦ ?_
      subst hfound
      simpa using hfilter
  | _ => cases h

theorem fetching_progress {decidedAt : ℤ} {profile : SettlementProfile} {paidRequest : PaidRequest}
    (h : callStep platform options db auth (.fetching decidedAt profile paidRequest) event =
      some (db', stage')) :
    Progress platform options db auth (.fetching decidedAt profile paidRequest) event db' stage' := by
  cases event with
  | challenge result =>
    cases h
    exact .challenged result
  | unavailable message =>
    cases h
    exact .failed _
  | thrown message =>
    cases h
    exact .failed _
  | _ => cases h

theorem reserving_progress {decidedAt : ℤ} {terms : ChallengeTerms}
    (h : callStep platform options db auth (.reserving decidedAt terms) event = some (db', stage')) :
    Progress platform options db auth (.reserving decidedAt terms) event db' stage' := by
  cases event with
  | store access =>
    simp only [callStep, Option.some.injEq] at h
    cases haccess : db.access access
      (reserve (reserveInput auth decidedAt terms) (evaluate auth decidedAt terms)) with
    | mk result after =>
      rw [haccess] at h
      cases h
      rcases access_cases haccess with ⟨now, a, rfl, rfl, hok⟩ | ⟨error, rfl, rfl⟩
      · exact .reserved (reserve_ok hok)
      · exact .failed (.store error)
  | _ => cases h

theorem afterRelease_failed (failure : Failure) (tolerant : Bool) (result : Except StoreError Unit) :
    ∃ other, afterRelease failure tolerant result = .done (.failed other) := by
  unfold afterRelease
  split
  · exact ⟨_, rfl⟩
  · split <;> exact ⟨_, rfl⟩
  · exact ⟨_, rfl⟩

theorem releasing_progress {reason : String} {failure : Failure} {tolerant : Bool}
    (h : callStep platform options db auth (.releasing reason failure tolerant) event =
      some (db', stage')) :
    Progress platform options db auth (.releasing reason failure tolerant) event db' stage' := by
  cases event with
  | store access =>
    simp only [callStep, Option.some.injEq] at h
    cases haccess : db.access access (fail auth.request.invocationId reason) with
    | mk result after =>
      rw [haccess] at h
      cases h
      rcases access_cases haccess with ⟨now, a, rfl, rfl, hok⟩ | ⟨error, rfl, rfl⟩
      · obtain ⟨row, hfound, hreleased⟩ := fail_ok hok
        exact .released hfound hreleased
      · obtain ⟨other, heq⟩ := afterRelease_failed failure tolerant (.error error)
        rw [heq]
        exact .failed other
  | _ => cases h

theorem budgeting_progress {payment : Payment}
    (h : callStep platform options db auth (.budgeting payment) event = some (db', stage')) :
    Progress platform options db auth (.budgeting payment) event db' stage' := by
  cases event with
  | store access =>
    simp only [callStep] at h
    split at h
    · cases h
      exact .budgeted
    · cases h
      exact .failed _
  | _ => cases h

theorem authorizing_progress {payment : Payment}
    (h : callStep platform options db auth (.authorizing payment) event = some (db', stage')) :
    Progress platform options db auth (.authorizing payment) event db' stage' := by
  cases event with
  | signed now =>
    simp only [callStep, Option.map_eq_some_iff] at h
    obtain ⟨serviceAuthorization, hsigned, heq⟩ := h
    cases heq
    exact .authorized hsigned
  | thrown message =>
    cases h
    exact .givenUp _ _ _ rfl
  | _ => cases h

theorem building_progress {payment : Payment} {serviceAuthorization : SignedServiceAuthorizationV1}
    (h : callStep platform options db auth (.building payment serviceAuthorization) event =
      some (db', stage')) :
    Progress platform options db auth (.building payment serviceAuthorization) event db' stage' := by
  cases event with
  | submit attempt access =>
    simp only [callStep] at h
    cases haccess : db.access access (recordPaymentAttempt auth.request.invocationId attempt
      (some serviceAuthorization)) with
    | mk result after =>
      rw [haccess] at h
      rcases access_cases haccess with ⟨now, a, rfl, rfl, hok⟩ | ⟨error, rfl, rfl⟩
      · cases h
        obtain ⟨row, hfound, hunarmed, hwritten⟩ := recordPaymentAttempt_ok hok
        exact .recorded hfound hunarmed hwritten
      · cases h
        exact .rejected
  | notSubmitted message =>
    cases h
    exact .givenUp _ _ _ rfl
  | outcomeUnknown message =>
    cases h
    exact .interrupted message rfl
  | executed settlement result =>
    cases h
    exact .executed settlement result rfl
  | _ => cases h

theorem rejected_progress {payment : Payment}
    (h : callStep platform options db auth (.rejected payment) event = some (db', stage')) :
    Progress platform options db auth (.rejected payment) event db' stage' := by
  cases event with
  | notSubmitted message =>
    cases h
    exact .givenUp _ _ _ rfl
  | _ => cases h

theorem recorded_progress {payment : Payment} {serviceAuthorization : SignedServiceAuthorizationV1}
    {attempt : PaymentAttempt}
    (h : callStep platform options db auth (.recorded payment serviceAuthorization attempt) event =
      some (db', stage')) :
    Progress platform options db auth (.recorded payment serviceAuthorization attempt) event db' stage' := by
  cases event with
  | notSubmitted message =>
    cases h
    exact .givenUp _ _ _ rfl
  | outcomeUnknown message =>
    cases h
    exact .interrupted message rfl
  | executed settlement result =>
    cases h
    exact .executed settlement result rfl
  | _ => cases h

theorem transmitted_progress {payment : Payment} {serviceAuthorization : SignedServiceAuthorizationV1}
    {attempt : PaymentAttempt}
    (h : callStep platform options db auth (.transmitted payment serviceAuthorization attempt) event =
      some (db', stage')) :
    Progress platform options db auth (.transmitted payment serviceAuthorization attempt) event db' stage' := by
  cases event with
  | outcomeUnknown message =>
    cases h
    exact .interrupted message rfl
  | executed settlement result =>
    cases h
    exact .executed settlement result rfl
  | _ => cases h

theorem marking_progress {reason : String}
    (h : callStep platform options db auth (.marking reason) event = some (db', stage')) :
    Progress platform options db auth (.marking reason) event db' stage' := by
  cases event with
  | store access =>
    simp only [callStep] at h
    cases haccess : db.access access (markReconciliationRequired auth.request.invocationId reason) with
    | mk result after =>
      rw [haccess] at h
      rcases access_cases haccess with ⟨now, a, rfl, rfl, hok⟩ | ⟨error, rfl, rfl⟩
      · cases h
        obtain ⟨row, hfound, hwritten⟩ := markReconciliationRequired_ok hok
        exact .marked rfl hfound hwritten
      · cases h
        exact .failed _
  | _ => cases h

theorem confirming_progress {settlement : ConfirmedSettlement} {result : PaidResult}
    (h : callStep platform options db auth (.confirming settlement result) event = some (db', stage')) :
    Progress platform options db auth (.confirming settlement result) event db' stage' := by
  cases event with
  | store access =>
    simp only [callStep] at h
    cases haccess : db.access access (confirm auth.request.invocationId
      ⟨settlement.transactionId, some settlement, some result⟩) with
    | mk outcome after =>
      rw [haccess] at h
      rcases access_cases haccess with ⟨now, new, rfl, rfl, hok⟩ | ⟨error, rfl, rfl⟩
      · cases h
        obtain ⟨row, hfound, rfl, hconsumed⟩ := confirm_ok hok
        exact .confirmed hfound hconsumed
      · cases h
        exact .unrecorded _
  | _ => cases h

theorem unrecorded_progress {reason : String}
    (h : callStep platform options db auth (.unrecorded reason) event = some (db', stage')) :
    Progress platform options db auth (.unrecorded reason) event db' stage' := by
  cases event with
  | store access =>
    simp only [callStep] at h
    cases haccess : db.access access (markReconciliationRequired auth.request.invocationId reason) with
    | mk result after =>
      rw [haccess] at h
      rcases access_cases haccess with ⟨now, a, rfl, rfl, hok⟩ | ⟨error, rfl, rfl⟩
      · cases h
        obtain ⟨row, hfound, hwritten⟩ := markReconciliationRequired_ok hok
        exact .marked rfl hfound hwritten
      · cases h
        exact .failed _
  | _ => cases h

theorem signing_progress {row : InvocationRecord} {replay : Bool}
    (h : callStep platform options db auth (.signing row replay) event = some (db', stage')) :
    Progress platform options db auth (.signing row replay) event db' stage' := by
  cases event with
  | store access =>
    simp only [callStep, Option.map_eq_some_iff] at h
    obtain ⟨receipt, hsigned, h⟩ := h
    cases haccess : db.access access (attachReceipt row.invocationId receipt) with
    | mk result after =>
      rw [haccess] at h
      rcases access_cases haccess with ⟨now, stored, rfl, rfl, hok⟩ | ⟨error, rfl, rfl⟩
      · cases h
        obtain ⟨found, hfind, hstores, hwrote, hgrants, htransitions⟩ := attachReceipt_ok hok
        exact .attached hsigned hfind hstores hwrote hgrants htransitions
      · cases h
        exact .failed _
  | thrown message =>
    cases h
    exact .failed _
  | _ => cases h

/-- Every step of a call is one of the listed ones. -/
theorem callStep_progress (h : callStep platform options db auth stage event = some (db', stage')) :
    Progress platform options db auth stage event db' stage' := by
  cases stage with
  | waiting leader => cases h
  | known row => exact known_progress h
  | fetching decidedAt profile paidRequest => exact fetching_progress h
  | reserving decidedAt terms => exact reserving_progress h
  | releasing reason failure tolerant => exact releasing_progress h
  | budgeting payment => exact budgeting_progress h
  | authorizing payment => exact authorizing_progress h
  | building payment serviceAuthorization => exact building_progress h
  | rejected payment => exact rejected_progress h
  | recorded payment serviceAuthorization attempt => exact recorded_progress h
  | transmitted payment serviceAuthorization attempt => exact transmitted_progress h
  | marking reason => exact marking_progress h
  | confirming settlement result => exact confirming_progress h
  | unrecorded reason => exact unrecorded_progress h
  | signing row replay => exact signing_progress h
  | done outcome => cases h

/-! ## Reconciliation runs -/

/-- The attempts a process has not resolved. -/
def unresolvedLookups (run : Option ReconcileRun) : List Lookup :=
  run.elim [] ReconcileRun.lookups

@[simp] theorem unresolvedLookups_nextLookup (rest : List Lookup) : unresolvedLookups (nextLookup rest) = rest := by
  cases rest <;> rfl

@[simp] theorem unresolvedLookups_some (run : ReconcileRun) : unresolvedLookups (some run) = run.lookups := rfl

/-- The steps of a reconciliation run, by what they do. -/
inductive ReconcileProgress (platform : Platform) (options : AuthorityServiceOptions) (db : Db) :
    Option ReconcileRun → ReconcileEvent → Db → Option ReconcileRun → Prop
  | listed : ReconcileProgress platform options db none .list db (nextLookup db.lookups)
  | decided {lookup : Lookup} {rest : List Lookup} {answer : SettlementLookup}
      {outcome : ReconciliationOutcome} (decides : lookupOutcome answer = some outcome) :
      ReconcileProgress platform options db (some (.looking lookup rest)) (.answer answer) db
        (some (.resolving lookup outcome rest))
  /-- A lookup that decided nothing, or a store operation that threw. -/
  | skipped {run : ReconcileRun} {event : ReconcileEvent} (rest : List Lookup)
      (unresolved : rest.Sublist run.lookups) :
      ReconcileProgress platform options db (some run) event db (nextLookup rest)
  | resolved {lookup : Lookup} {outcome : ReconciliationOutcome} {rest : List Lookup} {now : ℤ}
      {row : InvocationRecord} {db' : Db}
      (found : Found db lookup.invocationId .RECONCILIATION_REQUIRED row)
      (reconciled : Reconciled db db' lookup.invocationId row (reconciledRow row outcome now) now outcome) :
      ReconcileProgress platform options db (some (.resolving lookup outcome rest)) (.store (some now)) db'
        (afterResolve outcome (reconciledRow row outcome now) rest)
  | attached {row found : InvocationRecord} {rest : List Lookup}
      {receipt stored : SignedAuthorizationReceipt} {now : ℤ} {db' : Db}
      (signed : signReceipt platform options row = some receipt)
      (find : db.invocations.find? row.invocationId = some found)
      (stores : (attachedRow receipt now found).receipt = some stored)
      (wrote : Table.Wrote db.invocations db'.invocations (some found) (attachedRow receipt now found))
      (grants : db'.grants = db.grants) (transitions : db'.transitions = db.transitions) :
      ReconcileProgress platform options db (some (.receipting row rest)) (.store (some now)) db'
        (nextLookup rest)

theorem unresolvedLookups_afterResolve (outcome : ReconciliationOutcome) (row : InvocationRecord)
    (rest : List Lookup) : unresolvedLookups (afterResolve outcome row rest) = rest := by
  unfold afterResolve
  split
  · rfl
  · exact unresolvedLookups_nextLookup rest

theorem skipped_error {run : ReconcileRun} {reconcileEvent : ReconcileEvent} {rest : List Lookup}
    (hrest : rest.Sublist run.lookups) (error : StoreError) :
    ReconcileProgress platform options db (some run) reconcileEvent db (afterReconcileError rest error) := by
  unfold afterReconcileError
  split
  · exact .skipped rest hrest
  · exact .skipped [] (List.nil_sublist _)

theorem reconcileStep_progress {run run' : Option ReconcileRun} {reconcileEvent : ReconcileEvent}
    (h : reconcileStep platform options db run reconcileEvent = some (db', run')) :
    ReconcileProgress platform options db run reconcileEvent db' run' := by
  cases run with
  | none =>
    cases reconcileEvent with
    | list =>
      cases h
      exact .listed
    | _ => cases h
  | some run =>
    cases run with
    | looking lookup rest =>
      have hskip : ∀ event, ReconcileProgress platform options db (some (.looking lookup rest)) event db
          (nextLookup rest) := fun event ↦ .skipped rest (List.sublist_cons_self _ _)
      cases reconcileEvent with
      | answer answer =>
        simp only [reconcileStep] at h
        split at h
        · rename_i outcome houtcome
          cases h
          exact .decided houtcome
        · cases h
          exact hskip _
      | thrown =>
        cases h
        exact hskip _
      | _ => cases h
    | resolving lookup outcome rest =>
      cases reconcileEvent with
      | store access =>
        simp only [reconcileStep] at h
        cases haccess : db.access access (resolveReconciliation lookup.invocationId outcome) with
        | mk result after =>
          rw [haccess] at h
          rcases access_cases haccess with ⟨now, new, rfl, rfl, hok⟩ | ⟨error, rfl, rfl⟩
          · cases h
            obtain ⟨row, hfound, rfl, hreconciled⟩ := resolveReconciliation_ok hok
            exact .resolved hfound hreconciled
          · cases h
            exact skipped_error (List.sublist_cons_self _ _) error
      | _ => cases h
    | receipting row rest =>
      cases reconcileEvent with
      | store access =>
        simp only [reconcileStep, Option.map_eq_some_iff] at h
        obtain ⟨receipt, hsigned, h⟩ := h
        cases haccess : db.access access (attachReceipt row.invocationId receipt) with
        | mk result after =>
          rw [haccess] at h
          rcases access_cases haccess with ⟨now, stored, rfl, rfl, hok⟩ | ⟨error, rfl, rfl⟩
          · cases h
            obtain ⟨found, hfind, hstores, hwrote, hgrants, htransitions⟩ := attachReceipt_ok hok
            exact .attached hsigned hfind hstores hwrote hgrants htransitions
          · cases h
            exact skipped_error (List.Sublist.refl _) error
      | thrown =>
        cases h
        exact .skipped [] (List.nil_sublist _)
      | _ => cases h

/-! ## Actions -/

/-- The actions of the system, by what they make of it. -/
inductive Stepped (platform : Platform) (options : ℕ → AuthorityServiceOptions) (sys : System) :
    Action → System → Prop
  | started {process : ℕ} (unstarted : sys.processes process = .unstarted) :
      Stepped platform options sys (.start process)
        { sys with processes := Function.update sys.processes process .starting }
  | recovered {process : ℕ} {now : ℤ} {result : RecoveryResult} {db' : Db}
      (starting : sys.processes process = .starting)
      (recover : recoverInterruptedInvocations "authority restarted while payment was in progress" now
        sys.db = .ok (result, db')) :
      Stepped platform options sys (.recover process (some now))
        { sys with db := db', processes := Function.update sys.processes process .serving }
  /-- A startup recovery that threw. -/
  | unrecovered {process : ℕ} {access : Option ℤ} : Stepped platform options sys (.recover process access) sys
  | crashed (process : ℕ) :
      Stepped platform options sys (.crash process) { sys with
        processes := Function.update sys.processes process .dead
        calls := fun id ↦ if id.process = process then none else sys.calls id
        pending := Function.update sys.pending process fun _ ↦ none
        runs := Function.update sys.runs process none }
  | admitted {id : CallId} {input : AuthorizeRequestInput} {now : ℤ} {access : Option ℤ}
      {auth : AuthenticatedRequest} (serving : sys.processes id.process = .serving)
      (unused : sys.calls id = none)
      (authenticated : authenticate platform (options id.process) input now = .ok auth) :
      Stepped platform options sys (.arrive id input now access) (sys.accept id auth access)
  | unauthenticated {id : CallId} {input : AuthorizeRequestInput} {now : ℤ} {access : Option ℤ} :
      Stepped platform options sys (.arrive id input now access) sys
  | called {id : CallId} {event : CallEvent} {auth : AuthenticatedRequest} {stage stage' : Stage} {db' : Db}
      (call : sys.calls id = some ⟨auth, stage⟩)
      (progress : Progress platform (options id.process) sys.db auth stage event db' stage') :
      Stepped platform options sys (.call id event) ({ sys with db := db' }.setCall id ⟨auth, stage'⟩)
  | transmitted {id : CallId} {auth : AuthenticatedRequest} {payment : Payment}
      {serviceAuthorization : SignedServiceAuthorizationV1} {attempt : PaymentAttempt}
      (call : sys.calls id = some ⟨auth, .recorded payment serviceAuthorization attempt⟩) :
      Stepped platform options sys (.transmit id)
        { sys.setCall id ⟨auth, .transmitted payment serviceAuthorization attempt⟩ with
          credentials := sys.credentials ++ [⟨id, auth, payment, serviceAuthorization, attempt⟩] }
  | delivered {id : CallId} {auth leaderAuth : AuthenticatedRequest} {leader : ℕ} {outcome : Outcome}
      (call : sys.calls id = some ⟨auth, .waiting leader⟩)
      (leaderDone : sys.calls ⟨id.process, leader⟩ = some ⟨leaderAuth, .done outcome⟩) :
      Stepped platform options sys (.deliver id) (sys.setCall id ⟨auth, .done (replayed outcome)⟩)
  | finished {id : CallId} {auth : AuthenticatedRequest} {outcome : Outcome} {entry : Pending}
      (call : sys.calls id = some ⟨auth, .done outcome⟩)
      (pending : sys.pending id.process auth.request.invocationId = some entry)
      (leader : entry.leader = id.number) :
      Stepped platform options sys (.finish id)
        (sys.setPending id.process auth.request.invocationId none)
  | reconciled {process : ℕ} {event : ReconcileEvent} {run : Option ReconcileRun} {db' : Db}
      (serving : sys.processes process = .serving)
      (progress : ReconcileProgress platform (options process) sys.db (sys.runs process) event db' run) :
      Stepped platform options sys (.reconcile process event)
        { sys with db := db', runs := Function.update sys.runs process run }
  | settled (attempt : PaymentAttempt) :
      Stepped platform options sys (.settle attempt) { sys with settled := sys.settled ++ [attempt] }
  | perished (attempt : PaymentAttempt) :
      Stepped platform options sys (.perish attempt) { sys with perished := sys.perished ++ [attempt] }

variable {sys sys' : System} {processes : ℕ → AuthorityServiceOptions} {action : Action}

/-- Every action of the system is one of the listed ones. -/
theorem System.step_cases (h : sys.step platform processes action = some sys') :
    Stepped platform processes sys action sys' := by
  cases action with
  | start process =>
    simp only [System.step] at h
    split at h
    · rename_i hunstarted
      cases h
      exact .started hunstarted
    · cases h
  | recover process access =>
    simp only [System.step] at h
    split at h
    · rename_i hstarting
      cases haccess : sys.db.access access
        (recoverInterruptedInvocations "authority restarted while payment was in progress") with
      | mk result after =>
        rw [haccess] at h
        rcases access_cases haccess with ⟨now, recovered, rfl, rfl, hok⟩ | ⟨error, rfl, rfl⟩
        · cases h
          exact .recovered hstarting hok
        · cases h
          exact .unrecovered
    · cases h
  | crash process =>
    cases h
    exact .crashed process
  | arrive id input now access =>
    simp only [System.step] at h
    split at h
    · rename_i hready
      split at h
      · rename_i auth hauth
        cases h
        exact .admitted hready.1 (Option.isNone_iff_eq_none.1 hready.2) hauth
      · cases h
        exact .unauthenticated
    · cases h
  | call id event =>
    simp only [System.step] at h
    split at h
    · rename_i auth stage hcall
      obtain ⟨⟨db', stage'⟩, hstep, rfl⟩ := Option.map_eq_some_iff.1 h
      exact .called hcall (callStep_progress hstep)
    · cases h
  | transmit id =>
    simp only [System.step] at h
    split at h
    · rename_i auth payment serviceAuthorization attempt hcall
      cases h
      exact .transmitted hcall
    · cases h
  | deliver id =>
    simp only [System.step] at h
    split at h
    · rename_i auth leader hcall
      split at h
      · rename_i leaderAuth outcome hdone
        cases h
        exact .delivered hcall hdone
      · cases h
    · cases h
  | finish id =>
    simp only [System.step] at h
    split at h
    · rename_i auth outcome hcall
      split at h
      · rename_i hleader
        cases h
        obtain ⟨entry, hpending, hnumber⟩ := (Option.any_eq_true _ _).1 hleader
        exact .finished hcall hpending (of_decide_eq_true hnumber)
      · cases h
    · cases h
  | reconcile process event =>
    simp only [System.step] at h
    split at h
    · rename_i hserving
      obtain ⟨⟨db', run⟩, hstep, rfl⟩ := Option.map_eq_some_iff.1 h
      exact .reconciled hserving (reconcileStep_progress hstep)
    · cases h
  | settle attempt =>
    cases h
    exact .settled attempt
  | perish attempt =>
    cases h
    exact .perished attempt

/-- How an action changes the database. -/
inductive DbStep (platform : Platform) (options : ℕ → AuthorityServiceOptions) (sys : System) :
    Action → Db → Prop
  | kept (action : Action) : DbStep platform options sys action sys.db
  | called {id : CallId} {event : CallEvent} {auth : AuthenticatedRequest} {stage stage' : Stage} {db' : Db}
      (call : sys.calls id = some ⟨auth, stage⟩)
      (progress : Progress platform (options id.process) sys.db auth stage event db' stage') :
      DbStep platform options sys (.call id event) db'
  | recovered {process : ℕ} {now : ℤ} {result : RecoveryResult} {reason : String} {db' : Db}
      (starting : sys.processes process = .starting)
      (recover : recoverInterruptedInvocations reason now sys.db = .ok (result, db')) :
      DbStep platform options sys (.recover process (some now)) db'
  | reconciled {process : ℕ} {event : ReconcileEvent} {run : Option ReconcileRun} {db' : Db}
      (serving : sys.processes process = .serving)
      (progress : ReconcileProgress platform (options process) sys.db (sys.runs process) event db' run) :
      DbStep platform options sys (.reconcile process event) db'

/-- Where a call after an action comes from. -/
inductive CallOrigin (platform : Platform) (options : ℕ → AuthorityServiceOptions) (sys : System) (id : CallId) :
    Action → Db → Call → Prop
  | kept {action : Action} {db' : Db} {call : Call} (found : sys.calls id = some call) :
      CallOrigin platform options sys id action db' call
  | admitted {input : AuthorizeRequestInput} {now : ℤ} {access : Option ℤ} {auth : AuthenticatedRequest}
      (serving : sys.processes id.process = .serving)
      (authenticated : authenticate platform (options id.process) input now = .ok auth) :
      CallOrigin platform options sys id (.arrive id input now access) sys.db
        ⟨auth, admitted sys.db access (sys.pending id.process auth.request.invocationId) auth⟩
  | progressed {event : CallEvent} {auth : AuthenticatedRequest} {stage stage' : Stage} {db' : Db}
      (found : sys.calls id = some ⟨auth, stage⟩)
      (progress : Progress platform (options id.process) sys.db auth stage event db' stage') :
      CallOrigin platform options sys id (.call id event) db' ⟨auth, stage'⟩
  | transmitted {auth : AuthenticatedRequest} {payment : Payment}
      {serviceAuthorization : SignedServiceAuthorizationV1} {attempt : PaymentAttempt}
      (found : sys.calls id = some ⟨auth, .recorded payment serviceAuthorization attempt⟩) :
      CallOrigin platform options sys id (.transmit id) sys.db
        ⟨auth, .transmitted payment serviceAuthorization attempt⟩
  | delivered {auth leaderAuth : AuthenticatedRequest} {leader : ℕ} {outcome : Outcome}
      (found : sys.calls id = some ⟨auth, .waiting leader⟩)
      (leaderDone : sys.calls ⟨id.process, leader⟩ = some ⟨leaderAuth, .done outcome⟩) :
      CallOrigin platform options sys id (.deliver id) sys.db ⟨auth, .done (replayed outcome)⟩

theorem System.calls_setCall {id other : CallId} {call found : Call}
    (h : (sys.setCall id call).calls other = some found) :
    (other = id ∧ found = call) ∨ sys.calls other = some found := by
  by_cases hother : other = id
  · subst hother
    simp only [System.setCall, Function.update_self, Option.some.injEq] at h
    exact .inl ⟨rfl, h.symm⟩
  · simp only [System.setCall, Function.update_of_ne hother] at h
    exact .inr h

/-- What the admission of a call leaves alone. -/
structure System.AdmitKept (sys after : System) : Prop where
  db : after.db = sys.db
  processes : after.processes = sys.processes
  runs : after.runs = sys.runs
  credentials : after.credentials = sys.credentials
  settled : after.settled = sys.settled
  perished : after.perished = sys.perished

theorem System.admit_calls {id : CallId} {access : Option ℤ} :
    (sys.accept id auth access).calls = (sys.setCall id
      ⟨auth, admitted sys.db access (sys.pending id.process auth.request.invocationId) auth⟩).calls := by
  unfold System.accept
  dsimp only
  split <;> rfl

theorem System.accept_kept {id : CallId} {access : Option ℤ} : sys.AdmitKept (sys.accept id auth access) := by
  unfold System.accept
  dsimp only
  split <;> exact ⟨rfl, rfl, rfl, rfl, rfl, rfl⟩

theorem System.step_db (h : sys.step platform processes action = some sys') :
    DbStep platform processes sys action sys'.db := by
  cases System.step_cases h with
  | recovered starting recover => exact .recovered starting recover
  | called call progress => exact .called call progress
  | reconciled serving progress => exact .reconciled serving progress
  | admitted serving unused authenticated =>
    rw [System.accept_kept.db]
    exact .kept _
  | _ => exact .kept _

theorem System.step_call {id : CallId} {call : Call} (h : sys.step platform processes action = some sys')
    (hcall : sys'.calls id = some call) : CallOrigin platform processes sys id action sys'.db call := by
  cases System.step_cases h with
  | crashed process =>
    dsimp only at hcall
    split at hcall
    · cases hcall
    · exact .kept hcall
  | admitted serving unused authenticated =>
    rw [System.admit_calls] at hcall
    rw [System.accept_kept.db]
    rcases System.calls_setCall hcall with ⟨rfl, rfl⟩ | hkept
    · exact .admitted serving authenticated
    · exact .kept hkept
  | called found progress =>
    rcases System.calls_setCall hcall with ⟨rfl, rfl⟩ | hkept
    · exact .progressed found progress
    · exact .kept hkept
  | transmitted found =>
    rcases System.calls_setCall hcall with ⟨rfl, rfl⟩ | hkept
    · exact .transmitted found
    · exact .kept hkept
  | delivered found leaderDone =>
    rcases System.calls_setCall hcall with ⟨rfl, rfl⟩ | hkept
    · exact .delivered found leaderDone
    · exact .kept hkept
  | _ => exact .kept hcall

/-- Only a transmission adds a credential. -/
theorem System.step_credentials (h : sys.step platform processes action = some sys') :
    sys'.credentials = sys.credentials ∨ ∃ id auth payment serviceAuthorization attempt,
      action = .transmit id ∧ sys.calls id = some ⟨auth, .recorded payment serviceAuthorization attempt⟩ ∧
      sys'.credentials = sys.credentials ++ [⟨id, auth, payment, serviceAuthorization, attempt⟩] := by
  cases System.step_cases h with
  | transmitted call => exact .inr ⟨_, _, _, _, _, rfl, call, rfl⟩
  | admitted serving unused authenticated => exact .inl System.accept_kept.credentials
  | _ => exact .inl rfl

end VirtualHaibin.Authority
