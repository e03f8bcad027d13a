import VirtualHaibin.Authority.Alone

/-!
# Refusals

An authorize call that ends in an error, with nothing else stepping from its arrival to its end.
The totals of every grant are sums over the rows, so a reservation that the call made and gave back
leaves them as they were.
-/

namespace VirtualHaibin.Authority

open Foundation Mandate Payments Evidence

section

variable {platform : Platform} {options : ℕ → AuthorityServiceOptions} {digests : Digests} {sys sys' : System}
  {action : Action} {db db' : Db} {auth : AuthenticatedRequest} {keyOf : String → String → GrantKey}

/-- The store is balanced, and every live call carries an authenticated request whose digests stand
for its content. -/
structure Accounted (platform : Platform) (options : ℕ → AuthorityServiceOptions) (digests : Digests)
    (sys : System) : Prop where
  balanced : Balanced (fun _ fingerprint ↦ digests.grantOf fingerprint) sys.db
  calls : ∀ id call, sys.calls id = some call →
    (∃ now, Authenticated platform (options id.process) now call.auth) ∧ digests.Agree call.auth

theorem accounted_initial : Accounted platform options digests .initial where
  balanced := .empty
  calls _ _ h := nomatch h

theorem Accounted.inputSound (h : Accounted platform options digests sys) {id : CallId} {call : Call}
    (hcall : sys.calls id = some call) (decidedAt : ℤ) (terms : ChallengeTerms) :
    InputSound (fun _ fingerprint ↦ digests.grantOf fingerprint) (reserveInput call.auth decidedAt terms) := by
  obtain ⟨⟨now, hauth⟩, hagree⟩ := h.calls id call hcall
  exact hagree.inputSound hauth.permit_verified decidedAt terms

theorem Accounted.step (h : Accounted platform options digests sys)
    (hfree : CollisionFree platform options digests action)
    (hstep : sys.step platform options action = some sys') : Accounted platform options digests sys' where
  balanced := System.step_balanced hstep h.balanced fun _ _ hcall ↦ h.inputSound hcall
  calls id call hcall := by
    have horigin := System.step_call hstep hcall
    generalize sys'.db = after at horigin
    cases horigin with
    | kept found => exact h.calls id call found
    | admitted serving authenticated => exact ⟨⟨_, authenticate_ok authenticated⟩, hfree _ authenticated⟩
    | progressed found progress =>
      have hcall := h.calls id _ found
      exact hcall
    | transmitted found =>
      have hcall := h.calls id _ found
      exact hcall
    | delivered found leaderDone =>
      have hcall := h.calls id _ found
      exact hcall

theorem Accounted.of_run {labels : List Action}
    (hrun : Run (System.step platform options) (fun _ action ↦ CollisionFree platform options digests action)
      .initial labels sys) : Accounted platform options digests sys :=
  hrun.invariant accounted_initial fun _ _ _ haccounted hfree hstep ↦ haccounted.step hfree hstep

/-- The reserved total of a grant; a grant that was never used has none. -/
def Db.reservedTotal (db : Db) (key : GrantKey) : String :=
  ((db.grants.find? key).map GrantRecord.reservedAtomic).getD "0"

def Db.consumedTotal (db : Db) (key : GrantKey) : String :=
  ((db.grants.find? key).map GrantRecord.consumedAtomic).getD "0"

theorem Balanced.reservedTotal_eq (h : Balanced keyOf db) (key : GrantKey) :
    db.reservedTotal key = (db.invocations.sum (held key)).repr := by
  cases hfind : db.grants.find? key with
  | none =>
    rw [Db.reservedTotal, hfind, (h.sum_eq_zero hfind).1]
    rfl
  | some grant =>
    rw [Db.reservedTotal, hfind, Option.map_some, Option.getD_some, (h.grant key grant hfind).reserved_eq]

theorem Balanced.consumedTotal_eq (h : Balanced keyOf db) (key : GrantKey) :
    db.consumedTotal key = (db.invocations.sum (spent key)).repr := by
  cases hfind : db.grants.find? key with
  | none =>
    rw [Db.consumedTotal, hfind, (h.sum_eq_zero hfind).2]
    rfl
  | some grant =>
    rw [Db.consumedTotal, hfind, Option.map_some, Option.getD_some, (h.grant key grant hfind).consumed_eq]

/-- Every grant has the totals it had. -/
def SameTotals (db db' : Db) : Prop :=
  ∀ key, db'.reservedTotal key = db.reservedTotal key ∧ db'.consumedTotal key = db.consumedTotal key

/-- One grant has an amount more reserved; nothing else of any total changed. -/
def RaisedTotal (db db' : Db) (raised : GrantKey) (amountAtomic : String) : Prop :=
  db'.reservedTotal raised =
      (Decimal.amount (db.reservedTotal raised) + Decimal.amount amountAtomic).repr ∧
    (∀ key, key ≠ raised → db'.reservedTotal key = db.reservedTotal key) ∧
    ∀ key, db'.consumedTotal key = db.consumedTotal key

/-! ## A held reservation -/

def AuthenticatedRequest.grantKey (auth : AuthenticatedRequest) : GrantKey :=
  (auth.permit.issuer, auth.permit.grantId)

/-- The call holds a reservation of its amount that the database did not have before it. -/
structure Holding (keyOf : String → String → GrantKey) (before db : Db) (auth : AuthenticatedRequest)
    (row : InvocationRecord) : Prop where
  balanced : Balanced keyOf db
  found : Found db auth.request.invocationId .RESERVED row
  grantKey_eq : row.grantKey = auth.grantKey
  amount_eq : row.amountAtomic = auth.request.amountAtomic
  held_eq : ∀ key, db.invocations.sum (held key) = before.invocations.sum (held key) + held key row
  spent_eq : ∀ key, db.invocations.sum (spent key) = before.invocations.sum (spent key)
  retried : ∀ old, before.invocations.find? auth.request.invocationId = some old → old.state = .FAILED

variable {before : Db} {row new : InvocationRecord}

theorem holding_of_reserved {decidedAt : ℤ} {terms : ChallengeTerms} {evaluate : BudgetEvaluator} {now : ℤ}
    (hbalanced : Balanced keyOf before) (hinput : InputSound keyOf (reserveInput auth decidedAt terms))
    (heffect : ReserveEffect before db (reserveInput auth decidedAt terms) evaluate now (.reserved row)) :
    Holding keyOf before db auth row := by
  have hbalanced' := hbalanced.reserve hinput heffect
  obtain ⟨existing, hexisting, hretry, hreserved⟩ := heffect
  obtain ⟨pinned, middle, grant, reserved, consumed, amount, maxTotal, hpinned, -, -, -, -, -, -, hposted,
    rfl, hwritten⟩ := hreserved.effect
  have hfacts := hbalanced.written hinput hexisting hretry .RESERVED [] now
  have hwrote := hwritten.wrote
  rw [hposted.invocations, hpinned.invocations] at hwrote
  refine ⟨hbalanced', ⟨?_, hfacts.state_eq⟩, hfacts.grantKey, hfacts.amount_eq, fun key ↦ ?_, fun key ↦ ?_,
    fun old hold ↦ ?_⟩
  · have hself := hwrote.find_self
    rw [hfacts.invocationId] at hself
    exact hself
  · have hsum := hwrote.sum (held key)
    rw [(hfacts.old_weight key).1] at hsum
    exact hsum
  · have hsum := hwrote.sum (spent key)
    rw [(hfacts.old_weight key).2, spent_eq_zero (by simp [InvocationRecord.isSettled, hfacts.state_eq])] at hsum
    exact hsum
  · exact (hfacts.old_failed old (hexisting.symm.trans hold)).1

/-- A write over the reservation that keeps what it counts for moves no sum. -/
theorem Holding.sum_eq (h : Holding keyOf before db auth row)
    (hwrote : Table.Wrote db.invocations db'.invocations (some row) new) (hkey : new.grantKey = row.grantKey)
    (hamount : new.amountAtomic = row.amountAtomic) (hopen : new.isOpen = row.isOpen)
    (hsettled : new.isSettled = row.isSettled) (key : GrantKey) :
    db'.invocations.sum (held key) = before.invocations.sum (held key) + held key row ∧
      db'.invocations.sum (spent key) = before.invocations.sum (spent key) := by
  have hheld := hwrote.sum (held key)
  have hspent := hwrote.sum (spent key)
  have hheldNew : held key new = held key row := by
    simp only [held, hkey, hopen, hamount]
  have hspentNew : spent key new = spent key row := by
    simp only [spent, hkey, hsettled, hamount]
  rw [hheldNew, Option.elim_some, h.held_eq] at hheld
  rw [hspentNew, Option.elim_some, h.spent_eq] at hspent
  omega

theorem Holding.attempted (h : Holding keyOf before db auth row) {attempt : PaymentAttempt}
    {serviceAuthorization : SignedServiceAuthorizationV1} {now : ℤ} {entry : TransitionRecord}
    (hwritten : RowWritten db db' (some row) (attemptedRow attempt serviceAuthorization now row) entry) :
    Holding keyOf before db' auth (attemptedRow attempt serviceAuthorization now row) := by
  have hid : row.invocationId = auth.request.invocationId := Table.key_of_find? h.found.find
  have hsum := h.sum_eq hwritten.wrote rfl rfl rfl rfl
  refine ⟨?_, ⟨?_, h.found.state_eq⟩, h.grantKey_eq, h.amount_eq, fun key ↦ (hsum key).1, fun key ↦ (hsum key).2,
    h.retried⟩
  · exact h.balanced.rewriteRow hwritten.wrote hwritten.grants (hid ▸ h.found.find) rfl rfl rfl rfl rfl rfl
  · exact hid ▸ hwritten.wrote.find_self

/-- A reservation that was given back leaves every total as it was. -/
theorem Holding.released (h : Holding keyOf before db auth row) (hbalanced : Balanced keyOf before)
    {reason : String} {now : ℤ} {entry : TransitionRecord}
    (hreleased : Released db db' row (failedRow reason now row) entry now) :
    SameTotals before db' ∧ db'.invocations.find? auth.request.invocationId = some (failedRow reason now row) := by
  have hid : row.invocationId = auth.request.invocationId := Table.key_of_find? h.found.find
  have hbalanced' : Balanced keyOf db' := h.balanced.released hreleased
    (by simp [InvocationRecord.isOpen, h.found.state_eq]) (hid ▸ h.found.find) rfl rfl rfl rfl
  refine ⟨fun key ↦ ⟨?_, ?_⟩, hid ▸ hreleased.wrote.find_self⟩
  · have hsum := hreleased.wrote.sum (held key)
    have hnew : held key (failedRow reason now row) = 0 := held_eq_zero rfl
    rw [h.held_eq, Option.elim_some, hnew] at hsum
    rw [hbalanced'.reservedTotal_eq, hbalanced.reservedTotal_eq]
    congr 1
    omega
  · have hsum := hreleased.wrote.sum (spent key)
    have hold : spent key row = 0 := spent_eq_zero (by simp [InvocationRecord.isSettled, h.found.state_eq])
    have hnew : spent key (failedRow reason now row) = 0 := spent_eq_zero rfl
    rw [h.spent_eq, Option.elim_some, hold, hnew] at hsum
    rw [hbalanced'.consumedTotal_eq, hbalanced.consumedTotal_eq]
    congr 1

/-- A reservation whose payment is unresolved stays, and with it its amount. -/
theorem Holding.marked (h : Holding keyOf before db auth row) (hbalanced : Balanced keyOf before)
    {reason : String} {now : ℤ} {entry : TransitionRecord}
    (hwritten : RowWritten db db' (some row) (unresolvedRow reason now row) entry) :
    RaisedTotal before db' auth.grantKey auth.request.amountAtomic := by
  have hid : row.invocationId = auth.request.invocationId := Table.key_of_find? h.found.find
  have hopen : (unresolvedRow reason now row).isOpen = row.isOpen := by
    simp [InvocationRecord.isOpen, unresolvedRow, h.found.state_eq]
  have hsettled : (unresolvedRow reason now row).isSettled = row.isSettled := by
    simp [InvocationRecord.isSettled, unresolvedRow, h.found.state_eq]
  have hsum := h.sum_eq hwritten.wrote rfl rfl hopen hsettled
  have hbalanced' : Balanced keyOf db' := h.balanced.rewriteRow hwritten.wrote hwritten.grants
    (hid ▸ h.found.find) rfl rfl rfl rfl hopen hsettled
  refine ⟨?_, fun key hne ↦ ?_, fun key ↦ ?_⟩
  · have hheld : held auth.grantKey row = Decimal.amount auth.request.amountAtomic := by
      simp [held, h.grantKey_eq, h.amount_eq, InvocationRecord.isOpen, h.found.state_eq]
    rw [hbalanced'.reservedTotal_eq, hbalanced.reservedTotal_eq, (hsum _).1, hheld, Decimal.amount_repr]
  · rw [hbalanced'.reservedTotal_eq, hbalanced.reservedTotal_eq, (hsum _).1,
      held_of_ne (h.grantKey_eq ▸ Ne.symm hne), add_zero]
  · rw [hbalanced'.consumedTotal_eq, hbalanced.consumedTotal_eq, (hsum _).2]

/-! ## The stages of a call on its own -/

/-- What an error leaves behind, by its reason. -/
def RefusalLeaves (before db : Db) (auth : AuthenticatedRequest) : Failure → Prop
  | .refused error =>
    match error.reasonCode with
    | .PAYMENT_NOT_SUBMITTED | .OUTBOUND_REQUEST_MISMATCH => SameTotals before db ∧
        ∃ row, db.invocations.find? auth.request.invocationId = some row ∧ row.state = .FAILED
    | .RECONCILIATION_REQUIRED =>
      (db = before ∧ ∃ row, before.invocations.find? auth.request.invocationId = some row ∧
        row.state = .RECONCILIATION_REQUIRED) ∨
      (RaisedTotal before db auth.grantKey auth.request.amountAtomic ∧
        ∀ row, before.invocations.find? auth.request.invocationId = some row → row.state = .FAILED)
    | _ => db = before
  | .store _ => False
  | .thrown _ => SameTotals before db

/-- The errors after a reservation and before a transmission. -/
def givesBack (auth : AuthenticatedRequest) (failure : Failure) : Prop :=
  failure = .refused (paymentNotSubmittedFailure auth.request.invocationId) ∨
    failure = .refused (outboundRequestMismatchError auth.request.invocationId) ∨
    ∃ message, failure = .thrown message

/-- What a stage of the call has done to the database it found. -/
def Standing (keyOf : String → String → GrantKey) (before db : Db) (auth : AuthenticatedRequest) : Stage → Prop
  | .waiting _ => False
  | .known row => db = before ∧ before.invocations.find? auth.request.invocationId = row
  | .fetching _ _ _ | .reserving _ _ => db = before
  | .releasing _ failure _ => (∃ row, Holding keyOf before db auth row) ∧ givesBack auth failure
  | .budgeting _ | .authorizing _ | .building _ _ | .rejected _ | .recorded _ _ _ | .transmitted _ _ _
  | .marking _ | .confirming _ _ | .unrecorded _ => ∃ row, Holding keyOf before db auth row
  | .signing _ _ | .done (.returned _) => True
  | .done (.failed failure) => RefusalLeaves before db auth failure

/-- The stages from which no error but an unresolved payment is returned. -/
def AfterTransmission (auth : AuthenticatedRequest) : Stage → Prop
  | .transmitted _ _ _ | .marking _ | .confirming _ _ | .unrecorded _ | .signing _ _ | .done (.returned _) => True
  | .done (.failed failure) => failure = .refused (reconciliationRequiredError auth.request.invocationId)
  | _ => False

/-- The store call behind an event commits, and receipts are signed. -/
def Succeeds (db : Db) (auth : AuthenticatedRequest) : Stage → CallEvent → Prop
  | .reserving decidedAt terms, .store access => (db.access access
      (reserve (reserveInput auth decidedAt terms) (evaluate auth decidedAt terms))).1.isOk = true
  | .releasing reason _ _, .store access =>
    (db.access access (fail auth.request.invocationId reason)).1.isOk = true
  | .budgeting _, .store access =>
    (db.access access fun _ ↦ getGrantBudget auth.grantKey).1.isOk = true
  | .building _ serviceAuthorization, .submit attempt access => (db.access access
      (recordPaymentAttempt auth.request.invocationId attempt (some serviceAuthorization))).1.isOk = true
  | .marking reason, .store access | .unrecorded reason, .store access =>
    (db.access access (markReconciliationRequired auth.request.invocationId reason)).1.isOk = true
  | .confirming settlement result, .store access => (db.access access
      (confirm auth.request.invocationId ⟨settlement.transactionId, some settlement, some result⟩)).1.isOk = true
  | .signing row _, .store access => ∀ receipt,
      (db.access access (attachReceipt row.invocationId receipt)).1.isOk = true
  | .signing _ _, .thrown _ => False
  | _, _ => True

/-- A store call that commits. -/
theorem access_ok {α : Type} {access : Option ℤ} {transaction : ℤ → Transaction α}
    (h : (db.access access transaction).1.isOk = true) :
    ∃ now a db', db.access access transaction = (.ok a, db') ∧ access = some now ∧
      transaction now db = .ok (a, db') := by
  cases hresult : db.access access transaction with
  | mk result db' =>
    rcases access_cases hresult with ⟨now, a, rfl, rfl, hok⟩ | ⟨error, rfl, -⟩
    · exact ⟨now, a, db', rfl, rfl, hok⟩
    · rw [hresult] at h
      cases h

theorem ensureReceipt_standing (processOptions : AuthorityServiceOptions) (row : InvocationRecord)
    (replay : Bool) : Standing keyOf before before auth (ensureReceipt processOptions row replay) := by
  unfold ensureReceipt
  split
  · trivial
  · split
    · trivial
    · exact fun _ ↦ ⟨rfl, rfl⟩

theorem resolveExisting_standing (processOptions : AuthorityServiceOptions) {row : InvocationRecord}
    (hfind : before.invocations.find? auth.request.invocationId = some row) (fingerprint : String) :
    Standing keyOf before before auth (resolveExisting processOptions row fingerprint) := by
  unfold resolveExisting
  split
  · rfl
  · split
    · exact ensureReceipt_standing processOptions row true
    · exact ensureReceipt_standing processOptions row true
    · rename_i hstate
      exact .inl ⟨rfl, row, hfind, hstate⟩
    · rfl
    · exact fun _ ↦ ⟨rfl, rfl⟩

theorem decide_standing (processOptions : AuthorityServiceOptions) (decidedAt : ℤ) :
    Standing keyOf before before auth (decide platform processOptions auth decidedAt) := by
  unfold decide
  split
  · dsimp only
    split
    · rfl
    · split <;> rfl
  · rfl

variable {processOptions : AuthorityServiceOptions} {stage stage' : Stage} {event : CallEvent}

theorem known_standing {found : Option InvocationRecord}
    (h : Standing keyOf before db auth (.known found))
    (hstep : callStep platform processOptions db auth (.known found) event = some (db', stage')) :
    Standing keyOf before db' auth stage' := by
  obtain ⟨rfl, rfl⟩ := h
  cases event with
  | resume now =>
    simp only [callStep] at hstep
    split at hstep
    · rename_i row hfilter
      cases hstep
      exact resolveExisting_standing processOptions (Checked.filter_eq_some.1 hfilter).1 auth.fingerprint
    · cases hstep
      exact decide_standing processOptions now
  | _ => cases hstep

theorem fetching_standing {decidedAt : ℤ} {profile : SettlementProfile} {paidRequest : PaidRequest}
    (h : Standing keyOf before db auth (.fetching decidedAt profile paidRequest))
    (hstep : callStep platform processOptions db auth (.fetching decidedAt profile paidRequest) event =
      some (db', stage')) : Standing keyOf before db' auth stage' := by
  obtain rfl : db = before := h
  cases event with
  | challenge result =>
    cases hstep
    rfl
  | unavailable message =>
    cases hstep
    rfl
  | thrown message =>
    cases hstep
    exact fun _ ↦ ⟨rfl, rfl⟩
  | _ => cases hstep

/-- A committed reservation is paid for, or given back. -/
theorem afterReserve_standing {terms : ChallengeTerms} (h : Holding keyOf before db auth row) :
    Standing keyOf before db auth (afterReserve platform processOptions auth terms (.ok (.reserved row))) := by
  have hid : row.invocationId = auth.request.invocationId := Table.key_of_find? h.found.find
  unfold afterReserve
  dsimp only
  split
  · unfold startPayment
    split
    · exact ⟨row, h⟩
    · refine ⟨⟨row, h⟩, .inr (.inl ?_)⟩
      dsimp only
      rw [hid]
  · exact ⟨⟨row, h⟩, .inr (.inr ⟨_, rfl⟩)⟩

theorem reserving_standing {decidedAt : ℤ} {terms : ChallengeTerms}
    (h : Standing keyOf before db auth (.reserving decidedAt terms)) (hbalanced : Balanced keyOf before)
    (hinput : InputSound keyOf (reserveInput auth decidedAt terms))
    (hsucceeds : Succeeds db auth (.reserving decidedAt terms) event)
    (hstep : callStep platform processOptions db auth (.reserving decidedAt terms) event = some (db', stage')) :
    Standing keyOf before db' auth stage' := by
  obtain rfl : db = before := h
  cases event with
  | store access =>
    obtain ⟨now, result, after, haccess, -, hok⟩ := access_ok hsucceeds
    simp only [callStep, haccess] at hstep
    cases hstep
    have heffect := reserve_ok hok
    cases result with
    | existing row =>
      obtain ⟨rfl, hfind, -⟩ := heffect
      exact resolveExisting_standing processOptions hfind auth.fingerprint
    | grant_conflict grant =>
      obtain ⟨rfl, -⟩ := heffect
      rfl
    | denied row =>
      obtain ⟨existing, -, -, hdenied⟩ := heffect
      obtain ⟨pinned, grant, reserved, consumed, reasonCodes, -, -, -, rfl, -⟩ := hdenied.effect
      have hstate : ((reserveInput auth decidedAt terms).written existing .DENIED reasonCodes now).state =
          .DENIED := written_state
      simp only [afterReserve, ensureReceipt, hstate]
      split <;> trivial
    | reserved row => exact afterReserve_standing (holding_of_reserved hbalanced hinput heffect)
  | _ => cases hstep

theorem givesBack.leaves {failure : Failure} (h : givesBack auth failure) (htotals : SameTotals before db)
    (hfailed : ∃ row, db.invocations.find? auth.request.invocationId = some row ∧ row.state = .FAILED) :
    RefusalLeaves before db auth failure := by
  rcases h with rfl | rfl | ⟨message, rfl⟩
  · exact ⟨htotals, hfailed⟩
  · exact ⟨htotals, hfailed⟩
  · exact htotals

theorem releasing_standing {reason : String} {failure : Failure} {tolerant : Bool}
    (h : Standing keyOf before db auth (.releasing reason failure tolerant)) (hbalanced : Balanced keyOf before)
    (hsucceeds : Succeeds db auth (.releasing reason failure tolerant) event)
    (hstep : callStep platform processOptions db auth (.releasing reason failure tolerant) event =
      some (db', stage')) : Standing keyOf before db' auth stage' := by
  obtain ⟨⟨row, hholding⟩, hgives⟩ := h
  cases event with
  | store access =>
    obtain ⟨now, ⟨⟩, after, haccess, -, hok⟩ := access_ok hsucceeds
    simp only [callStep, haccess] at hstep
    cases hstep
    obtain ⟨other, hfound, hreleased⟩ := fail_ok hok
    obtain rfl : row = other := Option.some.inj (hholding.found.find.symm.trans hfound.find)
    obtain ⟨htotals, hfind⟩ := hholding.released hbalanced hreleased
    exact hgives.leaves htotals ⟨_, hfind, rfl⟩
  | _ => cases hstep

/-- Marking the payment of a held reservation as unresolved. -/
theorem marked_standing {reason : String} {access : Option ℤ} (hholding : Holding keyOf before db auth row)
    (hbalanced : Balanced keyOf before)
    (hsucceeds : (db.access access (markReconciliationRequired auth.request.invocationId reason)).1.isOk = true) :
    ∃ after, db.access access (markReconciliationRequired auth.request.invocationId reason) = (.ok (), after) ∧
      RefusalLeaves before after auth (.refused (reconciliationRequiredError auth.request.invocationId)) := by
  obtain ⟨now, ⟨⟩, after, haccess, -, hok⟩ := access_ok hsucceeds
  obtain ⟨other, hfound, hwritten⟩ := markReconciliationRequired_ok hok
  obtain rfl : row = other := Option.some.inj (hholding.found.find.symm.trans hfound.find)
  exact ⟨after, haccess, .inr ⟨hholding.marked hbalanced hwritten, hholding.retried⟩⟩

theorem marking_standing {reason : String} (h : Standing keyOf before db auth (.marking reason))
    (hbalanced : Balanced keyOf before) (hsucceeds : Succeeds db auth (.marking reason) event)
    (hstep : callStep platform processOptions db auth (.marking reason) event = some (db', stage')) :
    Standing keyOf before db' auth stage' ∧ AfterTransmission auth stage' := by
  obtain ⟨row, hholding⟩ := h
  cases event with
  | store access =>
    obtain ⟨after, haccess, hleaves⟩ := marked_standing hholding hbalanced hsucceeds
    simp only [callStep, haccess] at hstep
    cases hstep
    exact ⟨hleaves, rfl⟩
  | _ => cases hstep

theorem unrecorded_standing {reason : String} (h : Standing keyOf before db auth (.unrecorded reason))
    (hbalanced : Balanced keyOf before) (hsucceeds : Succeeds db auth (.unrecorded reason) event)
    (hstep : callStep platform processOptions db auth (.unrecorded reason) event = some (db', stage')) :
    Standing keyOf before db' auth stage' ∧ AfterTransmission auth stage' := by
  obtain ⟨row, hholding⟩ := h
  cases event with
  | store access =>
    obtain ⟨after, haccess, hleaves⟩ := marked_standing hholding hbalanced hsucceeds
    simp only [callStep, haccess] at hstep
    cases hstep
    exact ⟨hleaves, rfl⟩
  | _ => cases hstep

theorem confirming_standing {settlement : ConfirmedSettlement} {result : PaidResult}
    (hsucceeds : Succeeds db auth (.confirming settlement result) event)
    (hstep : callStep platform processOptions db auth (.confirming settlement result) event =
      some (db', stage')) : Standing keyOf before db' auth stage' ∧ AfterTransmission auth stage' := by
  cases event with
  | store access =>
    obtain ⟨now, row, after, haccess, -, hok⟩ := access_ok hsucceeds
    simp only [callStep, haccess] at hstep
    cases hstep
    obtain ⟨other, -, rfl, -⟩ := confirm_ok hok
    unfold ensureReceipt
    split
    · exact ⟨trivial, trivial⟩
    · rw [if_pos (.inr rfl)]
      exact ⟨trivial, trivial⟩
  | _ => cases hstep

theorem signing_standing {replay : Bool} (hsucceeds : Succeeds db auth (.signing row replay) event)
    (hstep : callStep platform processOptions db auth (.signing row replay) event = some (db', stage')) :
    Standing keyOf before db' auth stage' ∧ AfterTransmission auth stage' := by
  cases event with
  | store access =>
    simp only [callStep, Option.map_eq_some_iff] at hstep
    obtain ⟨receipt, -, hstep⟩ := hstep
    obtain ⟨now, stored, after, haccess, -, -⟩ := access_ok (hsucceeds receipt)
    rw [haccess] at hstep
    cases hstep
    exact ⟨trivial, trivial⟩
  | thrown message => exact hsucceeds.elim
  | _ => cases hstep

theorem budgeting_standing {payment : Payment} (h : Standing keyOf before db auth (.budgeting payment))
    (hsucceeds : Succeeds db auth (.budgeting payment) event)
    (hstep : callStep platform processOptions db auth (.budgeting payment) event = some (db', stage')) :
    Standing keyOf before db' auth stage' := by
  cases event with
  | store access =>
    obtain ⟨now, budget, after, haccess, -, -⟩ := access_ok hsucceeds
    rw [AuthenticatedRequest.grantKey] at haccess
    simp only [callStep, haccess] at hstep
    cases hstep
    exact h
  | _ => cases hstep

theorem authorizing_standing {payment : Payment} (h : Standing keyOf before db auth (.authorizing payment))
    (hstep : callStep platform processOptions db auth (.authorizing payment) event = some (db', stage')) :
    Standing keyOf before db' auth stage' := by
  cases event with
  | signed now =>
    simp only [callStep, Option.map_eq_some_iff] at hstep
    obtain ⟨serviceAuthorization, -, hstep⟩ := hstep
    cases hstep
    exact h
  | thrown message =>
    cases hstep
    exact ⟨h, .inl rfl⟩
  | _ => cases hstep

theorem building_standing {payment : Payment} {serviceAuthorization : SignedServiceAuthorizationV1}
    (h : Standing keyOf before db auth (.building payment serviceAuthorization))
    (hsucceeds : Succeeds db auth (.building payment serviceAuthorization) event)
    (hstep : callStep platform processOptions db auth (.building payment serviceAuthorization) event =
      some (db', stage')) : Standing keyOf before db' auth stage' := by
  cases event with
  | submit attempt access =>
    obtain ⟨row, hholding⟩ := h
    obtain ⟨now, ⟨⟩, after, haccess, -, hok⟩ := access_ok hsucceeds
    simp only [callStep, haccess] at hstep
    cases hstep
    obtain ⟨other, hfound, -, hwritten⟩ := recordPaymentAttempt_ok hok
    obtain rfl : row = other := Option.some.inj (hholding.found.find.symm.trans hfound.find)
    exact ⟨_, hholding.attempted hwritten⟩
  | notSubmitted message =>
    cases hstep
    exact ⟨h, .inl rfl⟩
  | outcomeUnknown message =>
    cases hstep
    exact h
  | executed settlement result =>
    cases hstep
    exact h
  | _ => cases hstep

theorem rejected_standing {payment : Payment} (h : Standing keyOf before db auth (.rejected payment))
    (hstep : callStep platform processOptions db auth (.rejected payment) event = some (db', stage')) :
    Standing keyOf before db' auth stage' := by
  cases event with
  | notSubmitted message =>
    cases hstep
    exact ⟨h, .inl rfl⟩
  | _ => cases hstep

theorem recorded_standing {payment : Payment} {serviceAuthorization : SignedServiceAuthorizationV1}
    {attempt : PaymentAttempt} (h : Standing keyOf before db auth (.recorded payment serviceAuthorization attempt))
    (hstep : callStep platform processOptions db auth (.recorded payment serviceAuthorization attempt) event =
      some (db', stage')) : Standing keyOf before db' auth stage' := by
  cases event with
  | notSubmitted message =>
    cases hstep
    exact ⟨h, .inl rfl⟩
  | outcomeUnknown message =>
    cases hstep
    exact h
  | executed settlement result =>
    cases hstep
    exact h
  | _ => cases hstep

theorem transmitted_standing {payment : Payment} {serviceAuthorization : SignedServiceAuthorizationV1}
    {attempt : PaymentAttempt}
    (h : Standing keyOf before db auth (.transmitted payment serviceAuthorization attempt))
    (hstep : callStep platform processOptions db auth (.transmitted payment serviceAuthorization attempt) event =
      some (db', stage')) : Standing keyOf before db' auth stage' ∧ AfterTransmission auth stage' := by
  cases event with
  | outcomeUnknown message =>
    cases hstep
    exact ⟨h, trivial⟩
  | executed settlement result =>
    cases hstep
    exact ⟨h, trivial⟩
  | _ => cases hstep

/-- Every step of the call on its own keeps what its stages have done, and no step leaves the stages
after a transmission. -/
theorem callStep_standing (h : Standing keyOf before db auth stage) (hbalanced : Balanced keyOf before)
    (hinput : ∀ decidedAt terms, InputSound keyOf (reserveInput auth decidedAt terms))
    (hsucceeds : Succeeds db auth stage event)
    (hstep : callStep platform processOptions db auth stage event = some (db', stage')) :
    Standing keyOf before db' auth stage' ∧ (AfterTransmission auth stage → AfterTransmission auth stage') := by
  cases stage with
  | waiting leader => exact h.elim
  | known row => exact ⟨known_standing h hstep, False.elim⟩
  | fetching decidedAt profile paidRequest => exact ⟨fetching_standing h hstep, False.elim⟩
  | reserving decidedAt terms =>
    exact ⟨reserving_standing h hbalanced (hinput decidedAt terms) hsucceeds hstep, False.elim⟩
  | releasing reason failure tolerant =>
    exact ⟨releasing_standing h hbalanced hsucceeds hstep, False.elim⟩
  | budgeting payment => exact ⟨budgeting_standing h hsucceeds hstep, False.elim⟩
  | authorizing payment => exact ⟨authorizing_standing h hstep, False.elim⟩
  | building payment serviceAuthorization => exact ⟨building_standing h hsucceeds hstep, False.elim⟩
  | rejected payment => exact ⟨rejected_standing h hstep, False.elim⟩
  | recorded payment serviceAuthorization attempt => exact ⟨recorded_standing h hstep, False.elim⟩
  | transmitted payment serviceAuthorization attempt =>
    obtain ⟨hstanding, hafter⟩ := transmitted_standing h hstep
    exact ⟨hstanding, fun _ ↦ hafter⟩
  | marking reason =>
    obtain ⟨hstanding, hafter⟩ := marking_standing h hbalanced hsucceeds hstep
    exact ⟨hstanding, fun _ ↦ hafter⟩
  | confirming settlement result =>
    obtain ⟨hstanding, hafter⟩ := confirming_standing hsucceeds hstep
    exact ⟨hstanding, fun _ ↦ hafter⟩
  | unrecorded reason =>
    obtain ⟨hstanding, hafter⟩ := unrecorded_standing h hbalanced hsucceeds hstep
    exact ⟨hstanding, fun _ ↦ hafter⟩
  | signing row replay =>
    obtain ⟨hstanding, hafter⟩ := signing_standing hsucceeds hstep
    exact ⟨hstanding, fun _ ↦ hafter⟩
  | done outcome => cases event <;> cases hstep

/-! ## Runs of the call on its own -/

/-- The next step is one of this call, and what it asks of the store and of the signer succeeds. -/
def Alone (id : CallId) (sys : System) : Action → Prop
  | .call other event => other = id ∧ ∀ auth stage, sys.calls id = some ⟨auth, stage⟩ →
      Succeeds sys.db auth stage event
  | .transmit other => other = id
  | _ => False

/-- The call on its own: only its stage, the database and the credentials have changed. -/
structure OnItsOwn (keyOf : String → String → GrantKey) (arrived : System) (id : CallId)
    (auth : AuthenticatedRequest) (labels : List Action) (sys : System) : Prop where
  state : ∃ credentials db stage, sys = { arrived with credentials }.withCall id auth db stage ∧
    Standing keyOf arrived.db db auth stage ∧ (.transmit id ∈ labels → AfterTransmission auth stage)

theorem OnItsOwn.step {arrived : System} {id : CallId} {labels : List Action}
    (h : OnItsOwn keyOf arrived id auth labels sys) (hbalanced : Balanced keyOf arrived.db)
    (hinput : ∀ decidedAt terms, InputSound keyOf (reserveInput auth decidedAt terms))
    (halone : Alone id sys action) (hstep : sys.step platform options action = some sys') :
    OnItsOwn keyOf arrived id auth (labels ++ [action]) sys' := by
  obtain ⟨credentials, db, stage, rfl, hstanding, hafter⟩ := h.state
  cases action with
  | call other event =>
    obtain ⟨rfl, hsucceeds⟩ := halone
    rw [System.withCall_step, Option.map_eq_some_iff] at hstep
    obtain ⟨⟨db', stage'⟩, hcall, rfl⟩ := hstep
    obtain ⟨hstanding', hkept⟩ :=
      callStep_standing hstanding hbalanced hinput (hsucceeds auth stage System.withCall_calls) hcall
    refine ⟨credentials, db', stage', rfl, hstanding', fun hmem ↦ hkept (hafter ?_)⟩
    simpa using hmem
  | transmit other =>
    obtain rfl := halone
    cases stage with
    | recorded payment serviceAuthorization attempt =>
      rw [System.withCall_transmit] at hstep
      cases hstep
      exact ⟨_, db, _, rfl, hstanding, fun _ ↦ trivial⟩
    | _ =>
      simp only [System.step, System.withCall_calls] at hstep
      cases hstep
  | _ => exact halone.elim

/-- A call that was not admitted takes no step. -/
theorem alone_of_unused {id : CallId} {labels : List Action} (hunused : sys.calls id = none)
    (hrun : Run (System.step platform options) (Alone id) sys labels sys') : sys' = sys := by
  induction hrun with
  | start => rfl
  | @next labels before state label hbefore halone hstep ih =>
    subst ih
    cases label with
    | call other event =>
      obtain ⟨rfl, -⟩ := halone
      simp only [System.step, hunused] at hstep
      cases hstep
    | transmit other =>
      obtain rfl := halone
      simp only [System.step, hunused] at hstep
      cases hstep
    | _ => exact halone.elim

theorem onItsOwn_of_run {arrived : System} {id : CallId} {labels : List Action} {at_ : ℤ}
    (hbalanced : Balanced keyOf arrived.db)
    (hinput : ∀ decidedAt terms, InputSound keyOf (reserveInput auth decidedAt terms))
    (hrun : Run (System.step platform options) (Alone id) (arrived.withCall id auth arrived.db
      (earlyLookup arrived.db (some at_) auth.request.invocationId)) labels sys') :
    OnItsOwn keyOf arrived id auth labels sys' := by
  refine hrun.invariant_run ⟨arrived.credentials, arrived.db, _, rfl, ⟨rfl, rfl⟩, fun hmem ↦ by cases hmem⟩ ?_
  intro labels state label state' _ hown halone hstep
  exact hown.step hbalanced hinput halone hstep

/-- A call that ends in an error, in any reachable state and on its own: a refusal that comes before the
reservation leaves everything as it was, one that comes after it and before the transmission gives
the reservation back, and after the transmission the only error is the unresolved payment, which
keeps the amount reserved. -/
theorem refusals_leave_money {earlier labels : List Action} {id : CallId} {input : AuthorizeRequestInput}
    {now at_ : ℤ} {arrived : System}
    (hrun : Run (System.step platform options) (fun _ action ↦ CollisionFree platform options digests action)
      .initial earlier sys)
    (hfree : CollisionFree platform options digests (.arrive id input now (some at_)))
    (hidle : sys.pending id.process input.authorizationRequest.invocationId = none)
    (harrive : sys.step platform options (.arrive id input now (some at_)) = some arrived)
    (halone : Run (System.step platform options) (Alone id) arrived labels sys') :
    (∀ error, authenticate platform (options id.process) input now = .error error → sys' = sys) ∧
    ∀ auth failure, sys'.calls id = some ⟨auth, .done (.failed failure)⟩ →
      RefusalLeaves sys.db sys'.db auth failure ∧
        (.transmit id ∈ labels → failure = .refused (reconciliationRequiredError auth.request.invocationId)) := by
  simp only [System.step] at harrive
  split at harrive
  · rename_i hready
    have hunused : sys.calls id = none := Option.isNone_iff_eq_none.1 hready.2
    split at harrive
    · rename_i admitted hadmitted
      cases harrive
      have hrequest : admitted.request = input.authorizationRequest := authenticate_request hadmitted
      have hbalanced := (Accounted.of_run hrun).balanced
      have hauth := authenticate_ok hadmitted
      have hagree : digests.Agree admitted := hfree _ hadmitted
      rw [System.accept_alone (hrequest ▸ hidle)] at halone
      have hown : OnItsOwn _ (sys.setPending id.process admitted.request.invocationId
          (some ⟨admitted.fingerprint, id.number⟩)) id admitted labels sys' :=
        onItsOwn_of_run hbalanced (hagree.inputSound hauth.permit_verified) halone
      obtain ⟨credentials, db, stage, rfl, hstanding, hafter⟩ := hown.state
      refine ⟨fun error herror ↦ ?_, fun auth failure hcall ↦ ?_⟩
      · rw [hadmitted] at herror
        cases herror
      · rw [System.withCall_calls] at hcall
        cases hcall
        exact ⟨hstanding, hafter⟩
    · cases harrive
      obtain rfl := alone_of_unused hunused halone
      refine ⟨fun error _ ↦ rfl, fun auth failure hcall ↦ ?_⟩
      rw [hunused] at hcall
      cases hcall
  · cases harrive

end

namespace Sample

def unresolvedDb : Db := db (grant "5" "0" 2700) (unresolvedRow "socket hang up" 4100 attempted)
  (attemptedDb.transitions ++ [⟨"invocation", some .RESERVED, .RECONCILIATION_REQUIRED, some "socket hang up",
    4100⟩])

theorem marking_step : callStep platform options attemptedDb auth (.marking "socket hang up") (.store (some 4100)) =
    some (unresolvedDb, .refused (reconciliationRequiredError "invocation")) := by
  rfl

def unresolving : List Action := [] ++ [.call id (.resume 2600)] ++ [.call id (.challenge (.challenge challenge))] ++
  [.call id (.store (some 2700))] ++ [.call id (.store (some 2800))] ++ [.call id (.signed 3000)] ++
  [.call id (.submit attempt (some 3200))] ++ [.transmit id] ++ [.call id (.outcomeUnknown "socket hang up")] ++
  [.call id (.store (some 4100))]

theorem alone_call {sys : System} {found : AuthenticatedRequest} {before : Db} {stage : Stage} {event : CallEvent}
    (h : Succeeds before found stage event) :
    Alone id (sys.withCall id found before stage) (.call id event) := by
  refine ⟨rfl, fun other current hcall ↦ ?_⟩
  rw [System.withCall_calls] at hcall
  cases hcall
  exact h

/-- The purchase loses its connection after its credential left. -/
theorem unresolved_alone : Run (System.step platform fun _ ↦ options) (Alone id)
    (pending.withCall id auth .empty (.known none)) unresolving
    ((pending.sent credential).withCall id auth unresolvedDb
      (.refused (reconciliationRequiredError "invocation"))) := by
  have hreserving : Succeeds .empty auth (.reserving 2600 terms) (.store (some 2700)) := by
    rw [Succeeds, reserves]
    rfl
  have hresumed : Run (System.step platform fun _ ↦ options) (Alone id)
      (pending.withCall id auth .empty (.known none)) ([] ++ [.call id (.resume 2600)])
      (pending.withCall id auth .empty (.fetching 2600 Evidence.Sample.profile paidRequest)) :=
    run_call .start (by exact alone_call trivial) resuming_step
  have hpaying := run_call (run_call (run_call (run_call (run_call hresumed
    (by exact alone_call trivial) fetching_step) (by exact alone_call hreserving) reserving_step)
    (by exact alone_call rfl) budgeting_step) (by exact alone_call trivial) authorizing_step)
    (by exact alone_call rfl) building_step
  have hinterrupted : callStep platform options attemptedDb auth
      (.transmitted (payment reserved) serviceAuthorization attempt) (.outcomeUnknown "socket hang up") =
        some (attemptedDb, .marking "socket hang up") := by
    rfl
  exact run_call (run_call (hpaying.next rfl (System.withCall_transmit _ _ _))
    (by exact alone_call trivial) hinterrupted) (by exact alone_call rfl) marking_step

end Sample

theorem refusals_leave_money_unresolved :
    RaisedTotal .empty Sample.unresolvedDb ("B3pJNfuTmnRT9puDNYTtDe5RVvKsJ2mgRgGze9mPeSyE", "grant") "5" := by
  have hearlier : Run (System.step Sample.platform fun _ ↦ Sample.options)
      (fun _ action ↦ CollisionFree Sample.platform (fun _ ↦ Sample.options) Sample.digests action) .initial
      [.start 0, .recover 0 (some 1000)] Sample.started :=
    Sample.started_run.mono trivial (fun _ _ _ _ _ _ ↦ trivial) fun _ _ _ hhonest ↦ hhonest.1
  have hleaves := ((refusals_leave_money hearlier Sample.arrival_honest rfl Sample.arrives
    Sample.unresolved_alone).2 Sample.auth _ System.withCall_calls).1
  rcases hleaves with ⟨-, row, hrow, -⟩ | ⟨hraised, -⟩
  · cases hrow
  · exact hraised

end VirtualHaibin.Authority
