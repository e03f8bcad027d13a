import VirtualHaibin.Authority.Solo
import VirtualHaibin.Evidence.Proven

/-!
# What the rows document

One process at a time, with a provider that keeps its contract: it submits an attempt before it
transmits, signs what it submits, and returns bytes under their digest.  Then each row documents the
authenticated request it was decided for, the requirement accepted for it, and how far its payment got,
and the row of a call that pays is the one the call reserved.
-/

namespace VirtualHaibin.Authority

open Foundation Mandate Payments Evidence

/-- The bytes of a result, if it has any, are those of its digest and its length. -/
def Genuine (platform : Platform) (result : PaidResult) : Prop :=
  ∀ bodyBase64 ∈ result.bodyBase64, ResultAgrees platform {
    httpStatus := result.httpStatus, bodyBase64, bytes := result.bytes, sha256 := result.sha256 }

/-- The provider signs what it submits, submits before it may have transmitted, and returns genuine results. -/
def KeepsContract (platform : Platform) (stage : Stage) : CallEvent → Prop
  | .submit attempt _ => ∀ encoded ∈ attempt.transactionBase64,
      verifyTransactionPayerSignature platform encoded attempt.payer = true
  | .outcomeUnknown _ => ∀ payment serviceAuthorization, stage ≠ .building payment serviceAuthorization
  | .executed _ result => Genuine platform result ∧
      ∀ payment serviceAuthorization, stage ≠ .building payment serviceAuthorization
  | _ => True

def ProviderKeepsContract (platform : Platform) (sys : System) : Action → Prop
  | .call id event => ∀ auth stage, sys.calls id = some ⟨auth, stage⟩ → KeepsContract platform stage event
  | _ => True

/-- The steps of one process at a time with a provider that keeps its contract. -/
structure Contracted (platform : Platform) (options : AuthorityServiceOptions) (digests : Digests)
    (sys : System) (action : Action) : Prop where
  honoured : Honoured platform (fun _ ↦ options) digests sys action
  alone : StartsAlone sys action
  provider : ProviderKeepsContract platform sys action

/-! ## Rows -/

/-- The authenticated request behind a row. -/
structure RequestedBy (platform : Platform) (options : AuthorityServiceOptions) (digests : Digests)
    (row : InvocationRecord) (auth : AuthenticatedRequest) : Prop where
  authenticated : ∃ now, Authenticated platform options now auth
  agree : digests.Agree auth
  invocationId_eq : row.invocationId = auth.request.invocationId
  fingerprint_eq : row.fingerprint = auth.fingerprint
  grantId_eq : row.grantId = auth.permit.grantId
  agent_eq : row.agent = auth.permit.authorizedAgent
  amount_eq : row.amountAtomic = auth.request.amountAtomic
  request_eq : row.request = auth.request
  authorization_eq : row.authorization = some ⟨auth.permit, auth.agentSignature⟩

/-- The requirement of a row was accepted for its request. -/
def Demands (platform : Platform) (options : AuthorityServiceOptions) (auth : AuthenticatedRequest)
    (row : InvocationRecord) : Prop :=
  ∃ profile paidRequest challenge requirement, FetchBound platform options auth profile paidRequest ∧
    RequirementAccepted profile paidRequest auth.request options.paymentProvider.payerAddress challenge requirement ∧
    row.paymentRequirement = some requirement.stored

/-- The attempt of a row pays its requirement, and the service was told of that payment. -/
structure Attempts (platform : Platform) (options : AuthorityServiceOptions) (auth : AuthenticatedRequest)
    (row : InvocationRecord) (payment : Payment) (serviceAuthorization : SignedServiceAuthorizationV1)
    (attempt : PaymentAttempt) : Prop where
  bound : PaymentBound platform options auth payment
  authorized : AuthorizationBound platform options auth payment serviceAuthorization
  prepared : Prepared platform options.paymentProvider payment.paidRequest payment.challenge payment.requirement
    attempt
  signed : ∀ encoded ∈ attempt.transactionBase64,
    verifyTransactionPayerSignature platform encoded attempt.payer = true
  requirement_eq : row.paymentRequirement = some payment.requirement.stored
  attempt_eq : row.paymentAttempt = some attempt
  authorization_eq : row.serviceAuthorization = some serviceAuthorization

/-- What came back with a settlement: genuine bytes, and no acknowledgement but one that states all of it. -/
structure Returned (platform : Platform) (options : AuthorityServiceOptions) (auth : AuthenticatedRequest)
    (payment : Payment) (serviceAuthorization : SignedServiceAuthorizationV1) (settlement : ConfirmedSettlement)
    (result : PaidResult) : Prop where
  genuine : Genuine platform result
  acknowledged : ∀ header ∈ result.serviceAcknowledgementHeader, ∃ pinned acknowledgement,
    options.trustedServiceKeys auth.permit.service = some pinned ∧
    decodeServiceAcknowledgementHeader platform header = .ok acknowledgement ∧
    acknowledgementMatches platform payment serviceAuthorization settlement result pinned acknowledgement = true

/-- How far the payment of a row got. -/
inductive Reached (platform : Platform) (options : AuthorityServiceOptions) (auth : AuthenticatedRequest)
    (row : InvocationRecord) : Prop
  | unpaid (state : row.state = .RESERVED ∨ row.state = .DENIED ∨ row.state = .FAILED)
      (attempt_eq : row.paymentAttempt = none) (result_eq : row.result = none)
  | attempted {payment : Payment} {serviceAuthorization : SignedServiceAuthorizationV1} {attempt : PaymentAttempt}
      (attempts : Attempts platform options auth row payment serviceAuthorization attempt)
      (state : row.state = .RESERVED ∨ row.state = .FAILED ∨ row.state = .RECONCILIATION_REQUIRED)
      (result_eq : row.result = none)
  | settled {payment : Payment} {serviceAuthorization : SignedServiceAuthorizationV1} {attempt : PaymentAttempt}
      {settlement : ConfirmedSettlement}
      (attempts : Attempts platform options auth row payment serviceAuthorization attempt)
      (state : row.state = .CONFIRMED) (settlement_eq : row.settlement = some settlement)
      (transaction_eq : row.paymentTransactionId = some settlement.transactionId)
      (returned : ∀ result ∈ row.result,
        Returned platform options auth payment serviceAuthorization settlement result)

/-- A row and the request it is the record of. -/
structure Documents (platform : Platform) (options : AuthorityServiceOptions) (digests : Digests)
    (row : InvocationRecord) (auth : AuthenticatedRequest) : Prop where
  requested : RequestedBy platform options digests row auth
  demands : row.state ≠ .DENIED → Demands platform options auth row
  reached : Reached platform options auth row

def Db.Documented (platform : Platform) (options : AuthorityServiceOptions) (digests : Digests) (db : Db) : Prop :=
  ∀ invocationId row, db.invocations.find? invocationId = some row →
    ∃ auth, Documents platform options digests row auth

section

variable {platform : Platform} {options : AuthorityServiceOptions} {digests : Digests} {db db' : Db}
  {auth : AuthenticatedRequest} {row row' : InvocationRecord}

theorem RequestedBy.same (h : RequestedBy platform options digests row auth) (hterms : SameTerms row row') :
    RequestedBy platform options digests row' auth where
  authenticated := h.authenticated
  agree := h.agree
  invocationId_eq := hterms.invocationId.trans h.invocationId_eq
  fingerprint_eq := hterms.fingerprint.trans h.fingerprint_eq
  grantId_eq := hterms.grantId.trans h.grantId_eq
  agent_eq := hterms.agent.trans h.agent_eq
  amount_eq := hterms.amountAtomic.trans h.amount_eq
  request_eq := hterms.request.trans h.request_eq
  authorization_eq := hterms.authorization.trans h.authorization_eq

/-- Requests of one fingerprint name one grant and one agent. -/
theorem Digests.Agree.grant_and_agent {former : AuthenticatedRequest} (h : digests.Agree auth)
    (hformer : digests.Agree former) (hfingerprint : former.fingerprint = auth.fingerprint) :
    former.permit.grantId = auth.permit.grantId ∧ former.permit.authorizedAgent = auth.permit.authorizedAgent := by
  have hcontent : fingerprintInput former.permit former.request former.operationDigest =
      fingerprintInput auth.permit auth.request auth.operationDigest := by
    rw [← hformer.content, hfingerprint, h.content]
  exact ⟨congrArg FingerprintInput.grantId hcontent, congrArg FingerprintInput.agent hcontent⟩

/-- A decision is the record of its own request, also over a failed row. -/
theorem RequestedBy.written {existing : Option InvocationRecord} {decidedAt now : ℤ} {terms : ChallengeTerms}
    {state : InvocationState} {reasonCodes : List String} (hauth : ∃ now, Authenticated platform options now auth)
    (hagree : digests.Agree auth)
    (hretry : ∀ row, existing = some row → retryingFailed (reserveInput auth decidedAt terms) row = true)
    (hfind : db.invocations.find? auth.request.invocationId = existing)
    (hdb : db.Documented platform options digests) :
    RequestedBy platform options digests
      ((reserveInput auth decidedAt terms).written existing state reasonCodes now) auth := by
  cases existing with
  | none => exact ⟨hauth, hagree, rfl, rfl, rfl, rfl, rfl, rfl, rfl⟩
  | some row =>
    have hid : row.invocationId = auth.request.invocationId := Table.key_of_find? hfind
    obtain ⟨former, hformer⟩ := hdb _ row hfind
    have hfingerprint : row.fingerprint = auth.fingerprint := (retryingFailed_iff.1 (hretry row rfl)).2
    have hsame := hagree.grant_and_agent hformer.requested.agree
      (hformer.requested.fingerprint_eq.symm.trans hfingerprint)
    exact {
      authenticated := hauth
      agree := hagree
      invocationId_eq := hid
      fingerprint_eq := hfingerprint
      grantId_eq := hformer.requested.grantId_eq.trans hsame.1
      agent_eq := hformer.requested.agent_eq.trans hsame.2
      amount_eq := rfl
      request_eq := rfl
      authorization_eq := rfl }

theorem Demands.same (h : Demands platform options auth row)
    (hrequirement : row'.paymentRequirement = row.paymentRequirement) : Demands platform options auth row' := by
  obtain ⟨profile, paidRequest, challenge, requirement, hfetch, haccepted, heq⟩ := h
  exact ⟨profile, paidRequest, challenge, requirement, hfetch, haccepted, hrequirement.trans heq⟩

theorem Attempts.same {payment : Payment} {serviceAuthorization : SignedServiceAuthorizationV1}
    {attempt : PaymentAttempt} (h : Attempts platform options auth row payment serviceAuthorization attempt)
    (hrequirement : row'.paymentRequirement = row.paymentRequirement)
    (hattempt : row'.paymentAttempt = row.paymentAttempt)
    (hauthorization : row'.serviceAuthorization = row.serviceAuthorization) :
    Attempts platform options auth row' payment serviceAuthorization attempt where
  bound := h.bound
  authorized := h.authorized
  prepared := h.prepared
  signed := h.signed
  requirement_eq := hrequirement.trans h.requirement_eq
  attempt_eq := hattempt.trans h.attempt_eq
  authorization_eq := hauthorization.trans h.authorization_eq

theorem Documents.moved (h : Documents platform options digests row auth) (hterms : SameTerms row row')
    (hdenied : row.state ≠ .DENIED) (hreached : Reached platform options auth row') :
    Documents platform options digests row' auth where
  requested := h.requested.same hterms
  demands _ := (h.demands hdenied).same hterms.paymentRequirement
  reached := hreached

/-- A row that is open and has an attempt was attempted. -/
theorem Reached.attempts (h : Reached platform options auth row) (hopen : row.isOpen = true)
    (hattempt : row.paymentAttempt.isSome = true) : row.result = none ∧ ∃ payment serviceAuthorization attempt,
      Attempts platform options auth row payment serviceAuthorization attempt := by
  cases h with
  | unpaid state attempt_eq result_eq =>
    rw [attempt_eq] at hattempt
    cases hattempt
  | attempted attempts state result_eq => exact ⟨result_eq, _, _, _, attempts⟩
  | settled attempts state settlement_eq transaction_eq returned =>
    rw [InvocationRecord.isOpen, state] at hopen
    cases hopen

/-- What awaits reconciliation was attempted. -/
theorem Reached.unresolved (h : Reached platform options auth row) (hstate : row.state = .RECONCILIATION_REQUIRED) :
    row.result = none ∧ ∃ payment serviceAuthorization attempt,
      Attempts platform options auth row payment serviceAuthorization attempt := by
  cases h with
  | unpaid state attempt_eq result_eq =>
    rw [hstate] at state
    rcases state with heq | heq | heq <;> cases heq
  | attempted attempts state result_eq => exact ⟨result_eq, _, _, _, attempts⟩
  | settled attempts state settlement_eq transaction_eq returned =>
    rw [hstate] at state
    cases state

/-- An open row is released with what it has. -/
theorem Documents.released (h : Documents platform options digests row auth) (hopen : row.isOpen = true)
    (hterms : SameTerms row row') (hstate : row'.state = .FAILED) (hattempt : row'.paymentAttempt = row.paymentAttempt)
    (hauthorization : row'.serviceAuthorization = row.serviceAuthorization) (hresult : row'.result = row.result) :
    Documents platform options digests row' auth := by
  have hdenied : row.state ≠ .DENIED := by
    intro hstate
    rw [InvocationRecord.isOpen, hstate] at hopen
    cases hopen
  refine h.moved hterms hdenied ?_
  cases h.reached with
  | unpaid state attempt_eq result_eq =>
    exact .unpaid (.inr (.inr hstate)) (hattempt.trans attempt_eq) (hresult.trans result_eq)
  | attempted attempts state result_eq =>
    exact .attempted (attempts.same hterms.paymentRequirement hattempt hauthorization) (.inr (.inl hstate))
      (hresult.trans result_eq)
  | settled attempts state settlement_eq transaction_eq returned =>
    rw [InvocationRecord.isOpen, state] at hopen
    cases hopen

/-- A reserved row with an attempt may be left for reconciliation. -/
theorem Documents.suspended (h : Documents platform options digests row auth) (hreserved : row.state = .RESERVED)
    (hattempted : row.paymentAttempt.isSome = true) (hterms : SameTerms row row')
    (hstate : row'.state = .RECONCILIATION_REQUIRED) (hattempt : row'.paymentAttempt = row.paymentAttempt)
    (hauthorization : row'.serviceAuthorization = row.serviceAuthorization) (hresult : row'.result = row.result) :
    Documents platform options digests row' auth := by
  have hopen : row.isOpen = true := by rw [InvocationRecord.isOpen, hreserved]; rfl
  obtain ⟨hnone, payment, serviceAuthorization, attempt, hattempts⟩ := h.reached.attempts hopen hattempted
  refine h.moved hterms (by rw [hreserved]; decide) ?_
  exact .attempted (hattempts.same hterms.paymentRequirement hattempt hauthorization) (.inr (.inr hstate))
    (hresult.trans hnone)

theorem Documents.recovered (h : Documents platform options digests row auth) (hreserved : row.state = .RESERVED)
    (reason : String) (now : ℤ) : Documents platform options digests (recoveredRow reason now row) auth := by
  have hterms := sameTerms_recovered reason now row
  unfold recoveredRow at hterms ⊢
  split at hterms
  · rename_i hattempted
    rw [if_pos hattempted]
    exact h.suspended hreserved hattempted hterms rfl rfl rfl rfl
  · rename_i hunattempted
    rw [if_neg hunattempted]
    exact h.released (by rw [InvocationRecord.isOpen, hreserved]; rfl) hterms rfl rfl rfl rfl

theorem Documents.reconciled (h : Documents platform options digests row auth)
    (hstate : row.state = .RECONCILIATION_REQUIRED) (outcome : ReconciliationOutcome) (now : ℤ) :
    Documents platform options digests (reconciledRow row outcome now) auth := by
  have hterms := sameTerms_reconciled row outcome now
  cases outcome with
  | confirmed settlement =>
    obtain ⟨hnone, payment, serviceAuthorization, attempt, hattempts⟩ := h.reached.unresolved hstate
    refine h.moved hterms (by rw [hstate]; decide) ?_
    refine .settled (hattempts.same rfl rfl rfl) rfl rfl rfl fun result hresult ↦ ?_
    change result ∈ row.result at hresult
    rw [hnone] at hresult
    cases hresult
  | failed reason => exact h.released (by rw [InvocationRecord.isOpen, hstate]; rfl) hterms rfl rfl rfl rfl

/-- The fields of a row that say how far its payment got. -/
structure SamePayment (row row' : InvocationRecord) : Prop where
  state : row'.state = row.state
  paymentRequirement : row'.paymentRequirement = row.paymentRequirement
  paymentAttempt : row'.paymentAttempt = row.paymentAttempt
  serviceAuthorization : row'.serviceAuthorization = row.serviceAuthorization
  settlement : row'.settlement = row.settlement
  paymentTransactionId : row'.paymentTransactionId = row.paymentTransactionId
  result : row'.result = row.result

theorem samePayment_attached (receipt : SignedAuthorizationReceipt) (now : ℤ) (row : InvocationRecord) :
    SamePayment row (attachedRow receipt now row) := by
  unfold attachedRow
  split <;> exact ⟨rfl, rfl, rfl, rfl, rfl, rfl, rfl⟩

theorem Reached.same (h : Reached platform options auth row) (hsame : SamePayment row row') :
    Reached platform options auth row' := by
  cases h with
  | unpaid state attempt_eq result_eq =>
    exact .unpaid (hsame.state ▸ state) (hsame.paymentAttempt.trans attempt_eq) (hsame.result.trans result_eq)
  | attempted attempts state result_eq =>
    exact .attempted (attempts.same hsame.paymentRequirement hsame.paymentAttempt hsame.serviceAuthorization)
      (hsame.state ▸ state) (hsame.result.trans result_eq)
  | settled attempts state settlement_eq transaction_eq returned =>
    exact .settled (attempts.same hsame.paymentRequirement hsame.paymentAttempt hsame.serviceAuthorization)
      (hsame.state.trans state) (hsame.settlement.trans settlement_eq)
      (hsame.paymentTransactionId.trans transaction_eq) (hsame.result ▸ returned)

theorem Documents.attached (h : Documents platform options digests row auth) (receipt : SignedAuthorizationReceipt)
    (now : ℤ) : Documents platform options digests (attachedRow receipt now row) auth where
  requested := h.requested.same (sameTerms_attached receipt now row)
  demands hdenied := (h.demands ((samePayment_attached receipt now row).state ▸ hdenied)).same
    (samePayment_attached receipt now row).paymentRequirement
  reached := h.reached.same (samePayment_attached receipt now row)

theorem Db.Documented.wrote (h : db.Documented platform options digests) {old : Option InvocationRecord}
    (hwrote : Table.Wrote db.invocations db'.invocations old row)
    (hnew : ∃ auth, Documents platform options digests row auth) : db'.Documented platform options digests := by
  intro invocationId found hfind
  rw [hwrote.find] at hfind
  split at hfind
  · cases hfind
    exact hnew
  · exact h invocationId found hfind

theorem ReserveInput.written_payment {input : ReserveInput} {existing : Option InvocationRecord}
    {state : InvocationState} {reasonCodes : List String} {now : ℤ} :
    (input.written existing state reasonCodes now).state = state ∧
      (input.written existing state reasonCodes now).paymentRequirement =
        input.paymentRequirement.map PaymentRequirement.stored ∧
      (input.written existing state reasonCodes now).paymentAttempt = none ∧
      (input.written existing state reasonCodes now).result = none := by
  cases existing <;> exact ⟨rfl, rfl, rfl, rfl⟩

/-- What a call knows of the row it reserved. -/
structure ReservedRow (platform : Platform) (options : AuthorityServiceOptions) (digests : Digests) (db : Db)
    (auth : AuthenticatedRequest) (terms : ChallengeTerms) (row : InvocationRecord) : Prop where
  find : db.invocations.find? auth.request.invocationId = some row
  reserved : row.state = .RESERVED
  documents : Documents platform options digests row auth
  requirement_eq : ∀ requirement, terms.requirement = some requirement →
    row.paymentRequirement = some requirement.stored

variable {decidedAt now : ℤ} {terms : ChallengeTerms}

theorem reserve_reserves {new : InvocationRecord} (hauth : ∃ now, Authenticated platform options now auth)
    (hagree : digests.Agree auth) (hterms : TermsBound platform options auth terms)
    (hdb : db.Documented platform options digests)
    (heffect : ReserveEffect db db' (reserveInput auth decidedAt terms) (evaluate auth decidedAt terms) now
      (.reserved new)) :
    Table.Wrote db.invocations db'.invocations (db.invocations.find? auth.request.invocationId) new ∧
      ReservedRow platform options digests db' auth terms new := by
  obtain ⟨existing, hexisting, hretry, hreserved⟩ := heffect
  obtain ⟨pinned, middle, grant, reserved, consumed, amount, maxTotal, hpinned, -, hallowed, -, -, -, -, hposted,
    rfl, hwritten⟩ := hreserved.effect
  have hwrote := hwritten.wrote
  rw [hposted.invocations, hpinned.invocations] at hwrote
  obtain ⟨-, hcodes, requirement, hrequirement, -⟩ := evaluate_allowed hallowed
  obtain ⟨profile, paidRequest, challenge, hfetch, -, -, haccepted⟩ := hterms requirement hrequirement
  obtain ⟨hstate, hstored, hattempt, hresult⟩ :=
    @ReserveInput.written_payment (reserveInput auth decidedAt terms) existing .RESERVED [] now
  have hrequested : RequestedBy platform options digests
      ((reserveInput auth decidedAt terms).written existing .RESERVED [] now) auth :=
    .written hauth hagree hretry hexisting hdb
  have hrequirement_eq : ∀ requirement, terms.requirement = some requirement →
      ((reserveInput auth decidedAt terms).written existing .RESERVED [] now).paymentRequirement =
        some requirement.stored := by
    intro found hfound
    rw [hstored]
    exact congrArg (Option.map PaymentRequirement.stored) hfound
  refine ⟨hexisting ▸ hwrote, {
    find := hrequested.invocationId_eq ▸ hwrote.find_self
    reserved := hstate
    documents := ⟨hrequested, fun _ ↦ ⟨profile, paidRequest, challenge, requirement, hfetch, haccepted hcodes,
      hrequirement_eq requirement hrequirement⟩, .unpaid (.inl hstate) hattempt hresult⟩
    requirement_eq := hrequirement_eq }⟩

theorem Db.Documented.reserve {result : ReserveResult} (hdb : db.Documented platform options digests)
    (hauth : ∃ now, Authenticated platform options now auth) (hagree : digests.Agree auth)
    (hterms : TermsBound platform options auth terms)
    (heffect : ReserveEffect db db' (reserveInput auth decidedAt terms) (evaluate auth decidedAt terms) now result) :
    db'.Documented platform options digests := by
  cases result with
  | existing row => exact heffect.1 ▸ hdb
  | grant_conflict grant => exact heffect.1 ▸ hdb
  | reserved new =>
    obtain ⟨hwrote, hreserves⟩ := reserve_reserves hauth hagree hterms hdb heffect
    exact hdb.wrote hwrote ⟨auth, hreserves.documents⟩
  | denied new =>
    obtain ⟨existing, hexisting, hretry, hdenied⟩ := heffect
    obtain ⟨pinned, grant, reserved, consumed, reasonCodes, hpinned, -, -, rfl, hwritten⟩ := hdenied.effect
    have hwrote := hwritten.wrote
    rw [hpinned.invocations] at hwrote
    obtain ⟨hstate, -, hattempt, hresult⟩ :=
      @ReserveInput.written_payment (reserveInput auth decidedAt terms) existing .DENIED reasonCodes now
    exact hdb.wrote hwrote ⟨auth, .written hauth hagree hretry hexisting hdb,
      fun hdenied ↦ absurd hstate hdenied, .unpaid (.inr (.inl hstate)) hattempt hresult⟩

end

/-! ## Calls that pay -/

/-- A stage that holds a reservation and has begun to pay it. -/
def Stage.isPaying : Stage → Bool
  | .budgeting _ | .authorizing _ | .building _ _ | .recorded _ _ _ | .transmitted _ _ _ | .marking _
  | .confirming _ _ | .unrecorded _ => true
  | _ => false

/-- What a paying call knows of its row. -/
def Stage.Pays (platform : Platform) (options : AuthorityServiceOptions) (auth : AuthenticatedRequest)
    (row : InvocationRecord) : Stage → Prop
  | .budgeting payment | .authorizing payment | .building payment _ =>
    row.paymentRequirement = some payment.requirement.stored
  | .recorded payment serviceAuthorization attempt | .transmitted payment serviceAuthorization attempt =>
    Attempts platform options auth row payment serviceAuthorization attempt
  | .marking _ | .unrecorded _ => row.paymentAttempt.isSome = true
  | .confirming settlement result => ∃ payment serviceAuthorization attempt,
    Attempts platform options auth row payment serviceAuthorization attempt ∧
      Returned platform options auth payment serviceAuthorization settlement result
  | _ => True

/-- The row of a call that pays is the one it reserved. -/
structure HoldsRow (platform : Platform) (options : AuthorityServiceOptions) (digests : Digests) (db : Db)
    (auth : AuthenticatedRequest) (stage : Stage) (row : InvocationRecord) : Prop where
  find : db.invocations.find? auth.request.invocationId = some row
  reserved : row.state = .RESERVED
  documents : Documents platform options digests row auth
  pays : stage.Pays platform options auth row

def StageHolds (platform : Platform) (options : AuthorityServiceOptions) (digests : Digests) (db : Db)
    (auth : AuthenticatedRequest) (stage : Stage) : Prop :=
  stage.isPaying = true → ∃ row, HoldsRow platform options digests db auth stage row

section

variable {platform : Platform} {options : AuthorityServiceOptions} {digests : Digests} {db db' : Db}
  {auth : AuthenticatedRequest} {stage stage' : Stage} {event : CallEvent}

theorem resolveExisting_isPaying (row : InvocationRecord) (fingerprint : String) :
    (resolveExisting options row fingerprint).isPaying = false := by
  unfold resolveExisting ensureReceipt
  repeat' split
  all_goals rfl

theorem ensureReceipt_isPaying (row : InvocationRecord) (replay : Bool) :
    (ensureReceipt options row replay).isPaying = false := by
  unfold ensureReceipt
  repeat' split
  all_goals rfl

theorem decide_isPaying (decidedAt : ℤ) : (decide platform options auth decidedAt).isPaying = false := by
  unfold decide
  dsimp only
  repeat' split
  all_goals rfl

theorem StageHolds.of_idle (h : stage.isPaying = false) : StageHolds platform options digests db auth stage := by
  intro hpaying
  rw [h] at hpaying
  cases hpaying

/-- An acknowledgement is kept only if it states all of the exchange. -/
theorem returned_accepted {payment : Payment} {serviceAuthorization : SignedServiceAuthorizationV1}
    {settlement : ConfirmedSettlement} {result : PaidResult} (hgenuine : Genuine platform result) :
    Returned platform options auth payment serviceAuthorization settlement
      (acceptAcknowledgement platform options auth.permit payment serviceAuthorization settlement result) where
  genuine := hgenuine
  acknowledged header hheader := by
    obtain ⟨-, hkept⟩ := Checked.filter_eq_some.1 hheader
    split at hkept
    · rename_i pinned acknowledgement hpinned hdecoded
      exact ⟨pinned, acknowledgement, hpinned, hdecoded, hkept⟩
    · cases hkept

/-- The attempt that a call records is one of its row. -/
theorem HoldsRow.attempts {row : InvocationRecord} {payment : Payment}
    {serviceAuthorization : SignedServiceAuthorizationV1} {attempt : PaymentAttempt} {now : ℤ}
    (h : HoldsRow platform options digests db auth (.building payment serviceAuthorization) row)
    (hbound : StageBound platform options auth (.recorded payment serviceAuthorization attempt))
    (hsigned : ∀ encoded ∈ attempt.transactionBase64,
      verifyTransactionPayerSignature platform encoded attempt.payer = true) :
    Attempts platform options auth (attemptedRow attempt serviceAuthorization now row) payment serviceAuthorization
      attempt where
  bound := hbound.1
  authorized := hbound.2.1
  prepared := hbound.2.2
  signed := hsigned
  requirement_eq := h.pays
  attempt_eq := rfl
  authorization_eq := rfl

theorem HoldsRow.documents_attempted {row : InvocationRecord} {payment : Payment}
    {serviceAuthorization : SignedServiceAuthorizationV1} {attempt : PaymentAttempt} {now : ℤ}
    (h : HoldsRow platform options digests db auth (.building payment serviceAuthorization) row)
    (hattempts : Attempts platform options auth (attemptedRow attempt serviceAuthorization now row) payment
      serviceAuthorization attempt) :
    Documents platform options digests (attemptedRow attempt serviceAuthorization now row) auth := by
  refine h.documents.moved ⟨rfl, rfl, rfl, rfl, rfl, rfl, rfl, rfl, rfl, rfl, rfl⟩ (by rw [h.reserved]; decide) ?_
  refine .attempted hattempts (.inl h.reserved) ?_
  cases h.documents.reached with
  | unpaid state attempt_eq result_eq => exact result_eq
  | attempted attempts state result_eq => exact result_eq
  | settled attempts state settlement_eq transaction_eq returned =>
    rw [h.reserved] at state
    cases state

theorem HoldsRow.documents_confirmed {row : InvocationRecord} {settlement : ConfirmedSettlement}
    {result : PaidResult} {now : ℤ}
    (h : HoldsRow platform options digests db auth (.confirming settlement result) row) :
    Documents platform options digests
      (confirmedRow row ⟨settlement.transactionId, some settlement, some result⟩ now) auth := by
  obtain ⟨payment, serviceAuthorization, attempt, hattempts, hreturned⟩ := h.pays
  refine h.documents.moved ⟨rfl, rfl, rfl, rfl, rfl, rfl, rfl, rfl, rfl, rfl, rfl⟩ (by rw [h.reserved]; decide) ?_
  refine .settled (hattempts.same rfl rfl rfl) rfl rfl rfl fun found hfound ↦ ?_
  -- Storing a result rewrites its JSON only.
  obtain rfl := Option.some.inj (show some result.stored = some found from hfound)
  exact ⟨hreturned.genuine, hreturned.acknowledged⟩

theorem isPaying_of_marking (h : stage.isMarking = true) : stage.isPaying = true := by
  cases stage with
  | marking reason => rfl
  | unrecorded reason => rfl
  | _ => cases h

/-- Every step of a call leaves each row a document. -/
theorem Progress.documented (h : Progress platform options db auth stage event db' stage')
    (hbound : CallBound platform options digests db ⟨auth, stage⟩) (hnext : StageBound platform options auth stage')
    (hcontract : KeepsContract platform stage event) (hholds : StageHolds platform options digests db auth stage)
    (hdb : db.Documented platform options digests) : db'.Documented platform options digests := by
  cases h with
  | reserved effect => exact hdb.reserve hbound.authenticated hbound.agree hbound.stage effect
  | released found released =>
    obtain ⟨former, hformer⟩ := hdb _ _ found.find
    refine hdb.wrote released.wrote ⟨former, hformer.released ?_ ?_ rfl rfl rfl rfl⟩
    · simp [InvocationRecord.isOpen, found.state_eq]
    · exact ⟨rfl, rfl, rfl, rfl, rfl, rfl, rfl, rfl, rfl, rfl, rfl⟩
  | recorded found unarmed written =>
    obtain ⟨row, hrow⟩ := hholds rfl
    obtain rfl := Option.some.inj (hrow.find.symm.trans found.find)
    exact hdb.wrote written.wrote ⟨auth, hrow.documents_attempted (hrow.attempts hnext hcontract)⟩
  | marked marking found written =>
    obtain ⟨row, hrow⟩ := hholds (isPaying_of_marking marking)
    obtain rfl := Option.some.inj (hrow.find.symm.trans found.find)
    have hattempted : row.paymentAttempt.isSome = true := by
      have hpays := hrow.pays
      cases stage with
      | marking reason => exact hpays
      | unrecorded reason => exact hpays
      | _ => cases marking
    exact hdb.wrote written.wrote ⟨auth, hrow.documents.suspended hrow.reserved hattempted
      ⟨rfl, rfl, rfl, rfl, rfl, rfl, rfl, rfl, rfl, rfl, rfl⟩ rfl rfl rfl rfl⟩
  | confirmed found consumed =>
    obtain ⟨row, hrow⟩ := hholds rfl
    obtain rfl := Option.some.inj (hrow.find.symm.trans found.find)
    exact hdb.wrote consumed.wrote ⟨auth, hrow.documents_confirmed⟩
  | attached signed find stores wrote grants transitions =>
    obtain ⟨former, hformer⟩ := hdb _ _ find
    exact hdb.wrote wrote ⟨former, hformer.attached _ _⟩
  | _ => exact hdb

/-- What a call inside `execute` holds once its attempt is recorded. -/
theorem attempts_of_execution {payment : Payment} {serviceAuthorization : SignedServiceAuthorizationV1}
    {row : InvocationRecord} (hexecuting : stage.execution = some (payment, serviceAuthorization))
    (hbuilding : ∀ payment serviceAuthorization, stage ≠ .building payment serviceAuthorization)
    (hpays : stage.Pays platform options auth row) :
    stage.isPaying = true ∧ ∃ attempt, Attempts platform options auth row payment serviceAuthorization attempt := by
  cases stage with
  | building => exact absurd rfl (hbuilding _ _)
  | recorded =>
    cases hexecuting
    exact ⟨rfl, _, hpays⟩
  | transmitted =>
    cases hexecuting
    exact ⟨rfl, _, hpays⟩
  | _ => cases hexecuting

theorem isPaying_of_execution {execution : Payment × SignedServiceAuthorizationV1}
    (h : stage.execution = some execution) : stage.isPaying = true := by
  cases stage with
  | building => rfl
  | recorded => rfl
  | transmitted => rfl
  | _ => cases h

/-- A call that goes on paying still holds its row. -/
theorem Progress.stageHolds (h : Progress platform options db auth stage event db' stage')
    (hbound : CallBound platform options digests db ⟨auth, stage⟩) (hnext : StageBound platform options auth stage')
    (hcontract : KeepsContract platform stage event) (hholds : StageHolds platform options digests db auth stage)
    (hdb : db.Documented platform options digests) : StageHolds platform options digests db' auth stage' := by
  cases h with
  | resolved known => exact .of_idle (resolveExisting_isPaying _ _)
  | decided now retry => exact .of_idle (decide_isPaying _)
  | @reserved decidedAt terms now result db' effect =>
    cases result with
    | existing row => exact .of_idle (resolveExisting_isPaying _ _)
    | grant_conflict grant => exact .of_idle rfl
    | denied row => exact .of_idle (ensureReceipt_isPaying _ _)
    | reserved row =>
      obtain ⟨-, hrow⟩ := reserve_reserves hbound.authenticated hbound.agree hbound.stage hdb effect
      intro hpaying
      refine ⟨row, hrow.find, hrow.reserved, hrow.documents, ?_⟩
      simp only [afterReserve] at hpaying ⊢
      split at hpaying
      · rename_i challenge requirement paidRequest hchallenge hrequirement hpaid
        unfold startPayment at hpaying ⊢
        split at hpaying
        · rename_i hmatches
          rw [if_pos hmatches]
          exact hrow.requirement_eq requirement hrequirement
        · cases hpaying
      · cases hpaying
  | budgeted =>
    intro _
    obtain ⟨row, hrow⟩ := hholds rfl
    exact ⟨row, hrow.find, hrow.reserved, hrow.documents, hrow.pays⟩
  | authorized signed =>
    intro _
    obtain ⟨row, hrow⟩ := hholds rfl
    exact ⟨row, hrow.find, hrow.reserved, hrow.documents, hrow.pays⟩
  | @recorded payment serviceAuthorization attempt now found db' entry hfound unarmed written =>
    intro _
    obtain ⟨row, hrow⟩ := hholds rfl
    obtain rfl := Option.some.inj (hrow.find.symm.trans hfound.find)
    have hattempts := @HoldsRow.attempts _ _ _ _ _ _ _ _ _ now hrow hnext hcontract
    have hid : (attemptedRow attempt serviceAuthorization now row).invocationId = auth.request.invocationId :=
      hrow.documents.requested.invocationId_eq
    have hfind := written.wrote.find_self
    rw [hid] at hfind
    exact ⟨attemptedRow attempt serviceAuthorization now row, hfind, hrow.reserved,
      hrow.documents_attempted hattempts, hattempts⟩
  | @interrupted stage execution message executing =>
    intro _
    obtain ⟨row, hrow⟩ := hholds (isPaying_of_execution executing)
    obtain ⟨payment, serviceAuthorization⟩ := execution
    obtain ⟨-, attempt, hattempts⟩ := attempts_of_execution executing hcontract hrow.pays
    exact ⟨row, hrow.find, hrow.reserved, hrow.documents, by
      rw [Stage.Pays, hattempts.attempt_eq, Option.isSome_some]⟩
  | executed settlement result executing =>
    intro _
    obtain ⟨row, hrow⟩ := hholds (isPaying_of_execution executing)
    obtain ⟨-, attempt, hattempts⟩ := attempts_of_execution executing hcontract.2 hrow.pays
    exact ⟨row, hrow.find, hrow.reserved, hrow.documents, _, _, attempt, hattempts, returned_accepted hcontract.1⟩
  | unrecorded reason =>
    intro _
    obtain ⟨row, hrow⟩ := hholds rfl
    obtain ⟨payment, serviceAuthorization, attempt, hattempts, -⟩ := hrow.pays
    exact ⟨row, hrow.find, hrow.reserved, hrow.documents, by
      rw [Stage.Pays, hattempts.attempt_eq, Option.isSome_some]⟩
  | confirmed found consumed => exact .of_idle (ensureReceipt_isPaying _ _)
  | _ => exact .of_idle rfl

theorem attachedRow_reserved {row : InvocationRecord} (hreserved : row.state = .RESERVED)
    (receipt : SignedAuthorizationReceipt) (now : ℤ) : attachedRow receipt now row = row := by
  unfold attachedRow
  rw [hreserved]
  simp

/-- Storing a receipt changes no reserved row. -/
theorem find_attached {row found : InvocationRecord} {invocationId : String} {receipt : SignedAuthorizationReceipt}
    {now : ℤ} (hwrote : Table.Wrote db.invocations db'.invocations (some found) (attachedRow receipt now found))
    (hfind : db.invocations.find? invocationId = some row) (hreserved : row.state = .RESERVED) :
    db'.invocations.find? invocationId = some row := by
  rw [hwrote.find]
  split
  · rename_i hid
    have hold := hwrote.old_eq
    rw [hid, hfind] at hold
    obtain rfl := Option.some.inj hold
    rw [attachedRow_reserved hreserved]
  · exact hfind

/-- A call writes the row of its own invocation only. -/
theorem Progress.find_other (h : Progress platform options db auth stage event db' stage') {row : InvocationRecord}
    {invocationId : String} (hne : auth.request.invocationId ≠ invocationId)
    (hfind : db.invocations.find? invocationId = some row) (hreserved : row.state = .RESERVED) :
    db'.invocations.find? invocationId = some row := by
  have hother {id : String} {found new : InvocationRecord} {old : Option InvocationRecord}
      (hwrote : Table.Wrote db.invocations db'.invocations old new) (hnew : new.invocationId = found.invocationId)
      (hfound : found.invocationId = id) (hid : id = auth.request.invocationId) :
      db'.invocations.find? invocationId = some row := by
    rw [hwrote.find_ne (by rw [hnew, hfound, hid]; exact hne), hfind]
  cases h with
  | @reserved decidedAt terms now result db' effect =>
    have hwritten {existing : Option InvocationRecord} {state : InvocationState} {reasonCodes : List String}
        (hexisting : db.invocations.find? auth.request.invocationId = existing)
        (hwrote : Table.Wrote db.invocations db'.invocations existing
          ((reserveInput auth decidedAt terms).written existing state reasonCodes now)) :
        db'.invocations.find? invocationId = some row := by
      have hid : ((reserveInput auth decidedAt terms).written existing state reasonCodes now).invocationId =
          auth.request.invocationId :=
        ReserveInput.written_invocationId fun row hrow ↦ Table.key_of_find? (hexisting.trans hrow)
      rw [hwrote.find_ne (by rw [hid]; exact hne), hfind]
    cases result with
    | existing found => rw [effect.1, hfind]
    | grant_conflict grant => rw [effect.1, hfind]
    | denied new =>
      obtain ⟨existing, hexisting, -, hdenied⟩ := effect
      obtain ⟨pinned, grant, reserved, consumed, reasonCodes, hpinned, -, -, rfl, hrow⟩ := hdenied.effect
      have hwrote := hrow.wrote
      rw [hpinned.invocations] at hwrote
      exact hwritten hexisting hwrote
    | reserved new =>
      obtain ⟨existing, hexisting, -, heffect⟩ := effect
      obtain ⟨pinned, middle, grant, reserved, consumed, amount, maxTotal, hpinned, -, -, -, -, -, -, hposted, rfl,
        hrow⟩ := heffect.effect
      have hwrote := hrow.wrote
      rw [hposted.invocations, hpinned.invocations] at hwrote
      exact hwritten hexisting hwrote
  | released found released => exact hother released.wrote rfl found.id_eq rfl
  | recorded found unarmed written => exact hother written.wrote rfl found.id_eq rfl
  | marked marking found written => exact hother written.wrote rfl found.id_eq rfl
  | confirmed found consumed => exact hother consumed.wrote rfl found.id_eq rfl
  | attached signed find stores wrote grants transitions => exact find_attached wrote hfind hreserved
  | _ => exact hfind

/-- A call that waits or is done writes nothing. -/
theorem Progress.db_of_idle (h : Progress platform options db auth stage event db' stage')
    (hidle : stage.isActive = false) : db' = db := by
  cases h with
  | reserved effect => cases hidle
  | released found released => cases hidle
  | recorded found unarmed written => cases hidle
  | marked marking found written =>
    cases stage with
    | marking reason => cases hidle
    | unrecorded reason => cases hidle
    | _ => cases marking
  | confirmed found consumed => cases hidle
  | attached signed find stores wrote grants transitions => cases hidle
  | _ => rfl

/-- A reconciliation run changes no reserved row. -/
theorem ReconcileProgress.find_reserved {run run' : Option ReconcileRun} {reconcileEvent : ReconcileEvent}
    (h : ReconcileProgress platform options db run reconcileEvent db' run') {row : InvocationRecord}
    {invocationId : String} (hfind : db.invocations.find? invocationId = some row)
    (hreserved : row.state = .RESERVED) : db'.invocations.find? invocationId = some row := by
  cases h with
  | @resolved lookup outcome rest now found db' hfound reconciled =>
    have hid : (reconciledRow found outcome now).invocationId = lookup.invocationId := by
      cases outcome <;> exact hfound.id_eq
    rw [(reconciled_wrote reconciled).find_ne ?_, hfind]
    rintro rfl
    rw [hid, hfound.find] at hfind
    obtain rfl := Option.some.inj hfind
    have hstate := hfound.state_eq
    rw [hreserved] at hstate
    cases hstate
  | attached signed find stores wrote grants transitions => exact find_attached wrote hfind hreserved
  | _ => exact hfind

theorem ReconcileProgress.documented {run run' : Option ReconcileRun} {reconcileEvent : ReconcileEvent}
    (h : ReconcileProgress platform options db run reconcileEvent db' run')
    (hdb : db.Documented platform options digests) : db'.Documented platform options digests := by
  cases h with
  | @resolved lookup outcome rest now found db' hfound reconciled =>
    obtain ⟨former, hformer⟩ := hdb _ _ hfound.find
    exact hdb.wrote (reconciled_wrote reconciled) ⟨former, hformer.reconciled hfound.state_eq outcome now⟩
  | attached signed find stores wrote grants transitions =>
    obtain ⟨former, hformer⟩ := hdb _ _ find
    exact hdb.wrote wrote ⟨former, hformer.attached _ _⟩
  | _ => exact hdb

theorem Db.Documented.recovered {reason : String} {now : ℤ} {result : RecoveryResult}
    (hdb : db.Documented platform options digests)
    (h : recoverInterruptedInvocations reason now db = .ok (result, db')) :
    db'.Documented platform options digests := by
  intro invocationId row hfind
  rw [recoverInterruptedInvocations_find h, Option.map_eq_some_iff] at hfind
  obtain ⟨before, hbefore, rfl⟩ := hfind
  obtain ⟨auth, hauth⟩ := hdb invocationId before hbefore
  split
  · rename_i hreserved
    exact ⟨auth, hauth.recovered hreserved reason now⟩
  · exact ⟨auth, hauth⟩

end

/-! ## Runs -/

/-- In the runs considered every row is a document, and each call that pays holds its row. -/
structure WellDocumented (platform : Platform) (options : AuthorityServiceOptions) (digests : Digests)
    (sys : System) : Prop where
  bound : Bound platform (fun _ ↦ options) digests sys
  joined : Joined sys
  single : sys.Single
  rows : sys.db.Documented platform options digests
  calls : ∀ id auth stage, sys.calls id = some ⟨auth, stage⟩ →
    StageHolds platform options digests sys.db auth stage

section

variable {platform : Platform} {options : AuthorityServiceOptions} {digests : Digests} {sys sys' : System}
  {action : Action}

theorem wellDocumented_initial : WellDocumented platform options digests .initial where
  bound := bound_initial
  joined := joined_initial
  single := single_initial
  rows _ _ h := by cases h
  calls _ _ _ h := by cases h

theorem isActive_of_paying {stage : Stage} (h : stage.isPaying = true) : stage.isActive = true := by
  cases stage with
  | waiting leader => cases h
  | done outcome => cases h
  | _ => rfl

/-- The stage a call enters is bound like the one it left. -/
theorem WellDocumented.next_bound (h : WellDocumented platform options digests sys)
    {id : CallId} {event : CallEvent} {auth : AuthenticatedRequest} {stage stage' : Stage} {db' : Db}
    (hhonoured : Honoured platform (fun _ ↦ options) digests sys (.call id event))
    (hcall : sys.calls id = some ⟨auth, stage⟩)
    (hprogress : Progress platform options sys.db auth stage event db' stage') :
    StageBound platform options auth stage' := by
  refine hprogress.bound (h.bound.calls id _ hcall).stage ?_
  rintro payment serviceAuthorization attempt access rfl rfl
  exact hhonoured.2 _ _ _ hcall

/-- The calls of every process alive are those of one process. -/
theorem WellDocumented.same_process (h : WellDocumented platform options digests sys) {id id' : CallId}
    {call call' : Call} (hcall : sys.calls id = some call) (hcall' : sys.calls id' = some call') :
    id.process = id'.process :=
  h.single _ _ (.inr (h.joined.serving id call hcall)) (.inr (h.joined.serving id' call' hcall'))

/-- No step but its own changes the row of a call that pays. -/
theorem WellDocumented.find_kept (h : WellDocumented platform options digests sys)
    (hstep : sys.step platform (fun _ ↦ options) action = some sys') {id : CallId} {auth : AuthenticatedRequest}
    {stage : Stage} {row : InvocationRecord} (hcall : sys.calls id = some ⟨auth, stage⟩)
    (hpaying : stage.isPaying = true) (hother : ∀ event, action ≠ .call id event)
    (hfind : sys.db.invocations.find? auth.request.invocationId = some row) (hreserved : row.state = .RESERVED) :
    sys'.db.invocations.find? auth.request.invocationId = some row := by
  have hdb := System.step_db hstep
  generalize sys'.db = db' at hdb ⊢
  cases hdb with
  | kept action => exact hfind
  | @called id' event auth' stage' next db' call progress =>
    by_cases hsame : auth'.request.invocationId = auth.request.invocationId
    · -- The only active call of the invocation is the one that pays.
      cases hactive : stage'.isActive with
      | false => rw [progress.db_of_idle hactive, hfind]
      | true =>
        have hid := h.joined.active_unique call hcall hactive (isActive_of_paying hpaying)
          (h.same_process call hcall) hsame
        exact absurd (hid ▸ rfl) (hother event)
    · exact progress.find_other hsame hfind hreserved
  | @recovered process now result reason db' starting recover =>
    have hserving := h.joined.serving id _ hcall
    obtain rfl := h.single process id.process (.inl starting) (.inr hserving)
    rw [hserving] at starting
    cases starting
  | reconciled serving progress => exact progress.find_reserved hfind hreserved

theorem admitted_isPaying {db : Db} {access : Option ℤ} {pending : Option Pending} {auth : AuthenticatedRequest} :
    (admitted db access pending auth).isPaying = false := by
  unfold admitted earlyLookup
  repeat' split
  all_goals rfl

/-- A call holds its row through the steps of others. -/
theorem WellDocumented.calls_step (h : WellDocumented platform options digests sys)
    (hstep : sys.step platform (fun _ ↦ options) action = some sys') {id : CallId}
    (hother : ∀ event, action ≠ .call id event) {auth : AuthenticatedRequest} {stage : Stage}
    (hcall : sys'.calls id = some ⟨auth, stage⟩) : StageHolds platform options digests sys'.db auth stage := by
  have horigin := System.step_call hstep hcall
  generalize hdb : sys'.db = db' at horigin ⊢
  cases horigin with
  | kept found =>
    intro hpaying
    obtain ⟨row, hrow⟩ := h.calls id auth stage found hpaying
    have hfind := h.find_kept hstep found hpaying hother hrow.find hrow.reserved
    exact ⟨row, hdb ▸ hfind, hrow.reserved, hrow.documents, hrow.pays⟩
  | admitted serving authenticated => exact .of_idle admitted_isPaying
  | progressed found progress => exact absurd rfl (hother _)
  | transmitted found =>
    intro _
    obtain ⟨row, hrow⟩ := h.calls id auth _ found rfl
    exact ⟨row, hrow.find, hrow.reserved, hrow.documents, hrow.pays⟩
  | delivered found leaderDone => exact .of_idle rfl

theorem WellDocumented.step (h : WellDocumented platform options digests sys)
    (hallowed : Contracted platform options digests sys action)
    (hstep : sys.step platform (fun _ ↦ options) action = some sys') :
    WellDocumented platform options digests sys' where
  bound := h.bound.step hallowed.honoured hstep
  joined := h.joined.step hstep
  single := h.single.step hallowed.alone hstep
  rows := by
    have hprovider := hallowed.provider
    have hhonoured := hallowed.honoured
    have hdb := System.step_db hstep
    generalize sys'.db = db' at hdb ⊢
    cases hdb with
    | kept action => exact h.rows
    | called call progress =>
      exact progress.documented (h.bound.calls _ _ call) (h.next_bound hhonoured call progress)
        (hprovider _ _ call) (h.calls _ _ _ call) h.rows
    | recovered starting recover => exact h.rows.recovered recover
    | reconciled serving progress => exact progress.documented h.rows
  calls id auth stage hcall := by
    by_cases hown : ∃ event, action = .call id event
    · obtain ⟨event, rfl⟩ := hown
      cases System.step_cases hstep with
      | called call progress =>
        simp only [System.setCall, Function.update_self, Option.some.injEq, Call.mk.injEq] at hcall
        obtain ⟨rfl, rfl⟩ := hcall
        exact progress.stageHolds (h.bound.calls _ _ call) (h.next_bound hallowed.honoured call progress)
          (hallowed.provider _ _ call) (h.calls _ _ _ call) h.rows
    · have hother : ∀ event, action ≠ .call id event := fun event heq ↦ hown ⟨event, heq⟩
      exact h.calls_step hstep hother hcall

/-- In every run of the kind, every row is a document. -/
theorem WellDocumented.of_run {labels : List Action}
    (hrun : Run (System.step platform fun _ ↦ options) (Contracted platform options digests) .initial labels sys) :
    WellDocumented platform options digests sys :=
  hrun.invariant wellDocumented_initial fun _ _ _ hbefore hallowed hstep ↦ hbefore.step hallowed hstep

end

end VirtualHaibin.Authority
