import VirtualHaibin.Authority.Accounting
import VirtualHaibin.Authority.Decision
import VirtualHaibin.Evidence.Parse

/-!
# One authorize call

An `authorize` call between two awaits is a stage, and the completion of what it awaits is an event.
A step runs the synchronous code between two awaits.  Store operations are events with an access:
`none` is a call that throws before its transaction begins.
-/

namespace VirtualHaibin.Authority

open Foundation Foundation.Checked Foundation.Schema Mandate Payments Policy Evidence

/-- What a rejected promise carries. -/
inductive Failure where
  | refused (error : AuthorityRequestError)
  | store (error : StoreError)
  | thrown (message : String)

/-- Unsigned payment evidence from durable state. -/
structure PaymentEvidence where
  settlementProfile : Option String
  protocol : Option String
  scheme : Option String
  challengeNetwork : Option String
  asset : Option String
  payTo : Option String
  amountAtomic : Option String
  resourceUrl : Option String
  requestSha256 : Option String
  payer : Option String
  payerSignature : Option String
  blockhash : Option String
  transactionId : Option String
  slot : Option String
  resultSha256 : Option String
  deriving DecidableEq

structure AuthorizeResult where
  receipt : SignedAuthorizationReceipt
  replay : Bool
  payment : Option PaymentEvidence
  result : Json

inductive Outcome where
  | returned (result : AuthorizeResult)
  | failed (failure : Failure)

/-- A reserved invocation and what is about to be paid for it. -/
structure Payment where
  invocation : InvocationRecord
  paidRequest : PaidRequest
  challenge : PaymentChallenge
  requirement : PaymentRequirement

inductive Stage where
  /-- Attached to the call of this process that holds the invocation. -/
  | waiting (leader : ℕ)
  /-- The early lookup has been read. -/
  | known (row : Option InvocationRecord)
  | fetching (decidedAt : ℤ) (profile : SettlementProfile) (paidRequest : PaidRequest)
  | reserving (decidedAt : ℤ) (terms : ChallengeTerms)
  /-- About to release the reservation; `tolerant` ignores one that is no longer `RESERVED`. -/
  | releasing (reason : String) (failure : Failure) (tolerant : Bool)
  | budgeting (payment : Payment)
  | authorizing (payment : Payment)
  /-- Inside `execute`, before `beforeSubmit`. -/
  | building (payment : Payment) (serviceAuthorization : SignedServiceAuthorizationV1)
  /-- `beforeSubmit` rejected. -/
  | rejected (payment : Payment)
  /-- `beforeSubmit` resolved and the credential has not left. -/
  | recorded (payment : Payment) (serviceAuthorization : SignedServiceAuthorizationV1)
      (attempt : PaymentAttempt)
  | transmitted (payment : Payment) (serviceAuthorization : SignedServiceAuthorizationV1)
      (attempt : PaymentAttempt)
  | marking (reason : String)
  | confirming (settlement : ConfirmedSettlement) (result : PaidResult)
  /-- Paid, and the settlement could not be recorded. -/
  | unrecorded (reason : String)
  | signing (row : InvocationRecord) (replay : Bool)
  | done (outcome : Outcome)

/-- The completion of what a call awaits. -/
inductive CallEvent where
  | resume (now : ℤ)
  | challenge (result : ChallengeResult)
  | unavailable (message : String)
  | thrown (message : String)
  | store (access : Option ℤ)
  | signed (now : ℤ)
  | submit (attempt : PaymentAttempt) (access : Option ℤ)
  | notSubmitted (message : String)
  | outcomeUnknown (message : String)
  | executed (settlement : ConfirmedSettlement) (result : PaidResult)

/-- Run a store operation, if the connection gets to run it. -/
def Db.access {α : Type} (db : Db) (access : Option ℤ) (transaction : ℤ → Transaction α) :
    Except StoreError α × Db :=
  match access with
  | none => (.error .unavailable, db)
  | some now => (transaction now).run db

def Stage.refused (error : AuthorityRequestError) : Stage := .done (.failed (.refused error))
def Stage.storeFailed (error : StoreError) : Stage := .done (.failed (.store error))

/-- The decision receipt of a row, derived from durable state only. -/
def unsignedReceipt (platform : Platform) (options : AuthorityServiceOptions) (row : InvocationRecord) :
    UnsignedAuthorizationReceiptV2 where
  domain := AUTHORIZATION_RECEIPT_DOMAIN
  invocationId := row.invocationId
  grantId := row.grantId
  authority := options.authorityAddress
  agent := row.agent
  permitDigest := row.request.permitDigest
  requestFingerprint := row.fingerprint
  service := row.request.service
  capability := row.request.capability
  network := row.request.network
  mint := row.request.mint
  recipient := row.request.recipient
  amountAtomic := row.amountAtomic
  decision := if row.state = .CONFIRMED then "ALLOW" else "DENY"
  reasonCodes := row.reasonCodes
  paymentTransactionId := row.paymentTransactionId
  decidedAt := row.decidedAt
  operation := row.request.operation
  operationDigest := computeOperationDigest platform row.request.operation

def signReceipt (platform : Platform) (options : AuthorityServiceOptions) (row : InvocationRecord) :
    Option SignedAuthorizationReceipt :=
  signAuthorizationReceipt platform (unsignedReceipt platform options row) options.authoritySigner

def paymentEvidence (options : AuthorityServiceOptions) (row : InvocationRecord) : Option PaymentEvidence :=
  row.paymentRequirement.map fun requirement ↦ {
    settlementProfile := some ((row.paymentAttempt.map PaymentAttempt.settlementProfile).getD
      options.paymentProvider.settlementProfile)
    protocol := some requirement.protocol
    scheme := some requirement.scheme
    challengeNetwork := some requirement.network
    asset := some requirement.asset
    payTo := some requirement.payTo
    amountAtomic := some requirement.amountAtomic
    resourceUrl := requirement.resourceUrl
    requestSha256 := row.paymentAttempt.map PaymentAttempt.requestSha256
    payer := row.paymentAttempt.map PaymentAttempt.payer
    payerSignature := row.paymentAttempt.map PaymentAttempt.payerSignature
    blockhash := row.paymentAttempt.map PaymentAttempt.blockhash
    transactionId := (row.settlement.map ConfirmedSettlement.transactionId).or row.paymentTransactionId
    slot := row.settlement.bind ConfirmedSettlement.slot
    resultSha256 := row.result.map PaidResult.sha256 }

def resultOf (options : AuthorityServiceOptions) (row : InvocationRecord)
    (receipt : SignedAuthorizationReceipt) (replay : Bool) : AuthorizeResult where
  receipt := receipt
  replay := replay
  payment := paymentEvidence options row
  result := Json.orNull PaidResult.json row.result

/-- `#ensureReceipt` up to its signature, then `#result`. -/
def ensureReceipt (options : AuthorityServiceOptions) (row : InvocationRecord) (replay : Bool) : Stage :=
  match row.receipt with
  | some receipt => .done (.returned (resultOf options row receipt replay))
  | none =>
    if row.state = .DENIED ∨ row.state = .CONFIRMED then .signing row replay
    else .done (.failed (.thrown
      s!"Invocation {row.invocationId} in state {row.state.name} has no decision receipt."))

/-- Replay, conflict or refusal from durable state alone. -/
def resolveExisting (options : AuthorityServiceOptions) (row : InvocationRecord) (fingerprint : String) :
    Stage :=
  if row.fingerprint ≠ fingerprint then .refused (invocationConflictError row.invocationId)
  else match row.state with
    | .DENIED | .CONFIRMED => ensureReceipt options row true
    | .RECONCILIATION_REQUIRED => .refused (reconciliationRequiredError row.invocationId)
    | .RESERVED => .refused (invocationInProgressError row.invocationId)
    | .FAILED => .done (.failed (.thrown s!"Unexpected FAILED invocation {row.invocationId}."))

/-! ## The decision -/

/-- The paid request of an authenticated operation, from the trusted registry. -/
def outboundRequest (platform : Platform) (options : AuthorityServiceOptions)
    (request : AuthorizationRequestV2) : Option PaidRequest :=
  (options.paidServices (paidServiceKey request.service request.capability)).bind fun resource ↦
    buildPaidRequest platform resource request.operation

/-- From the lookup of an unknown or retried invocation to its challenge or its reservation. -/
def decide (platform : Platform) (options : AuthorityServiceOptions) (auth : AuthenticatedRequest)
    (decidedAt : ℤ) : Stage :=
  if requestAllowed auth decidedAt then
    let paidRequest := outboundRequest platform options auth.request
    match (options.settlementProfiles auth.permit.network).filter fun profile ↦
        profile.name = options.paymentProvider.settlementProfile with
    | none => .reserving decidedAt ⟨paidRequest, none, none, [.SETTLEMENT_PROFILE_UNAVAILABLE]⟩
    | some profile =>
      match paidRequest with
      | none => .reserving decidedAt ⟨none, none, none, [.PAID_SERVICE_NOT_CONFIGURED]⟩
      | some paidRequest => .fetching decidedAt profile paidRequest
  else .reserving decidedAt ⟨none, none, none, []⟩

def ChallengeResult.challenge? : ChallengeResult → Option PaymentChallenge
  | .challenge challenge => some challenge
  | .rejected _ _ => none

/-- What a fetched challenge contributes to the decision. -/
def challengeTerms (options : AuthorityServiceOptions) (auth : AuthenticatedRequest)
    (profile : SettlementProfile) (paidRequest : PaidRequest) (result : ChallengeResult) : ChallengeTerms :=
  let selection := selectAndValidateChallenge result profile paidRequest auth.request
    options.paymentProvider.payerAddress
  { paidRequest := some paidRequest, challenge := ChallengeResult.challenge? result,
    requirement := selection.requirement, challengeCodes := selection.reasonCodes }

/-- The request about to be paid for is still the one the durable operation derives. -/
def outboundMatchesAuthorization (platform : Platform) (options : AuthorityServiceOptions)
    (invocation : InvocationRecord) (paidRequest : PaidRequest) : Bool :=
  match outboundRequest platform options invocation.request with
  | none => false
  | some expected =>
    expected.sha256 = paidRequest.sha256 && expected.url = paidRequest.url && expected.body = paidRequest.body

/-- The start of `#pay`. -/
def startPayment (platform : Platform) (options : AuthorityServiceOptions) (payment : Payment) : Stage :=
  if outboundMatchesAuthorization platform options payment.invocation payment.paidRequest then
    .budgeting payment
  else .releasing "outbound request does not match the authorized operation"
    (.refused (outboundRequestMismatchError payment.invocation.invocationId)) false

/-- The stage after the store answered a reservation. -/
def afterReserve (platform : Platform) (options : AuthorityServiceOptions) (auth : AuthenticatedRequest)
    (terms : ChallengeTerms) : Except StoreError ReserveResult → Stage
  | .error error => .storeFailed error
  | .ok (.grant_conflict _) => .refused (grantPermitConflictError auth.permit.grantId)
  | .ok (.existing row) => resolveExisting options row auth.fingerprint
  | .ok (.denied row) => ensureReceipt options row false
  | .ok (.reserved row) =>
    match terms.challenge, terms.requirement, terms.paidRequest with
    | some challenge, some requirement, some paidRequest =>
      startPayment platform options ⟨row, paidRequest, challenge, requirement⟩
    | _, _, _ => .releasing "internal: reserved without a payment requirement"
      (.thrown "Reserved an invocation without a payment requirement.") false

def unsignedServiceAuthorization (platform : Platform) (options : AuthorityServiceOptions)
    (permit : SignedPurchasePermitV2) (payment : Payment) (now : ℤ) : UnsignedServiceAuthorizationV1 where
  authority := options.authorityAddress
  invocationId := payment.invocation.invocationId
  grantId := permit.grantId
  url := payment.paidRequest.url
  requestSha256 := payment.paidRequest.sha256
  operationDigest := computeOperationDigest platform payment.invocation.request.operation
  payment := {
    network := payment.requirement.network, asset := payment.requirement.asset,
    payTo := payment.requirement.payTo, amountAtomic := payment.requirement.amountAtomic }
  issuedAt := now
  expiresAt := now + SERVICE_AUTHORIZATION_TTL_MS

/-- Whether an acknowledgement states exactly this invocation, authorization, request, operation,
payment, transaction and result. -/
def acknowledgementMatches (platform : Platform) (payment : Payment)
    (authorization : SignedServiceAuthorizationV1) (settlement : ConfirmedSettlement) (result : PaidResult)
    (pinned : String) (acknowledgement : SignedServiceAcknowledgementV1) : Bool :=
  verifyServiceAcknowledgementSignature platform acknowledgement pinned &&
    acknowledgement.invocationId = payment.invocation.invocationId &&
    acknowledgement.authorizationDigest = serviceAuthorizationDigest platform authorization &&
    acknowledgement.requestSha256 = payment.paidRequest.sha256 &&
    acknowledgement.received = payment.invocation.request.operation &&
    acknowledgement.asset = payment.requirement.asset &&
    acknowledgement.payTo = payment.requirement.payTo &&
    acknowledgement.amountAtomic = payment.requirement.amountAtomic &&
    acknowledgement.transaction = some settlement.transactionId &&
    acknowledgement.sha256 = result.sha256 && acknowledgement.bytes = result.bytes &&
    acknowledgement.httpStatus = result.httpStatus

/-- Keeps the acknowledgement header of a result only if it verifies against the pinned key. -/
def acceptAcknowledgement (platform : Platform) (options : AuthorityServiceOptions)
    (permit : SignedPurchasePermitV2) (payment : Payment) (authorization : SignedServiceAuthorizationV1)
    (settlement : ConfirmedSettlement) (result : PaidResult) : PaidResult :=
  { result with serviceAcknowledgementHeader := result.serviceAcknowledgementHeader.filter fun header ↦
      match options.trustedServiceKeys permit.service, decodeServiceAcknowledgementHeader platform header with
      | some pinned, .ok acknowledgement =>
        acknowledgementMatches platform payment authorization settlement result pinned acknowledgement
      | _, _ => false }

/-- The code after `store.fail`. -/
def afterRelease (failure : Failure) (tolerant : Bool) : Except StoreError Unit → Stage
  | .ok _ => .done (.failed failure)
  | .error (.invalidStateTransition invocationId expected action) =>
    if tolerant then .done (.failed failure)
    else .storeFailed (.invalidStateTransition invocationId expected action)
  | .error error => .storeFailed error

def notSubmitted (auth : AuthenticatedRequest) (message : String) : Stage :=
  .releasing message (.refused (paymentNotSubmittedFailure auth.request.invocationId)) true

/-! ## The step of a call -/

/-- One step of a call that is not waiting for another: the database and the stage after it.
`none` is an event that the stage does not await; those of the provider keep its ordering contract
(`execute_awaited`). -/
def callStep (platform : Platform) (options : AuthorityServiceOptions) (db : Db)
    (auth : AuthenticatedRequest) (stage : Stage) (event : CallEvent) : Option (Db × Stage) :=
  match stage, event with
  | .known row, .resume now =>
    match row.filter fun row ↦ !(row.state = .FAILED && row.fingerprint = auth.fingerprint) with
    | some row => some (db, resolveExisting options row auth.fingerprint)
    | none => some (db, decide platform options auth now)
  | .fetching decidedAt profile paidRequest, .challenge result =>
    some (db, .reserving decidedAt (challengeTerms options auth profile paidRequest result))
  | .fetching _ _ _, .unavailable message => some (db, .refused (paidServiceUnavailableFailure message))
  | .fetching _ _ _, .thrown message => some (db, .done (.failed (.thrown message)))
  | .reserving decidedAt terms, .store access =>
    let (result, db') := db.access access
      (reserve (reserveInput auth decidedAt terms) (evaluate auth decidedAt terms))
    some (db', afterReserve platform options auth terms result)
  | .releasing reason failure tolerant, .store access =>
    let (result, db') := db.access access (fail auth.request.invocationId reason)
    some (db', afterRelease failure tolerant result)
  | .budgeting payment, .store access =>
    match (db.access access fun _ ↦ getGrantBudget (auth.permit.issuer, auth.permit.grantId)).1 with
    | .ok _ => some (db, .authorizing payment)
    | .error error => some (db, .storeFailed error)
  | .authorizing payment, .signed now =>
    (signServiceAuthorization platform
      (unsignedServiceAuthorization platform options auth.permit payment now) options.authoritySigner).map
        fun serviceAuthorization ↦ (db, .building payment serviceAuthorization)
  | .authorizing _, .thrown message =>
    some (db, .releasing s!"service authorization not built: {message}"
      (.refused (paymentNotSubmittedFailure auth.request.invocationId)) false)
  | .building payment serviceAuthorization, .submit attempt access =>
    let (result, db') := db.access access
      (recordPaymentAttempt auth.request.invocationId attempt (some serviceAuthorization))
    match result with
    | .ok _ => some (db', .recorded payment serviceAuthorization attempt)
    | .error _ => some (db', .rejected payment)
  | .building _ _, .notSubmitted message | .rejected _, .notSubmitted message
  | .recorded _ _ _, .notSubmitted message => some (db, notSubmitted auth message)
  | .building _ _, .outcomeUnknown message | .recorded _ _ _, .outcomeUnknown message
  | .transmitted _ _ _, .outcomeUnknown message => some (db, .marking message)
  | .building payment serviceAuthorization, .executed settlement result
  | .recorded payment serviceAuthorization _, .executed settlement result
  | .transmitted payment serviceAuthorization _, .executed settlement result =>
    some (db, .confirming settlement
      (acceptAcknowledgement platform options auth.permit payment serviceAuthorization settlement result))
  | .marking reason, .store access =>
    match db.access access (markReconciliationRequired auth.request.invocationId reason) with
    | (.ok _, db') => some (db', .refused (reconciliationRequiredError auth.request.invocationId))
    | (.error error, db') => some (db', .storeFailed error)
  | .confirming settlement result, .store access =>
    match db.access access (confirm auth.request.invocationId
        ⟨settlement.transactionId, some settlement, some result⟩) with
    | (.ok row, db') => some (db', ensureReceipt options row false)
    | (.error error, db') =>
      some (db', .unrecorded s!"payment {settlement.transactionId} not recorded: {error.message}")
  | .unrecorded reason, .store access =>
    let (_, db') := db.access access (markReconciliationRequired auth.request.invocationId reason)
    some (db', .refused (reconciliationRequiredError auth.request.invocationId))
  | .signing row replay, .store access =>
    (signReceipt platform options row).map fun receipt ↦
      match db.access access (attachReceipt row.invocationId receipt) with
      | (.ok stored, db') => (db', .done (.returned (resultOf options row stored replay)))
      | (.error error, db') => (db', .storeFailed error)
  | .signing _ _, .thrown message => some (db, .done (.failed (.thrown message)))
  | _, _ => none

end VirtualHaibin.Authority
