import VirtualHaibin.Authority.Challenge
import VirtualHaibin.Authority.Store

/-!
# Authentication and the decision

Who may ask, what an invocation asks for, and the budget evaluator that combines the signed
request with the terms of the real challenge.  Nothing here reads or writes durable state.
-/

namespace VirtualHaibin.Authority

open Foundation Foundation.Checked Mandate Payments Policy Evidence

/-- The one issuer that may spend, and the settlement profiles it may spend on. -/
structure IssuerEntitlement where
  issuer : String
  settlementProfiles : List String

/-- The options of one authority process. -/
structure AuthorityServiceOptions where
  authoritySigner : String
  authorityAddress : String
  audience : String
  issuerEntitlement : IssuerEntitlement
  trustedServiceKeys : String → Option String
  paymentProvider : ProviderPins
  paidServices : PaidServiceRegistry
  settlementProfiles : String → Option SettlementProfile
  maxRequestAgeMs : ℤ
  maxFutureSkewMs : ℤ

inductive AuthorityReasonCode where
  | PERMIT_INVALID
  | ISSUER_NOT_ENTITLED
  | AGENT_SIGNATURE_MISSING
  | AGENT_SIGNATURE_INVALID
  | REQUEST_AUDIENCE_MISMATCH
  | REQUEST_GRANT_MISMATCH
  | REQUEST_PERMIT_DIGEST_MISMATCH
  | REQUEST_TIMESTAMP_OUT_OF_RANGE
  | INVOCATION_CONFLICT
  | INVOCATION_IN_PROGRESS
  | GRANT_PERMIT_CONFLICT
  | PAYMENT_NOT_SUBMITTED
  | PAID_SERVICE_UNAVAILABLE
  | OUTBOUND_REQUEST_MISMATCH
  | RECONCILIATION_REQUIRED
  | INVOCATION_NOT_FOUND
  | EVIDENCE_NOT_FINAL
  | EVIDENCE_UNAVAILABLE
  deriving DecidableEq, Repr

/-- A refusal of the authority, before or instead of a decision receipt. -/
structure AuthorityRequestError where
  statusCode : ℕ
  reasonCode : AuthorityReasonCode
  message : String
  details : List (String × String)
  deriving DecidableEq

def agentAuthenticationError (reasonCode : AuthorityReasonCode) (message : String)
    (details : List (String × String)) : AuthorityRequestError :=
  ⟨401, reasonCode, message, details⟩

def issuerNotEntitledError (issuer : String) : AuthorityRequestError :=
  ⟨403, .ISSUER_NOT_ENTITLED, "The permit issuer is not entitled to authorize spending from this authority.",
    [("issuer", issuer)]⟩

def outboundRequestMismatchError (invocationId : String) : AuthorityRequestError :=
  ⟨500, .OUTBOUND_REQUEST_MISMATCH,
    s!"Outbound request for invocation {invocationId} does not match the authorized operation.",
    [("invocationId", invocationId)]⟩

def invocationConflictError (invocationId : String) : AuthorityRequestError :=
  ⟨409, .INVOCATION_CONFLICT, s!"invocationId {invocationId} was already used for a different request.",
    [("invocationId", invocationId)]⟩

def invocationInProgressError (invocationId : String) : AuthorityRequestError :=
  ⟨409, .INVOCATION_IN_PROGRESS, s!"Invocation {invocationId} is already being processed.",
    [("invocationId", invocationId)]⟩

def grantPermitConflictError (grantId : String) : AuthorityRequestError :=
  ⟨409, .GRANT_PERMIT_CONFLICT, s!"Grant {grantId} is already bound to a different permit.",
    [("grantId", grantId)]⟩

def paymentNotSubmittedFailure (invocationId : String) : AuthorityRequestError :=
  ⟨502, .PAYMENT_NOT_SUBMITTED, s!"Payment for invocation {invocationId} was not submitted; it may be retried.",
    [("invocationId", invocationId)]⟩

def paidServiceUnavailableFailure (message : String) : AuthorityRequestError :=
  ⟨502, .PAID_SERVICE_UNAVAILABLE, message, []⟩

def reconciliationRequiredError (invocationId : String) : AuthorityRequestError :=
  ⟨409, .RECONCILIATION_REQUIRED,
    s!"Payment outcome for invocation {invocationId} is unknown; reconciliation is required before any retry.",
    [("invocationId", invocationId)]⟩

/-! ## Authentication -/

/-- The request passed the structural validation of the HTTP boundary; the rest is untrusted. -/
structure AuthorizeRequestInput where
  permit : Json
  authorizationRequest : AuthorizationRequestV2
  agentSignature : Option Json
  valid : authorizationRequest.Valid

structure AuthenticatedRequest where
  permit : SignedPurchasePermitV2
  request : AuthorizationRequestV2
  agentSignature : AgentRequestSignature
  operationDigest : String
  fingerprint : String

/-- What an invocation asks for.  The signing time and the audience are not part of it. -/
@[ext] structure FingerprintInput where
  permitDigest : String
  grantId : String
  agent : String
  invocationId : String
  service : String
  capability : String
  network : String
  mint : String
  recipient : String
  amountAtomic : String
  operationDigest : String
  deriving DecidableEq

def FingerprintInput.toJson (input : FingerprintInput) : Json :=
  .obj [("version", .int 2), ("permitDigest", .str input.permitDigest), ("grantId", .str input.grantId),
    ("agent", .str input.agent), ("invocationId", .str input.invocationId), ("service", .str input.service),
    ("capability", .str input.capability), ("network", .str input.network), ("mint", .str input.mint),
    ("recipient", .str input.recipient), ("amountAtomic", .str input.amountAtomic),
    ("operationDigest", .str input.operationDigest)]

def fingerprintInput (permit : SignedPurchasePermitV2) (request : AuthorizationRequestV2)
    (operationDigest : String) : FingerprintInput where
  permitDigest := request.permitDigest
  grantId := permit.grantId
  agent := permit.authorizedAgent
  invocationId := request.invocationId
  service := request.service
  capability := request.capability
  network := request.network
  mint := request.mint
  recipient := request.recipient
  amountAtomic := request.amountAtomic
  operationDigest := operationDigest

def computeRequestFingerprint (platform : Platform) (permit : SignedPurchasePermitV2)
    (request : AuthorizationRequestV2) (operationDigest : String) : String :=
  platform.sha256Hex ("virtual-haibin/invocation-fingerprint:v2\n" ++
    platform.canonicalize (fingerprintInput permit request operationDigest).toJson)

def isNullish : Option Json → Bool
  | none | some .null => true
  | _ => false

/-- The `signature` of a verified agent signature. -/
def normalizedSignature (candidate : Option Json) : String :=
  ((object? candidate).bind fun record ↦ text record "signature").getD ""

def authenticate (platform : Platform) (options : AuthorityServiceOptions) (input : AuthorizeRequestInput)
    (now : ℤ) : Except AuthorityRequestError AuthenticatedRequest := do
  let request := input.authorizationRequest
  guardThat (!isNullish input.agentSignature)
    (agentAuthenticationError .AGENT_SIGNATURE_MISSING "agentSignature is required." [])
  let permit ← (verifyPurchasePermitV2 platform input.permit).mapError fun failure ↦
    agentAuthenticationError .PERMIT_INVALID s!"Purchase permit is invalid: {failure.message}"
      [("permitReasonCode", failure.reasonCode.name)]
  -- A valid signature is not entitlement: only the configured issuer may spend, on its profiles.
  guardThat (permit.issuer = options.issuerEntitlement.issuer &&
    options.issuerEntitlement.settlementProfiles.contains permit.network) (issuerNotEntitledError permit.issuer)
  guardThat (verifyAuthorizationRequestSignature platform request (input.agentSignature.getD .null)
      permit.authorizedAgent)
    (agentAuthenticationError .AGENT_SIGNATURE_INVALID
      "Agent signature does not verify against the permit's authorizedAgent." [])
  guardThat (request.audience = options.audience)
    (agentAuthenticationError .REQUEST_AUDIENCE_MISMATCH
      "Authorization request is addressed to a different authority." [])
  guardThat (request.grantId = permit.grantId)
    (agentAuthenticationError .REQUEST_GRANT_MISMATCH
      "Authorization request grantId does not match the permit." [])
  guardThat (request.permitDigest = computePermitDigest platform permit)
    (agentAuthenticationError .REQUEST_PERMIT_DIGEST_MISMATCH
      "Authorization request was signed for a different permit." [])
  guardThat (!(request.issuedAt < now - options.maxRequestAgeMs || now + options.maxFutureSkewMs < request.issuedAt))
    (agentAuthenticationError .REQUEST_TIMESTAMP_OUT_OF_RANGE
      "Authorization request timestamp is outside the accepted window." [])
  let operationDigest := computeOperationDigest platform request.operation
  return {
    permit, request, agentSignature := ⟨normalizedSignature input.agentSignature⟩, operationDigest,
    fingerprint := computeRequestFingerprint platform permit request operationDigest }

/-- What `authenticate` establishes of the request it returns. -/
structure Authenticated (platform : Platform) (options : AuthorityServiceOptions) (now : ℤ)
    (auth : AuthenticatedRequest) : Prop where
  permit_verified : auth.permit.Verified platform
  issuer_eq : auth.permit.issuer = options.issuerEntitlement.issuer
  network_mem : auth.permit.network ∈ options.issuerEntitlement.settlementProfiles
  request_valid : auth.request.Valid
  signed : verifyAuthorizationRequestSignature platform auth.request auth.agentSignature.toJson
    auth.permit.authorizedAgent = true
  audience_eq : auth.request.audience = options.audience
  grantId_eq : auth.request.grantId = auth.permit.grantId
  permitDigest_eq : auth.request.permitDigest = computePermitDigest platform auth.permit
  not_stale : now - options.maxRequestAgeMs ≤ auth.request.issuedAt
  not_future : auth.request.issuedAt ≤ now + options.maxFutureSkewMs
  operationDigest_eq : auth.operationDigest = computeOperationDigest platform auth.request.operation
  fingerprint_eq : auth.fingerprint =
    computeRequestFingerprint platform auth.permit auth.request auth.operationDigest

/-- Normalizing a verified signature keeps what verification reads. -/
theorem verifyAuthorizationRequestSignature_normalized {platform : Platform}
    {request : AuthorizationRequestV2} {candidate : Option Json} {agent : String}
    (h : verifyAuthorizationRequestSignature platform request (candidate.getD .null) agent = true) :
    verifyAuthorizationRequestSignature platform request
      (AgentRequestSignature.toJson ⟨normalizedSignature candidate⟩) agent = true := by
  obtain ⟨record, signature, hrecord, hsignature, hformat, halgorithm, haddress, himports, hverify⟩ :=
    verifyAuthorizationRequestSignature_eq_true.1 h
  cases candidate with
  | none => cases hrecord
  | some value =>
    simp only [Option.getD_some] at hrecord
    subst hrecord
    have hnormalized : normalizedSignature (some (.obj record)) = signature := by
      simp [normalizedSignature, object?, hsignature]
    rw [hnormalized, verifyAuthorizationRequestSignature_eq_true]
    exact ⟨_, signature, rfl, rfl, hformat, rfl, haddress, himports, hverify⟩

theorem authenticate_ok {platform : Platform} {options : AuthorityServiceOptions}
    {input : AuthorizeRequestInput} {now : ℤ} {auth : AuthenticatedRequest}
    (h : authenticate platform options input now = .ok auth) : Authenticated platform options now auth := by
  unfold authenticate at h
  simp only [guardThat_bind_eq_ok, mapError_bind_eq_ok, Bool.and_eq_true, decide_eq_true_eq,
    List.contains_eq_mem, Bool.not_eq_true', Bool.or_eq_false_iff, decide_eq_false_iff_not, not_lt] at h
  obtain ⟨-, permit, hpermit, ⟨hissuer, hnetwork⟩, hsigned, haudience, hgrantId, hdigest, ⟨hstale, hfuture⟩, h⟩ := h
  cases h
  exact {
    permit_verified := verifyPurchasePermitV2_verified hpermit, issuer_eq := hissuer, network_mem := hnetwork,
    request_valid := input.valid, signed := verifyAuthorizationRequestSignature_normalized hsigned,
    audience_eq := haudience, grantId_eq := hgrantId, permitDigest_eq := hdigest, not_stale := hstale,
    not_future := hfuture, operationDigest_eq := rfl, fingerprint_eq := rfl }

theorem authenticate_request {platform : Platform} {options : AuthorityServiceOptions}
    {input : AuthorizeRequestInput} {now : ℤ} {auth : AuthenticatedRequest}
    (h : authenticate platform options input now = .ok auth) : auth.request = input.authorizationRequest := by
  unfold authenticate at h
  simp only [guardThat_bind_eq_ok, mapError_bind_eq_ok] at h
  obtain ⟨-, permit, -, -, -, -, -, -, -, h⟩ := h
  cases h
  rfl

/-! ## The decision -/

/-- The codes of both evaluators for one set of payment terms. -/
def policyCodes (auth : AuthenticatedRequest) (decidedAt : ℤ) (mint recipient amountAtomic committed : String) :
    List ReasonCode :=
  (evaluateExactOperation auth.permit.operation auth.request.operation).reasonCodes ++
    (evaluatePurchasePermit auth.permit.toUnsignedPurchasePermitV2 {
      service := auth.request.service, capability := auth.request.capability,
      network := auth.request.network, mint, recipient, amountAtomic, alreadySpentAtomic := committed,
      now := decidedAt }).reasonCodes

def requestCodes (auth : AuthenticatedRequest) (decidedAt : ℤ) (committed : String) : List ReasonCode :=
  policyCodes auth decidedAt auth.request.mint auth.request.recipient auth.request.amountAtomic committed

/-- Whether the signed request itself is permitted, the shared budget aside. -/
def requestAllowed (auth : AuthenticatedRequest) (decidedAt : ℤ) : Bool :=
  requestCodes auth decidedAt "0" = []

/-- What the challenge contributed to a decision. -/
structure ChallengeTerms where
  paidRequest : Option PaidRequest
  challenge : Option PaymentChallenge
  requirement : Option PaymentRequirement
  challengeCodes : List ReasonCode

/-- Every violated rule, each code once, in the order of the first report. -/
def decisionCodes (auth : AuthenticatedRequest) (decidedAt : ℤ) (terms : ChallengeTerms) (committed : String) :
    List ReasonCode :=
  let codes := (requestCodes auth decidedAt committed ++ terms.challengeCodes).eraseDups
  match terms.requirement with
  | some requirement => (codes ++ policyCodes auth decidedAt requirement.asset requirement.payTo
      requirement.amountAtomic committed).eraseDups
  | none => if codes = [] then [.CHALLENGE_MALFORMED] else codes

def evaluate (auth : AuthenticatedRequest) (decidedAt : ℤ) (terms : ChallengeTerms) : BudgetEvaluator :=
  fun committed ↦
    let codes := decisionCodes auth decidedAt terms committed
    some (if codes = [] then .allowed else .refused (codes.map ReasonCode.name))

def reserveInput (auth : AuthenticatedRequest) (decidedAt : ℤ) (terms : ChallengeTerms) : ReserveInput where
  invocationId := auth.request.invocationId
  fingerprint := auth.fingerprint
  grant := {
    issuer := auth.permit.issuer, grantId := auth.permit.grantId,
    permitDigest := auth.request.permitDigest, maxTotalAtomic := auth.permit.maxTotalAtomic }
  agent := auth.permit.authorizedAgent
  request := auth.request
  amountAtomic := auth.request.amountAtomic
  decidedAt := decidedAt
  paymentRequirement := terms.requirement
  authorization := some ⟨auth.permit, auth.agentSignature⟩

theorem eraseDups_eq_nil {codes : List ReasonCode} : codes.eraseDups = [] ↔ codes = [] := by
  rw [List.eq_nil_iff_forall_not_mem, List.eq_nil_iff_forall_not_mem]
  simp only [List.mem_eraseDups]

/-- Nothing that is objected to is lost. -/
theorem mem_decisionCodes {auth : AuthenticatedRequest} {decidedAt : ℤ} {terms : ChallengeTerms}
    {committed : String} {code : ReasonCode}
    (h : code ∈ requestCodes auth decidedAt committed ++ terms.challengeCodes) :
    code ∈ decisionCodes auth decidedAt terms committed := by
  have hcode : code ∈ (requestCodes auth decidedAt committed ++ terms.challengeCodes).eraseDups :=
    List.mem_eraseDups.2 h
  unfold decisionCodes
  cases terms.requirement with
  | some requirement => exact List.mem_eraseDups.2 (List.mem_append_left _ hcode)
  | none =>
    dsimp only
    rwa [if_neg (List.ne_nil_of_mem hcode)]

/-- An allowed decision rests on a requirement without any objection. -/
theorem evaluate_allowed {auth : AuthenticatedRequest} {decidedAt : ℤ} {terms : ChallengeTerms}
    {committed : String} (h : evaluate auth decidedAt terms committed = some .allowed) :
    requestCodes auth decidedAt committed = [] ∧ terms.challengeCodes = [] ∧
      ∃ requirement, terms.requirement = some requirement ∧
        policyCodes auth decidedAt requirement.asset requirement.payTo requirement.amountAtomic committed =
          [] := by
  simp only [evaluate, Option.some.injEq] at h
  split at h
  · rename_i hcodes
    unfold decisionCodes at hcodes
    simp only at hcodes
    split at hcodes
    · rename_i requirement hrequirement
      rw [eraseDups_eq_nil, List.append_eq_nil_iff, eraseDups_eq_nil, List.append_eq_nil_iff] at hcodes
      exact ⟨hcodes.1.1, hcodes.1.2, requirement, hrequirement, hcodes.2⟩
    · split at hcodes
      · cases hcodes
      · rename_i hne
        exact absurd hcodes hne
  · cases h

end VirtualHaibin.Authority
