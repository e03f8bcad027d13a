import VirtualHaibin.Evidence.Encoding
import VirtualHaibin.Evidence.Parse
import VirtualHaibin.Payments.Settlement

/-!
# The evidence verifier

Verification of a bundle against pinned trust roots.  Every relationship becomes a claim; the
report is valid when every required claim is verified and no claim is invalid.  What the verifier
trusts comes from its own configuration, never from the bundle.
-/

namespace VirtualHaibin.Evidence

open Foundation Foundation.Checked Foundation.Schema Mandate Payments Policy

inductive ClaimStatus where
  | VERIFIED
  | INVALID
  | NOT_SATISFIED
  | AUTHORITY_ATTESTED
  | SERVICE_ATTESTED
  | NOT_CHECKED
  | NOT_PROVABLE_FROM_BUNDLE
  | INDETERMINATE
  deriving DecidableEq, Repr

inductive ClaimCategory where
  | FORMAT
  | TRUST
  | INTEGRITY
  | AUTHORIZATION
  | STATIC_POLICY
  | PAYMENT
  | RESULT
  | SETTLEMENT
  | BUDGET
  | SERVICE
  deriving DecidableEq, Repr

structure Claim where
  id : String
  category : ClaimCategory
  status : ClaimStatus
  required : Bool
  detail : Option String
  deriving DecidableEq

inductive Overall where
  | VALID
  | INVALID
  | INDETERMINATE
  deriving DecidableEq, Repr

inductive Mode where
  | offline
  | online
  deriving DecidableEq, Repr

structure VerificationReport where
  overall : Overall
  mode : Mode
  decision : Option String
  purchaseState : Option String
  invocationId : Option String
  claims : List Claim
  notProven : List String

/-- Read-only access to the settlement RPC; an error is an exception with its text. -/
structure OnlineSettlementSource where
  getVersion : Except String (List (String × Json))
  getTransaction : String → Except String (Option RpcTransaction)

inductive VerifyOptions where
  | offline
  | online (rpc : OnlineSettlementSource)

def VerifyOptions.mode : VerifyOptions → Mode
  | offline => .offline
  | online _ => .online

structure VerifierTrust where
  issuer : String
  authority : String
  settlementProfiles : String → Option SettlementProfile
  service : Option String

/-- Properties no single bundle can establish, in any mode. -/
def NOT_PROVEN : List String :=
  ["that the human understood the permit they approved",
    "that the authority never bypassed policy on some other invocation",
    "the complete global cumulative budget history of the grant",
    "that no other payment was made for the same intent outside this invocation",
    "that the paid service's returned information is factually correct",
    "that the recipient actually consumed or acted on the result",
    "that the configured settlement RPC is honest (it is trusted, not trustless)"]

def ALLOW_STATES : List String := ["CONFIRMED", "FAILED", "RECONCILIATION_REQUIRED"]

/-- `VERIFIED` without problems, otherwise the failing status with the problems as detail. -/
def check (id : String) (category : ClaimCategory) (problems : List String) (required : Bool)
    (failStatus : ClaimStatus) (okDetail : Option String) : Claim where
  id := id
  category := category
  status := if problems.isEmpty then .VERIFIED else failStatus
  required := required
  detail := if problems.isEmpty then okDetail else some (String.intercalate "; " problems)

/-- A required check that invalidates the bundle. -/
def demand (id : String) (category : ClaimCategory) (problems : List String) (okDetail : Option String) :
    Claim := check id category problems true .INVALID okDetail

/-- A claim that is stated without a check. -/
def note (id : String) (category : ClaimCategory) (status : ClaimStatus) (detail : String) : Claim :=
  ⟨id, category, status, false, some detail⟩

def problemIf (found : Bool) (problem : String) : List String := if found then [problem] else []

def overallOf (claims : List Claim) : Overall :=
  if claims.any fun claim ↦ claim.status = .INVALID then .INVALID
  else
    let unmet := claims.filter fun claim ↦ claim.required && claim.status ≠ .VERIFIED
    if unmet.isEmpty then .VALID
    else if unmet.all fun claim ↦ claim.status = .INDETERMINATE then .INDETERMINATE
    else .INVALID

@[simp] theorem problemIf_eq_nil {found : Bool} {problem : String} :
    problemIf found problem = [] ↔ found = false := by
  cases found <;> simp [problemIf]

@[simp] theorem demand_status {id : String} {category : ClaimCategory} {problems : List String}
    {okDetail : Option String} : (demand id category problems okDetail).status = .INVALID ↔ problems ≠ [] := by
  cases problems <;> simp [demand, check]

@[simp] theorem demand_verified {id : String} {category : ClaimCategory} {problems : List String}
    {okDetail : Option String} :
    (demand id category problems okDetail).status = .VERIFIED ↔ problems = [] := by
  cases problems <;> simp [demand, check]

@[simp] theorem demand_required (id : String) (category : ClaimCategory) (problems : List String)
    (okDetail : Option String) : (demand id category problems okDetail).required = true := rfl

@[simp] theorem note_status (id : String) (category : ClaimCategory) (status : ClaimStatus) (detail : String) :
    (note id category status detail).status = status := rfl

@[simp] theorem note_required (id : String) (category : ClaimCategory) (status : ClaimStatus)
    (detail : String) : (note id category status detail).required = false := rfl

theorem overallOf_eq_invalid_of_mem {claims : List Claim} {claim : Claim} (hmem : claim ∈ claims)
    (h : claim.status = .INVALID) : overallOf claims = .INVALID := by
  have hany : (claims.any fun claim ↦ claim.status = .INVALID) = true :=
    List.any_eq_true.2 ⟨claim, hmem, by simpa using h⟩
  simp [overallOf, hany]

/-- No claim of a bundle that is not rejected is invalid. -/
theorem status_ne_invalid {claims : List Claim} (h : overallOf claims ≠ .INVALID) :
    ∀ claim ∈ claims, claim.status ≠ .INVALID :=
  fun _ hmem hinvalid ↦ h (overallOf_eq_invalid_of_mem hmem hinvalid)

/-- Valid means: nothing invalid, and everything required verified. -/
theorem overallOf_eq_valid {claims : List Claim} :
    overallOf claims = .VALID ↔
      ∀ claim ∈ claims, claim.status ≠ .INVALID ∧ (claim.required = true → claim.status = .VERIFIED) := by
  by_cases hany : (claims.any fun claim ↦ claim.status = .INVALID) = true
  · obtain ⟨claim, hmem, hinvalid⟩ := List.any_eq_true.1 hany
    have hinvalid : claim.status = .INVALID := by simpa using hinvalid
    simp only [overallOf_eq_invalid_of_mem hmem hinvalid, reduceCtorEq, false_iff]
    exact fun hall ↦ (hall claim hmem).1 hinvalid
  · have hnone : ∀ claim ∈ claims, claim.status ≠ .INVALID := by simpa using hany
    have hunmet : (claims.filter fun claim ↦ claim.required && claim.status ≠ .VERIFIED) = [] ↔
        ∀ claim ∈ claims, claim.required = true → claim.status = .VERIFIED := by
      simp [List.filter_eq_nil_iff]
    have hoverall : overallOf claims = .VALID ↔
        (claims.filter fun claim ↦ claim.required && claim.status ≠ .VERIFIED) = [] := by
      unfold overallOf
      rw [if_neg hany]
      cases claims.filter fun claim ↦ claim.required && claim.status ≠ .VERIFIED with
      | nil => simp
      | cons claim rest =>
        simp only [List.isEmpty_cons, Bool.false_eq_true, if_false, reduceCtorEq, iff_false]
        split <;> simp
    rw [hoverall, hunmet]
    exact ⟨fun h claim hmem ↦ ⟨hnone claim hmem, h claim hmem⟩, fun h claim hmem ↦ (h claim hmem).2⟩

/-! ## Trust and integrity -/

section

variable (platform : Platform) (bundle : EvidenceBundle) (trust : VerifierTrust)

def EvidenceBundle.state : String := bundle.manifest.purchaseState

def EvidenceBundle.allowed : Bool := bundle.state ∈ ALLOW_STATES

def EvidenceBundle.confirmed : Bool := bundle.state = "CONFIRMED"

/-- Keys named by the bundle must equal the pinned keys. -/
def trustClaims : List Claim :=
  [demand "issuer_trusted" .TRUST
      (problemIf (bundle.purchasePermit.issuer ≠ trust.issuer)
        s!"permit issuer {bundle.purchasePermit.issuer} is not the pinned trusted issuer")
      (some "permit issuer equals the pinned issuer key"),
    demand "authority_trusted" .TRUST
      (problemIf (bundle.manifest.authority ≠ trust.authority)
          s!"manifest authority {bundle.manifest.authority} is not the pinned authority" ++
        (bundle.authorityDecision.toList.flatMap fun receipt ↦
          problemIf (receipt.authority ≠ trust.authority)
            s!"receipt authority {receipt.authority} is not the pinned authority"))
      (some "manifest (and receipt) authority equals the pinned authority key")]

/-- The names under which two sets of digests differ; a digest only one of them has differs. -/
def digestProblems (recomputed signed : EvidenceDigests) : List String :=
  let differs (name : String) (recomputed signed : Option (Option String)) : List String :=
    problemIf (recomputed ≠ signed) s!"{name} digest does not match the signed manifest"
  differs "purchasePermit" (some (some recomputed.purchasePermit)) (some (some signed.purchasePermit)) ++
  differs "authorizationRequest" (some (some recomputed.authorizationRequest))
    (some (some signed.authorizationRequest)) ++
  differs "operation" (some (some recomputed.operation)) (some (some signed.operation)) ++
  differs "authorityDecision" (some recomputed.authorityDecision) (some signed.authorityDecision) ++
  differs "outboundRequest" (some recomputed.outboundRequest) (some signed.outboundRequest) ++
  differs "paymentRequirement" (some recomputed.paymentRequirement) (some signed.paymentRequirement) ++
  differs "paymentAttempt" (some recomputed.paymentAttempt) (some signed.paymentAttempt) ++
  differs "settlement" (some recomputed.settlement) (some signed.settlement) ++
  differs "result" (some recomputed.result) (some signed.result) ++
  differs "serviceAuthorization" (recomputed.service.map ServiceDigests.serviceAuthorization)
    (signed.service.map ServiceDigests.serviceAuthorization) ++
  differs "serviceAcknowledgement" (recomputed.service.map ServiceDigests.serviceAcknowledgement)
    (signed.service.map ServiceDigests.serviceAcknowledgement)

/-- Identifiers and state shape agree everywhere. -/
def stateProblems : List String :=
  let manifest := bundle.manifest
  let state := bundle.state
  let expectReceipt := state = "CONFIRMED" || state = "DENIED"
  problemIf (manifest.grantId ≠ bundle.grantId || bundle.purchasePermit.grantId ≠ bundle.grantId ||
      bundle.request.grantId ≠ bundle.grantId) "grantId differs between artifacts" ++
  problemIf (manifest.invocationId ≠ bundle.invocationId || bundle.request.invocationId ≠ bundle.invocationId)
    "invocationId differs between artifacts" ++
  problemIf (manifest.settlementProfile ≠ bundle.settlementProfile ||
      bundle.purchasePermit.network ≠ bundle.settlementProfile)
    "settlement profile differs between environment, manifest and permit" ++
  problemIf (decide (manifest.decision = "DENY") ≠ decide (state = "DENIED"))
    s!"decision {manifest.decision} is inconsistent with state {state}" ++
  problemIf (bundle.authorityDecision.isSome ≠ expectReceipt)
    ("state " ++ state ++ (if expectReceipt then " requires" else " must not carry") ++ " a decision receipt") ++
  (bundle.authorityDecision.toList.flatMap fun receipt ↦
    problemIf (receipt.invocationId ≠ bundle.invocationId || receipt.grantId ≠ bundle.grantId)
        "receipt identifiers differ" ++
      problemIf (receipt.decision ≠ manifest.decision || 
          Text.quoteAll receipt.reasonCodes ≠ Text.quoteAll manifest.reasonCodes)
        "receipt decision/reason codes differ from the manifest") ++
  (if bundle.confirmed then
    problemIf bundle.outboundRequest.isNone "CONFIRMED requires outboundRequest" ++
      problemIf bundle.paymentRequirement.isNone "CONFIRMED requires paymentRequirement" ++
      problemIf bundle.paymentAttempt.isNone "CONFIRMED requires paymentAttempt" ++
      problemIf bundle.settlement.isNone "CONFIRMED requires settlement" ++
      problemIf bundle.result.isNone "CONFIRMED requires result"
  else
    problemIf (bundle.settlement.isSome || bundle.result.isSome)
      s!"state {state} must not carry settlement or result evidence") ++
  problemIf (state = "RECONCILIATION_REQUIRED" && bundle.paymentAttempt.isNone)
    "RECONCILIATION_REQUIRED requires the recorded payment attempt" ++
  problemIf (state = "DENIED" && bundle.paymentAttempt.isSome) "DENIED must not carry a payment attempt" ++
  (bundle.service.toList.flatMap fun service ↦
    problemIf (service.serviceAcknowledgement.isSome && !bundle.confirmed)
        s!"state {state} must not carry a service acknowledgement" ++
      problemIf (service.serviceAuthorization.isSome && bundle.paymentAttempt.isNone)
        "a service authorization requires a payment attempt")

/-- Manifest signature, recomputed digests, and the shape of the state. -/
def integrityClaims : List Claim :=
  [demand "manifest_signature" .INTEGRITY
      (problemIf (!verifyEvidenceManifestSignature platform bundle.manifest trust.authority)
        "manifest signature does not verify against the pinned authority key") none,
    demand "artifact_digests" .INTEGRITY
      (digestProblems (computeEvidenceDigests platform bundle.toEvidenceArtifacts) bundle.manifest.digests)
      (some "every bundled artifact re-hashes to its manifest digest"),
    demand "state_consistent" .INTEGRITY (stateProblems bundle)
      (some s!"{bundle.state}: identifiers and artifacts agree")]

def receiptProblems (receipt : SignedAuthorizationReceipt) : List String :=
  let request := bundle.request
  problemIf (!verifyAuthorizationReceiptSignature platform receipt trust.authority)
    "receipt signature does not verify against the pinned authority key" ++
  problemIf (receipt.service ≠ request.service) "receipt service differs from the signed request" ++
  problemIf (receipt.capability ≠ request.capability) "receipt capability differs from the signed request" ++
  problemIf (receipt.network ≠ request.network) "receipt network differs from the signed request" ++
  problemIf (receipt.mint ≠ request.mint) "receipt mint differs from the signed request" ++
  problemIf (receipt.recipient ≠ request.recipient) "receipt recipient differs from the signed request" ++
  problemIf (receipt.amountAtomic ≠ request.amountAtomic)
    "receipt amountAtomic differs from the signed request" ++
  problemIf (receipt.permitDigest ≠ request.permitDigest)
    "receipt permitDigest differs from the signed request" ++
  problemIf (receipt.agent ≠ bundle.purchasePermit.authorizedAgent)
    "receipt agent is not the permit's authorizedAgent" ++
  problemIf (!operationsEqual receipt.operation request.operation)
    "receipt operation differs from the signed request" ++
  problemIf (receipt.operationDigest ≠ computeOperationDigest platform request.operation)
    "receipt operationDigest is wrong" ++
  problemIf (bundle.confirmed &&
      some receipt.paymentTransactionId ≠ bundle.settlement.map (some ·.transactionId))
    "receipt transaction differs from the settlement evidence"

/-- The permit, the request and the decision, each signed and bound to the one before. -/
def authorizationClaims : List Claim :=
  let permit := bundle.purchasePermit
  [demand "permit_signature" .AUTHORIZATION
      (match verifyPurchasePermitV2 platform permit.toJson with
        | .ok _ => []
        | .error failure => [s!"{failure.reasonCode.name}: {failure.message}"])
      (some "PurchasePermit v2 signature valid for its issuer"),
    demand "agent_request_signature" .AUTHORIZATION
      (match validateAuthorizationRequestV2 bundle.request.toJson with
        | .error message => [message]
        | .ok request =>
          problemIf (!verifyAuthorizationRequestSignature platform request bundle.agentSignature.toJson
              permit.authorizedAgent) "request is not signed by the permit's authorizedAgent")
      (some "AuthorizationRequest v2 signed by the permit's authorizedAgent"),
    demand "request_bound_to_permit" .AUTHORIZATION
      (problemIf (bundle.request.permitDigest ≠ computePermitDigest platform permit)
        "request permitDigest is not the digest of the bundled permit")
      (some "request.permitDigest equals the recomputed permit digest"),
    match bundle.authorityDecision with
    | none => note "authority_decision_signature" .AUTHORIZATION .NOT_CHECKED
        s!"no decision receipt for state {bundle.state}; the decision is attested by the manifest only"
    | some receipt => demand "authority_decision_signature" .AUTHORIZATION
        (receiptProblems platform bundle trust receipt)
        (some s!"signed {receipt.decision} receipt by the pinned authority, consistent with the request")]

/-- The policy codes recomputed at the signing time of the request; the budget is not static. -/
def staticCodes : List String :=
  let permit := bundle.purchasePermit
  let request := bundle.request
  let operationCodes := (evaluateExactOperation permit.operation request.operation).reasonCodes
  let permitCodes := (evaluatePurchasePermit permit.toUnsignedPurchasePermitV2 {
    service := request.service, capability := request.capability, network := request.network,
    mint := request.mint, recipient := request.recipient, amountAtomic := request.amountAtomic,
    alreadySpentAtomic := "0", now := request.issuedAt }).reasonCodes.filter fun code ↦
      code ≠ .TOTAL_BUDGET_EXCEEDED
  (operationCodes.map ReasonCode.name ++ permitCodes.map ReasonCode.name ++
    if request.issuedAt < permit.issuedAt then ["PERMIT_NOT_YET_VALID"] else []).eraseDups

/-- A claim, the codes that refute it, and its detail. -/
def POLICY_CLAIMS : List (String × List String × String) :=
  [("permit_time_bounds", ["PERMIT_EXPIRED", "PERMIT_NOT_YET_VALID"],
      "request signed within the permit's validity window"),
    ("service_capability_match", ["SERVICE_MISMATCH", "CAPABILITY_MISMATCH"],
      "service and capability match the permit"),
    ("network_profile_match", ["NETWORK_MISMATCH"], "network matches the permit"),
    ("mint_match", ["MINT_MISMATCH"], "requested mint matches the permit"),
    ("recipient_match", ["RECIPIENT_MISMATCH"], "requested recipient matches the permit"),
    ("per_call_limit", ["PER_CALL_LIMIT_EXCEEDED", "INVALID_AMOUNT"],
      "amount is positive and within the per-call limit"),
    ("method_resource_match", ["OPERATION_METHOD_MISMATCH", "OPERATION_RESOURCE_MISMATCH"],
      "method and resource match the human-approved operation"),
    ("operation_matches_permit", ["OPERATION_NOT_AUTHORIZED"],
      "requested operation equals the human-approved operation"),
    ("operation_arguments_match", ["OPERATION_ARGUMENT_NOT_AUTHORIZED"],
      "datasetId equals the human-approved argument")]

def decisionClaim : Claim :=
  let codes := staticCodes bundle
  let id := "decision_matches_static_policy"
  if bundle.allowed then
    demand id .STATIC_POLICY
      (problemIf (!codes.isEmpty)
        ("authority allowed, but static policy fails: " ++ String.intercalate ", " codes))
      (some "ALLOW is consistent with every recomputed static constraint")
  else if codes.isEmpty then
    note id .STATIC_POLICY .AUTHORITY_ATTESTED ("DENY for non-static reasons (" ++
      String.intercalate ", " bundle.manifest.reasonCodes ++ "); attested by the authority")
  else
    demand id .STATIC_POLICY
      ((codes.filter fun code ↦ !bundle.manifest.reasonCodes.contains code).map fun code ↦
        s!"recomputed {code} is not among the authority's reasons")
      (some ("DENY independently justified: " ++ String.intercalate ", " codes))

/-- In a denied bundle a failed condition is expected evidence, not tampering. -/
def policyClaims : List Claim :=
  (POLICY_CLAIMS.map fun entry ↦
    check entry.1 .STATIC_POLICY ((staticCodes bundle).filter entry.2.1.contains) bundle.allowed
      (if bundle.allowed then .INVALID else .NOT_SATISFIED) (some entry.2.2)) ++
  [decisionClaim bundle]

/-! ## Payment -/

def paymentClaimIds : List String :=
  ["settlement_profile_match", "x402_asset_matches", "x402_recipient_matches", "x402_amount_matches",
    "outbound_request_matches_operation", "payment_attempt_matches_requirement", "payment_transaction"]

def profileProblems (requirement : PaymentRequirement) : List String :=
  match trust.settlementProfiles bundle.purchasePermit.network with
  | none => [s!"verifier has no trusted settlement profile named {bundle.purchasePermit.network}"]
  | some profile =>
    problemIf (bundle.manifest.settlementProfile ≠ profile.name)
      "manifest settlement profile is not the permit's profile" ++
    problemIf (requirement.protocol ≠ profile.protocol || requirement.x402Version ≠ profile.x402Version)
      "unsupported payment protocol/version" ++
    problemIf (requirement.scheme ≠ profile.scheme) "unsupported payment scheme" ++
    problemIf (!profile.acceptedChallengeNetworks.contains requirement.network)
      "challenge network not accepted by the profile" ++
    problemIf (!profile.allowedAssets.contains requirement.asset) "asset not allowed by the profile" ++
    (bundle.paymentAttempt.toList.flatMap fun attempt ↦
      problemIf (attempt.settlementProfile ≠ profile.name) "payment attempt names another settlement profile" ++
        problemIf (!profile.requiredBlockhashPrefix.toList.isPrefixOf attempt.blockhash.toList)
          "payment is not bound to a blockhash of the profile's environment")

def outboundProblems (requirement : PaymentRequirement) : List String :=
  match bundle.outboundRequest with
  | none => ["no outbound request evidence"]
  | some outbound =>
    let operation := bundle.request.operation
    let path := platform.pathname outbound.url
    problemIf path.isNone "outbound URL is malformed" ++
    problemIf ("POST" ≠ operation.method) "outbound method differs from the authorized operation" ++
    problemIf (path.isSome && path ≠ some operation.resource)
      "outbound path differs from the authorized resource" ++
    problemIf (outbound.body ≠ operationRequestBody platform operation)
      "outbound body is not the authorized operation" ++
    problemIf (computePaidRequestDigest platform outbound.url outbound.body ≠ outbound.sha256)
      "outbound request digest does not match its contents" ++
    problemIf (requirement.resourceUrl ≠ some outbound.url)
      "x402 resource URL differs from the outbound URL" ++
    (bundle.paymentAttempt.toList.flatMap fun attempt ↦
      problemIf (attempt.requestSha256 ≠ outbound.sha256) "payment attempt pays for a different request")

def attemptProblems (requirement : PaymentRequirement) (attempt : PaymentAttempt) : List String :=
  let differs (field : String) (found : Bool) : List String :=
    problemIf found s!"attempt {field} differs from the selected x402 requirement"
  differs "scheme" (attempt.scheme ≠ requirement.scheme) ++
  differs "network" (attempt.network ≠ requirement.network) ++
  differs "asset" (attempt.asset ≠ requirement.asset) ++
  differs "payTo" (attempt.payTo ≠ requirement.payTo) ++
  differs "amountAtomic" (attempt.amountAtomic ≠ requirement.amountAtomic) ++
  differs "feePayer" (some attempt.feePayer ≠ requirement.feePayer) ++
  differs "resourceUrl" (some attempt.resourceUrl ≠ requirement.resourceUrl) ++
  problemIf (attempt.feePayer = attempt.payer) "payment wallet must not be the fee payer"

def transactionProblems (attempt : PaymentAttempt) (transactionBase64 : String) : List String :=
  (match validateExactPaymentTransaction platform (some transactionBase64) attempt.expected with
    | .error reason => ["transaction does not match the attempt: " ++ reason]
    | .ok valid =>
      problemIf (valid.payerSignature ≠ attempt.payerSignature)
        "transaction payer signature differs from the recorded attempt") ++
  problemIf (!verifyTransactionPayerSignature platform transactionBase64 attempt.payer)
    "payer signature does not verify over the transaction message"

def attemptClaims (requirement : PaymentRequirement) : List Claim :=
  match bundle.paymentAttempt with
  | none =>
    [note "payment_attempt_matches_requirement" .PAYMENT .NOT_CHECKED
        "no payment attempt was recorded (never submitted)",
      note "payment_transaction" .PAYMENT .NOT_CHECKED "no payment attempt"]
  | some attempt =>
    [demand "payment_attempt_matches_requirement" .PAYMENT (attemptProblems requirement attempt)
        (some "attempt facts equal the selected requirement"),
      match attempt.transactionBase64 with
      | none => note "payment_transaction" .PAYMENT .NOT_CHECKED "attempt carries no transaction bytes"
      | some transaction => demand "payment_transaction" .PAYMENT
          (transactionProblems platform attempt transaction)
          (some "payer signed exactly this TransferChecked (amount, mint, payTo token account, blockhash)")]

/-- Entered when the authority allowed a payment and the bundle carries a requirement. -/
def paymentClaims : List Claim :=
  match bundle.paymentRequirement.filter fun _ ↦ bundle.allowed with
  | none => paymentClaimIds.map fun id ↦ note id .PAYMENT .NOT_CHECKED
      (if bundle.state = "DENIED" then "denied: no payment was made"
        else "no payment requirement was obtained")
  | some requirement =>
    let permit := bundle.purchasePermit
    let request := bundle.request
    [demand "settlement_profile_match" .PAYMENT (profileProblems bundle trust requirement)
        (some s!"x402 {requirement.scheme} on {permit.network}"),
      demand "x402_asset_matches" .PAYMENT
        (problemIf (!(requirement.asset = request.mint && request.mint = permit.mint))
          "x402 asset differs from the authorized mint")
        (some "x402 asset == request mint == permit mint"),
      demand "x402_recipient_matches" .PAYMENT
        (problemIf (!(requirement.payTo = request.recipient && request.recipient = permit.recipient))
          "x402 payTo differs from the authorized recipient")
        (some "x402 payTo == request recipient == permit recipient"),
      demand "x402_amount_matches" .PAYMENT
        (problemIf (!(requirement.amountAtomic = request.amountAtomic &&
            Decimal.amount requirement.amountAtomic ≤ Decimal.amount permit.maxPerCallAtomic))
          "x402 amount differs from the authorized amount or exceeds the per-call limit")
        (some s!"x402 amount {requirement.amountAtomic} == request amount, <= per-call limit"),
      demand "outbound_request_matches_operation" .PAYMENT (outboundProblems platform bundle requirement)
        (some ("outbound POST body/path re-derived from the signed operation; " ++
          "attempt pays for that request digest"))] ++
    attemptClaims platform bundle requirement

def resultClaims : List Claim :=
  match bundle.result with
  | none => [note "result_digest" .RESULT .NOT_CHECKED s!"no result for state {bundle.state}"]
  | some result =>
    let bytes := platform.decodeBase64 result.bodyBase64
    [demand "result_digest" .RESULT
        (if platform.encodeBase64 bytes ≠ result.bodyBase64 then ["result body is not canonical base64"]
        else problemIf (platform.sha256HexOfBytes bytes ≠ result.sha256 || (bytes.length : ℤ) ≠ result.bytes)
          "result bytes do not hash to the recorded result digest")
        (some "bundled result bytes hash to the recorded SHA-256"),
      note "result_observed_by_authority" .RESULT .AUTHORITY_ATTESTED
        ("the authority's signed manifest binds this result to the invocation; " ++
          "the service did not sign it")]

def budgetClaims : List Claim :=
  [note "total_budget_decision" .BUDGET .AUTHORITY_ATTESTED
      (if bundle.manifest.reasonCodes.contains "TOTAL_BUDGET_EXCEEDED" then
        "authority denied for the grant's total budget (its durable state, not in the bundle)"
      else "reserved + consumed + amount <= maxTotal was decided by the authority against its durable state"),
    note "global_budget_completeness" .BUDGET .NOT_PROVABLE_FROM_BUNDLE
      "one bundle does not contain the grant's complete invocation history"]

def correctness : Claim :=
  note "result_correctness" .SERVICE .NOT_PROVABLE_FROM_BUNDLE
    "whether the returned information is correct is never provable from signatures"

def resultAttestation (detail : String) : Claim :=
  note "service_result_attestation" .SERVICE .NOT_PROVABLE_FROM_BUNDLE detail

/-- What the authority told the service. -/
def serviceAuthorizationProblems (authorization : SignedServiceAuthorizationV1) : List String :=
  problemIf (!verifyServiceAuthorizationSignature platform authorization trust.authority)
    "authorization is not signed by the pinned authority" ++
  problemIf (authorization.invocationId ≠ bundle.invocationId || authorization.grantId ≠ bundle.grantId)
    "authorization identifiers differ" ++
  problemIf (!bundle.outboundRequest.any fun outbound ↦
      authorization.url = outbound.url && authorization.requestSha256 = outbound.sha256)
    "authorization covers a different HTTP request" ++
  problemIf (authorization.operationDigest ≠ computeOperationDigest platform bundle.request.operation)
    "authorization covers a different operation" ++
  problemIf (!bundle.paymentRequirement.any fun requirement ↦
      authorization.payment.network = requirement.network && authorization.payment.asset = requirement.asset &&
      authorization.payment.payTo = requirement.payTo &&
      authorization.payment.amountAtomic = requirement.amountAtomic)
    "authorization payment terms differ from the x402 requirement"

/-- What the service said back, checked under its pinned key. -/
def acknowledgementProblems (pinnedService : String) (authorization : Option SignedServiceAuthorizationV1)
    (ack : SignedServiceAcknowledgementV1) : List String :=
  problemIf (!verifyServiceAcknowledgementSignature platform ack pinnedService)
    "acknowledgement is not signed by the pinned service key" ++
  problemIf (ack.invocationId ≠ bundle.invocationId) "acknowledgement is for another invocation" ++
  problemIf (!authorization.any fun authorization ↦
      ack.authorizationDigest = serviceAuthorizationDigest platform authorization)
    "acknowledgement accepted a different authorization" ++
  problemIf (!bundle.outboundRequest.any fun outbound ↦ ack.requestSha256 = outbound.sha256)
    "service received a different HTTP request" ++
  problemIf (!operationsEqual ack.received bundle.request.operation)
    "service reports performing a different operation" ++
  problemIf (!bundle.paymentRequirement.any fun requirement ↦
      ack.asset = requirement.asset && ack.payTo = requirement.payTo &&
      ack.amountAtomic = requirement.amountAtomic)
    "service reports different payment terms" ++
  problemIf (some ack.transaction ≠ bundle.settlement.map (some ·.transactionId))
    "service reports a different payment transaction" ++
  problemIf (!bundle.result.any fun result ↦
      ack.sha256 = result.sha256 && ack.bytes = result.bytes && ack.httpStatus = result.httpStatus)
    "service signed different result bytes than the bundle carries"

def serviceAuthorizationClaim (authorization : Option SignedServiceAuthorizationV1) : Claim :=
  match authorization with
  | none => note "service_authorization" .SERVICE .NOT_CHECKED
      (if bundle.paymentAttempt.isNone then "no payment was attempted"
        else "no service authorization recorded for this attempt")
  | some authorization => demand "service_authorization" .SERVICE
      (serviceAuthorizationProblems platform bundle trust authorization)
      (some "authority-signed service authorization for exactly this request, operation and payment")

def acknowledgementClaims (service : ServiceExchange) : List Claim :=
  match trust.service with
  | none =>
    [note "service_trusted" .SERVICE .NOT_CHECKED "no service key pinned (--service-trust)",
      note "service_acknowledgement" .SERVICE .NOT_CHECKED
        (if service.serviceAcknowledgement.isNone then "no service acknowledgement"
          else "present, but no service key pinned to verify it"),
      resultAttestation "no pinned service key"]
  | some pinnedService =>
    if !bundle.confirmed then
      [note "service_trusted" .SERVICE .NOT_CHECKED s!"no fulfillment for state {bundle.state}",
        note "service_acknowledgement" .SERVICE .NOT_CHECKED s!"no fulfillment for state {bundle.state}",
        resultAttestation "nothing was fulfilled"]
    else match service.serviceAcknowledgement with
      | none =>
        [demand "service_trusted" .SERVICE
            ["a service key is pinned but the bundle has no service acknowledgement"] none,
          demand "service_acknowledgement" .SERVICE ["missing"] none,
          resultAttestation "no service acknowledgement"]
      | some ack =>
        let problems := acknowledgementProblems platform bundle pinnedService service.serviceAuthorization ack
        [demand "service_trusted" .SERVICE
            (problemIf (ack.service ≠ pinnedService)
              s!"acknowledgement service {ack.service} is not the pinned service")
            (some "acknowledgement names the pinned service key"),
          demand "service_acknowledgement" .SERVICE problems
            (some ("signed by the pinned service: accepted this authorization, performed " ++
              bundle.request.operation.operation ++ "(" ++ bundle.request.operation.datasetId ++
              "), paid by " ++ ack.transaction.getD "?" ++ ", returned these result bytes")),
          note "service_result_attestation" .SERVICE
            (if problems.isEmpty then .SERVICE_ATTESTED else .INVALID)
            ("the service (not only the authority) attests it produced exactly this result " ++
              "for this paid request")]

def serviceClaims : List Claim :=
  match bundle.service with
  | none =>
    ["service_authorization", "service_trusted", "service_acknowledgement"].map (fun id ↦
      note id .SERVICE .NOT_CHECKED "EvidenceBundleV1 predates the service authorization exchange") ++
    [resultAttestation "no service signature in a v1 bundle", correctness]
  | some service =>
    serviceAuthorizationClaim platform bundle trust service.serviceAuthorization ::
      (acknowledgementClaims platform bundle trust service ++ [correctness])

/-- The settlement as the configured RPC shows it; an exception leaves it undecided. -/
def observeSettlement (rpc : OnlineSettlementSource) (settlement : ConfirmedSettlement)
    (attempt : PaymentAttempt) : Except String (ClaimStatus × String) := do
  let version ← rpc.getVersion
  if (trust.settlementProfiles bundle.purchasePermit.network).isSome &&
      (text version "surfnet-version").isNone then
    return (.INDETERMINATE, "configured RPC does not identify as the Solana Payment Sandbox; " ++
      "cannot observe this profile's settlement")
  else
    match ← rpc.getTransaction settlement.transactionId with
    | none => return (.INDETERMINATE,
        s!"transaction {settlement.transactionId} is not visible on the configured RPC")
    | some tx =>
      match ← checkSettledTransaction platform (some tx) attempt.settlementFacts with
      | .settled transactionId slot =>
        if transactionId = settlement.transactionId then
          return (.VERIFIED, "observed on the configured RPC: succeeded, payer-signed TransferChecked " ++
            attempt.amountAtomic ++ " of " ++ attempt.asset ++ " to payTo " ++ attempt.payTo ++
            slot.elim "" fun slot ↦ " (slot " ++ slot ++ ")")
        else return (.INVALID, "transaction id differs from the settlement evidence")
      | .notThisPayment => return (.INVALID, "transaction does not carry the recorded payer signature")
      | .failedOnchain _ error => return (.INVALID, s!"transaction failed on-chain: {error}")
      | .factsMismatch _ detail => return (.INVALID, detail)

def settlementClaim (options : VerifyOptions) : Claim :=
  match bundle.confirmed, bundle.settlement, bundle.paymentAttempt with
  | true, some settlement, some attempt =>
    match options with
    | .offline => note "settlement" .SETTLEMENT .AUTHORITY_ATTESTED ("authority reports transaction " ++
        settlement.transactionId ++ "; use --online to observe it independently")
    | .online rpc =>
      match observeSettlement platform bundle trust rpc settlement attempt with
      | .ok (status, detail) => ⟨"settlement", .SETTLEMENT, status, true, some detail⟩
      | .error message => ⟨"settlement", .SETTLEMENT, .INDETERMINATE, true,
          some ("settlement RPC unavailable: " ++ message)⟩
  | _, _, _ =>
    note "settlement" .SETTLEMENT
      (if bundle.state = "RECONCILIATION_REQUIRED" then .INDETERMINATE else .NOT_CHECKED)
      (if bundle.state = "RECONCILIATION_REQUIRED" then
          "payment outcome unknown: NOT confirmed (authority must reconcile)"
        else if bundle.state = "FAILED" then "no settlement: the payment failed or was never submitted"
        else "no settlement: denied before payment")

/-! ## The report -/

def verifyParsed (options : VerifyOptions) : List Claim :=
  trustClaims bundle trust ++ integrityClaims platform bundle trust ++
    authorizationClaims platform bundle trust ++ policyClaims bundle ++
    paymentClaims platform bundle trust ++ resultClaims platform bundle ++ budgetClaims bundle ++
    serviceClaims platform bundle trust ++ [settlementClaim platform bundle trust options]

end

def formatClaim (bundle : EvidenceBundle) : Claim :=
  ⟨"bundle_format", .FORMAT, .VERIFIED, true,
    some ("EvidenceBundleV" ++ (versionNumber bundle.service).repr ++ ", strict schema")⟩

def verifyEvidenceBundle (platform : Platform) (input : BundleInput) (trust : VerifierTrust)
    (options : VerifyOptions) : VerificationReport :=
  match parseEvidenceBundle platform input with
  | .error failure => {
      overall := .INVALID, mode := options.mode, decision := none, purchaseState := none,
      invocationId := none,
      claims := [⟨"bundle_format", .FORMAT, .INVALID, true, some failure.message⟩],
      notProven := NOT_PROVEN }
  | .ok bundle =>
    let claims := formatClaim bundle :: verifyParsed platform bundle trust options
    { overall := overallOf claims, mode := options.mode, decision := some bundle.manifest.decision,
      purchaseState := some bundle.state, invocationId := some bundle.invocationId, claims,
      notProven := NOT_PROVEN }

end VirtualHaibin.Evidence
