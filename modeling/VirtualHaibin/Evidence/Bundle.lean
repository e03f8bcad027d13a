import VirtualHaibin.Evidence.Receipt

/-!
# Evidence bundles

The portable record of one purchase invocation, its JSON, and the manifest that binds its artifacts
by digest under the authority's signature.
-/

namespace VirtualHaibin.Evidence

open Foundation Mandate Payments

def EVIDENCE_BUNDLE_DOMAIN : String := "virtual-haibin/evidence-bundle"
def EVIDENCE_MANIFEST_DOMAIN : String := "virtual-haibin/evidence-manifest"
def PURCHASE_STATES : List String := ["CONFIRMED", "DENIED", "FAILED", "RECONCILIATION_REQUIRED"]

/-- `contentType` is `application/json` in every value of this type. -/
@[ext] structure EvidenceResult where
  httpStatus : ℤ
  bodyBase64 : String
  bytes : ℤ
  sha256 : String
  deriving DecidableEq

/-- The digests that only version 2 has. -/
@[ext] structure ServiceDigests where
  serviceAuthorization : Option String
  serviceAcknowledgement : Option String
  deriving DecidableEq

@[ext] structure EvidenceDigests where
  purchasePermit : String
  authorizationRequest : String
  operation : String
  authorityDecision : Option String
  outboundRequest : Option String
  paymentRequirement : Option String
  paymentAttempt : Option String
  settlement : Option String
  result : Option String
  service : Option ServiceDigests
  deriving DecidableEq

/-- Version 2 exactly when its digests have a service part. -/
@[ext] structure UnsignedEvidenceManifest where
  authority : String
  issuedAt : ℤ
  settlementProfile : String
  grantId : String
  invocationId : String
  purchaseState : String
  decision : String
  reasonCodes : List String
  digests : EvidenceDigests
  deriving DecidableEq

structure SignedEvidenceManifest extends UnsignedEvidenceManifest where
  signature : String
  deriving DecidableEq

/-- The service exchange, which only version 2 has. -/
structure ServiceExchange where
  serviceAuthorization : Option SignedServiceAuthorizationV1
  serviceAcknowledgement : Option SignedServiceAcknowledgementV1

/-- The identifiers and artifacts of a bundle; version 2 exactly when it has a service part. -/
@[ext] structure EvidenceArtifacts where
  settlementProfile : String
  grantId : String
  invocationId : String
  purchasePermit : SignedPurchasePermitV2
  request : AuthorizationRequestV2
  agentSignature : AgentRequestSignature
  authorityDecision : Option SignedAuthorizationReceipt
  outboundRequest : Option PaidRequest
  paymentRequirement : Option PaymentRequirement
  paymentAttempt : Option PaymentAttempt
  settlement : Option ConfirmedSettlement
  result : Option EvidenceResult
  service : Option ServiceExchange

structure EvidenceBundle extends EvidenceArtifacts where
  manifest : SignedEvidenceManifest

/-! ## JSON of the artifacts -/

def outboundRequestJson (request : PaidRequest) : Json :=
  .obj [("method", .str "POST"), ("url", .str request.url), ("contentType", .str "application/json"),
    ("body", .str request.body), ("sha256", .str request.sha256)]

def requirementJson (requirement : PaymentRequirement) : Json :=
  .obj [("protocol", .str requirement.protocol), ("x402Version", .int requirement.x402Version),
    ("acceptsIndex", .int requirement.acceptsIndex), ("scheme", .str requirement.scheme),
    ("network", .str requirement.network), ("asset", .str requirement.asset),
    ("payTo", .str requirement.payTo), ("amountAtomic", .str requirement.amountAtomic),
    ("feePayer", Json.orNull .str requirement.feePayer),
    ("maxTimeoutSeconds", Json.orNull .num requirement.maxTimeoutSeconds),
    ("resourceUrl", Json.orNull .str requirement.resourceUrl)]

def attemptJson (attempt : PaymentAttempt) : Json :=
  .obj ([("protocol", .str attempt.protocol), ("scheme", .str attempt.scheme),
    ("settlementProfile", .str attempt.settlementProfile), ("network", .str attempt.network),
    ("payer", .str attempt.payer), ("payerSignature", .str attempt.payerSignature),
    ("feePayer", .str attempt.feePayer), ("asset", .str attempt.asset), ("payTo", .str attempt.payTo),
    ("amountAtomic", .str attempt.amountAtomic), ("blockhash", .str attempt.blockhash),
    ("lastValidBlockHeight", .str attempt.lastValidBlockHeight),
    ("resourceUrl", .str attempt.resourceUrl), ("requestSha256", .str attempt.requestSha256)] ++
    (attempt.transactionBase64.map fun transaction ↦ ("transactionBase64", .str transaction)).toList ++
    [("preparedAt", .int attempt.preparedAt)])

def settlementJson (settlement : ConfirmedSettlement) : Json :=
  .obj [("transactionId", .str settlement.transactionId), ("slot", Json.orNull .str settlement.slot),
    ("facilitatorReportedTransaction", Json.orNull .str settlement.facilitatorReportedTransaction),
    ("confirmedAt", .int settlement.confirmedAt)]

def EvidenceResult.toJson (result : EvidenceResult) : Json :=
  .obj [("httpStatus", .int result.httpStatus), ("contentType", .str "application/json"),
    ("bodyBase64", .str result.bodyBase64), ("bytes", .int result.bytes), ("sha256", .str result.sha256)]

def authorizationRequestJson (request : AuthorizationRequestV2) (agentSignature : AgentRequestSignature) :
    Json :=
  .obj [("request", request.toJson), ("agentSignature", agentSignature.toJson)]

def ServiceDigests.members (digests : ServiceDigests) : List (String × Json) :=
  [("serviceAuthorization", Json.orNull .str digests.serviceAuthorization),
    ("serviceAcknowledgement", Json.orNull .str digests.serviceAcknowledgement)]

def EvidenceDigests.members (digests : EvidenceDigests) : List (String × Json) :=
  [("purchasePermit", .str digests.purchasePermit),
    ("authorizationRequest", .str digests.authorizationRequest), ("operation", .str digests.operation),
    ("authorityDecision", Json.orNull .str digests.authorityDecision),
    ("outboundRequest", Json.orNull .str digests.outboundRequest),
    ("paymentRequirement", Json.orNull .str digests.paymentRequirement),
    ("paymentAttempt", Json.orNull .str digests.paymentAttempt),
    ("settlement", Json.orNull .str digests.settlement), ("result", Json.orNull .str digests.result)] ++
    digests.service.elim [] ServiceDigests.members

/-- 2 with a service part, 1 without. -/
def versionNumber {α : Type} (service : Option α) : ℤ := if service.isSome then 2 else 1

def UnsignedEvidenceManifest.members (manifest : UnsignedEvidenceManifest) : List (String × Json) :=
  [("version", .int (versionNumber manifest.digests.service)), ("domain", .str EVIDENCE_MANIFEST_DOMAIN),
    ("authority", .str manifest.authority), ("issuedAt", .int manifest.issuedAt),
    ("settlementProfile", .str manifest.settlementProfile), ("grantId", .str manifest.grantId),
    ("invocationId", .str manifest.invocationId), ("purchaseState", .str manifest.purchaseState),
    ("decision", .str manifest.decision), ("reasonCodes", .arr (manifest.reasonCodes.map .str)),
    ("digests", .obj manifest.digests.members)]

def SignedEvidenceManifest.toJson (manifest : SignedEvidenceManifest) : Json :=
  .obj (manifest.toUnsignedEvidenceManifest.members ++ [("signature", signatureJson manifest.signature)])

def ServiceExchange.members (service : ServiceExchange) : List (String × Json) :=
  [("serviceAuthorization", Json.orNull SignedServiceAuthorizationV1.toJson service.serviceAuthorization),
    ("serviceAcknowledgement",
      Json.orNull SignedServiceAcknowledgementV1.toJson service.serviceAcknowledgement)]

def EvidenceBundle.toJson (bundle : EvidenceBundle) : Json :=
  .obj ([("version", .int (versionNumber bundle.service)), ("domain", .str EVIDENCE_BUNDLE_DOMAIN),
    ("environment", .obj [("settlementProfile", .str bundle.settlementProfile)]),
    ("identifiers", .obj [("grantId", .str bundle.grantId), ("invocationId", .str bundle.invocationId)]),
    ("purchasePermit", bundle.purchasePermit.toJson),
    ("authorizationRequest", authorizationRequestJson bundle.request bundle.agentSignature),
    ("authorityDecision", Json.orNull SignedAuthorizationReceipt.toJson bundle.authorityDecision),
    ("outboundRequest", Json.orNull outboundRequestJson bundle.outboundRequest),
    ("paymentRequirement", Json.orNull requirementJson bundle.paymentRequirement),
    ("paymentAttempt", Json.orNull attemptJson bundle.paymentAttempt),
    ("settlement", Json.orNull settlementJson bundle.settlement),
    ("result", Json.orNull EvidenceResult.toJson bundle.result)] ++
    bundle.service.elim [] ServiceExchange.members ++ [("manifest", bundle.manifest.toJson)])

/-! ## Digests and the manifest signature -/

/-- Recomputed from the artifacts alone; the permit and the operation keep their protocol digests. -/
def computeEvidenceDigests (platform : Platform) (artifacts : EvidenceArtifacts) : EvidenceDigests where
  purchasePermit := computePermitDigest platform artifacts.purchasePermit
  authorizationRequest := artifactDigest platform "authorization-request"
    (authorizationRequestJson artifacts.request artifacts.agentSignature)
  operation := computeOperationDigest platform artifacts.request.operation
  authorityDecision := artifacts.authorityDecision.map fun receipt ↦
    artifactDigest platform "authority-decision" receipt.toJson
  outboundRequest := artifacts.outboundRequest.map fun request ↦
    artifactDigest platform "outbound-request" (outboundRequestJson request)
  paymentRequirement := artifacts.paymentRequirement.map fun requirement ↦
    artifactDigest platform "payment-requirement" (requirementJson requirement)
  paymentAttempt := artifacts.paymentAttempt.map fun attempt ↦
    artifactDigest platform "payment-attempt" (attemptJson attempt)
  settlement := artifacts.settlement.map fun settlement ↦
    artifactDigest platform "settlement" (settlementJson settlement)
  result := artifacts.result.map fun result ↦ artifactDigest platform "result" result.toJson
  service := artifacts.service.map fun service ↦ {
    serviceAuthorization := service.serviceAuthorization.map fun authorization ↦
      artifactDigest platform "service-authorization" authorization.toJson
    serviceAcknowledgement := service.serviceAcknowledgement.map fun acknowledgement ↦
      artifactDigest platform "service-acknowledgement" acknowledgement.toJson }

def canonicalizeManifest (platform : Platform) (manifest : UnsignedEvidenceManifest) : String :=
  EVIDENCE_MANIFEST_DOMAIN ++ ":v" ++ (versionNumber manifest.digests.service).repr ++ "\n" ++
    platform.canonicalize (.obj manifest.members)

/-- `none` is the exception for a key pair other than the one the manifest names. -/
def signEvidenceManifest (platform : Platform) (unsigned : UnsignedEvidenceManifest) (signer : String) :
    Option SignedEvidenceManifest :=
  if signer = unsigned.authority then
    some { unsigned with signature := platform.signBytes signer (canonicalizeManifest platform unsigned) }
  else none

def verifyEvidenceManifestSignature (platform : Platform) (manifest : SignedEvidenceManifest)
    (pinnedAuthority : String) : Bool :=
  verifyPinned platform manifest.authority pinnedAuthority manifest.signature
    (canonicalizeManifest platform manifest.toUnsignedEvidenceManifest)

end VirtualHaibin.Evidence
