import VirtualHaibin.Evidence.Bundle
import VirtualHaibin.Foundation.Schema

/-!
# The strict bundle parser

Bounded texts and integers, exactly known members, explicit copies.  It decides structure only:
signatures, digests and relationships are the verifier's.
-/

namespace VirtualHaibin.Evidence

open Foundation Foundation.Checked Foundation.Schema Mandate Payments

def MAX_BUNDLE_BYTES : ℕ := 512 * 1024
def MAX_STRING : ℕ := 512
def MAX_URL : ℕ := 2048
def MAX_BODY : ℕ := 16 * 1024
def MAX_TRANSACTION_BASE64 : ℕ := 4096
def MAX_RESULT_BASE64 : ℕ := 96 * 1024
def MAX_REASON_CODES : ℕ := 32
def MAX_HEADER_CHARS : ℕ := 4096

def isBase58Char (c : Char) : Bool := c.isAlphanum && c ≠ '0' && c ≠ 'O' && c ≠ 'I' && c ≠ 'l'

/-- `/^[1-9A-HJ-NP-Za-km-z]+$/` -/
def BASE58 (text : String) : Bool := text ≠ "" && text.toList.all isBase58Char

def isBase64Char (c : Char) : Bool := c.isAlphanum || c = '+' || c = '/'

/-- `/^[A-Za-z0-9+/]*={0,2}$/` -/
def BASE64 (text : String) : Bool :=
  let padding := text.toList.dropWhile isBase64Char
  padding = [] || padding = ['='] || padding = ['=', '=']

def HEX64 (text : String) : Bool := Text.isDigest text
def ATOMIC (text : String) : Bool := isCanonicalAtomicAmount text

def isReasonCodeChar (c : Char) : Bool := c.isUpper || c.isDigit || c = '_'

/-- `/^[A-Z0-9_]+$/` -/
def REASON_CODE (text : String) : Bool := text ≠ "" && text.toList.all isReasonCodeChar

/-- `/^[A-Za-z0-9_-]+$/` -/
def BASE64_URL (text : String) : Bool := text ≠ "" && text.toList.all isSegmentChar

def signature (path : String) : Reader String := fun value ↦ do
  let record ← object path ["algorithm", "signature"] [] value
  literal (path ++ ".algorithm") "ed25519" (Json.member record "algorithm")
  string (path ++ ".signature") 128 BASE58 (Json.member record "signature")

/-- Values are bounded here and checked as part of the authorization claims. -/
def operation (path : String) : Reader ExactOperationV1 := fun value ↦ do
  let record ← object path OPERATION_FIELDS [] value
  let method ← string (path ++ ".method") 16 (fun _ ↦ true) (Json.member record "method")
  let resource ← string (path ++ ".resource") 256 (fun _ ↦ true) (Json.member record "resource")
  let operation ← string (path ++ ".operation") 64 (fun _ ↦ true) (Json.member record "operation")
  let datasetId ← string (path ++ ".datasetId") 128 (fun _ ↦ true) (Json.member record "datasetId")
  return { method, resource, operation, datasetId }

def PERMIT_FIELDS : List String :=
  ["version", "domain", "grantId", "issuer", "authorizedAgent", "service", "capability", "network", "mint",
    "recipient", "maxPerCallAtomic", "maxTotalAtomic", "issuedAt", "expiresAt", "subdelegation",
    "operation", "signature"]

def isFalse : Option Json → Bool
  | some (.bool false) => true
  | _ => false

def permit (path : String) : Reader SignedPurchasePermitV2 := fun value ↦ do
  let r ← object path PERMIT_FIELDS [] value
  guardThat (isFalse (Json.member r "subdelegation"))
    (FormatError.mk (path ++ ".subdelegation") "must be false")
  literalInt (path ++ ".version") 2 (Json.member r "version")
  let domain ← string (path ++ ".domain") MAX_STRING (fun _ ↦ true) (Json.member r "domain")
  let grantId ← string (path ++ ".grantId") 128 (fun _ ↦ true) (Json.member r "grantId")
  let issuer ← string (path ++ ".issuer") 64 BASE58 (Json.member r "issuer")
  let authorizedAgent ← string (path ++ ".authorizedAgent") 64 BASE58 (Json.member r "authorizedAgent")
  let service ← string (path ++ ".service") 128 (fun _ ↦ true) (Json.member r "service")
  let capability ← string (path ++ ".capability") 128 (fun _ ↦ true) (Json.member r "capability")
  let network ← string (path ++ ".network") 64 (fun _ ↦ true) (Json.member r "network")
  let mint ← string (path ++ ".mint") 64 BASE58 (Json.member r "mint")
  let recipient ← string (path ++ ".recipient") 64 BASE58 (Json.member r "recipient")
  let maxPerCallAtomic ← string (path ++ ".maxPerCallAtomic") 20 ATOMIC (Json.member r "maxPerCallAtomic")
  let maxTotalAtomic ← string (path ++ ".maxTotalAtomic") 20 ATOMIC (Json.member r "maxTotalAtomic")
  let issuedAt ← integer (path ++ ".issuedAt") 1 (Json.member r "issuedAt")
  let expiresAt ← integer (path ++ ".expiresAt") 1 (Json.member r "expiresAt")
  let operation ← operation (path ++ ".operation") (Json.member r "operation")
  let signature ← signature (path ++ ".signature") (Json.member r "signature")
  return {
    domain, grantId, issuer, authorizedAgent, service, capability, network, mint, recipient,
    maxPerCallAtomic, maxTotalAtomic, issuedAt, expiresAt, operation, signature }

def requestOf (path : String) : Reader AuthorizationRequestV2 := fun value ↦ do
  let r ← object path REQUEST_FIELDS_V2 [] value
  let protocol ← string (path ++ ".protocol") MAX_STRING (fun _ ↦ true) (Json.member r "protocol")
  literalInt (path ++ ".version") 2 (Json.member r "version")
  let audience ← string (path ++ ".audience") 128 (fun _ ↦ true) (Json.member r "audience")
  let grantId ← string (path ++ ".grantId") 128 (fun _ ↦ true) (Json.member r "grantId")
  let permitDigest ← string (path ++ ".permitDigest") 64 HEX64 (Json.member r "permitDigest")
  let invocationId ← string (path ++ ".invocationId") 128 (fun _ ↦ true) (Json.member r "invocationId")
  let service ← string (path ++ ".service") 128 (fun _ ↦ true) (Json.member r "service")
  let capability ← string (path ++ ".capability") 128 (fun _ ↦ true) (Json.member r "capability")
  let network ← string (path ++ ".network") 64 (fun _ ↦ true) (Json.member r "network")
  let mint ← string (path ++ ".mint") 64 (fun _ ↦ true) (Json.member r "mint")
  let recipient ← string (path ++ ".recipient") 64 (fun _ ↦ true) (Json.member r "recipient")
  let amountAtomic ← string (path ++ ".amountAtomic") 20 ATOMIC (Json.member r "amountAtomic")
  let issuedAt ← integer (path ++ ".issuedAt") 1 (Json.member r "issuedAt")
  let operation ← operation (path ++ ".operation") (Json.member r "operation")
  return {
    protocol, audience, grantId, permitDigest, invocationId, service, capability, network, mint, recipient,
    amountAtomic, issuedAt, operation }

def authorizationRequest (path : String) : Reader (AuthorizationRequestV2 × AgentRequestSignature) :=
  fun value ↦ do
    let wrapper ← object path ["request", "agentSignature"] [] value
    let request ← requestOf (path ++ ".request") (Json.member wrapper "request")
    let agentSignature ← signature (path ++ ".agentSignature") (Json.member wrapper "agentSignature")
    return (request, ⟨agentSignature⟩)

def RECEIPT_FIELDS : List String :=
  ["version", "domain", "invocationId", "grantId", "authority", "agent", "permitDigest",
    "requestFingerprint", "service", "capability", "network", "mint", "recipient", "amountAtomic", "decision",
    "reasonCodes", "paymentTransactionId", "decidedAt", "operation", "operationDigest", "signature"]

def reasonCodes (path : String) : Reader (List String) := fun value ↦
  match value with
  | some (.arr codes) =>
    if MAX_REASON_CODES < codes.length then
      .error ⟨path, s!"must be an array of at most {MAX_REASON_CODES} codes"⟩
    else items path (fun path ↦ string path 64 REASON_CODE) codes
  | _ => .error ⟨path, s!"must be an array of at most {MAX_REASON_CODES} codes"⟩

def decision (path : String) : Reader String := fun value ↦
  match value with
  | some (.str text) =>
    if text = "ALLOW" ∨ text = "DENY" then .ok text else .error ⟨path, "must be ALLOW or DENY"⟩
  | _ => .error ⟨path, "must be ALLOW or DENY"⟩

def receipt (path : String) : Reader SignedAuthorizationReceipt := fun value ↦ do
  let r ← object path RECEIPT_FIELDS [] value
  literalInt (path ++ ".version") 2 (Json.member r "version")
  let domain ← string (path ++ ".domain") MAX_STRING (fun _ ↦ true) (Json.member r "domain")
  let invocationId ← string (path ++ ".invocationId") 128 (fun _ ↦ true) (Json.member r "invocationId")
  let grantId ← string (path ++ ".grantId") 128 (fun _ ↦ true) (Json.member r "grantId")
  let authority ← string (path ++ ".authority") 64 BASE58 (Json.member r "authority")
  let agent ← string (path ++ ".agent") 64 BASE58 (Json.member r "agent")
  let permitDigest ← string (path ++ ".permitDigest") 64 HEX64 (Json.member r "permitDigest")
  let requestFingerprint ← string (path ++ ".requestFingerprint") 64 HEX64 (Json.member r "requestFingerprint")
  let service ← string (path ++ ".service") 128 (fun _ ↦ true) (Json.member r "service")
  let capability ← string (path ++ ".capability") 128 (fun _ ↦ true) (Json.member r "capability")
  let network ← string (path ++ ".network") 64 (fun _ ↦ true) (Json.member r "network")
  let mint ← string (path ++ ".mint") 64 (fun _ ↦ true) (Json.member r "mint")
  let recipient ← string (path ++ ".recipient") 64 (fun _ ↦ true) (Json.member r "recipient")
  let amountAtomic ← string (path ++ ".amountAtomic") 20 ATOMIC (Json.member r "amountAtomic")
  let decision ← decision (path ++ ".decision") (Json.member r "decision")
  let reasonCodes ← reasonCodes (path ++ ".reasonCodes") (Json.member r "reasonCodes")
  let paymentTransactionId ← nullable (string (path ++ ".paymentTransactionId") 128 BASE58)
    (Json.member r "paymentTransactionId")
  let decidedAt ← integer (path ++ ".decidedAt") 1 (Json.member r "decidedAt")
  let operation ← operation (path ++ ".operation") (Json.member r "operation")
  let operationDigest ← string (path ++ ".operationDigest") 64 HEX64 (Json.member r "operationDigest")
  let signature ← signature (path ++ ".signature") (Json.member r "signature")
  return {
    domain, invocationId, grantId, authority, agent, permitDigest, requestFingerprint, service, capability,
    network, mint, recipient, amountAtomic, decision, reasonCodes, paymentTransactionId, decidedAt,
    operation, operationDigest, signature }

def outboundRequest (path : String) : Reader PaidRequest := fun value ↦ do
  let r ← object path ["method", "url", "contentType", "body", "sha256"] [] value
  literal (path ++ ".method") "POST" (Json.member r "method")
  let url ← string (path ++ ".url") MAX_URL (fun _ ↦ true) (Json.member r "url")
  literal (path ++ ".contentType") "application/json" (Json.member r "contentType")
  let body ← string (path ++ ".body") MAX_BODY (fun _ ↦ true) (Json.member r "body")
  let sha256 ← string (path ++ ".sha256") 64 HEX64 (Json.member r "sha256")
  return { url, body, sha256 }

def REQUIREMENT_FIELDS : List String :=
  ["protocol", "x402Version", "acceptsIndex", "scheme", "network", "asset", "payTo", "amountAtomic",
    "feePayer", "maxTimeoutSeconds", "resourceUrl"]

def paymentRequirement (path : String) : Reader PaymentRequirement := fun value ↦ do
  let r ← object path REQUIREMENT_FIELDS [] value
  literal (path ++ ".protocol") "x402" (Json.member r "protocol")
  let x402Version ← integer (path ++ ".x402Version") 0 (Json.member r "x402Version")
  let acceptsIndex ← integer (path ++ ".acceptsIndex") 0 (Json.member r "acceptsIndex")
  let scheme ← string (path ++ ".scheme") 32 (fun _ ↦ true) (Json.member r "scheme")
  let network ← string (path ++ ".network") 128 (fun _ ↦ true) (Json.member r "network")
  let asset ← string (path ++ ".asset") 64 (fun _ ↦ true) (Json.member r "asset")
  let payTo ← string (path ++ ".payTo") 64 (fun _ ↦ true) (Json.member r "payTo")
  let amountAtomic ← string (path ++ ".amountAtomic") 20 ATOMIC (Json.member r "amountAtomic")
  let feePayer ← nullable (string (path ++ ".feePayer") 64) (Json.member r "feePayer")
  let maxTimeoutSeconds ← nullable (integer (path ++ ".maxTimeoutSeconds")) (Json.member r "maxTimeoutSeconds")
  let resourceUrl ← nullable (string (path ++ ".resourceUrl") MAX_URL) (Json.member r "resourceUrl")
  return {
    protocol := "x402", x402Version, acceptsIndex := acceptsIndex.toNat, scheme, network, asset, payTo,
    amountAtomic, feePayer, maxTimeoutSeconds := maxTimeoutSeconds.map fun seconds : ℤ ↦ .finite seconds, resourceUrl }

def ATTEMPT_FIELDS : List String :=
  ["protocol", "scheme", "settlementProfile", "network", "payer", "payerSignature", "feePayer", "asset",
    "payTo", "amountAtomic", "blockhash", "lastValidBlockHeight", "resourceUrl", "requestSha256", "preparedAt"]

/-- A member that may be absent. -/
def optionalMember {α : Type} (read : Reader α) : Reader (Option α) := fun value ↦
  match value with
  | none => .ok none
  | some value => (read (some value)).map some

def paymentAttempt (path : String) : Reader PaymentAttempt := fun value ↦ do
  let r ← object path ATTEMPT_FIELDS ["transactionBase64"] value
  literal (path ++ ".protocol") "x402" (Json.member r "protocol")
  let scheme ← string (path ++ ".scheme") 32 (fun _ ↦ true) (Json.member r "scheme")
  let settlementProfile ← string (path ++ ".settlementProfile") 64 (fun _ ↦ true)
    (Json.member r "settlementProfile")
  let network ← string (path ++ ".network") 128 (fun _ ↦ true) (Json.member r "network")
  let payer ← string (path ++ ".payer") 64 (fun _ ↦ true) (Json.member r "payer")
  let payerSignature ← string (path ++ ".payerSignature") 128 (fun _ ↦ true) (Json.member r "payerSignature")
  let feePayer ← string (path ++ ".feePayer") 64 (fun _ ↦ true) (Json.member r "feePayer")
  let asset ← string (path ++ ".asset") 64 (fun _ ↦ true) (Json.member r "asset")
  let payTo ← string (path ++ ".payTo") 64 (fun _ ↦ true) (Json.member r "payTo")
  let amountAtomic ← string (path ++ ".amountAtomic") 20 ATOMIC (Json.member r "amountAtomic")
  let blockhash ← string (path ++ ".blockhash") 64 (fun _ ↦ true) (Json.member r "blockhash")
  let lastValidBlockHeight ← string (path ++ ".lastValidBlockHeight") 20 ATOMIC
    (Json.member r "lastValidBlockHeight")
  let resourceUrl ← string (path ++ ".resourceUrl") MAX_URL (fun _ ↦ true) (Json.member r "resourceUrl")
  let requestSha256 ← string (path ++ ".requestSha256") 64 HEX64 (Json.member r "requestSha256")
  let preparedAt ← integer (path ++ ".preparedAt") 0 (Json.member r "preparedAt")
  let transactionBase64 ← optionalMember (string (path ++ ".transactionBase64") MAX_TRANSACTION_BASE64 BASE64)
    (Json.member r "transactionBase64")
  return {
    protocol := "x402", scheme, settlementProfile, network, payer, payerSignature, feePayer, asset, payTo,
    amountAtomic, blockhash, lastValidBlockHeight, resourceUrl, requestSha256, transactionBase64, preparedAt }

def settlement (path : String) : Reader ConfirmedSettlement := fun value ↦ do
  let r ← object path ["transactionId", "slot", "facilitatorReportedTransaction", "confirmedAt"] [] value
  let transactionId ← string (path ++ ".transactionId") 128 BASE58 (Json.member r "transactionId")
  let slot ← nullable (string (path ++ ".slot") 20 ATOMIC) (Json.member r "slot")
  let facilitatorReportedTransaction ← nullable (string (path ++ ".facilitatorReportedTransaction") 128)
    (Json.member r "facilitatorReportedTransaction")
  let confirmedAt ← integer (path ++ ".confirmedAt") 0 (Json.member r "confirmedAt")
  return { transactionId, slot, facilitatorReportedTransaction, confirmedAt }

/-- A body may be empty, so it is not read as a text field. -/
def bodyBase64 (path : String) : Reader String := fun value ↦
  match value with
  | some (.str text) =>
    if Text.utf16Length text ≤ MAX_RESULT_BASE64 ∧ BASE64 text = true then .ok text
    else .error ⟨path, "must be base64 of a bounded body"⟩
  | _ => .error ⟨path, "must be base64 of a bounded body"⟩

def result (path : String) : Reader EvidenceResult := fun value ↦ do
  let r ← object path ["httpStatus", "contentType", "bodyBase64", "bytes", "sha256"] [] value
  let httpStatus ← integer (path ++ ".httpStatus") 100 (Json.member r "httpStatus")
  literal (path ++ ".contentType") "application/json" (Json.member r "contentType")
  let bodyBase64 ← bodyBase64 (path ++ ".bodyBase64") (Json.member r "bodyBase64")
  let bytes ← integer (path ++ ".bytes") 0 (Json.member r "bytes")
  let sha256 ← string (path ++ ".sha256") 64 HEX64 (Json.member r "sha256")
  return { httpStatus, bodyBase64, bytes, sha256 }

def DIGEST_FIELDS : List String :=
  ["purchasePermit", "authorizationRequest", "operation", "authorityDecision", "outboundRequest",
    "paymentRequirement", "paymentAttempt", "settlement", "result"]

def SERVICE_FIELDS : List String := ["serviceAuthorization", "serviceAcknowledgement"]

def digest (path : String) : Reader String := string path 64 HEX64

/-- Reads what only version 2 has. -/
def whenVersion2 {α : Type} (version2 : Bool) (read : Except FormatError α) : Except FormatError (Option α) :=
  if version2 then read.map some else .ok none

def serviceDigests (path : String) (d : List (String × Json)) : Except FormatError ServiceDigests := do
  let serviceAuthorization ← nullable (digest (path ++ ".serviceAuthorization"))
    (Json.member d "serviceAuthorization")
  let serviceAcknowledgement ← nullable (digest (path ++ ".serviceAcknowledgement"))
    (Json.member d "serviceAcknowledgement")
  return { serviceAuthorization, serviceAcknowledgement }

def digests (path : String) (version2 : Bool) : Reader EvidenceDigests := fun value ↦ do
  let d ← object path (DIGEST_FIELDS ++ if version2 then SERVICE_FIELDS else []) [] value
  let purchasePermit ← digest (path ++ ".purchasePermit") (Json.member d "purchasePermit")
  let authorizationRequest ← digest (path ++ ".authorizationRequest") (Json.member d "authorizationRequest")
  let operation ← digest (path ++ ".operation") (Json.member d "operation")
  let authorityDecision ← nullable (digest (path ++ ".authorityDecision")) (Json.member d "authorityDecision")
  let outboundRequest ← nullable (digest (path ++ ".outboundRequest")) (Json.member d "outboundRequest")
  let paymentRequirement ← nullable (digest (path ++ ".paymentRequirement")) (Json.member d "paymentRequirement")
  let paymentAttempt ← nullable (digest (path ++ ".paymentAttempt")) (Json.member d "paymentAttempt")
  let settlement ← nullable (digest (path ++ ".settlement")) (Json.member d "settlement")
  let result ← nullable (digest (path ++ ".result")) (Json.member d "result")
  let service ← whenVersion2 version2 (serviceDigests path d)
  return {
    purchasePermit, authorizationRequest, operation, authorityDecision, outboundRequest, paymentRequirement,
    paymentAttempt, settlement, result, service }

def MANIFEST_FIELDS : List String :=
  ["version", "domain", "authority", "issuedAt", "settlementProfile", "grantId", "invocationId",
    "purchaseState", "decision", "reasonCodes", "digests", "signature"]

def purchaseState (path : String) : Reader String := fun value ↦
  match value with
  | some (.str text) =>
    if text ∈ PURCHASE_STATES then .ok text
    else .error ⟨path, "must be one of " ++ String.intercalate ", " PURCHASE_STATES⟩
  | _ => .error ⟨path, "must be one of " ++ String.intercalate ", " PURCHASE_STATES⟩

def manifest (path : String) (version2 : Bool) : Reader SignedEvidenceManifest := fun value ↦ do
  let r ← object path MANIFEST_FIELDS [] value
  let digests ← digests (path ++ ".digests") version2 (Json.member r "digests")
  let purchaseState ← purchaseState (path ++ ".purchaseState") (Json.member r "purchaseState")
  literal (path ++ ".domain") EVIDENCE_MANIFEST_DOMAIN (Json.member r "domain")
  let authority ← string (path ++ ".authority") 64 BASE58 (Json.member r "authority")
  let issuedAt ← integer (path ++ ".issuedAt") 1 (Json.member r "issuedAt")
  let settlementProfile ← string (path ++ ".settlementProfile") 64 (fun _ ↦ true)
    (Json.member r "settlementProfile")
  let grantId ← string (path ++ ".grantId") 128 (fun _ ↦ true) (Json.member r "grantId")
  let invocationId ← string (path ++ ".invocationId") 128 (fun _ ↦ true) (Json.member r "invocationId")
  let decision ← decision (path ++ ".decision") (Json.member r "decision")
  let reasonCodes ← reasonCodes (path ++ ".reasonCodes") (Json.member r "reasonCodes")
  let signature ← signature (path ++ ".signature") (Json.member r "signature")
  literalInt (path ++ ".version") (if version2 then 2 else 1) (Json.member r "version")
  return {
    authority, issuedAt, settlementProfile, grantId, invocationId, purchaseState, decision, reasonCodes,
    digests, signature }

def parseServiceAuthorization (path : String) : Reader SignedServiceAuthorizationV1 := fun value ↦ do
  let r ← object path ["version", "domain", "authority", "invocationId", "grantId", "request",
    "operationDigest", "payment", "issuedAt", "expiresAt", "signature"] [] value
  let q ← object (path ++ ".request") ["method", "url", "contentType", "requestSha256"] []
    (Json.member r "request")
  let pay ← object (path ++ ".payment") ["network", "asset", "payTo", "amountAtomic"] []
    (Json.member r "payment")
  literalInt (path ++ ".version") 1 (Json.member r "version")
  literal (path ++ ".domain") SERVICE_AUTHORIZATION_DOMAIN (Json.member r "domain")
  let authority ← string (path ++ ".authority") 64 BASE58 (Json.member r "authority")
  let invocationId ← string (path ++ ".invocationId") 128 (fun _ ↦ true) (Json.member r "invocationId")
  let grantId ← string (path ++ ".grantId") 128 (fun _ ↦ true) (Json.member r "grantId")
  literal (path ++ ".request.method") "POST" (Json.member q "method")
  let url ← string (path ++ ".request.url") MAX_URL (fun _ ↦ true) (Json.member q "url")
  literal (path ++ ".request.contentType") "application/json" (Json.member q "contentType")
  let requestSha256 ← string (path ++ ".request.requestSha256") 64 HEX64 (Json.member q "requestSha256")
  let operationDigest ← string (path ++ ".operationDigest") 64 HEX64 (Json.member r "operationDigest")
  let network ← string (path ++ ".payment.network") 128 (fun _ ↦ true) (Json.member pay "network")
  let asset ← string (path ++ ".payment.asset") 64 (fun _ ↦ true) (Json.member pay "asset")
  let payTo ← string (path ++ ".payment.payTo") 64 (fun _ ↦ true) (Json.member pay "payTo")
  let amountAtomic ← string (path ++ ".payment.amountAtomic") 20 ATOMIC (Json.member pay "amountAtomic")
  let issuedAt ← integer (path ++ ".issuedAt") 1 (Json.member r "issuedAt")
  let expiresAt ← integer (path ++ ".expiresAt") 1 (Json.member r "expiresAt")
  let signature ← signature (path ++ ".signature") (Json.member r "signature")
  return {
    authority, invocationId, grantId, url, requestSha256, operationDigest,
    payment := { network, asset, payTo, amountAtomic }, issuedAt, expiresAt, signature }

def parseServiceAcknowledgement (path : String) : Reader SignedServiceAcknowledgementV1 := fun value ↦ do
  let r ← object path ["version", "domain", "service", "invocationId", "authorizationDigest",
    "requestSha256", "received", "payment", "result", "fulfilledAt", "signature"] [] value
  let rec_ ← object (path ++ ".received") OPERATION_FIELDS [] (Json.member r "received")
  let pay ← object (path ++ ".payment") ["transaction", "asset", "payTo", "amountAtomic"] []
    (Json.member r "payment")
  let res ← object (path ++ ".result") ["httpStatus", "contentType", "sha256", "bytes"] []
    (Json.member r "result")
  literalInt (path ++ ".version") 1 (Json.member r "version")
  literal (path ++ ".domain") SERVICE_ACKNOWLEDGEMENT_DOMAIN (Json.member r "domain")
  let service ← string (path ++ ".service") 64 BASE58 (Json.member r "service")
  let invocationId ← string (path ++ ".invocationId") 128 (fun _ ↦ true) (Json.member r "invocationId")
  let authorizationDigest ← string (path ++ ".authorizationDigest") 64 HEX64
    (Json.member r "authorizationDigest")
  let requestSha256 ← string (path ++ ".requestSha256") 64 HEX64 (Json.member r "requestSha256")
  let method ← string (path ++ ".received.method") 16 (fun _ ↦ true) (Json.member rec_ "method")
  let resource ← string (path ++ ".received.resource") 256 (fun _ ↦ true) (Json.member rec_ "resource")
  let operation ← string (path ++ ".received.operation") 64 (fun _ ↦ true) (Json.member rec_ "operation")
  let datasetId ← string (path ++ ".received.datasetId") 128 (fun _ ↦ true) (Json.member rec_ "datasetId")
  let transaction ← nullable (string (path ++ ".payment.transaction") 128 BASE58) (Json.member pay "transaction")
  let asset ← string (path ++ ".payment.asset") 64 (fun _ ↦ true) (Json.member pay "asset")
  let payTo ← string (path ++ ".payment.payTo") 64 (fun _ ↦ true) (Json.member pay "payTo")
  let amountAtomic ← string (path ++ ".payment.amountAtomic") 20 ATOMIC (Json.member pay "amountAtomic")
  let httpStatus ← integer (path ++ ".result.httpStatus") 100 (Json.member res "httpStatus")
  literal (path ++ ".result.contentType") "application/json" (Json.member res "contentType")
  let sha256 ← string (path ++ ".result.sha256") 64 HEX64 (Json.member res "sha256")
  let bytes ← integer (path ++ ".result.bytes") 0 (Json.member res "bytes")
  let fulfilledAt ← integer (path ++ ".fulfilledAt") 1 (Json.member r "fulfilledAt")
  let signature ← signature (path ++ ".signature") (Json.member r "signature")
  return {
    service, invocationId, authorizationDigest, requestSha256,
    received := { method, resource, operation, datasetId }, transaction, asset, payTo, amountAtomic,
    httpStatus, sha256, bytes, fulfilledAt, signature }

def serviceExchange (r : List (String × Json)) : Except FormatError ServiceExchange := do
  let serviceAuthorization ← nullable (parseServiceAuthorization "$.serviceAuthorization")
    (Json.member r "serviceAuthorization")
  let serviceAcknowledgement ← nullable (parseServiceAcknowledgement "$.serviceAcknowledgement")
    (Json.member r "serviceAcknowledgement")
  return { serviceAuthorization, serviceAcknowledgement }

def BUNDLE_FIELDS : List String :=
  ["version", "domain", "environment", "identifiers", "purchasePermit", "authorizationRequest",
    "authorityDecision", "outboundRequest", "paymentRequirement", "paymentAttempt", "settlement", "result",
    "manifest"]

/-- Whether the value claims version 2; an unknown version is rejected before anything else. -/
def bundleVersion (value : Json) : Except FormatError Bool :=
  match value with
  | .obj record =>
    match Json.member record "version" with
    | some (.num number) =>
      if number = .finite 2 then .ok true
      else if number = .finite 1 then .ok false
      else .error ⟨"$.version", "must be 1 or 2"⟩
    | _ => .error ⟨"$.version", "must be 1 or 2"⟩
  | _ => .error ⟨"$.version", "must be 1 or 2"⟩

def parseEvidenceValue (value : Json) : Except FormatError EvidenceBundle := do
  let version2 ← bundleVersion value
  let r ← object "$" (BUNDLE_FIELDS ++ if version2 then SERVICE_FIELDS else []) [] (some value)
  literal "$.domain" EVIDENCE_BUNDLE_DOMAIN (Json.member r "domain")
  let environment ← object "$.environment" ["settlementProfile"] [] (Json.member r "environment")
  let identifiers ← object "$.identifiers" ["grantId", "invocationId"] [] (Json.member r "identifiers")
  let settlementProfile ← string "$.environment.settlementProfile" 64 (fun _ ↦ true)
    (Json.member environment "settlementProfile")
  let grantId ← string "$.identifiers.grantId" 128 (fun _ ↦ true) (Json.member identifiers "grantId")
  let invocationId ← string "$.identifiers.invocationId" 128 (fun _ ↦ true)
    (Json.member identifiers "invocationId")
  let purchasePermit ← permit "$.purchasePermit" (Json.member r "purchasePermit")
  let signed ← authorizationRequest "$.authorizationRequest" (Json.member r "authorizationRequest")
  let authorityDecision ← nullable (receipt "$.authorityDecision") (Json.member r "authorityDecision")
  let outboundRequest ← nullable (outboundRequest "$.outboundRequest") (Json.member r "outboundRequest")
  let paymentRequirement ← nullable (paymentRequirement "$.paymentRequirement")
    (Json.member r "paymentRequirement")
  let paymentAttempt ← nullable (paymentAttempt "$.paymentAttempt") (Json.member r "paymentAttempt")
  let settlement ← nullable (settlement "$.settlement") (Json.member r "settlement")
  let result ← nullable (result "$.result") (Json.member r "result")
  let manifest ← manifest "$.manifest" version2 (Json.member r "manifest")
  let service ← whenVersion2 version2 (serviceExchange r)
  return {
    settlementProfile, grantId, invocationId, purchasePermit, request := signed.1, agentSignature := signed.2,
    authorityDecision, outboundRequest, paymentRequirement, paymentAttempt, settlement, result, service,
    manifest }

/-- An untrusted bundle, as JSON text or already parsed. -/
inductive BundleInput where
  | text (text : String)
  | value (value : Json)

def parseEvidenceBundle (platform : Platform) (input : BundleInput) : Except FormatError EvidenceBundle :=
  match input with
  | .value value => parseEvidenceValue value
  | .text text => do
    guardThat (text.utf8ByteSize ≤ MAX_BUNDLE_BYTES)
      (FormatError.mk "$" s!"bundle exceeds {MAX_BUNDLE_BYTES} bytes")
    let value ← required (platform.parseJson text) (FormatError.mk "$" "is not valid JSON")
    parseEvidenceValue value

/-! ## The service headers -/

def decodeHeader (platform : Platform) (header : String) : Except FormatError Json := do
  guardThat (header ≠ "" && Text.utf16Length header ≤ MAX_HEADER_CHARS && BASE64_URL header)
    (FormatError.mk "header" "must be bounded base64url")
  required (platform.parseBase64Url header) (FormatError.mk "header" "is not base64url JSON")

def decodeServiceAuthorizationHeader (platform : Platform) (header : String) :
    Except FormatError SignedServiceAuthorizationV1 := do
  let value ← decodeHeader platform header
  parseServiceAuthorization "serviceAuthorization" (some value)

def decodeServiceAcknowledgementHeader (platform : Platform) (header : String) :
    Except FormatError SignedServiceAcknowledgementV1 := do
  let value ← decodeHeader platform header
  parseServiceAcknowledgement "serviceAcknowledgement" (some value)

end VirtualHaibin.Evidence
