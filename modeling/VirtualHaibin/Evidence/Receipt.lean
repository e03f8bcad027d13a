import VirtualHaibin.Payments.Types
import VirtualHaibin.Policy.PurchasePermit

/-!
# Signed statements of the authority and the service

The decision receipt, the authorization sent to the paid service and the service's
acknowledgement, each signed over domain-separated canonical JSON.  A key a statement names is
never trusted by itself: verification compares it with a pinned one first.
-/

namespace VirtualHaibin.Evidence

open Foundation Mandate Policy

def AUTHORIZATION_RECEIPT_DOMAIN : String := "virtual-haibin/authorization-receipt"
def SERVICE_AUTHORIZATION_DOMAIN : String := "virtual-haibin/service-authorization"
def SERVICE_ACKNOWLEDGEMENT_DOMAIN : String := "virtual-haibin/service-acknowledgement"
def SERVICE_AUTHORIZATION_TTL_MS : ℤ := 120000

/-- Signature check against a pinned key, shared by every signed statement. -/
def verifyPinned (platform : Platform) (namedKey pinnedKey signature message : String) : Bool :=
  namedKey = pinnedKey && platform.isSignature signature && platform.isAddress pinnedKey &&
    platform.importsKey pinnedKey && platform.verifySignature pinnedKey signature message

theorem verifyPinned_eq_true {platform : Platform} {namedKey pinnedKey signature message : String} :
    verifyPinned platform namedKey pinnedKey signature message = true ↔
      namedKey = pinnedKey ∧ platform.isSignature signature = true ∧
        platform.isAddress pinnedKey = true ∧ platform.importsKey pinnedKey = true ∧
        platform.verifySignature pinnedKey signature message = true := by
  simp [verifyPinned, and_assoc]

/-! ## Decision receipts -/

/-- `version` is 2 in every value of this type; the codes are texts because a parsed receipt may
carry any bounded code. -/
@[ext] structure UnsignedAuthorizationReceiptV2 where
  domain : String
  invocationId : String
  grantId : String
  authority : String
  agent : String
  permitDigest : String
  requestFingerprint : String
  service : String
  capability : String
  network : String
  mint : String
  recipient : String
  amountAtomic : String
  decision : String
  reasonCodes : List String
  paymentTransactionId : Option String
  decidedAt : ℤ
  operation : ExactOperationV1
  operationDigest : String
  deriving DecidableEq

structure SignedAuthorizationReceipt extends UnsignedAuthorizationReceiptV2 where
  signature : String
  deriving DecidableEq

def UnsignedAuthorizationReceiptV2.members (receipt : UnsignedAuthorizationReceiptV2) :
    List (String × Json) :=
  [("version", .int 2), ("domain", .str receipt.domain), ("invocationId", .str receipt.invocationId),
    ("grantId", .str receipt.grantId), ("authority", .str receipt.authority),
    ("agent", .str receipt.agent), ("permitDigest", .str receipt.permitDigest),
    ("requestFingerprint", .str receipt.requestFingerprint), ("service", .str receipt.service),
    ("capability", .str receipt.capability), ("network", .str receipt.network),
    ("mint", .str receipt.mint), ("recipient", .str receipt.recipient),
    ("amountAtomic", .str receipt.amountAtomic), ("decision", .str receipt.decision),
    ("reasonCodes", .arr (receipt.reasonCodes.map .str)),
    ("paymentTransactionId", Json.orNull .str receipt.paymentTransactionId),
    ("decidedAt", .int receipt.decidedAt), ("operation", receipt.operation.toJson),
    ("operationDigest", .str receipt.operationDigest)]

def SignedAuthorizationReceipt.toJson (receipt : SignedAuthorizationReceipt) : Json :=
  .obj (receipt.toUnsignedAuthorizationReceiptV2.members ++
    [("signature", signatureJson receipt.signature)])

def canonicalizeReceipt (platform : Platform) (receipt : UnsignedAuthorizationReceiptV2) : String :=
  AUTHORIZATION_RECEIPT_DOMAIN ++ ":v2\n" ++ platform.canonicalize (.obj receipt.members)

/-- `none` is the exception for a key pair other than the one the receipt names. -/
def signAuthorizationReceipt (platform : Platform) (unsigned : UnsignedAuthorizationReceiptV2)
    (authoritySigner : String) : Option SignedAuthorizationReceipt :=
  if authoritySigner = unsigned.authority then
    some { unsigned with
      signature := platform.signBytes authoritySigner (canonicalizeReceipt platform unsigned) }
  else none

def verifyAuthorizationReceiptSignature (platform : Platform) (receipt : SignedAuthorizationReceipt)
    (expectedAuthority : String) : Bool :=
  verifyPinned platform receipt.authority expectedAuthority receipt.signature
    (canonicalizeReceipt platform receipt.toUnsignedAuthorizationReceiptV2)

/-! ## The exchange with the paid service -/

@[ext] structure ServicePayment where
  network : String
  asset : String
  payTo : String
  amountAtomic : String
  deriving DecidableEq

@[ext] structure UnsignedServiceAuthorizationV1 where
  authority : String
  invocationId : String
  grantId : String
  url : String
  requestSha256 : String
  operationDigest : String
  payment : ServicePayment
  issuedAt : ℤ
  expiresAt : ℤ
  deriving DecidableEq

structure SignedServiceAuthorizationV1 extends UnsignedServiceAuthorizationV1 where
  signature : String
  deriving DecidableEq

def UnsignedServiceAuthorizationV1.members (authorization : UnsignedServiceAuthorizationV1) :
    List (String × Json) :=
  [("version", .int 1), ("domain", .str SERVICE_AUTHORIZATION_DOMAIN),
    ("authority", .str authorization.authority), ("invocationId", .str authorization.invocationId),
    ("grantId", .str authorization.grantId),
    ("request", .obj [("method", .str "POST"), ("url", .str authorization.url),
      ("contentType", .str "application/json"), ("requestSha256", .str authorization.requestSha256)]),
    ("operationDigest", .str authorization.operationDigest),
    ("payment", .obj [("network", .str authorization.payment.network),
      ("asset", .str authorization.payment.asset), ("payTo", .str authorization.payment.payTo),
      ("amountAtomic", .str authorization.payment.amountAtomic)]),
    ("issuedAt", .int authorization.issuedAt), ("expiresAt", .int authorization.expiresAt)]

def SignedServiceAuthorizationV1.toJson (authorization : SignedServiceAuthorizationV1) : Json :=
  .obj (authorization.toUnsignedServiceAuthorizationV1.members ++
    [("signature", signatureJson authorization.signature)])

/-- The text signed for a statement of the given domain. -/
def statementText (platform : Platform) (domain : String) (members : List (String × Json)) : String :=
  domain ++ ":v1\n" ++ platform.canonicalize (.obj members)

def signServiceAuthorization (platform : Platform) (unsigned : UnsignedServiceAuthorizationV1)
    (signer : String) : Option SignedServiceAuthorizationV1 :=
  if signer = unsigned.authority then
    some { unsigned with
      signature := platform.signBytes signer
        (statementText platform SERVICE_AUTHORIZATION_DOMAIN unsigned.members) }
  else none

def verifyServiceAuthorizationSignature (platform : Platform)
    (authorization : SignedServiceAuthorizationV1) (pinnedAuthority : String) : Bool :=
  verifyPinned platform authorization.authority pinnedAuthority authorization.signature
    (statementText platform SERVICE_AUTHORIZATION_DOMAIN
      authorization.toUnsignedServiceAuthorizationV1.members)

/-- Domain-separated digest of an artifact's canonical JSON, per artifact name. -/
def artifactDigest (platform : Platform) (name : String) (value : Json) : String :=
  platform.sha256Hex ("virtual-haibin/evidence-artifact:" ++ name ++ ":v1\n" ++ platform.canonicalize value)

def serviceAuthorizationDigest (platform : Platform) (authorization : SignedServiceAuthorizationV1) :
    String :=
  artifactDigest platform "service-authorization" authorization.toJson

@[ext] structure UnsignedServiceAcknowledgementV1 where
  service : String
  invocationId : String
  authorizationDigest : String
  requestSha256 : String
  received : ExactOperationV1
  transaction : Option String
  asset : String
  payTo : String
  amountAtomic : String
  httpStatus : ℤ
  sha256 : String
  bytes : ℤ
  fulfilledAt : ℤ
  deriving DecidableEq

structure SignedServiceAcknowledgementV1 extends UnsignedServiceAcknowledgementV1 where
  signature : String
  deriving DecidableEq

def UnsignedServiceAcknowledgementV1.members (acknowledgement : UnsignedServiceAcknowledgementV1) :
    List (String × Json) :=
  [("version", .int 1), ("domain", .str SERVICE_ACKNOWLEDGEMENT_DOMAIN),
    ("service", .str acknowledgement.service), ("invocationId", .str acknowledgement.invocationId),
    ("authorizationDigest", .str acknowledgement.authorizationDigest),
    ("requestSha256", .str acknowledgement.requestSha256),
    ("received", acknowledgement.received.toJson),
    ("payment", .obj [("transaction", Json.orNull .str acknowledgement.transaction),
      ("asset", .str acknowledgement.asset), ("payTo", .str acknowledgement.payTo),
      ("amountAtomic", .str acknowledgement.amountAtomic)]),
    ("result", .obj [("httpStatus", .int acknowledgement.httpStatus),
      ("contentType", .str "application/json"), ("sha256", .str acknowledgement.sha256),
      ("bytes", .int acknowledgement.bytes)]),
    ("fulfilledAt", .int acknowledgement.fulfilledAt)]

def SignedServiceAcknowledgementV1.toJson (acknowledgement : SignedServiceAcknowledgementV1) : Json :=
  .obj (acknowledgement.toUnsignedServiceAcknowledgementV1.members ++
    [("signature", signatureJson acknowledgement.signature)])

def verifyServiceAcknowledgementSignature (platform : Platform)
    (acknowledgement : SignedServiceAcknowledgementV1) (pinnedService : String) : Bool :=
  verifyPinned platform acknowledgement.service pinnedService acknowledgement.signature
    (statementText platform SERVICE_ACKNOWLEDGEMENT_DOMAIN
      acknowledgement.toUnsignedServiceAcknowledgementV1.members)

end VirtualHaibin.Evidence
