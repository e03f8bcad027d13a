import VirtualHaibin.Mandate.Request

/-!
# Payment data

The records an authority and a payment provider exchange, and the digest that identifies one HTTP
request.  Every paid request is a `POST` of `application/json`, so neither is a field.  Stored
records pass through JSON, where an infinite number becomes `null`.
-/

namespace VirtualHaibin.Payments

open Foundation

/-- A paid resource of the trusted registry. -/
structure PaidResource where
  serviceId : String
  capability : String
  url : String
  deriving DecidableEq

@[ext] structure PaidRequest where
  url : String
  body : String
  sha256 : String
  deriving DecidableEq

def PAID_REQUEST_DOMAIN : String := "virtual-haibin/paid-request:v1\n"

/-- Digest of method, URL, content type and body, in this order. -/
def computePaidRequestDigest (platform : Platform) (url body : String) : String :=
  platform.sha256Hex (PAID_REQUEST_DOMAIN ++ Text.quoteAll ["POST", url, "application/json", body])

def createPaidRequest (platform : Platform) (url body : String) : PaidRequest :=
  { url, body, sha256 := computePaidRequestDigest platform url body }

def paidRequestMatches (platform : Platform) (request : PaidRequest) (expectedSha256 : String) : Bool :=
  computePaidRequestDigest platform request.url request.body = request.sha256 &&
    request.sha256 = expectedSha256

/-- One payment option of a 402 challenge, copied verbatim. -/
@[ext] structure PaymentRequirement where
  protocol : String
  x402Version : ℤ
  acceptsIndex : ℕ
  scheme : String
  network : String
  asset : String
  payTo : String
  amountAtomic : String
  feePayer : Option String
  maxTimeoutSeconds : Option Number
  resourceUrl : Option String
  deriving DecidableEq

inductive ChallengeRejectionCode where
  | CHALLENGE_NOT_PAYMENT_REQUIRED
  | CHALLENGE_REDIRECT
  | CHALLENGE_MALFORMED
  | UNSUPPORTED_PAYMENT_PROTOCOL
  deriving DecidableEq

/-- A parsed challenge, bound to the digest of the request that produced it. -/
structure PaymentChallenge where
  requirements : List PaymentRequirement
  requestSha256 : String
  raw : Json

inductive ChallengeResult where
  | challenge (challenge : PaymentChallenge)
  | rejected (reasonCode : ChallengeRejectionCode) (message : String)

/-- What is needed to find a payment on-chain later. -/
@[ext] structure PaymentAttempt where
  protocol : String
  scheme : String
  settlementProfile : String
  network : String
  payer : String
  payerSignature : String
  feePayer : String
  asset : String
  payTo : String
  amountAtomic : String
  blockhash : String
  lastValidBlockHeight : String
  resourceUrl : String
  requestSha256 : String
  transactionBase64 : Option String
  preparedAt : ℤ
  deriving DecidableEq

@[ext] structure ConfirmedSettlement where
  transactionId : String
  slot : Option String
  facilitatorReportedTransaction : Option String
  confirmedAt : ℤ
  deriving DecidableEq

structure PaidResult where
  httpStatus : ℤ
  json : Json
  sha256 : String
  bytes : ℤ
  bodyBase64 : Option String
  serviceAcknowledgementHeader : Option String

structure PaymentExecution where
  attempt : PaymentAttempt
  settlement : ConfirmedSettlement
  result : PaidResult

inductive SettlementLookup where
  | confirmed (settlement : ConfirmedSettlement)
  | failed_onchain (transactionId error : String)
  | expired (currentBlockHeight : String)
  | pending (currentBlockHeight : Option String)
  | inconclusive (detail : String)

/-- Authority or verifier configuration, never derived from a service response. -/
structure SettlementProfile where
  name : String
  permitNetwork : String
  rpcUrl : String
  acceptedChallengeNetworks : List String
  allowedAssets : List String
  protocol : String
  x402Version : ℤ
  scheme : String
  requiredBlockhashPrefix : String

/-! ## Storage as JSON text -/

/-- A number written to JSON text and read back. -/
def Number.stored : Number → Option Number
  | .finite value => some (.finite value)
  | .infinite _ => none

mutual
/-- A value written to JSON text and read back. -/
def storedJson : Json → Json
  | .null => .null
  | .bool value => .bool value
  | .num value => Json.orNull .num (Number.stored value)
  | .str value => .str value
  | .arr items => .arr (storedItems items)
  | .obj members => .obj (storedMembers members)

def storedItems : List Json → List Json
  | [] => []
  | item :: rest => storedJson item :: storedItems rest

def storedMembers : List (String × Json) → List (String × Json)
  | [] => []
  | (name, value) :: rest => (name, storedJson value) :: storedMembers rest
end

def PaymentRequirement.stored (requirement : PaymentRequirement) : PaymentRequirement :=
  { requirement with maxTimeoutSeconds := requirement.maxTimeoutSeconds.bind Number.stored }

def PaidResult.stored (result : PaidResult) : PaidResult :=
  { result with json := storedJson result.json }

end VirtualHaibin.Payments
