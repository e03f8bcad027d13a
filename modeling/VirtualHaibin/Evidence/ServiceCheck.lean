import VirtualHaibin.Evidence.Parse
import VirtualHaibin.Foundation.TextDecoder

/-!
# What a service checks of a paid request

Before its payment gate may settle, an integrated service wants an authorization by the pinned
authority for exactly the bytes it received, this invocation, and its own price.
-/

namespace VirtualHaibin.Evidence

open Foundation Foundation.Checked Foundation.Schema Mandate Payments

def SERVICE_AUTHORIZATION_HEADER : String := "x-vh-authorization"

inductive ServiceAuthorizationReasonCode where
  | SERVICE_AUTHORIZATION_REQUIRED
  | SERVICE_AUTHORIZATION_INVALID
  | SERVICE_AUTHORIZATION_EXPIRED
  | SERVICE_AUTHORIZATION_REQUEST_MISMATCH
  | SERVICE_AUTHORIZATION_PAYMENT_MISMATCH
  deriving DecidableEq

structure ServiceAuthorizationRefusal where
  reasonCode : ServiceAuthorizationReasonCode
  message : String
  deriving DecidableEq

structure ServiceAuthorizationCheck where
  authorization : SignedServiceAuthorizationV1
  requestSha256 : String
  authorizationDigest : String
  deriving DecidableEq

/-- The price of the service. -/
structure ExpectedPayment where
  asset : String
  payTo : String
  amountAtomic : String
  deriving DecidableEq

structure ServiceRequestContext where
  header : Option String
  pinnedAuthority : String
  method : String
  path : String
  rawBody : List ℕ
  invocationIdHeader : Option String
  expectedPayment : ExpectedPayment
  now : ℤ

def checkServiceAuthorization (platform : Platform) (context : ServiceRequestContext) :
    Except ServiceAuthorizationRefusal ServiceAuthorizationCheck := do
  let header ← required (context.header.filter fun header ↦ header ≠ "")
    ⟨.SERVICE_AUTHORIZATION_REQUIRED, "A paid request must carry a Virtual Haibin service authorization."⟩
  let authorization ← (decodeServiceAuthorizationHeader platform header).mapError fun error ↦
    ⟨.SERVICE_AUTHORIZATION_INVALID, error.message⟩
  guardThat (verifyServiceAuthorizationSignature platform authorization context.pinnedAuthority)
    ⟨.SERVICE_AUTHORIZATION_INVALID, "Authorization is not signed by the pinned Virtual Haibin authority."⟩
  guardThat (!(context.now < authorization.issuedAt - 30000 || context.now > authorization.expiresAt))
    ⟨.SERVICE_AUTHORIZATION_EXPIRED, "Authorization is outside its validity window."⟩
  let path ← required (platform.pathname authorization.url)
    ⟨.SERVICE_AUTHORIZATION_INVALID, "Authorization URL is malformed."⟩
  let body := TextDecoder.decode context.rawBody
  let requestSha256 := computePaidRequestDigest platform authorization.url body
  guardThat (!(context.method ≠ "POST" || context.path ≠ path || TextDecoder.encode body ≠ context.rawBody ||
      requestSha256 ≠ authorization.requestSha256 ||
      context.invocationIdHeader ≠ some authorization.invocationId))
    ⟨.SERVICE_AUTHORIZATION_REQUEST_MISMATCH, "Received request is not the request the authority authorized."⟩
  let expected := context.expectedPayment
  guardThat (!(authorization.payment.asset ≠ expected.asset || authorization.payment.payTo ≠ expected.payTo ||
      authorization.payment.amountAtomic ≠ expected.amountAtomic))
    ⟨.SERVICE_AUTHORIZATION_PAYMENT_MISMATCH, "Authorized payment terms differ from this service's price."⟩
  return ⟨authorization, requestSha256, serviceAuthorizationDigest platform authorization⟩

/-- What holds of a request that was let through. -/
structure ServiceRequestContext.Admits (platform : Platform) (context : ServiceRequestContext)
    (check : ServiceAuthorizationCheck) : Prop where
  header : ∃ header, context.header = some header ∧ header ≠ "" ∧
    decodeServiceAuthorizationHeader platform header = .ok check.authorization
  signed : verifyServiceAuthorizationSignature platform check.authorization context.pinnedAuthority = true
  not_early : check.authorization.issuedAt - 30000 ≤ context.now
  not_late : context.now ≤ check.authorization.expiresAt
  method_eq : context.method = "POST"
  path_eq : platform.pathname check.authorization.url = some context.path
  body : TextDecoder.encode (TextDecoder.decode context.rawBody) = context.rawBody
  requestSha256_eq : check.requestSha256 =
    computePaidRequestDigest platform check.authorization.url (TextDecoder.decode context.rawBody)
  authorized_sha256 : check.authorization.requestSha256 = check.requestSha256
  invocationId_eq : context.invocationIdHeader = some check.authorization.invocationId
  asset_eq : check.authorization.payment.asset = context.expectedPayment.asset
  payTo_eq : check.authorization.payment.payTo = context.expectedPayment.payTo
  amount_eq : check.authorization.payment.amountAtomic = context.expectedPayment.amountAtomic
  digest_eq : check.authorizationDigest = serviceAuthorizationDigest platform check.authorization

theorem checkServiceAuthorization_eq_ok {platform : Platform} {context : ServiceRequestContext}
    {check : ServiceAuthorizationCheck} :
    checkServiceAuthorization platform context = .ok check ↔ context.Admits platform check := by
  simp only [checkServiceAuthorization, required_bind_eq_ok, guardThat_bind_eq_ok, mapError_bind_eq_ok,
    filter_eq_some, pure_eq_ok, Except.ok.injEq, Bool.not_eq_true', Bool.or_eq_false_iff, decide_eq_false_iff_not,
    decide_eq_true_eq, not_lt, ne_eq, not_not, gt_iff_lt]
  constructor
  · rintro ⟨header, ⟨hheader, hne⟩, authorization, hdecoded, hsigned, ⟨hearly, hlate⟩, path, hpath,
      ⟨⟨⟨⟨hmethod, hpath'⟩, hbody⟩, hsha256⟩, hinvocation⟩, ⟨⟨hasset, hpayTo⟩, hamount⟩, rfl⟩
    exact ⟨⟨header, hheader, hne, hdecoded⟩, hsigned, hearly, hlate, hmethod, hpath'.symm ▸ hpath, hbody, rfl,
      hsha256.symm, hinvocation, hasset, hpayTo, hamount, rfl⟩
  · intro h
    obtain ⟨header, hheader, hne, hdecoded⟩ := h.header
    refine ⟨header, ⟨hheader, hne⟩, check.authorization, hdecoded, h.signed, ⟨h.not_early, h.not_late⟩, context.path,
      h.path_eq, ⟨⟨⟨⟨h.method_eq, rfl⟩, h.body⟩, ?_⟩, h.invocationId_eq⟩,
      ⟨⟨h.asset_eq, h.payTo_eq⟩, h.amount_eq⟩, ?_⟩
    · rw [h.authorized_sha256, h.requestSha256_eq]
    · rw [← h.requestSha256_eq, ← h.digest_eq]

def signServiceAcknowledgement (platform : Platform) (unsigned : UnsignedServiceAcknowledgementV1)
    (signer : String) : Option SignedServiceAcknowledgementV1 :=
  if signer = unsigned.service then
    some { unsigned with
      signature := platform.signBytes signer
        (statementText platform SERVICE_ACKNOWLEDGEMENT_DOMAIN unsigned.members) }
  else none

end VirtualHaibin.Evidence
