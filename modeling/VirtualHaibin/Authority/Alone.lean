import VirtualHaibin.Authority.Binding
import VirtualHaibin.Evidence.Headers
import VirtualHaibin.Evidence.Tamper

/-!
# One call on its own

The steps of one call, with everything else of the system as it was: how each extends a run.
A paid purchase from its arrival to its receipt ends the module.
-/

namespace VirtualHaibin.Authority

open Foundation Foundation.Checked Foundation.Schema Mandate Payments Evidence

section

variable {platform : Platform} {options : ℕ → AuthorityServiceOptions} {sys : System} {id : CallId}
  {auth : AuthenticatedRequest} {db db' : Db} {stage stage' : Stage}

/-- The system with the call `id` at a stage and the database as that call left it. -/
def System.withCall (sys : System) (id : CallId) (auth : AuthenticatedRequest) (db : Db) (stage : Stage) :
    System :=
  { sys with db }.setCall id ⟨auth, stage⟩

theorem System.withCall_calls : (sys.withCall id auth db stage).calls id = some ⟨auth, stage⟩ := by
  simp [withCall, setCall]

theorem System.withCall_withCall (before : Db) (earlier : Stage) :
    ({ sys.withCall id auth before earlier with db }.setCall id ⟨auth, stage⟩) =
      sys.withCall id auth db stage := by
  simp [withCall, setCall]

/-- A step of the call changes its stage and the database. -/
theorem System.withCall_step (event : CallEvent) :
    (sys.withCall id auth db stage).step platform options (.call id event) =
      (callStep platform (options id.process) db auth stage event).map fun next ↦
        sys.withCall id auth next.1 next.2 := by
  simp only [step, withCall_calls, withCall_withCall]
  rfl

def System.sent (sys : System) (credential : Credential) : System :=
  { sys with credentials := sys.credentials ++ [credential] }

theorem System.withCall_transmit (payment : Payment) (serviceAuthorization : SignedServiceAuthorizationV1)
    (attempt : PaymentAttempt) :
    (sys.withCall id auth db (.recorded payment serviceAuthorization attempt)).step platform options
        (.transmit id) =
      some ((sys.sent ⟨id, auth, payment, serviceAuthorization, attempt⟩).withCall id auth db
        (.transmitted payment serviceAuthorization attempt)) := by
  simp [step, sent, withCall, setCall]

/-- A call that finds no other for its invocation in its process becomes the pending one. -/
theorem System.accept_alone {access : Option ℤ}
    (hpending : sys.pending id.process auth.request.invocationId = none) :
    sys.accept id auth access = (sys.setPending id.process auth.request.invocationId
      (some ⟨auth.fingerprint, id.number⟩)).withCall id auth sys.db
        (earlyLookup sys.db access auth.request.invocationId) := by
  unfold accept
  rw [hpending]
  rfl

theorem System.withCall_arrive {input : AuthorizeRequestInput} {now : ℤ} {access : Option ℤ}
    (hserving : sys.processes id.process = .serving) (hunused : sys.calls id = none)
    (hauth : authenticate platform (options id.process) input now = .ok auth)
    (hpending : sys.pending id.process auth.request.invocationId = none) :
    sys.step platform options (.arrive id input now access) =
      some ((sys.setPending id.process auth.request.invocationId
        (some ⟨auth.fingerprint, id.number⟩)).withCall id auth sys.db
          (earlyLookup sys.db access auth.request.invocationId)) := by
  simp only [step, hserving, hunused, hauth, accept_alone hpending, Option.isNone_none, and_self, if_true]

theorem System.withCall_comm {other : CallId} (hne : other ≠ id) (before : Db) {auth' : AuthenticatedRequest} :
    (sys.withCall id auth before stage).withCall other auth' db stage' =
      (sys.withCall other auth' db stage').withCall id auth db stage := by
  simp only [withCall, setCall, Function.update_comm hne]

/-- A run goes on with a step of the call. -/
theorem run_call {allowed : System → Action → Prop} {init : System} {labels : List Action} {event : CallEvent}
    (hrun : Run (System.step platform options) allowed init labels (sys.withCall id auth db stage))
    (hallowed : allowed (sys.withCall id auth db stage) (.call id event))
    (hstep : callStep platform (options id.process) db auth stage event = some (db', stage')) :
    Run (System.step platform options) allowed init (labels ++ [.call id event])
      (sys.withCall id auth db' stage') :=
  hrun.next hallowed (by rw [System.withCall_step, hstep, Option.map_some])

end

/-! ## A paid purchase -/

namespace Sample

open Evidence.Sample (issuer agent authority operation unsignedPermit permit permitDigest operationDigest
  paidDigest url request agentSignature requestArtifactDigest overpaid profile)

def service : String := "3zPYV42m2NwBxqwy5hFKicQwkxEGuJDCv9jRR8gND4VK"

def fingerprint : String := "b71aa39a4eb018cf4d07ada6c0531efb642e70b9c205fb57ed99883937f567d9"

def options : AuthorityServiceOptions where
  authoritySigner := authority
  authorityAddress := authority
  audience := "authority"
  issuerEntitlement := ⟨issuer, ["devnet"]⟩
  trustedServiceKeys := fun name ↦ if name = "reports" then some service else none
  paymentProvider := ⟨profile, Payments.Sample.wallet⟩
  paidServices := fun key ↦
    if key = paidServiceKey "reports" "summarize" then some ⟨"reports", "summarize", url⟩ else none
  settlementProfiles := fun name ↦ if name = "devnet" then some profile else none
  maxRequestAgeMs := 300000
  maxFutureSkewMs := 30000

def input : AuthorizeRequestInput where
  permit := permit.toJson
  authorizationRequest := request
  agentSignature := some agentSignature.toJson
  valid := Evidence.Sample.request_valid

def auth : AuthenticatedRequest := ⟨permit, request, agentSignature, operationDigest, fingerprint⟩

def body : String := "\x7b\"datasetId\":\"sales\",\"operation\":\"summarize\"\x7d"

def paidRequest : PaidRequest := ⟨url, body, paidDigest⟩

def requirement : PaymentRequirement where
  protocol := "x402"
  x402Version := 2
  acceptsIndex := 0
  scheme := "exact"
  network := "devnet-x402"
  asset := Payments.Sample.mint
  payTo := Payments.Sample.merchant
  amountAtomic := "5"
  feePayer := some Payments.Sample.facilitator
  maxTimeoutSeconds := none
  resourceUrl := some url

def raw : Json :=
  .obj [("x402Version", .int 2), ("resource", .obj [("url", .str url)]),
    ("accepts", .arr [.obj [("scheme", .str "exact"), ("network", .str "devnet-x402"),
      ("asset", .str Payments.Sample.mint), ("payTo", .str Payments.Sample.merchant), ("amount", .str "5"),
      ("extra", .obj [("feePayer", .str Payments.Sample.facilitator)])]])]

def challenge : PaymentChallenge := ⟨[requirement], paidDigest, raw⟩

def attempt : PaymentAttempt :=
  { overpaid with
    amountAtomic := "5", transactionBase64 := some Payments.Sample.transactionBase64, preparedAt := 3100 }

def unsignedAuthorization : UnsignedServiceAuthorizationV1 where
  authority := authority
  invocationId := "invocation"
  grantId := "grant"
  url := url
  requestSha256 := paidDigest
  operationDigest := operationDigest
  payment := ⟨"devnet-x402", Payments.Sample.mint, Payments.Sample.merchant, "5"⟩
  issuedAt := 3000
  expiresAt := 123000

def serviceAuthorization : SignedServiceAuthorizationV1 :=
  { unsignedAuthorization with
    signature := "5XD56L5KncXtaLMZ16knGbp1KcoNdituqFiJZgvSn7xnz2YTVN5svAmtZHRcLkFD7ZwcZjLteZXR4puRPfc932SH" }

def settlement : ConfirmedSettlement where
  transactionId := Payments.Sample.facilitatorSignature
  slot := some "77"
  facilitatorReportedTransaction := some Payments.Sample.facilitatorSignature
  confirmedAt := 4000

/-- The bytes of the result, `{"total":"12"}`. -/
def resultBytes : List ℕ := [123, 34, 116, 111, 116, 97, 108, 34, 58, 34, 49, 50, 34, 125]
def resultBase64 : String := "eyJ0b3RhbCI6IjEyIn0="
def resultDigest : String := "6e243e0f99641ed540f7b6b94b1e9b283f5d0d77e8203e038269ae048fb4ef3c"

def authorizationDigest : String := "8459018fb20e1b886dd22731a1412c1f8f7d380fc86edbe0a52d0f5cb1245f6f"

def unsignedAcknowledgement : UnsignedServiceAcknowledgementV1 where
  service := service
  invocationId := "invocation"
  authorizationDigest := authorizationDigest
  requestSha256 := paidDigest
  received := operation
  transaction := some Payments.Sample.facilitatorSignature
  asset := Payments.Sample.mint
  payTo := Payments.Sample.merchant
  amountAtomic := "5"
  httpStatus := 200
  sha256 := resultDigest
  bytes := 14
  fulfilledAt := 3900

def acknowledgement : SignedServiceAcknowledgementV1 :=
  { unsignedAcknowledgement with
    signature := "3W4pfD6T3SxVBi7KTaSF7SipuMLMJ2aa1xebZ521Q8BveS2s3hoNJGc2mMvBBe6mkocFyfUo4i8A7kf1z84ZEWHr" }

/-- The canonical JSON of the acknowledgement in base64url. -/
def acknowledgementHeader : String :=
  "eyJhdXRob3JpemF0aW9uRGlnZXN0IjoiODQ1OTAxOGZiMjBlMWI4ODZkZDIyNzMxYTE0MTJjMWY4ZjdkMzgwZmM4NmVkYmUwYTUyZDBmNWNiMT" ++
  "I0NWY2ZiIsImRvbWFpbiI6InZpcnR1YWwtaGFpYmluL3NlcnZpY2UtYWNrbm93bGVkZ2VtZW50IiwiZnVsZmlsbGVkQXQiOjM5MDAsImludm9j" ++
  "YXRpb25JZCI6Imludm9jYXRpb24iLCJwYXltZW50Ijp7ImFtb3VudEF0b21pYyI6IjUiLCJhc3NldCI6Ijk4ZGJ5aDVmaGtHbmlTakREOEVteF" ++
  "g2OFE1ejZtSENMUll2OUZXTG1ZdEVOIiwicGF5VG8iOiJBOEVUb2Vvd0hYTEh5V2JEUlQ4Wlk4eWl5eHpKOGUydHZ5NEJCZXV1TEVRZyIsInRy" ++
  "YW5zYWN0aW9uIjoiNW9kWTNUa0sycmRYYndCU0h1d0pMb3RmenBtWlJ4bXR1ZVl5cGYxc2FWNVNqVVgxMm9ER3FQSHY0aFdWUFlWa2RMNnBNcD" ++
  "dwMkQ5YUFpOWhqZExnb1FVbiJ9LCJyZWNlaXZlZCI6eyJkYXRhc2V0SWQiOiJzYWxlcyIsIm1ldGhvZCI6IlBPU1QiLCJvcGVyYXRpb24iOiJz" ++
  "dW1tYXJpemUiLCJyZXNvdXJjZSI6Ii9yZXBvcnRzIn0sInJlcXVlc3RTaGEyNTYiOiJkNTc2ZTEzN2I4MDMzZGQyOTMwMGJjOWI0NGZlNzQzOT" ++
  "VhMWMyNWIzY2EzNmQ1OWU4NjcxNzAxMzRjNDE0N2FiIiwicmVzdWx0Ijp7ImJ5dGVzIjoxNCwiY29udGVudFR5cGUiOiJhcHBsaWNhdGlvbi9q" ++
  "c29uIiwiaHR0cFN0YXR1cyI6MjAwLCJzaGEyNTYiOiI2ZTI0M2UwZjk5NjQxZWQ1NDBmN2I2Yjk0YjFlOWIyODNmNWQwZDc3ZTgyMDNlMDM4Mj" ++
  "Y5YWUwNDhmYjRlZjNjIn0sInNlcnZpY2UiOiIzelBZVjQybTJOd0J4cXd5NWhGS2ljUXdreEVHdUpEQ3Y5alJSOGdORDRWSyIsInNpZ25hdHVy" ++
  "ZSI6eyJhbGdvcml0aG0iOiJlZDI1NTE5Iiwic2lnbmF0dXJlIjoiM1c0cGZENlQzU3hWQmk3S1RhU0Y3U2lwdU1MTUoyYWExeGViWjUyMVE4Qn" ++
  "ZlUzJzM2hvTkpHYzJtTXZCQmU2bWtvY0Z5ZlVvNGk4QTdrZjF6ODRaRVdIciJ9LCJ2ZXJzaW9uIjoxfQ"

def result : PaidResult where
  httpStatus := 200
  json := .obj [("total", .str "12")]
  sha256 := resultDigest
  bytes := 14
  bodyBase64 := some resultBase64
  serviceAcknowledgementHeader := some acknowledgementHeader

def unsignedReceipt : UnsignedAuthorizationReceiptV2 where
  domain := AUTHORIZATION_RECEIPT_DOMAIN
  invocationId := "invocation"
  grantId := "grant"
  authority := authority
  agent := agent
  permitDigest := permitDigest
  requestFingerprint := fingerprint
  service := "reports"
  capability := "summarize"
  network := "devnet"
  mint := Payments.Sample.mint
  recipient := Payments.Sample.merchant
  amountAtomic := "5"
  decision := "ALLOW"
  reasonCodes := []
  paymentTransactionId := some Payments.Sample.facilitatorSignature
  decidedAt := 2600
  operation := operation
  operationDigest := operationDigest

def receipt : SignedAuthorizationReceipt :=
  { unsignedReceipt with
    signature := "3jmMTcELPLgLM6uANBLKBan3vMXbMs3399XRGMiE92Xeva8zaPgUAAM3YTc4upcPp835JXV1yw8ooxkKZRhHnrvR" }

def outboundDigest : String := "2a9bbd883ca1535d3e9c3a8dfa1c0496cd2a3fdfea178e0c27c1d4e0c2589516"
def requirementDigest : String := "af78d7302be1bb27d3b74be3cecb0201975dc1f6ac8fee0a8369f88e8714ae09"
def receiptDigest : String := "e231a84dc0d5c9a72b6316f8561c1889e6486a938820e2a254887244128c02fd"
def attemptDigest : String := "1d495ac437d89ffb98862565d3a02f7abdb598d655f5230452d7be77e9cf44e5"
def settlementDigest : String := "8053734d88e36440e5e9c7012a8813e2dc49584860ea016a58a8731c185b7023"
def resultArtifactDigest : String := "cf3ba610938f7e68ae83a0a2b3a9b00b3fc684b7e20cd765459c3276d0a9ccbf"
def acknowledgementDigest : String := "61d7524b69000c19086d5f7439c8374f91a7d36583e528c0f3c565fcd0bff81e"

def evidenceResult : EvidenceResult where
  httpStatus := 200
  bodyBase64 := resultBase64
  bytes := 14
  sha256 := resultDigest

/-- The manifest of the purchase once it is confirmed. -/
def manifest : UnsignedEvidenceManifest where
  authority := authority
  issuedAt := 5000
  settlementProfile := "devnet"
  grantId := "grant"
  invocationId := "invocation"
  purchaseState := "CONFIRMED"
  decision := "ALLOW"
  reasonCodes := []
  digests := {
    purchasePermit := permitDigest
    authorizationRequest := requestArtifactDigest
    operation := operationDigest
    authorityDecision := some receiptDigest
    outboundRequest := some outboundDigest
    paymentRequirement := some requirementDigest
    paymentAttempt := some attemptDigest
    settlement := some settlementDigest
    result := some resultArtifactDigest
    service := some ⟨some authorizationDigest, some acknowledgementDigest⟩ }

def manifestSignature : String :=
  "2M4BRwFApdxyw6z4bZUWdJTE2zBAQFgaA2K8bbX2aWhHNT532R5cDV4cT2fTH7SQF7DMBVMgARACsUJcjXpuNTJY"

/-- What is hashed for the purchase and for its evidence. -/
def hashed : List (Message × String) :=
  [(.permitDigestV2 permit, permitDigest), (.operation operation, operationDigest),
    (.fingerprint (fingerprintInput permit request operationDigest), fingerprint),
    (.paidRequest url body, paidDigest),
    (.artifact (.authorizationRequest request agentSignature), requestArtifactDigest),
    (.artifact (.authorityDecision receipt), receiptDigest), (.artifact (.outboundRequest paidRequest), outboundDigest),
    (.artifact (.paymentRequirement requirement), requirementDigest),
    (.artifact (.paymentAttempt attempt), attemptDigest), (.artifact (.settlement settlement), settlementDigest),
    (.artifact (.result evidenceResult), resultArtifactDigest),
    (.artifact (.serviceAuthorization serviceAuthorization), authorizationDigest),
    (.artifact (.serviceAcknowledgement acknowledgement), acknowledgementDigest)]

def signed : List ((String × Message) × String) :=
  [((issuer, .unsignedPermitV2 unsignedPermit), permit.signature),
    ((agent, .requestV2 request), agentSignature.signature),
    ((authority, .serviceAuthorization unsignedAuthorization), serviceAuthorization.signature),
    ((authority, .receiptV2 unsignedReceipt), receipt.signature),
    ((service, .serviceAcknowledgement unsignedAcknowledgement), acknowledgement.signature),
    ((authority, .manifest manifest), manifestSignature)]

theorem hashed_hex : ∀ entry ∈ hashed, Text.isDigest entry.2 = true := by
  intro entry hentry
  simp only [hashed, List.mem_cons, List.not_mem_nil, or_false] at hentry
  rcases hentry with rfl | rfl | rfl | rfl | rfl | rfl | rfl | rfl | rfl | rfl | rfl | rfl | rfl <;>
    exact Text.inClass_ofList rfl

theorem hashed_field (entry : Message × String) (h : entry ∈ hashed) : Field 64 HEX64 entry.2 :=
  digest_fits (hashed_hex entry h)

theorem signed_base58 : ∀ entry ∈ signed, Field 128 BASE58 entry.2 := by
  intro entry hentry
  simp only [signed, List.mem_cons, List.not_mem_nil, or_false] at hentry
  rcases hentry with rfl | rfl | rfl | rfl | rfl | rfl <;> exact base58_fits (Text.inClass_ofList rfl)

/-- The wallet signed the transaction, the bytes of the result have their digest, and the header is read back. -/
def base : Platform :=
  { Payments.Sample.payments with
    pathname := fun text ↦ if text = url then some "/reports" else none
    verifySignature := fun key signature message ↦ key = Payments.Sample.wallet &&
      signature = Payments.Sample.payerSignature && message = Payments.Sample.transaction.messageBytes
    parseBase64Url := fun header ↦ if header = acknowledgementHeader then some acknowledgement.toJson else none
    decodeBase64 := fun text ↦ if text = resultBase64 then resultBytes else []
    encodeBase64 := fun bytes ↦ if bytes = resultBytes then resultBase64 else ""
    sha256HexOfBytes := fun bytes ↦ if bytes = resultBytes then resultDigest else otherDigest }

def recording : Recording where
  base := base
  addresses := [issuer, agent, authority, service, Payments.Sample.mint, Payments.Sample.merchant,
    Payments.Sample.wallet]
  digests := recordDigests hashed (by simp [hashed])
  signatures := recordSignatures signed (by simp [signed])
  digests_hex := hashed_hex
  signatures_base58 := signed_base58

def platform : Platform := recording.platform

theorem recorded_hashed : recording.digests.rows = hashed := rfl

theorem recorded_signed : recording.signatures.rows = signed := rfl

theorem hash_recorded (entry : Message × String) (h : entry ∈ hashed) :
    platform.sha256Hex (entry.1.text platform) = entry.2 :=
  Recording.sha256Hex_of_mem (show entry ∈ recording.digests.rows from recorded_hashed ▸ h)

theorem signed_recorded {key : String} (message : Message) {signature : String}
    (hkey : key ∈ recording.addresses) (h : ((key, message), signature) ∈ signed) :
    platform.verifySignature key signature (message.text platform) = true :=
  Recording.verifySignature_of_mem message hkey (recorded_signed ▸ h)

theorem permit_verified : SignedPurchasePermitV2.Verified platform permit where
  valid :=
    let hvalid := Evidence.Sample.permit_verified.valid
    { hvalid with issuer_key := by decide, agent_key := by decide, mint_key := by decide, recipient_key := by decide }
  isSignature := Recording.isSignature_of_mem (((issuer, .unsignedPermitV2 unsignedPermit), permit.signature))
    (by simp [recorded_signed, signed])
  importsKey := by decide
  signed := signed_recorded (.unsignedPermitV2 unsignedPermit)
    (by simp [recording, Evidence.Sample.permit, unsignedPermit])
    (by simp [signed, Evidence.Sample.permit, unsignedPermit])

theorem request_verified : verifyAuthorizationRequestSignature platform request agentSignature.toJson agent = true :=
  verifyAuthorizationRequestSignature_toJson.2 ⟨Recording.isSignature_of_mem
    (((agent, .requestV2 request), agentSignature.signature)) (by simp [recorded_signed, signed]),
    by decide, by decide, signed_recorded (.requestV2 request) (by simp [recording]) (by simp [signed])⟩

theorem permit_hashed : computePermitDigest platform permit = permitDigest :=
  hash_recorded (.permitDigestV2 permit, permitDigest) (by simp [hashed])

theorem operation_hashed : computeOperationDigest platform operation = operationDigest :=
  hash_recorded (.operation operation, operationDigest) (by simp [hashed])

theorem fingerprint_hashed : computeRequestFingerprint platform permit request operationDigest = fingerprint :=
  hash_recorded (.fingerprint (fingerprintInput permit request operationDigest), fingerprint) (by simp [hashed])

theorem paidRequest_hashed : computePaidRequestDigest platform url body = paidDigest :=
  hash_recorded (.paidRequest url body, paidDigest) (by simp [hashed])

theorem authenticated_at {now : ℤ} (hfrom : 2500 ≤ now) (hto : now ≤ 300000) :
    authenticate platform options input now = .ok auth := by
  have hpermit : verifyPurchasePermitV2 platform input.permit = .ok permit :=
    verifyPurchasePermitV2_toJson permit_verified
  have hsignature : normalizedSignature input.agentSignature = agentSignature.signature := by
    simp [normalizedSignature, input, AgentRequestSignature.toJson, signatureJson, object?, text, Json.member]
  unfold authenticate
  simp only [guardThat_bind_eq_ok, mapError_bind_eq_ok]
  refine ⟨by simp [input, isNullish, AgentRequestSignature.toJson, signatureJson], permit, hpermit, by decide,
    request_verified, by decide, by decide, ?_, ?_, ?_⟩
  · rw [permit_hashed]
    rfl
  · rw [Bool.not_eq_true', Bool.or_eq_false_iff]
    have hage : ¬ ((2000 : ℤ) < now - 300000) := by omega
    have hskew : ¬ (now + 30000 < (2000 : ℤ)) := by omega
    exact ⟨decide_eq_false hage, decide_eq_false hskew⟩
  · have hoperation : computeOperationDigest platform input.authorizationRequest.operation = operationDigest :=
      operation_hashed
    have hfingerprint : computeRequestFingerprint platform permit input.authorizationRequest operationDigest =
        fingerprint := fingerprint_hashed
    simp only [hsignature, hoperation, hfingerprint]
    rfl

theorem authenticated : authenticate platform options input 2500 = .ok auth :=
  authenticated_at (by decide) (by decide)

def id : CallId := ⟨0, 0⟩

def terms : ChallengeTerms := ⟨some paidRequest, some challenge, some requirement, []⟩

def payment (row : InvocationRecord) : Payment := ⟨row, paidRequest, challenge, requirement⟩

theorem body_eq : operationRequestBody platform operation = body := by
  decide +kernel

theorem outbound : outboundRequest platform options request = some paidRequest := by
  have hregistered : options.paidServices (paidServiceKey request.service request.capability) =
      some ⟨"reports", "summarize", url⟩ := rfl
  rw [outboundRequest, hregistered, Option.bind_some, buildPaidRequest_eq_some]
  refine ⟨rfl, by decide, ?_⟩
  have hbody : operationRequestBody platform request.operation = body := body_eq
  simp only [createPaidRequest, hbody, paidRequest_hashed]
  rfl

theorem decided_at {now : ℤ} (hallowed : requestAllowed auth now = true) :
    decide platform options auth now = .fetching now profile paidRequest := by
  have houtbound : outboundRequest platform options auth.request = some paidRequest := outbound
  have hprofile : (options.settlementProfiles auth.permit.network).filter (fun found ↦
      found.name = options.paymentProvider.settlementProfile) = some profile := by
    rfl
  simp only [Authority.decide, hallowed, houtbound, hprofile, if_true]

theorem decided : decide platform options auth 2600 = .fetching 2600 profile paidRequest :=
  decided_at (by decide)

theorem terms_eq : challengeTerms options auth profile paidRequest (.challenge challenge) = terms := by
  rfl

/-- The row of the reservation. -/
def reserved : InvocationRecord := (reserveInput auth 2600 terms).row .RESERVED [] 2700

def grant (reservedAtomic consumedAtomic : String) (updatedAt : ℤ) : GrantRecord where
  issuer := issuer
  grantId := "grant"
  permitDigest := permitDigest
  maxTotalAtomic := "20"
  reservedAtomic := reservedAtomic
  consumedAtomic := consumedAtomic
  createdAt := 2700
  updatedAt := updatedAt

def db (grant : GrantRecord) (row : InvocationRecord) (transitions : List TransitionRecord) : Db where
  grants := ⟨[grant], by simp⟩
  invocations := ⟨[row], by simp⟩
  transitions := transitions

def reservedDb : Db := db (grant "5" "0" 2700) reserved [⟨"invocation", none, .RESERVED, none, 2700⟩]

theorem reserves : Db.empty.access (some 2700) (reserve (reserveInput auth 2600 terms) (evaluate auth 2600 terms)) =
    (.ok (.reserved reserved), reservedDb) := by
  rfl

theorem reserving_step : callStep platform options .empty auth (.reserving 2600 terms) (.store (some 2700)) =
    some (reservedDb, .budgeting (payment reserved)) := by
  have houtbound : outboundRequest platform options reserved.request = some paidRequest := outbound
  have hstart : startPayment platform options (payment reserved) = .budgeting (payment reserved) := by
    simp [startPayment, outboundMatchesAuthorization, payment, houtbound]
  simp only [callStep, reserves]
  exact congrArg (fun stage ↦ some (reservedDb, stage)) hstart

theorem budgeting_step : callStep platform options reservedDb auth (.budgeting (payment reserved))
    (.store (some 2800)) = some (reservedDb, .authorizing (payment reserved)) := by
  rfl

theorem unsignedAuthorization_eq : unsignedServiceAuthorization platform options permit (payment reserved) 3000 =
    unsignedAuthorization := by
  have hoperation : computeOperationDigest platform (payment reserved).invocation.request.operation =
      operationDigest := operation_hashed
  rw [unsignedServiceAuthorization, hoperation]
  rfl

theorem authorizing_step : callStep platform options reservedDb auth (.authorizing (payment reserved))
    (.signed 3000) = some (reservedDb, .building (payment reserved) serviceAuthorization) := by
  have hsigned : platform.signBytes authority ((Message.serviceAuthorization unsignedAuthorization).text platform) =
      serviceAuthorization.signature := Recording.sign_of_mem (recorded_signed ▸ by simp [signed])
  have hsign : signServiceAuthorization platform unsignedAuthorization options.authoritySigner =
      some serviceAuthorization := by
    rw [signServiceAuthorization, if_pos (show options.authoritySigner = unsignedAuthorization.authority from rfl)]
    exact congrArg (fun signature ↦ some (SignedServiceAuthorizationV1.mk unsignedAuthorization signature)) hsigned
  have hunsigned : unsignedServiceAuthorization platform options auth.permit (payment reserved) 3000 =
      unsignedAuthorization := unsignedAuthorization_eq
  simp only [callStep, hunsigned, hsign, Option.map_some]

def attempted : InvocationRecord := attemptedRow attempt serviceAuthorization 3200 reserved

def attemptedDb : Db := db (grant "5" "0" 2700) attempted
  (reservedDb.transitions ++ [⟨"invocation", some .RESERVED, .RESERVED,
    some s!"payment attempt {attempt.payerSignature}", 3200⟩])

theorem building_step : callStep platform options reservedDb auth (.building (payment reserved) serviceAuthorization)
    (.submit attempt (some 3200)) =
      some (attemptedDb, .recorded (payment reserved) serviceAuthorization attempt) := by
  rfl

theorem acknowledgement_fits : SignedServiceAcknowledgementV1.Fits acknowledgement where
  service := ⟨by decide, by decide⟩
  invocationId := by decide
  authorizationDigest := hashed_field
    (.artifact (.serviceAuthorization serviceAuthorization), authorizationDigest) (by simp [hashed])
  requestSha256 := hashed_field (.paidRequest url body, paidDigest) (by simp [hashed])
  received := Evidence.Sample.request_fits.operation
  transaction := by
    rintro id hid
    cases hid
    exact base58_fits (Text.inClass_ofList rfl)
  asset := by decide
  payTo := by decide
  amountAtomic := ⟨by decide, by decide⟩
  httpStatus := by decide
  sha256 := digest_fits (Text.inClass_ofList rfl)
  bytes := by decide
  fulfilledAt := by decide
  signature := signed_base58
    ((service, .serviceAcknowledgement unsignedAcknowledgement), acknowledgement.signature) (by simp [signed])

-- The header is judged piece by piece, as it is written.
theorem acknowledgementHeader_inClass :
    Text.inClass Base64Url.isDigit 1 MAX_HEADER_CHARS acknowledgementHeader = true := by
  show Text.inClass Base64Url.isDigit 1 4096 acknowledgementHeader = true
  unfold acknowledgementHeader
  iterate 11 refine Text.inClass_append _ 110 ?_ (Text.inClass_ofList rfl)
  exact Text.inClass_ofList rfl

/-- The header is within its bound, so the acknowledgement is read back. -/
theorem acknowledgement_decoded :
    decodeServiceAcknowledgementHeader platform acknowledgementHeader = .ok acknowledgement := by
  have hparsed : platform.parseBase64Url acknowledgementHeader = some acknowledgement.toJson := by
    simp only [platform, recording, base, Recording.platform, if_true]
  rw [decodeServiceAcknowledgementHeader, decodeHeader_of_inClass acknowledgementHeader_inClass hparsed, ok_bind]
  exact parseServiceAcknowledgement_toJson acknowledgement_fits

theorem acknowledgement_signed : verifyServiceAcknowledgementSignature platform acknowledgement service = true :=
  verifyPinned_eq_true.2 ⟨rfl, Recording.isSignature_of_mem
    (((service, .serviceAcknowledgement unsignedAcknowledgement), acknowledgement.signature))
      (by simp [recorded_signed, signed]), by decide, by decide,
    signed_recorded (.serviceAcknowledgement unsignedAcknowledgement) (by simp [recording]) (by simp [signed])⟩

theorem authorization_hashed : serviceAuthorizationDigest platform serviceAuthorization = authorizationDigest :=
  hash_recorded (.artifact (.serviceAuthorization serviceAuthorization), authorizationDigest) (by simp [hashed])

/-- The acknowledgement states the whole exchange, so the authority keeps it. -/
theorem acknowledgement_accepted : acceptAcknowledgement platform options permit (payment reserved)
    serviceAuthorization settlement result = result := by
  have htrusted : options.trustedServiceKeys permit.service = some service := rfl
  have hmatches : acknowledgementMatches platform (payment reserved) serviceAuthorization settlement result service
      acknowledgement = true := by
    simp only [acknowledgementMatches, Bool.and_eq_true, decide_eq_true_eq]
    exact ⟨⟨⟨⟨⟨⟨⟨⟨⟨⟨⟨acknowledgement_signed, rfl⟩, authorization_hashed.symm⟩, rfl⟩, rfl⟩, rfl⟩, rfl⟩, rfl⟩,
      rfl⟩, rfl⟩, rfl⟩, rfl⟩
  have hheader : result.serviceAcknowledgementHeader = some acknowledgementHeader := rfl
  rw [acceptAcknowledgement, hheader]
  simp only [Option.filter_some, htrusted, acknowledgement_decoded, hmatches, if_true]
  rw [← hheader]

theorem transmitted_step : callStep platform options attemptedDb auth
    (.transmitted (payment reserved) serviceAuthorization attempt) (.executed settlement result) =
      some (attemptedDb, .confirming settlement result) := by
  have haccepted : acceptAcknowledgement platform options auth.permit (payment reserved) serviceAuthorization
      settlement result = result := acknowledgement_accepted
  simp only [callStep, haccepted]

def confirmed : InvocationRecord :=
  confirmedRow attempted ⟨settlement.transactionId, some settlement, some result⟩ 4100

def confirmedDb : Db := db (grant "0" "5" 4100) confirmed
  (attemptedDb.transitions ++ [⟨"invocation", some .RESERVED, .CONFIRMED,
    some s!"payment {settlement.transactionId}", 4100⟩])

theorem confirming_step : callStep platform options attemptedDb auth (.confirming settlement result)
    (.store (some 4100)) = some (confirmedDb, .signing confirmed false) := by
  rfl

theorem unsignedReceipt_eq : Authority.unsignedReceipt platform options confirmed = unsignedReceipt := by
  have hoperation : computeOperationDigest platform confirmed.request.operation = operationDigest :=
    operation_hashed
  rw [Authority.unsignedReceipt, hoperation]
  rfl

theorem receipt_signed : signReceipt platform options confirmed = some receipt := by
  have hsigned : platform.signBytes authority ((Message.receiptV2 unsignedReceipt).text platform) =
      receipt.signature := Recording.sign_of_mem (recorded_signed ▸ by simp [signed])
  rw [signReceipt, unsignedReceipt_eq, signAuthorizationReceipt,
    if_pos (show options.authoritySigner = unsignedReceipt.authority from rfl)]
  exact congrArg (fun signature ↦ some (SignedAuthorizationReceipt.mk unsignedReceipt signature)) hsigned

def receipted : InvocationRecord := attachedRow receipt 4200 confirmed

def receiptedDb : Db := db (grant "0" "5" 4100) receipted confirmedDb.transitions

theorem signing_step : callStep platform options confirmedDb auth (.signing confirmed false) (.store (some 4200)) =
    some (receiptedDb, .done (.returned (resultOf options confirmed receipt false))) := by
  have hattach : confirmedDb.access (some 4200) (attachReceipt confirmed.invocationId receipt) =
      (.ok receipt, receiptedDb) := by
    rfl
  simp only [callStep, receipt_signed, Option.map_some, hattach]

/-! ### The run -/

def answers : CredentialAnswers where
  blockhash := [("blockhash", .str Payments.Sample.blockhash), ("lastValidBlockHeight", .int 900)]
  transaction := .ok (some Payments.Sample.transactionBase64)
  preparedAt := 3100

theorem validates : validateExactPaymentTransaction platform (some Payments.Sample.transactionBase64)
    Payments.Sample.expected = .ok ⟨Payments.Sample.payerSignature, TOKEN_PROGRAM⟩ :=
  Payments.Sample.validates

theorem prepares : prepareAttempt platform options.paymentProvider paidRequest challenge requirement answers =
    .ok attempt := by
  have hfresh : freshBlockhash platform profile answers.blockhash = .ok ⟨Payments.Sample.blockhash, 900⟩ := by
    simp [freshBlockhash, answers, number, text, Json.member, Json.int, profile]
  have hmatches : paidRequestMatches platform paidRequest challenge.requestSha256 = true := by
    simp [paidRequestMatches, paidRequest, challenge, paidRequest_hashed]
  have horiginal : originalMatches challenge.raw requirement = true := by
    simp [originalMatches, challenge, raw, requirement, Json.member, text]
  simp only [prepareAttempt, required_bind_eq_ok, guardThat_bind_eq_ok, filter_eq_some]
  refine ⟨hmatches, horiginal, Payments.Sample.facilitator, ⟨rfl, by decide⟩, ?_⟩
  rw [bind_eq_ok]
  refine ⟨_, hfresh, ?_⟩
  rw [bind_eq_ok]
  exact ⟨some Payments.Sample.transactionBase64, rfl, (mapError_bind_eq_ok).2 ⟨_, validates, rfl⟩⟩

def digests : Digests where
  contentOf _ := fingerprintInput permit request operationDigest
  permitOf _ := permit
  operationOf _ := operation

/-- The digests stand for what they digest, and the provider submits what it prepared. -/
def honest (sys : System) (action : Action) : Prop :=
  CollisionFree platform (fun _ ↦ options) digests action ∧ Prepares platform (fun _ ↦ options) sys action

def started : System :=
  { System.initial with
    processes := Function.update (Function.update System.initial.processes 0 .starting) 0 .serving }

/-- The purchase is the pending one for its invocation. -/
def pending : System := started.setPending 0 "invocation" (some ⟨fingerprint, 0⟩)

theorem starting_step : System.initial.step platform (fun _ ↦ options) (.start 0) = some { System.initial with
    processes := Function.update System.initial.processes 0 .starting } := by
  rfl

theorem serving_step : System.step platform (fun _ ↦ options) { System.initial with
    processes := Function.update System.initial.processes 0 .starting } (.recover 0 (some 1000)) = some started := by
  rfl

theorem started_run : Run (System.step platform fun _ ↦ options) honest .initial [.start 0, .recover 0 (some 1000)]
    started :=
  (Run.start.next ⟨trivial, trivial⟩ starting_step).next ⟨trivial, trivial⟩ serving_step

theorem arrives : started.step platform (fun _ ↦ options) (.arrive id input 2500 (some 2500)) =
    some (pending.withCall id auth .empty (.known none)) :=
  System.withCall_arrive rfl rfl authenticated rfl

theorem arrival_honest : CollisionFree platform (fun _ ↦ options) digests (.arrive id input 2500 (some 2500)) := by
  intro other hother
  rw [authenticated] at hother
  cases hother
  exact ⟨rfl, rfl, rfl⟩

theorem resuming_step : callStep platform options .empty auth (.known none) (.resume 2600) =
    some (.empty, .fetching 2600 profile paidRequest) :=
  congrArg (fun stage ↦ some (Db.empty, stage)) decided

theorem fetching_step : callStep platform options .empty auth (.fetching 2600 profile paidRequest)
    (.challenge (.challenge challenge)) = some (.empty, .reserving 2600 terms) := by
  rfl

def paying : List Action :=
  [.start 0, .recover 0 (some 1000), .arrive id input 2500 (some 2500)] ++ [.call id (.resume 2600)] ++
  [.call id (.challenge (.challenge challenge))] ++ [.call id (.store (some 2700))] ++
  [.call id (.store (some 2800))] ++ [.call id (.signed 3000)] ++
  [.call id (.submit attempt (some 3200))]

/-- The actions before the attempt is recorded. -/
def authorizing : List Action :=
  [.start 0, .recover 0 (some 1000), .arrive id input 2500 (some 2500)] ++ [.call id (.resume 2600)] ++
  [.call id (.challenge (.challenge challenge))] ++ [.call id (.store (some 2700))] ++
  [.call id (.store (some 2800))] ++ [.call id (.signed 3000)]

theorem building_run : Run (System.step platform fun _ ↦ options) honest .initial authorizing
    (pending.withCall id auth reservedDb (.building (payment reserved) serviceAuthorization)) := by
  have harrived : Run (System.step platform fun _ ↦ options) honest .initial
      [.start 0, .recover 0 (some 1000), .arrive id input 2500 (some 2500)]
      (pending.withCall id auth .empty (.known none)) :=
    started_run.next ⟨arrival_honest, trivial⟩ arrives
  exact run_call (run_call (run_call (run_call (run_call harrived ⟨trivial, trivial⟩ resuming_step)
    ⟨trivial, trivial⟩ fetching_step) ⟨trivial, trivial⟩ reserving_step) ⟨trivial, trivial⟩ budgeting_step)
    ⟨trivial, trivial⟩ authorizing_step

theorem recorded_run : Run (System.step platform fun _ ↦ options) honest .initial paying
    (pending.withCall id auth attemptedDb (.recorded (payment reserved) serviceAuthorization attempt)) := by
  refine run_call building_run ⟨trivial, ?_⟩ building_step
  intro other payment authorization hcall
  rw [System.withCall_calls] at hcall
  cases hcall
  exact ⟨answers, prepares⟩

def credential : Credential := ⟨id, auth, payment reserved, serviceAuthorization, attempt⟩

theorem transmitted_run : Run (System.step platform fun _ ↦ options) honest .initial (paying ++ [.transmit id])
    ((pending.sent credential).withCall id auth attemptedDb
      (.transmitted (payment reserved) serviceAuthorization attempt)) :=
  recorded_run.next ⟨trivial, trivial⟩ (System.withCall_transmit _ _ _)

def confirming : List Action := paying ++ [.transmit id] ++ [.call id (.executed settlement result)] ++
  [.call id (.store (some 4100))]

theorem confirmed_run : Run (System.step platform fun _ ↦ options) honest .initial confirming
    ((pending.sent credential).withCall id auth confirmedDb (.signing confirmed false)) :=
  run_call (run_call transmitted_run ⟨trivial, trivial⟩ transmitted_step) ⟨trivial, trivial⟩ confirming_step

theorem returned_run : Run (System.step platform fun _ ↦ options) honest .initial
    (confirming ++ [.call id (.store (some 4200))])
    ((pending.sent credential).withCall id auth receiptedDb
      (.done (.returned (resultOf options confirmed receipt false)))) :=
  run_call confirmed_run ⟨trivial, trivial⟩ signing_step

end Sample

end VirtualHaibin.Authority
