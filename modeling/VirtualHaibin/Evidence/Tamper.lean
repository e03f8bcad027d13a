import VirtualHaibin.Evidence.Verify
import VirtualHaibin.Recorded

/-!
# Tamper evidence

A signed manifest pins every field of every artifact of a bundle that is not rejected.  The
artifacts are pinned by their digests, the identifiers and the environment by the comparison with
the manifest, and the version by the digests the manifest has.  Collision freeness is asked of the
texts that the two bundles hash, not of the hash function everywhere.
-/

namespace VirtualHaibin.Evidence

open Foundation Foundation.Schema Mandate Payments Policy

/-- What the digests of a manifest are taken of. -/
def EvidenceArtifacts.hashed (artifacts : EvidenceArtifacts) : List Message :=
  [.permitDigestV2 artifacts.purchasePermit,
    .artifact (.authorizationRequest artifacts.request artifacts.agentSignature),
    .operation artifacts.request.operation] ++
  ((artifacts.authorityDecision.map Artifact.authorityDecision).toList ++
    (artifacts.outboundRequest.map Artifact.outboundRequest).toList ++
    (artifacts.paymentRequirement.map Artifact.paymentRequirement).toList ++
    (artifacts.paymentAttempt.map Artifact.paymentAttempt).toList ++
    (artifacts.settlement.map Artifact.settlement).toList ++
    (artifacts.result.map Artifact.result).toList ++
    artifacts.service.elim [] fun service ↦
      (service.serviceAuthorization.map Artifact.serviceAuthorization).toList ++
        (service.serviceAcknowledgement.map Artifact.serviceAcknowledgement).toList).map .artifact

/-- The hash tells apart what the two bundles hash. -/
def CollisionFree (platform : Platform) (a b : EvidenceArtifacts) : Prop :=
  ∀ m ∈ a.hashed, ∀ n ∈ b.hashed,
    platform.sha256Hex (m.text platform) = platform.sha256Hex (n.text platform) →
      m.text platform = n.text platform

section

variable {platform : Platform} {a b : EvidenceArtifacts}

theorem CollisionFree.eq (hcanonical : platform.CanonicalizeInjective) (hfree : CollisionFree platform a b)
    {m n : Message} (hm : m ∈ a.hashed) (hn : n ∈ b.hashed)
    (h : platform.sha256Hex (m.text platform) = platform.sha256Hex (n.text platform)) : m = n :=
  Message.text_injective hcanonical (hfree m hm n hn h)

/-- An optional artifact with the same digest, present or absent, is the same. -/
theorem CollisionFree.option_eq {α : Type*} (hcanonical : platform.CanonicalizeInjective)
    (hfree : CollisionFree platform a b) (message : α → Message) (hmessage : Function.Injective message)
    {x y : Option α} (hx : ∀ v ∈ x, message v ∈ a.hashed) (hy : ∀ v ∈ y, message v ∈ b.hashed)
    (h : x.map (fun v ↦ platform.sha256Hex ((message v).text platform)) =
      y.map fun v ↦ platform.sha256Hex ((message v).text platform)) : x = y := by
  match x, y with
  | none, none => rfl
  | some v, some w =>
    have hdigest := Option.some.inj h
    rw [hmessage (hfree.eq hcanonical (hx v rfl) (hy w rfl) hdigest)]

section

variable (hcanonical : platform.CanonicalizeInjective) (hfree : CollisionFree platform a b)
  (h : computeEvidenceDigests platform a = computeEvidenceDigests platform b)

include hcanonical hfree h

theorem purchasePermit_eq_of_digests : a.purchasePermit = b.purchasePermit :=
  Message.permitDigestV2.inj (hfree.eq hcanonical (m := .permitDigestV2 a.purchasePermit)
    (n := .permitDigestV2 b.purchasePermit) (by simp [EvidenceArtifacts.hashed])
    (by simp [EvidenceArtifacts.hashed]) (congrArg EvidenceDigests.purchasePermit h))

theorem request_eq_of_digests : a.request = b.request ∧ a.agentSignature = b.agentSignature :=
  Artifact.authorizationRequest.inj (Message.artifact.inj (hfree.eq hcanonical
    (m := .artifact (.authorizationRequest a.request a.agentSignature))
    (n := .artifact (.authorizationRequest b.request b.agentSignature)) (by simp [EvidenceArtifacts.hashed])
    (by simp [EvidenceArtifacts.hashed]) (congrArg EvidenceDigests.authorizationRequest h)))

/-- The exchange with the service is there in both or in neither. -/
theorem service_eq_of_digests : a.service = b.service := by
  have hservice := congrArg EvidenceDigests.service h
  simp only [computeEvidenceDigests] at hservice
  cases ha : a.service with
  | none =>
    cases hb : b.service with
    | none => rfl
    | some exchange => simp [ha, hb] at hservice
  | some exchange =>
    cases hb : b.service with
    | none => simp [ha, hb] at hservice
    | some exchange' =>
      simp only [ha, hb, Option.map_some, Option.some.injEq, ServiceDigests.mk.injEq] at hservice
      have hauthorization := hfree.option_eq hcanonical
        (fun v ↦ .artifact (.serviceAuthorization v)) (fun v w h ↦ by simpa using h)
        (fun v hv ↦ by simp_all [EvidenceArtifacts.hashed])
        (fun v hv ↦ by simp_all [EvidenceArtifacts.hashed]) hservice.1
      have hacknowledgement := hfree.option_eq hcanonical
        (fun v ↦ .artifact (.serviceAcknowledgement v)) (fun v w h ↦ by simpa using h)
        (fun v hv ↦ by simp_all [EvidenceArtifacts.hashed])
        (fun v hv ↦ by simp_all [EvidenceArtifacts.hashed]) hservice.2
      cases exchange
      cases exchange'
      simp_all

/-- The digests of the artifacts determine the artifacts; the identifiers are not digested. -/
theorem artifacts_eq_of_digests (hprofile : a.settlementProfile = b.settlementProfile)
    (hgrant : a.grantId = b.grantId) (hinvocation : a.invocationId = b.invocationId) : a = b := by
  obtain ⟨hrequest, hsignature⟩ := request_eq_of_digests hcanonical hfree h
  exact EvidenceArtifacts.ext hprofile hgrant hinvocation (purchasePermit_eq_of_digests hcanonical hfree h)
    hrequest hsignature
    (hfree.option_eq hcanonical (fun v ↦ .artifact (.authorityDecision v))
      (fun v w h ↦ by simpa using h) (fun v hv ↦ by simp_all [EvidenceArtifacts.hashed])
      (fun v hv ↦ by simp_all [EvidenceArtifacts.hashed]) (congrArg EvidenceDigests.authorityDecision h))
    (hfree.option_eq hcanonical (fun v ↦ .artifact (.outboundRequest v))
      (fun v w h ↦ by simpa using h) (fun v hv ↦ by simp_all [EvidenceArtifacts.hashed])
      (fun v hv ↦ by simp_all [EvidenceArtifacts.hashed]) (congrArg EvidenceDigests.outboundRequest h))
    (hfree.option_eq hcanonical (fun v ↦ .artifact (.paymentRequirement v))
      (fun v w h ↦ by simpa using h) (fun v hv ↦ by simp_all [EvidenceArtifacts.hashed])
      (fun v hv ↦ by simp_all [EvidenceArtifacts.hashed]) (congrArg EvidenceDigests.paymentRequirement h))
    (hfree.option_eq hcanonical (fun v ↦ .artifact (.paymentAttempt v))
      (fun v w h ↦ by simpa using h) (fun v hv ↦ by simp_all [EvidenceArtifacts.hashed])
      (fun v hv ↦ by simp_all [EvidenceArtifacts.hashed]) (congrArg EvidenceDigests.paymentAttempt h))
    (hfree.option_eq hcanonical (fun v ↦ .artifact (.settlement v))
      (fun v w h ↦ by simpa using h) (fun v hv ↦ by simp_all [EvidenceArtifacts.hashed])
      (fun v hv ↦ by simp_all [EvidenceArtifacts.hashed]) (congrArg EvidenceDigests.settlement h))
    (hfree.option_eq hcanonical (fun v ↦ .artifact (.result v))
      (fun v w h ↦ by simpa using h) (fun v hv ↦ by simp_all [EvidenceArtifacts.hashed])
      (fun v hv ↦ by simp_all [EvidenceArtifacts.hashed]) (congrArg EvidenceDigests.result h))
    (service_eq_of_digests hcanonical hfree h)

end

/-! ## What a bundle that is not rejected agrees on -/

theorem digestProblems_eq_nil {recomputed signed : EvidenceDigests}
    (h : digestProblems recomputed signed = []) : recomputed = signed := by
  simp only [digestProblems, List.append_eq_nil_iff, problemIf_eq_nil, decide_eq_false_iff_not,
    ne_eq, not_not, Option.some.injEq] at h
  obtain ⟨⟨⟨⟨⟨⟨⟨⟨⟨⟨hpermit, hrequest⟩, hoperation⟩, hdecision⟩, houtbound⟩, hrequirement⟩, hattempt⟩,
    hsettlement⟩, hresult⟩, hauthorization⟩, hacknowledgement⟩ := h
  refine EvidenceDigests.ext hpermit hrequest hoperation hdecision houtbound hrequirement hattempt
    hsettlement hresult ?_
  cases hr : recomputed.service <;> cases hs : signed.service <;>
    simp_all [ServiceDigests.ext_iff]

theorem digestProblems_self (digests : EvidenceDigests) : digestProblems digests digests = [] := by
  simp [digestProblems]

/-- The artifacts re-hash to the signed digests, and the bundle names what its manifest names. -/
structure Pinned (platform : Platform) (bundle : EvidenceBundle) : Prop where
  digests : computeEvidenceDigests platform bundle.toEvidenceArtifacts = bundle.manifest.digests
  profile : bundle.manifest.settlementProfile = bundle.settlementProfile
  grant : bundle.manifest.grantId = bundle.grantId
  invocation : bundle.manifest.invocationId = bundle.invocationId

theorem Pinned.of_verified {bundle : EvidenceBundle} {trust : VerifierTrust} {options : VerifyOptions}
    (h : ∀ claim ∈ verifyParsed platform bundle trust options, claim.status ≠ .INVALID) :
    Pinned platform bundle := by
  have hintegrity : ∀ claim ∈ integrityClaims platform bundle trust, claim.status ≠ .INVALID :=
    fun claim hmem ↦ h claim (by simp [verifyParsed, hmem])
  simp only [integrityClaims, List.mem_cons, List.not_mem_nil, or_false, forall_eq_or_imp, forall_eq,
    ne_eq, demand_status, not_not] at hintegrity
  obtain ⟨-, hdigests, hstate⟩ := hintegrity
  simp only [stateProblems, List.append_eq_nil_iff, problemIf_eq_nil] at hstate
  obtain ⟨⟨⟨⟨⟨⟨⟨⟨⟨hgrant, hinvocation⟩, hprofile⟩, -⟩, -⟩, -⟩, -⟩, -⟩, -⟩, -⟩ := hstate
  simp only [Bool.or_eq_false_iff, decide_eq_false_iff_not, ne_eq, not_not] at hgrant hinvocation hprofile
  exact ⟨digestProblems_eq_nil hdigests, hprofile.1, hgrant.1.1, hinvocation.1⟩

theorem verifyEvidenceBundle_overall {input : BundleInput} {bundle : EvidenceBundle} {trust : VerifierTrust}
    {options : VerifyOptions} (hparsed : parseEvidenceBundle platform input = .ok bundle) :
    (verifyEvidenceBundle platform input trust options).overall =
      overallOf (formatClaim bundle :: verifyParsed platform bundle trust options) := by
  simp only [verifyEvidenceBundle, hparsed]

/-- A report that does not reject the bundle has no invalid claim about it. -/
theorem verifyParsed_of_not_invalid {input : BundleInput} {bundle : EvidenceBundle} {trust : VerifierTrust}
    {options : VerifyOptions} (hparsed : parseEvidenceBundle platform input = .ok bundle)
    (h : (verifyEvidenceBundle platform input trust options).overall ≠ .INVALID) :
    ∀ claim ∈ verifyParsed platform bundle trust options, claim.status ≠ .INVALID := by
  rw [verifyEvidenceBundle_overall hparsed] at h
  exact fun claim hmem ↦ status_ne_invalid h claim (List.mem_cons_of_mem _ hmem)

/-- Two bundles under one signed manifest that are both not rejected are the same bundle. -/
theorem evidence_tamper_evident {input input' : BundleInput} {bundle bundle' : EvidenceBundle}
    {trust : VerifierTrust} {options options' : VerifyOptions} (hcanonical : platform.CanonicalizeInjective)
    (hfree : CollisionFree platform bundle.toEvidenceArtifacts bundle'.toEvidenceArtifacts)
    (hparsed : parseEvidenceBundle platform input = .ok bundle)
    (hparsed' : parseEvidenceBundle platform input' = .ok bundle')
    (hmanifest : bundle.manifest = bundle'.manifest)
    (h : (verifyEvidenceBundle platform input trust options).overall ≠ .INVALID)
    (h' : (verifyEvidenceBundle platform input' trust options').overall ≠ .INVALID) :
    bundle = bundle' := by
  have hpinned : Pinned platform bundle := .of_verified (verifyParsed_of_not_invalid hparsed h)
  have hpinned' : Pinned platform bundle' := .of_verified (verifyParsed_of_not_invalid hparsed' h')
  have hartifacts : bundle.toEvidenceArtifacts = bundle'.toEvidenceArtifacts := by
    refine artifacts_eq_of_digests hcanonical hfree ?_ ?_ ?_ ?_
    · rw [hpinned.digests, hpinned'.digests, hmanifest]
    · rw [← hpinned.profile, ← hpinned'.profile, hmanifest]
    · rw [← hpinned.grant, ← hpinned'.grant, hmanifest]
    · rw [← hpinned.invocation, ← hpinned'.invocation, hmanifest]
  cases bundle
  cases bundle'
  simp_all

end

/-! ## A failed purchase -/

namespace Sample

def issuer : String := "B3pJNfuTmnRT9puDNYTtDe5RVvKsJ2mgRgGze9mPeSyE"
def agent : String := "Hy68hziqmtB8UaBwoeMFWg6NhsbdsshWPWDod67tkCcb"
def authority : String := "6PggxrGp1Z1ZSRS6ABXzij5WqLJjSSbBEsbezuzfgUnv"

def operation : ExactOperationV1 := ⟨"POST", "/reports", "summarize", "sales"⟩

/-- At most five units for each call and twenty in all. -/
def unsignedPermit : UnsignedPurchasePermitV2 where
  domain := PURCHASE_PERMIT_DOMAIN
  grantId := "grant"
  issuer := issuer
  authorizedAgent := agent
  service := "reports"
  capability := "summarize"
  network := "devnet"
  mint := Payments.Sample.mint
  recipient := Payments.Sample.merchant
  maxPerCallAtomic := "5"
  maxTotalAtomic := "20"
  issuedAt := 1000
  expiresAt := 100000
  operation := operation

def permit : SignedPurchasePermitV2 :=
  { unsignedPermit with
    signature := "3P5HizkKWaofkbrc2GexcSmSCsGmtfsrkVUGBvxrZNzZ2djBHTwRRFaPZ4MmtC7iRMTtwh8PfA71KJrujy6v6xvN" }

def permitDigest : String := "8fbc3061c77d36c66aef9dc78abeb35e6af6c944cd6c24091439d823165c301a"
def operationDigest : String := "72e68607f5bde6d55b47d052721ca70734fd4e95fd11111dc9f916c36eac082d"
def paidDigest : String := "d576e137b8033dd29300bc9b44fe74395a1c25b3ca36d59e867170134c4147ab"
def url : String := "https://reports.example/reports"

/-- A request to pay five units. -/
def request : AuthorizationRequestV2 where
  protocol := AUTHORIZATION_REQUEST_PROTOCOL
  audience := "authority"
  grantId := "grant"
  permitDigest := permitDigest
  invocationId := "invocation"
  service := "reports"
  capability := "summarize"
  network := "devnet"
  mint := Payments.Sample.mint
  recipient := Payments.Sample.merchant
  amountAtomic := "5"
  issuedAt := 2000
  operation := operation

def agentSignature : AgentRequestSignature where
  signature := "hqmmEiaMDjPZg7prtcVBq37i7uTKYjKAC3HfzaCVv2KUVSRQmkpjnC2w3xtyuqCms2G6ECyBpzjsE5zJMoyQLcK"

/-- An attempt to pay five thousand. -/
def overpaid : PaymentAttempt where
  protocol := "x402"
  scheme := "exact"
  settlementProfile := "devnet"
  network := "devnet-x402"
  payer := Payments.Sample.wallet
  payerSignature := Payments.Sample.payerSignature
  feePayer := Payments.Sample.facilitator
  asset := Payments.Sample.mint
  payTo := Payments.Sample.merchant
  amountAtomic := "5000"
  blockhash := Payments.Sample.blockhash
  lastValidBlockHeight := "900"
  resourceUrl := url
  requestSha256 := paidDigest
  transactionBase64 := none
  preparedAt := 3500

def requestArtifactDigest : String := "f8aea18799bd8bac0cb901d2bcb663f23893d64605b51d560adb75bd6e446d0b"
def overpaidDigest : String := "907aac920f42feea67ec8f829b5dd21fd95cc20650b757f73bf44a5315432fde"

def failedManifest : UnsignedEvidenceManifest where
  authority := authority
  issuedAt := 4000
  settlementProfile := "devnet"
  grantId := "grant"
  invocationId := "invocation"
  purchaseState := "FAILED"
  decision := "ALLOW"
  reasonCodes := []
  digests := {
    purchasePermit := permitDigest
    authorizationRequest := requestArtifactDigest
    operation := operationDigest
    authorityDecision := none
    outboundRequest := none
    paymentRequirement := none
    paymentAttempt := some overpaidDigest
    settlement := none
    result := none
    service := none }

def failedManifestSignature : String :=
  "3RhmSzERS8Vbc5UdnmFfeLwceJboviJsxZLEdWygn6Sgco8WKMZZJP7dEhTB7sQCQSNJcFzGvZDguZXy4SBQeFP"

/-- A failed purchase with the attempt and nothing it could be compared with. -/
def failed : EvidenceBundle where
  settlementProfile := "devnet"
  grantId := "grant"
  invocationId := "invocation"
  purchasePermit := permit
  request := request
  agentSignature := agentSignature
  authorityDecision := none
  outboundRequest := none
  paymentRequirement := none
  paymentAttempt := some overpaid
  settlement := none
  result := none
  service := none
  manifest := { failedManifest with signature := failedManifestSignature }

def digests : List (Message × String) :=
  [(.permitDigestV2 permit, permitDigest),
    (.artifact (.authorizationRequest request agentSignature), requestArtifactDigest),
    (.operation operation, operationDigest), (.artifact (.paymentAttempt overpaid), overpaidDigest)]

def signatures : List ((String × Message) × String) :=
  [((issuer, .unsignedPermitV2 unsignedPermit), permit.signature),
    ((agent, .requestV2 request), agentSignature.signature),
    ((authority, .manifest failedManifest), failedManifestSignature)]

theorem digests_hex : ∀ entry ∈ digests, Text.isDigest entry.2 = true := by
  intro entry hentry
  simp only [digests, List.mem_cons, List.not_mem_nil, or_false] at hentry
  rcases hentry with rfl | rfl | rfl | rfl <;> exact Text.inClass_ofList rfl

theorem signatures_base58 : ∀ entry ∈ signatures, Field 128 BASE58 entry.2 := by
  intro entry hentry
  simp only [signatures, List.mem_cons, List.not_mem_nil, or_false] at hentry
  rcases hentry with rfl | rfl | rfl <;> exact base58_fits (Text.inClass_ofList rfl)

def recording : Recording where
  base := Payments.Sample.payments
  addresses := [issuer, agent, authority, Payments.Sample.mint, Payments.Sample.merchant]
  digests := recordDigests digests (by simp [digests])
  signatures := recordSignatures signatures (by simp [signatures])
  digests_hex := digests_hex
  signatures_base58 := signatures_base58

def platform : Platform := recording.platform

/-- The profile of the network, of which only the name and the prefix are read here. -/
def profile : SettlementProfile where
  name := "devnet"
  permitNetwork := "devnet"
  rpcUrl := "https://api.devnet.solana.com"
  acceptedChallengeNetworks := ["devnet-x402"]
  allowedAssets := [Payments.Sample.mint]
  protocol := "x402"
  x402Version := 2
  scheme := "exact"
  requiredBlockhashPrefix := ""

def trust : VerifierTrust where
  issuer := issuer
  authority := authority
  settlementProfiles := fun name ↦ if name = "devnet" then some profile else none
  service := none

theorem recorded_signatures : recording.signatures.rows = signatures := rfl

theorem recorded_digests : recording.digests.rows = digests := rfl

theorem permit_verified : SignedPurchasePermitV2.Verified platform permit where
  valid := {
    domain_eq := rfl
    grantId_pattern := by decide
    issuer_key := by decide
    agent_key := by decide
    service_pattern := by decide
    capability_pattern := by decide
    network_mem := by decide
    mint_key := by decide
    recipient_key := by decide
    maxPerCall_canonical := by decide
    maxTotal_canonical := by decide
    maxPerCall_range := by decide
    maxTotal_range := by decide
    maxPerCall_le := by decide
    issuedAt_safe := by decide
    expiresAt_safe := by decide
    issuedAt_lt := by decide
    operation_valid := ⟨by decide, by decide, by decide, by decide⟩ }
  isSignature := Recording.isSignature_of_mem (((issuer, .unsignedPermitV2 unsignedPermit), permit.signature))
    (by simp [recorded_signatures, signatures])
  importsKey := by decide
  signed := Recording.verifySignature_of_mem (.unsignedPermitV2 unsignedPermit)
    (by simp [recording, unsignedPermit, permit]) (by simp [recorded_signatures, signatures, permit, unsignedPermit])

theorem request_valid : request.Valid where
  protocol_eq := rfl
  audience_pattern := by decide
  grantId_pattern := by decide
  invocationId_pattern := by decide
  permitDigest_pattern := Text.inClass_ofList rfl
  service_bounded := by decide
  capability_bounded := by decide
  network_bounded := by decide
  mint_bounded := by decide
  recipient_bounded := by decide
  amount_canonical := by decide
  issuedAt_safe := by decide
  operation_valid := permit_verified.valid.operation_valid

theorem operation_fits : ExactOperationV1.Fits operation := ⟨by decide, by decide, by decide, by decide⟩

theorem permit_fits : SignedPurchasePermitV2.Fits permit where
  domain := by decide
  grantId := by decide
  issuer := base58_fits (Text.inClass_ofList rfl)
  authorizedAgent := base58_fits (Text.inClass_ofList rfl)
  service := by decide
  capability := by decide
  network := by decide
  mint := base58_fits (Text.inClass_ofList rfl)
  recipient := base58_fits (Text.inClass_ofList rfl)
  maxPerCallAtomic := ⟨by decide, by decide⟩
  maxTotalAtomic := ⟨by decide, by decide⟩
  issuedAt := by decide
  expiresAt := by decide
  operation := operation_fits
  signature := recording.signatures_base58 ((issuer, .unsignedPermitV2 unsignedPermit), permit.signature)
    (by simp [recorded_signatures, signatures])

theorem request_fits : AuthorizationRequestV2.Fits request where
  protocol := by decide
  audience := by decide
  grantId := by decide
  permitDigest := digest_fits request_valid.permitDigest_pattern
  invocationId := by decide
  service := by decide
  capability := by decide
  network := by decide
  mint := permit_fits.mint.bounded
  recipient := permit_fits.recipient.bounded
  amountAtomic := ⟨by decide, by decide⟩
  issuedAt := by decide
  operation := operation_fits

theorem overpaid_fits : PaymentAttempt.Fits overpaid where
  protocol := rfl
  scheme := by decide
  settlementProfile := by decide
  network := by decide
  payer := Field.bounded (base58_fits (Text.inClass_ofList rfl))
  payerSignature := Field.bounded (base58_fits (Text.inClass_ofList rfl))
  feePayer := Field.bounded (base58_fits (Text.inClass_ofList rfl))
  asset := permit_fits.mint.bounded
  payTo := permit_fits.recipient.bounded
  amountAtomic := ⟨by decide, by decide⟩
  blockhash := Field.bounded (base58_fits (Text.inClass_ofList rfl))
  lastValidBlockHeight := ⟨by decide, by decide⟩
  resourceUrl := by decide
  requestSha256 := digest_fits (Text.inClass_ofList rfl)
  transactionBase64 := by simp [overpaid]
  preparedAt := by decide

theorem digest_recorded (entry : Message × String) (h : entry ∈ digests) :
    platform.sha256Hex (entry.1.text platform) = entry.2 :=
  Recording.sha256Hex_of_mem (show entry ∈ recording.digests.rows from recorded_digests ▸ h)

theorem digest_field (entry : Message × String) (h : entry ∈ digests) : Field 64 HEX64 entry.2 :=
  digest_fits (recording.digests_hex entry (recorded_digests ▸ h))

theorem permit_digested : computePermitDigest platform permit = permitDigest :=
  digest_recorded ((.permitDigestV2 permit, permitDigest)) (by simp [digests])

theorem digests_of_failed : computeEvidenceDigests platform failed.toEvidenceArtifacts = failedManifest.digests := by
  have hrequest : artifactDigest platform "authorization-request"
      (authorizationRequestJson request agentSignature) = requestArtifactDigest :=
    digest_recorded ((.artifact (.authorizationRequest request agentSignature), requestArtifactDigest))
      (by simp [digests])
  have hoperation : computeOperationDigest platform operation = operationDigest :=
    digest_recorded ((.operation operation, operationDigest)) (by simp [digests])
  have hattempt : artifactDigest platform "payment-attempt" (attemptJson overpaid) = overpaidDigest :=
    digest_recorded ((.artifact (.paymentAttempt overpaid), overpaidDigest)) (by simp [digests])
  have hrequested : request.operation = operation := rfl
  simp only [computeEvidenceDigests, failed, hrequested, permit_digested, hrequest, hoperation, Option.map_none,
    Option.map_some, hattempt]
  rfl

theorem failed_fits : failed.Fits where
  settlementProfile := by decide
  grantId := by decide
  invocationId := by decide
  purchasePermit := permit_fits
  request := request_fits
  agentSignature := recording.signatures_base58 ((agent, .requestV2 request), agentSignature.signature)
    (by simp [recorded_signatures, signatures])
  authorityDecision := by simp [failed]
  outboundRequest := by simp [failed]
  paymentRequirement := by simp [failed]
  paymentAttempt := by
    intro attempt hattempt
    cases hattempt
    exact overpaid_fits
  settlement := by simp [failed]
  result := by simp [failed]
  service := by simp [failed]
  manifest := {
    authority := base58_fits (Text.inClass_ofList rfl)
    issuedAt := by decide
    settlementProfile := by decide
    grantId := by decide
    invocationId := by decide
    purchaseState := by decide
    decision := .inl rfl
    reasonCodes := ⟨by decide, by simp [failed, failedManifest]⟩
    digests := {
      purchasePermit := digest_field ((.permitDigestV2 permit, permitDigest)) (by simp [digests])
      authorizationRequest := digest_field
        ((.artifact (.authorizationRequest request agentSignature), requestArtifactDigest))
        (by simp [digests])
      operation := digest_field ((.operation operation, operationDigest)) (by simp [digests])
      authorityDecision := by simp [failed, failedManifest]
      outboundRequest := by simp [failed, failedManifest]
      paymentRequirement := by simp [failed, failedManifest]
      paymentAttempt := by
        intro text htext
        cases htext
        exact digest_field ((.artifact (.paymentAttempt overpaid), overpaidDigest)) (by simp [digests])
      settlement := by simp [failed, failedManifest]
      result := by simp [failed, failedManifest]
      service := by simp [failed, failedManifest] }
    signature := recording.signatures_base58 ((authority, .manifest failedManifest), failedManifestSignature)
      (by simp [recorded_signatures, signatures]) }
  version := rfl

theorem failed_parsed : parseEvidenceBundle platform (.value failed.toJson) = .ok failed :=
  parseEvidenceValue_toJson failed_fits

theorem failed_signed : verifyEvidenceManifestSignature platform failed.manifest authority = true :=
  verifyPinned_eq_true.2 ⟨rfl, Recording.isSignature_of_mem
    (((authority, .manifest failedManifest), failedManifestSignature))
      (by simp [recorded_signatures, signatures]), by decide, by decide,
    Recording.verifySignature_of_mem (.manifest failedManifest) (by simp [recording])
      (by simp [recorded_signatures, signatures, failed])⟩

theorem failed_stateProblems : stateProblems failed = [] := by
  decide

theorem failed_staticCodes : staticCodes failed = [] := by
  decide

theorem failed_authorizationClaims : ∀ claim ∈ authorizationClaims platform failed trust,
    claim.status ≠ .INVALID ∧ (claim.required = true → claim.status = .VERIFIED) := by
  have hpermit : verifyPurchasePermitV2 platform failed.purchasePermit.toJson = .ok permit :=
    verifyPurchasePermitV2_toJson permit_verified
  have hrequest : validateAuthorizationRequestV2 failed.request.toJson = .ok request :=
    validateAuthorizationRequestV2_toJson request_valid
  have hsigned : verifyAuthorizationRequestSignature platform request failed.agentSignature.toJson
      failed.purchasePermit.authorizedAgent = true :=
    verifyAuthorizationRequestSignature_toJson.2 ⟨Recording.isSignature_of_mem
      (((agent, .requestV2 request), agentSignature.signature))
      (by simp [recorded_signatures, signatures]), by decide, by decide,
      Recording.verifySignature_of_mem (.requestV2 request)
        (by simp [recording, failed, permit, unsignedPermit])
        (by simp [recorded_signatures, signatures, failed, permit, unsignedPermit])⟩
  have hdigest : computePermitDigest platform failed.purchasePermit = failed.request.permitDigest :=
    permit_digested
  simp only [authorizationClaims, hpermit, hrequest, hsigned, hdigest]
  simp [demand, check, problemIf, failed, note]

theorem failed_integrityClaims : ∀ claim ∈ integrityClaims platform failed trust,
    claim.status ≠ .INVALID ∧ (claim.required = true → claim.status = .VERIFIED) := by
  have hsigned : verifyEvidenceManifestSignature platform failed.manifest trust.authority = true := failed_signed
  have hdigests : computeEvidenceDigests platform failed.toEvidenceArtifacts = failed.manifest.digests :=
    digests_of_failed
  simp only [integrityClaims, hsigned, hdigests, digestProblems_self, failed_stateProblems]
  simp [demand, check, problemIf]

theorem failed_trustClaims : ∀ claim ∈ trustClaims failed trust,
    claim.status ≠ .INVALID ∧ (claim.required = true → claim.status = .VERIFIED) := by
  simp [trustClaims, demand, check, problemIf, failed, trust, permit, unsignedPermit, failedManifest]

theorem failed_policyClaims : ∀ claim ∈ policyClaims failed,
    claim.status ≠ .INVALID ∧ (claim.required = true → claim.status = .VERIFIED) := by
  have hallowed : failed.allowed = true := by decide
  simp only [policyClaims, decisionClaim, failed_staticCodes, hallowed]
  simp [POLICY_CLAIMS, demand, check, problemIf]

theorem failed_paymentClaims : ∀ claim ∈ paymentClaims platform failed trust,
    claim.status ≠ .INVALID ∧ (claim.required = true → claim.status = .VERIFIED) := by
  have hnone : failed.paymentRequirement = none := rfl
  simp [paymentClaims, hnone, note]

theorem failed_resultClaims : ∀ claim ∈ resultClaims platform failed ++ budgetClaims failed,
    claim.status ≠ .INVALID ∧ (claim.required = true → claim.status = .VERIFIED) := by
  have hnone : failed.result = none := rfl
  simp [resultClaims, budgetClaims, hnone, note]

theorem failed_serviceClaims : ∀ claim ∈ serviceClaims platform failed trust,
    claim.status ≠ .INVALID ∧ (claim.required = true → claim.status = .VERIFIED) := by
  have hnone : failed.service = none := rfl
  simp [serviceClaims, hnone, note, resultAttestation, correctness]

theorem failed_settlementClaim : (settlementClaim platform failed trust .offline).status = .NOT_CHECKED ∧
    (settlementClaim platform failed trust .offline).required = false := by
  have hstate : failed.state ≠ "RECONCILIATION_REQUIRED" := by decide
  have hconfirmed : failed.confirmed = false := by decide
  simp [settlementClaim, hstate, hconfirmed, note]

theorem failed_valid :
    (verifyEvidenceBundle platform (.value failed.toJson) trust .offline).overall = .VALID := by
  rw [verifyEvidenceBundle_overall failed_parsed]
  refine overallOf_eq_valid.2 fun claim hmem ↦ ?_
  simp only [verifyParsed, List.mem_cons, List.mem_append, List.not_mem_nil, or_false] at hmem
  rcases hmem with rfl | (((((((hmem | hmem) | hmem) | hmem) | hmem) | hmem) | hmem) | hmem) | rfl
  · exact ⟨by simp [formatClaim], fun _ ↦ rfl⟩
  · exact failed_trustClaims claim hmem
  · exact failed_integrityClaims claim hmem
  · exact failed_authorizationClaims claim hmem
  · exact failed_policyClaims claim hmem
  · exact failed_paymentClaims claim hmem
  · exact failed_resultClaims claim (List.mem_append_left _ hmem)
  · exact failed_resultClaims claim (List.mem_append_right _ hmem)
  · exact failed_serviceClaims claim hmem
  · simp [failed_settlementClaim]

theorem failed_collisionFree :
    CollisionFree platform failed.toEvidenceArtifacts failed.toEvidenceArtifacts := by
  have hdistinct : (digests.map Prod.snd).Nodup := by decide
  have hhashed : failed.toEvidenceArtifacts.hashed = digests.map Prod.fst := rfl
  intro m hm n hn heq
  rw [hhashed, List.mem_map] at hm hn
  obtain ⟨entry, hentry, rfl⟩ := hm
  obtain ⟨entry', hentry', rfl⟩ := hn
  rw [digest_recorded entry hentry, digest_recorded entry' hentry'] at heq
  have hsame : entry = entry' := List.inj_on_of_nodup_map hdistinct hentry hentry' heq
  rw [hsame]

end Sample

theorem evidence_tamper_evident_failed :
    (verifyEvidenceBundle Sample.platform (.value Sample.failed.toJson) Sample.trust .offline).overall = .VALID ∧
      CollisionFree Sample.platform Sample.failed.toEvidenceArtifacts Sample.failed.toEvidenceArtifacts ∧
      Sample.failed = Sample.failed := by
  have hnot : (verifyEvidenceBundle Sample.platform (.value Sample.failed.toJson) Sample.trust
      .offline).overall ≠ .INVALID := by
    rw [Sample.failed_valid]
    decide
  exact ⟨Sample.failed_valid, Sample.failed_collisionFree, evidence_tamper_evident
    Sample.recording.canonicalizeInjective Sample.failed_collisionFree Sample.failed_parsed Sample.failed_parsed
    rfl hnot hnot⟩

end VirtualHaibin.Evidence
