import VirtualHaibin.Authority.Agreement
import VirtualHaibin.Evidence.Strictness

/-!
# What a valid report proves

Every part of the offline report passes exactly under a condition on the bundle and the pinned keys.
The conditions of all parts make the valid bundles, and for a completed purchase they amount to one chain:
what the human signed, what the agent asked for under it, what the authority decided and paid, and what
came back.
-/

namespace VirtualHaibin.Evidence

open Foundation Foundation.Checked Mandate Payments Policy

theorem demand_passes {id : String} {category : ClaimCategory} {problems : List String}
    {okDetail : Option String} : (demand id category problems okDetail).Passes ↔ problems = [] := by
  constructor
  · intro h
    exact demand_verified.1 (h.2 rfl)
  · intro h
    exact ⟨fun hinvalid ↦ demand_status.1 hinvalid h, fun _ ↦ demand_verified.2 h⟩

theorem note_passes_iff {id : String} {category : ClaimCategory} {status : ClaimStatus} {detail : String} :
    (note id category status detail).Passes ↔ status ≠ .INVALID :=
  ⟨fun h ↦ h.1, note_passes⟩

theorem formatClaim_passes (bundle : EvidenceBundle) : (formatClaim bundle).Passes :=
  ⟨show ClaimStatus.VERIFIED ≠ .INVALID by decide, fun _ ↦ rfl⟩

section

variable {platform : Platform} {bundle : EvidenceBundle} {trust : VerifierTrust}

theorem trustClaims_pass : (∀ claim ∈ trustClaims bundle trust, claim.Passes) ↔
    bundle.purchasePermit.issuer = trust.issuer ∧ bundle.manifest.authority = trust.authority ∧
      ∀ receipt ∈ bundle.authorityDecision, receipt.authority = trust.authority := by
  simp [trustClaims, demand_passes, List.flatMap_eq_nil_iff]

/-- The bundle, its permit, its request and its manifest name one grant, invocation and profile. -/
structure Named (bundle : EvidenceBundle) : Prop where
  manifestGrant : bundle.manifest.grantId = bundle.grantId
  permitGrant : bundle.purchasePermit.grantId = bundle.grantId
  requestGrant : bundle.request.grantId = bundle.grantId
  manifestInvocation : bundle.manifest.invocationId = bundle.invocationId
  requestInvocation : bundle.request.invocationId = bundle.invocationId
  manifestProfile : bundle.manifest.settlementProfile = bundle.settlementProfile
  permitProfile : bundle.purchasePermit.network = bundle.settlementProfile

/-- The artifacts are those of the purchase state. -/
structure Shaped (bundle : EvidenceBundle) : Prop where
  decision : bundle.manifest.decision = "DENY" ↔ bundle.state = "DENIED"
  receipt : bundle.authorityDecision.isSome = true ↔ bundle.state = "CONFIRMED" ∨ bundle.state = "DENIED"
  confirmed : bundle.state = "CONFIRMED" → bundle.outboundRequest.isSome = true ∧
    bundle.paymentRequirement.isSome = true ∧ bundle.paymentAttempt.isSome = true ∧
    bundle.settlement.isSome = true ∧ bundle.result.isSome = true
  unconfirmed : bundle.state ≠ "CONFIRMED" → bundle.settlement = none ∧ bundle.result = none
  unresolved : bundle.state = "RECONCILIATION_REQUIRED" → bundle.paymentAttempt.isSome = true
  denied : bundle.state = "DENIED" → bundle.paymentAttempt = none
  acknowledged : ∀ service ∈ bundle.service, service.serviceAcknowledgement.isSome = true →
    bundle.state = "CONFIRMED"
  authorized : ∀ service ∈ bundle.service, service.serviceAuthorization.isSome = true →
    bundle.paymentAttempt.isSome = true

/-- The receipt is about the invocation and repeats the decision of the manifest. -/
structure ReceiptNamed (bundle : EvidenceBundle) (receipt : SignedAuthorizationReceipt) : Prop where
  invocation : receipt.invocationId = bundle.invocationId
  grant : receipt.grantId = bundle.grantId
  decision : receipt.decision = bundle.manifest.decision
  reasonCodes : receipt.reasonCodes = bundle.manifest.reasonCodes

theorem confirmed_iff : bundle.confirmed = true ↔ bundle.state = "CONFIRMED" := decide_eq_true_iff

theorem stateProblems_eq_nil : stateProblems bundle = [] ↔
    Named bundle ∧ Shaped bundle ∧ ∀ receipt ∈ bundle.authorityDecision, ReceiptNamed bundle receipt := by
  simp only [stateProblems, List.append_eq_nil_iff, problemIf_eq_nil, List.flatMap_eq_nil_iff, Option.mem_toList,
    Bool.or_eq_false_iff, decide_eq_false_iff_not, ne_eq, not_not, Json.quoteAll_injective.eq_iff]
  constructor
  · rintro ⟨⟨⟨⟨⟨⟨⟨⟨⟨⟨⟨hgrant, hpermitGrant⟩, hrequestGrant⟩, hinvocation, hrequestInvocation⟩, hprofile,
      hpermitProfile⟩, hdecision⟩, hreceipt⟩, hreceipts⟩, hartifacts⟩, hunresolved⟩, hdenied⟩, hservice⟩
    refine ⟨⟨hgrant, hpermitGrant, hrequestGrant, hinvocation, hrequestInvocation, hprofile, hpermitProfile⟩, {
      decision := by simpa using hdecision
      receipt := by rw [hreceipt, Bool.or_eq_true, decide_eq_true_iff, decide_eq_true_iff]
      confirmed := fun hstate ↦ ?_
      unconfirmed := fun hstate ↦ ?_
      unresolved := fun hstate ↦ by simpa [hstate] using hunresolved
      denied := fun hstate ↦ by simpa [hstate] using hdenied
      acknowledged := fun service hmem hsome ↦ by
        simpa [hsome, EvidenceBundle.confirmed] using (hservice service hmem).1
      authorized := fun service hmem hsome ↦ by
        simpa [hsome, Option.isSome_iff_ne_none] using (hservice service hmem).2 }, ?_⟩
    · rw [if_pos (confirmed_iff.2 hstate)] at hartifacts
      simpa [Option.isSome_iff_ne_none, and_assoc] using hartifacts
    · rw [if_neg (confirmed_iff.not.2 hstate)] at hartifacts
      simpa using hartifacts
    · intro receipt hmem
      obtain ⟨⟨hinvocationId, hgrantId⟩, hdecided, hcodes⟩ := hreceipts receipt hmem
      exact ⟨hinvocationId, hgrantId, hdecided, hcodes⟩
  · rintro ⟨hnamed, hshaped, hreceipts⟩
    refine ⟨⟨⟨⟨⟨⟨⟨⟨⟨⟨⟨hnamed.manifestGrant, hnamed.permitGrant⟩, hnamed.requestGrant⟩, hnamed.manifestInvocation,
      hnamed.requestInvocation⟩, hnamed.manifestProfile, hnamed.permitProfile⟩, ?_⟩, ?_⟩, ?_⟩, ?_⟩, ?_⟩, ?_⟩, ?_⟩
    · rw [decide_eq_decide]
      exact hshaped.decision
    · rw [Bool.eq_iff_iff, hshaped.receipt, Bool.or_eq_true, decide_eq_true_iff, decide_eq_true_iff]
    · intro receipt hmem
      obtain ⟨hinvocationId, hgrantId, hdecided, hcodes⟩ := hreceipts receipt hmem
      exact ⟨⟨hinvocationId, hgrantId⟩, hdecided, hcodes⟩
    · by_cases hstate : bundle.state = "CONFIRMED"
      · rw [if_pos (confirmed_iff.2 hstate)]
        simpa [Option.isSome_iff_ne_none, and_assoc] using hshaped.confirmed hstate
      · rw [if_neg (confirmed_iff.not.2 hstate)]
        simpa using hshaped.unconfirmed hstate
    · by_cases hstate : bundle.state = "RECONCILIATION_REQUIRED"
      · simpa [hstate] using hshaped.unresolved hstate
      · simp [hstate]
    · by_cases hstate : bundle.state = "DENIED"
      · simpa [hstate] using hshaped.denied hstate
      · simp [hstate]
    · intro service hmem
      constructor
      · cases hsome : service.serviceAcknowledgement.isSome with
        | false => rfl
        | true => simpa [EvidenceBundle.confirmed] using hshaped.acknowledged service hmem hsome
      · cases hsome : service.serviceAuthorization.isSome with
        | false => rfl
        | true => simpa [Option.isSome_iff_ne_none] using hshaped.authorized service hmem hsome

theorem integrityClaims_pass : (∀ claim ∈ integrityClaims platform bundle trust, claim.Passes) ↔
    verifyEvidenceManifestSignature platform bundle.manifest trust.authority = true ∧
      computeEvidenceDigests platform bundle.toEvidenceArtifacts = bundle.manifest.digests ∧
      stateProblems bundle = [] := by
  have hdigests : digestProblems (computeEvidenceDigests platform bundle.toEvidenceArtifacts)
      bundle.manifest.digests = [] ↔
      computeEvidenceDigests platform bundle.toEvidenceArtifacts = bundle.manifest.digests := by
    constructor
    · exact digestProblems_eq_nil
    · intro heq
      rw [heq, digestProblems_self]
  simp [integrityClaims, demand_passes, hdigests]

theorem str_eq {text other : String} (h : some (Json.str text) = some (Json.str other)) : text = other :=
  Json.str.inj (Option.some.inj h)

theorem int_eq {value other : ℤ} (h : some (Json.int value) = some (Json.int other)) : value = other := by
  simpa [Json.int] using h

/-- An operation is read back from its own JSON unchanged. -/
theorem carriesOperation_self {operation read : ExactOperationV1} {record : List (String × Json)}
    (hrecord : operation.toJson = .obj record) (h : CarriesOperation record read) : operation = read := by
  obtain rfl := Json.obj.inj hrecord
  exact ExactOperationV1.ext (str_eq h.method_eq) (str_eq h.resource_eq) (str_eq h.operation_eq)
    (str_eq h.datasetId_eq)

/-- A permit is read back from its own JSON exactly if it verifies. -/
theorem verifyPurchasePermitV2_self {permit : SignedPurchasePermitV2} :
    (∃ read, verifyPurchasePermitV2 platform permit.toJson = .ok read) ↔ permit.Verified platform := by
  constructor
  · rintro ⟨read, hread⟩
    obtain ⟨record, hrecord, hcarries, hsignature, hverified⟩ := verifyPurchasePermitV2_eq_ok.1 hread
    obtain rfl := Json.obj.inj hrecord
    obtain ⟨members, hmembers, hoperation⟩ := hcarries.operation_eq
    have hunsigned : permit.toUnsignedPurchasePermitV2 = read.toUnsignedPurchasePermitV2 :=
      UnsignedPurchasePermitV2.ext (str_eq hcarries.domain_eq) (str_eq hcarries.grantId_eq)
        (str_eq hcarries.issuer_eq) (str_eq hcarries.authorizedAgent_eq) (str_eq hcarries.service_eq)
        (str_eq hcarries.capability_eq) (str_eq hcarries.network_eq) (str_eq hcarries.mint_eq)
        (str_eq hcarries.recipient_eq) (str_eq hcarries.maxPerCallAtomic_eq) (str_eq hcarries.maxTotalAtomic_eq)
        (int_eq hcarries.issuedAt_eq) (int_eq hcarries.expiresAt_eq)
        (carriesOperation_self (Option.some.inj hmembers) hoperation)
    obtain ⟨metadata, hmetadata, -, hsigned⟩ := hsignature
    obtain rfl := Json.obj.inj (Option.some.inj hmetadata)
    have hsignature : permit.signature = read.signature := str_eq hsigned
    have hsame : permit = read := by
      cases permit
      cases read
      exact congrArg₂ SignedPurchasePermitV2.mk hunsigned hsignature
    exact hsame ▸ hverified
  · intro hverified
    exact ⟨permit, verifyPurchasePermitV2_toJson hverified⟩

/-- A request is read back from its own JSON exactly if it is valid, and unchanged. -/
theorem validateAuthorizationRequestV2_self {request read : AuthorizationRequestV2} :
    validateAuthorizationRequestV2 request.toJson = .ok read ↔ read = request ∧ request.Valid := by
  constructor
  · intro hread
    have hvalid := validateAuthorizationRequestV2_valid hread
    unfold validateAuthorizationRequestV2 at hread
    simp only [AuthorizationRequestV2.toJson, object?, required_some, ok_bind] at hread
    split at hread
    · cases hread
    · simp only [required_bind_eq_ok, guardThat_bind_eq_ok, mapError_bind_eq_ok, filter_eq_some, pure_eq_ok,
        Except.ok.injEq, text_eq_some, safeInteger_eq_some, validateExactOperation_eq_ok, Bool.and_eq_true,
        decide_eq_true_eq] at hread
      obtain ⟨⟨hprotocol, -⟩, audience, ⟨haudience, -⟩, grantId, ⟨hgrantId, -⟩, invocationId, ⟨hinvocationId, -⟩,
        permitDigest, ⟨hpermitDigest, -⟩, service, ⟨hservice, -⟩, capability, ⟨hcapability, -⟩, network,
        ⟨hnetwork, -⟩, mint, ⟨hmint, -⟩, recipient, ⟨hrecipient, -⟩, amountAtomic, ⟨hamount, -⟩, issuedAt,
        ⟨⟨hissuedAt, -⟩, -⟩, operation, ⟨record, hrecord, hoperation, -⟩, heq⟩ := hread
      have hsame : request = read := by
        rw [← heq]
        exact AuthorizationRequestV2.ext (str_eq hprotocol) (str_eq haudience) (str_eq hgrantId)
          (str_eq hpermitDigest) (str_eq hinvocationId) (str_eq hservice) (str_eq hcapability) (str_eq hnetwork)
          (str_eq hmint) (str_eq hrecipient) (str_eq hamount) (int_eq hissuedAt)
          (carriesOperation_self (Option.some.inj hrecord) hoperation)
      exact ⟨hsame.symm, hsame ▸ hvalid⟩
  · rintro ⟨rfl, hvalid⟩
    exact validateAuthorizationRequestV2_toJson hvalid

/-- The receipt states what the agent asked for, and in a completed purchase the transaction that paid. -/
structure ReceiptAgrees (platform : Platform) (bundle : EvidenceBundle) (trust : VerifierTrust)
    (receipt : SignedAuthorizationReceipt) : Prop where
  signed : verifyAuthorizationReceiptSignature platform receipt trust.authority = true
  service : receipt.service = bundle.request.service
  capability : receipt.capability = bundle.request.capability
  network : receipt.network = bundle.request.network
  mint : receipt.mint = bundle.request.mint
  recipient : receipt.recipient = bundle.request.recipient
  amountAtomic : receipt.amountAtomic = bundle.request.amountAtomic
  permitDigest : receipt.permitDigest = bundle.request.permitDigest
  agent : receipt.agent = bundle.purchasePermit.authorizedAgent
  operation : receipt.operation = bundle.request.operation
  operationDigest : receipt.operationDigest = computeOperationDigest platform bundle.request.operation
  transaction : bundle.state = "CONFIRMED" →
    some receipt.paymentTransactionId = bundle.settlement.map (some ·.transactionId)

theorem receiptProblems_eq_nil {receipt : SignedAuthorizationReceipt} :
    receiptProblems platform bundle trust receipt = [] ↔ ReceiptAgrees platform bundle trust receipt := by
  simp only [receiptProblems, List.append_eq_nil_iff, problemIf_eq_nil, decide_eq_false_iff_not, ne_eq, not_not,
    Bool.not_eq_false', operationsEqual_iff, Bool.and_eq_false_imp, confirmed_iff]
  constructor
  · rintro ⟨⟨⟨⟨⟨⟨⟨⟨⟨⟨⟨hsigned, hservice⟩, hcapability⟩, hnetwork⟩, hmint⟩, hrecipient⟩, hamount⟩, hdigest⟩, hagent⟩,
      hoperation⟩, hoperationDigest⟩, htransaction⟩
    exact ⟨hsigned, hservice, hcapability, hnetwork, hmint, hrecipient, hamount, hdigest, hagent, hoperation,
      hoperationDigest, htransaction⟩
  · intro h
    exact ⟨⟨⟨⟨⟨⟨⟨⟨⟨⟨⟨h.signed, h.service⟩, h.capability⟩, h.network⟩, h.mint⟩, h.recipient⟩, h.amountAtomic⟩,
      h.permitDigest⟩, h.agent⟩, h.operation⟩, h.operationDigest⟩, h.transaction⟩

/-- The permit carries the signature of its issuer, the request that of the permit's agent, and the request
names the permit. -/
structure Signed (platform : Platform) (bundle : EvidenceBundle) : Prop where
  permit : bundle.purchasePermit.Verified platform
  valid : bundle.request.Valid
  request : verifyAuthorizationRequestSignature platform bundle.request bundle.agentSignature.toJson
    bundle.purchasePermit.authorizedAgent = true
  permitDigest : bundle.request.permitDigest = computePermitDigest platform bundle.purchasePermit

theorem signed_iff : Signed platform bundle ↔ bundle.purchasePermit.Verified platform ∧
    (bundle.request.Valid ∧ verifyAuthorizationRequestSignature platform bundle.request
      bundle.agentSignature.toJson bundle.purchasePermit.authorizedAgent = true) ∧
    bundle.request.permitDigest = computePermitDigest platform bundle.purchasePermit :=
  ⟨fun h ↦ ⟨h.permit, ⟨h.valid, h.request⟩, h.permitDigest⟩, fun h ↦ ⟨h.1, h.2.1.1, h.2.1.2, h.2.2⟩⟩

theorem authorizationClaims_pass : (∀ claim ∈ authorizationClaims platform bundle trust, claim.Passes) ↔
    Signed platform bundle ∧
      ∀ receipt ∈ bundle.authorityDecision, ReceiptAgrees platform bundle trust receipt := by
  simp only [authorizationClaims, List.forall_mem_cons, List.not_mem_nil, false_imp_iff, implies_true, and_true,
    demand_passes, problemIf_eq_nil, decide_eq_false_iff_not, ne_eq, not_not, signed_iff, and_assoc]
  refine and_congr ?_ (Iff.trans (and_congr ?_ (and_congr_right' ?_)) and_assoc)
  · rw [← verifyPurchasePermitV2_self]
    cases verifyPurchasePermitV2 platform bundle.purchasePermit.toJson <;> simp
  · cases hread : validateAuthorizationRequestV2 bundle.request.toJson with
    | error message =>
      simp only [List.cons_ne_nil, false_iff, not_and]
      intro hvalid
      rw [validateAuthorizationRequestV2_toJson hvalid] at hread
      cases hread
    | ok read =>
      obtain ⟨rfl, hvalid⟩ := validateAuthorizationRequestV2_self.1 hread
      simp [hvalid]
  · cases bundle.authorityDecision with
    | none => simp [note_passes_iff]
    | some receipt => simp [demand_passes, receiptProblems_eq_nil]

theorem policyClaims_pass : (∀ claim ∈ policyClaims bundle, claim.Passes) ↔ Authority.PolicyAgrees bundle := by
  have hdecision : decisionClaim bundle ∈ policyClaims bundle := by simp [policyClaims]
  constructor
  · intro hpass
    rw [Authority.policyAgrees_iff]
    have hdecided := hpass _ hdecision
    constructor
    · intro hallowed
      rw [decisionClaim, if_pos hallowed, demand_passes, problemIf_eq_nil] at hdecided
      simpa using hdecided
    · intro hdenied code hcode
      have hcodes : (staticCodes bundle).isEmpty = false := List.isEmpty_eq_false_iff.2 (List.ne_nil_of_mem hcode)
      rw [decisionClaim, hdenied, hcodes] at hdecided
      simp only [Bool.false_eq_true, if_false, demand_passes, List.map_eq_nil_iff, List.filter_eq_nil_iff] at hdecided
      simpa using hdecided code hcode
  · intro h claim hclaim
    refine ⟨h.valid claim hclaim, fun hrequired ↦ ?_⟩
    cases hallowed : bundle.allowed with
    | true => exact h.allowed hallowed claim hclaim
    | false =>
      -- A denied bundle requires of its policy claims only that its reasons cover the recomputed ones.
      rw [policyClaims, List.mem_append, List.mem_map, List.mem_singleton] at hclaim
      rcases hclaim with ⟨entry, -, rfl⟩ | rfl
      · rw [check, hallowed] at hrequired
        cases hrequired
      · have hvalid := h.valid _ hdecision
        unfold decisionClaim at hvalid hrequired ⊢
        simp only [hallowed, Bool.false_eq_true, if_false] at hvalid hrequired ⊢
        by_cases hcodes : (staticCodes bundle).isEmpty = true
        · rw [if_pos hcodes] at hrequired
          cases hrequired
        · rw [if_neg hcodes] at hvalid ⊢
          rw [ne_eq, demand_status, not_not] at hvalid
          exact demand_verified.2 hvalid

/-- The agent asked for what the human allowed, while it was allowed. -/
structure Within (permit : SignedPurchasePermitV2) (request : AuthorizationRequestV2) : Prop where
  operation : request.operation = permit.operation
  service : request.service = permit.service
  capability : request.capability = permit.capability
  network : request.network = permit.network
  mint : request.mint = permit.mint
  recipient : request.recipient = permit.recipient
  canonical : isCanonicalAtomicAmount request.amountAtomic = true
  amount_pos : 0 < Decimal.amount request.amountAtomic
  amount_le : Decimal.amount request.amountAtomic ≤ Decimal.amount permit.maxPerCallAtomic
  issued : permit.issuedAt ≤ request.issuedAt
  unexpired : request.issuedAt ≤ permit.expiresAt

/-- Without the total budget the amount rules bound one call. -/
theorem amountDenials_static {permit : UnsignedPurchasePermitV2} {purchase : PurchaseRequestV1} :
    (∀ code ∈ (amountDenials permit purchase).map Denial.reasonCode, code = .TOTAL_BUDGET_EXCEEDED) ↔
      isCanonicalAtomicAmount purchase.amountAtomic = true ∧
      isCanonicalAtomicAmount purchase.alreadySpentAtomic = true ∧ 0 < Decimal.amount purchase.amountAtomic ∧
      Decimal.amount purchase.amountAtomic ≤ Decimal.amount permit.maxPerCallAtomic := by
  unfold amountDenials
  split
  · rename_i hmalformed
    simp only [Bool.or_eq_true, Bool.not_eq_true'] at hmalformed
    simp only [List.map_cons, List.map_nil, List.forall_mem_singleton, reduceCtorEq, false_iff]
    rintro ⟨hcanonical, hspent, -⟩
    rcases hmalformed with h | h <;> simp_all
  · rename_i hcanonical
    simp only [Bool.or_eq_true, Bool.not_eq_true', not_or, Bool.not_eq_false] at hcanonical
    split
    · rename_i hzero
      simp [hzero]
    · rename_i hpositive
      simp [Authority.mem_denyIf, or_imp, hcanonical, Nat.pos_of_ne_zero hpositive]

/-- What the verifier recomputes of an allowed decision. -/
theorem staticCodes_within : staticCodes bundle = [] ↔ Within bundle.purchasePermit bundle.request := by
  have hpurchase : ((evaluatePurchasePermit bundle.purchasePermit.toUnsignedPurchasePermitV2
      (Authority.staticPurchase bundle)).reasonCodes.filter fun code ↦ code ≠ .TOTAL_BUDGET_EXCEEDED) = [] ↔
      bundle.request.issuedAt ≤ bundle.purchasePermit.expiresAt ∧
      bundle.request.service = bundle.purchasePermit.service ∧
      bundle.request.capability = bundle.purchasePermit.capability ∧
      bundle.request.network = bundle.purchasePermit.network ∧ bundle.request.mint = bundle.purchasePermit.mint ∧
      bundle.request.recipient = bundle.purchasePermit.recipient ∧
      isCanonicalAtomicAmount bundle.request.amountAtomic = true ∧
      0 < Decimal.amount bundle.request.amountAtomic ∧
      Decimal.amount bundle.request.amountAtomic ≤ Decimal.amount bundle.purchasePermit.maxPerCallAtomic := by
    have hzero : isCanonicalAtomicAmount "0" = true := by decide
    simp only [List.filter_eq_nil_iff, decide_eq_true_eq, not_not, Authority.mem_reasonCodes, or_imp, forall_and,
      amountDenials_static]
    simp [Authority.mem_termDenials, or_imp, forall_and, Authority.staticPurchase, hzero, and_assoc]
  rw [Authority.staticCodes_eq_nil, Authority.staticReasonCodes, List.append_eq_nil_iff, reasonCodes_eq_nil,
    evaluateExactOperation_eq_nil, hpurchase]
  constructor
  · rintro ⟨⟨hoperation, hunexpired, hservice, hcapability, hnetwork, hmint, hrecipient, hcanonical, hpos, hle⟩,
      hissued⟩
    exact ⟨hoperation, hservice, hcapability, hnetwork, hmint, hrecipient, hcanonical, hpos, hle, hissued, hunexpired⟩
  · intro h
    exact ⟨⟨h.operation, h.unexpired, h.service, h.capability, h.network, h.mint, h.recipient, h.canonical,
      h.amount_pos, h.amount_le⟩, h.issued⟩

/-! ## Payment -/

/-- The pinned profile of the permit's network admits the requirement and the attempt. -/
structure ProfileAdmits (bundle : EvidenceBundle) (requirement : PaymentRequirement)
    (profile : SettlementProfile) : Prop where
  name : bundle.manifest.settlementProfile = profile.name
  protocol : requirement.protocol = profile.protocol
  version : requirement.x402Version = profile.x402Version
  scheme : requirement.scheme = profile.scheme
  network : requirement.network ∈ profile.acceptedChallengeNetworks
  asset : requirement.asset ∈ profile.allowedAssets
  attempt : ∀ attempt ∈ bundle.paymentAttempt, attempt.settlementProfile = profile.name ∧
    profile.requiredBlockhashPrefix.toList <+: attempt.blockhash.toList

/-- The outbound request is the one that the operation calls for, and the one that is paid. -/
structure OutboundAgrees (platform : Platform) (bundle : EvidenceBundle) (requirement : PaymentRequirement)
    (outbound : PaidRequest) : Prop where
  path : platform.pathname outbound.url = some bundle.request.operation.resource
  method : bundle.request.operation.method = "POST"
  body : outbound.body = operationRequestBody platform bundle.request.operation
  digest : outbound.sha256 = computePaidRequestDigest platform outbound.url outbound.body
  url : requirement.resourceUrl = some outbound.url
  attempt : ∀ attempt ∈ bundle.paymentAttempt, attempt.requestSha256 = outbound.sha256

/-- The bytes are a transaction of exactly the attempt's payment, and its payer signed them. -/
structure TransactionAgrees (platform : Platform) (attempt : PaymentAttempt) (encoded : String) : Prop where
  pays : ∃ transaction tokenProgram, encoded ≠ "" ∧ platform.decodeTransaction encoded = .ok transaction ∧
    AuthorizedTransaction platform attempt.expected transaction ⟨attempt.payerSignature, tokenProgram⟩
  signed : verifyTransactionPayerSignature platform encoded attempt.payer = true

/-- The attempt pays the requirement, and somebody else pays the fee. -/
structure AttemptAgrees (platform : Platform) (requirement : PaymentRequirement) (attempt : PaymentAttempt) :
    Prop where
  scheme : attempt.scheme = requirement.scheme
  network : attempt.network = requirement.network
  asset : attempt.asset = requirement.asset
  payTo : attempt.payTo = requirement.payTo
  amountAtomic : attempt.amountAtomic = requirement.amountAtomic
  feePayer : some attempt.feePayer = requirement.feePayer
  resourceUrl : some attempt.resourceUrl = requirement.resourceUrl
  feePayer_ne : attempt.feePayer ≠ attempt.payer
  transaction : ∀ encoded ∈ attempt.transactionBase64, TransactionAgrees platform attempt encoded

/-- The requirement asks for what the agent and the human signed, and is paid so. -/
structure PaysFor (platform : Platform) (bundle : EvidenceBundle) (trust : VerifierTrust)
    (requirement : PaymentRequirement) : Prop where
  profile : ∃ profile, trust.settlementProfiles bundle.purchasePermit.network = some profile ∧
    ProfileAdmits bundle requirement profile
  asset : requirement.asset = bundle.request.mint ∧ bundle.request.mint = bundle.purchasePermit.mint
  payTo : requirement.payTo = bundle.request.recipient ∧ bundle.request.recipient = bundle.purchasePermit.recipient
  amountAtomic : requirement.amountAtomic = bundle.request.amountAtomic ∧
    Decimal.amount requirement.amountAtomic ≤ Decimal.amount bundle.purchasePermit.maxPerCallAtomic
  outbound : ∃ outbound, bundle.outboundRequest = some outbound ∧
    OutboundAgrees platform bundle requirement outbound
  attempt : ∀ attempt ∈ bundle.paymentAttempt, AttemptAgrees platform requirement attempt

theorem profileProblems_eq_nil {requirement : PaymentRequirement} : profileProblems bundle trust requirement = [] ↔
    ∃ profile, trust.settlementProfiles bundle.purchasePermit.network = some profile ∧
      ProfileAdmits bundle requirement profile := by
  unfold profileProblems
  cases trust.settlementProfiles bundle.purchasePermit.network with
  | none => simp
  | some profile =>
    simp only [List.append_eq_nil_iff, problemIf_eq_nil, List.flatMap_eq_nil_iff, Option.mem_toList,
      Bool.or_eq_false_iff, decide_eq_false_iff_not, ne_eq, not_not, Bool.not_eq_false', List.contains_eq_mem,
      decide_eq_true_eq, List.isPrefixOf_iff_prefix, Option.some.injEq, exists_eq_left']
    constructor
    · rintro ⟨⟨⟨⟨⟨hname, hprotocol, hversion⟩, hscheme⟩, hnetwork⟩, hasset⟩, hattempt⟩
      exact ⟨hname, hprotocol, hversion, hscheme, hnetwork, hasset, hattempt⟩
    · intro h
      exact ⟨⟨⟨⟨⟨h.name, h.protocol, h.version⟩, h.scheme⟩, h.network⟩, h.asset⟩, h.attempt⟩

theorem outboundProblems_eq_nil {requirement : PaymentRequirement} :
    outboundProblems platform bundle requirement = [] ↔
      ∃ outbound, bundle.outboundRequest = some outbound ∧
        OutboundAgrees platform bundle requirement outbound := by
  unfold outboundProblems
  cases bundle.outboundRequest with
  | none => simp
  | some outbound =>
    simp only [List.append_eq_nil_iff, problemIf_eq_nil, List.flatMap_eq_nil_iff, Option.mem_toList,
      decide_eq_false_iff_not, ne_eq, not_not, Bool.and_eq_false_imp, Option.some.injEq, exists_eq_left']
    constructor
    · rintro ⟨⟨⟨⟨⟨⟨hpath, hmethod⟩, hresource⟩, hbody⟩, hdigest⟩, hurl⟩, hattempt⟩
      have hsome : (platform.pathname outbound.url).isSome = true := by
        rwa [← Option.not_isNone, Bool.not_eq_true']
      exact ⟨hresource hsome, hmethod.symm, hbody, hdigest.symm, hurl, hattempt⟩
    · intro h
      exact ⟨⟨⟨⟨⟨⟨by rw [h.path]; rfl, h.method.symm⟩, fun _ ↦ h.path⟩, h.body⟩, h.digest.symm⟩, h.url⟩, h.attempt⟩

theorem transactionAgrees_iff {attempt : PaymentAttempt} {encoded : String} :
    TransactionAgrees platform attempt encoded ↔
      (∃ tokenProgram, validateExactPaymentTransaction platform (some encoded) attempt.expected =
        .ok ⟨attempt.payerSignature, tokenProgram⟩) ∧
      verifyTransactionPayerSignature platform encoded attempt.payer = true := by
  simp only [validateExactPaymentTransaction_eq_ok, Option.some.injEq]
  constructor
  · rintro ⟨⟨transaction, tokenProgram, hnonempty, hdecoded, hauthorized⟩, hsigned⟩
    exact ⟨⟨tokenProgram, encoded, transaction, rfl, hnonempty, hdecoded, hauthorized⟩, hsigned⟩
  · rintro ⟨⟨tokenProgram, found, transaction, rfl, hnonempty, hdecoded, hauthorized⟩, hsigned⟩
    exact ⟨⟨transaction, tokenProgram, hnonempty, hdecoded, hauthorized⟩, hsigned⟩

theorem transactionProblems_iff {attempt : PaymentAttempt} {encoded : String} :
    transactionProblems platform attempt encoded = [] ↔ TransactionAgrees platform attempt encoded := by
  rw [transactionAgrees_iff, transactionProblems, List.append_eq_nil_iff, problemIf_eq_nil, Bool.not_eq_false']
  apply and_congr_left'
  cases validateExactPaymentTransaction platform (some encoded) attempt.expected with
  | error reason => simp
  | ok valid =>
    obtain ⟨payerSignature, tokenProgram⟩ := valid
    simp [problemIf_eq_nil]

theorem attemptAgrees_iff {requirement : PaymentRequirement} {attempt : PaymentAttempt} :
    AttemptAgrees platform requirement attempt ↔ attemptProblems requirement attempt = [] ∧
      ∀ encoded ∈ attempt.transactionBase64, TransactionAgrees platform attempt encoded := by
  simp only [attemptProblems, List.append_eq_nil_iff, problemIf_eq_nil, decide_eq_false_iff_not, ne_eq, not_not]
  constructor
  · intro h
    exact ⟨⟨⟨⟨⟨⟨⟨⟨h.scheme, h.network⟩, h.asset⟩, h.payTo⟩, h.amountAtomic⟩, h.feePayer⟩, h.resourceUrl⟩,
      h.feePayer_ne⟩, h.transaction⟩
  · rintro ⟨⟨⟨⟨⟨⟨⟨⟨hscheme, hnetwork⟩, hasset⟩, hpayTo⟩, hamount⟩, hfeePayer⟩, hurl⟩, hne⟩, hencoded⟩
    exact ⟨hscheme, hnetwork, hasset, hpayTo, hamount, hfeePayer, hurl, hne, hencoded⟩

theorem attemptClaims_pass {requirement : PaymentRequirement} :
    (∀ claim ∈ attemptClaims platform bundle requirement, claim.Passes) ↔
      ∀ attempt ∈ bundle.paymentAttempt, AttemptAgrees platform requirement attempt := by
  unfold attemptClaims
  cases bundle.paymentAttempt with
  | none => simp [note_passes_iff]
  | some attempt =>
    simp only [List.forall_mem_cons, List.not_mem_nil, false_imp_iff, implies_true, and_true, demand_passes,
      attemptAgrees_iff, Option.mem_def, Option.some.injEq, forall_eq']
    apply and_congr_right'
    cases attempt.transactionBase64 with
    | none => simp [note_passes_iff]
    | some encoded => simp [demand_passes, transactionProblems_iff]

/-- Only an allowed purchase with a requirement has its payment checked. -/
theorem paymentClaims_pass : (∀ claim ∈ paymentClaims platform bundle trust, claim.Passes) ↔
    (bundle.allowed = true → ∀ requirement ∈ bundle.paymentRequirement,
      PaysFor platform bundle trust requirement) := by
  unfold paymentClaims
  cases hrequirement : bundle.paymentRequirement.filter fun _ ↦ bundle.allowed with
  | none =>
    have hnever : bundle.allowed = true → ∀ requirement ∈ bundle.paymentRequirement,
        PaysFor platform bundle trust requirement := by
      intro hallowed requirement hmem
      simp [Option.mem_def.1 hmem, hallowed] at hrequirement
    refine iff_of_true (fun claim hclaim ↦ ?_) hnever
    obtain ⟨id, -, rfl⟩ := List.mem_map.1 hclaim
    exact note_passes (by decide)
  | some requirement =>
    obtain ⟨hsome, hallowed⟩ := filter_eq_some.1 hrequirement
    simp only [List.forall_mem_append, List.forall_mem_cons, List.not_mem_nil, false_imp_iff, implies_true,
      and_true, demand_passes, profileProblems_eq_nil, outboundProblems_eq_nil, attemptClaims_pass,
      problemIf_eq_nil, Bool.not_eq_false', Bool.and_eq_true, decide_eq_true_eq, hsome, hallowed, forall_const,
      Option.mem_def, Option.some.injEq, forall_eq']
    constructor
    · rintro ⟨⟨hprofile, hasset, hpayTo, hamount, houtbound⟩, hattempt⟩
      exact ⟨hprofile, hasset, hpayTo, hamount, houtbound, hattempt⟩
    · intro h
      exact ⟨⟨h.profile, h.asset, h.payTo, h.amountAtomic, h.outbound⟩, h.attempt⟩

/-- The bundled bytes are the recorded result. -/
structure ResultAgrees (platform : Platform) (result : EvidenceResult) : Prop where
  canonical : platform.encodeBase64 (platform.decodeBase64 result.bodyBase64) = result.bodyBase64
  sha256 : platform.sha256HexOfBytes (platform.decodeBase64 result.bodyBase64) = result.sha256
  bytes : ((platform.decodeBase64 result.bodyBase64).length : ℤ) = result.bytes

theorem resultClaims_pass : (∀ claim ∈ resultClaims platform bundle, claim.Passes) ↔
    ∀ result ∈ bundle.result, ResultAgrees platform result := by
  unfold resultClaims
  cases bundle.result with
  | none => simp [note_passes_iff]
  | some result =>
    simp only [List.forall_mem_cons, List.not_mem_nil, false_imp_iff, implies_true, and_true, demand_passes,
      note_passes_iff, ne_eq, reduceCtorEq, not_false_eq_true, Option.mem_def, Option.some.injEq, forall_eq',
      ite_not]
    split
    · rename_i hcanonical
      simp only [problemIf_eq_nil, Bool.or_eq_false_iff, decide_eq_false_iff_not, not_not]
      exact ⟨fun h ↦ ⟨hcanonical, h.1, h.2⟩, fun h ↦ ⟨h.sha256, h.bytes⟩⟩
    · rename_i hcanonical
      simp only [List.cons_ne_nil, false_iff]
      exact fun h ↦ hcanonical h.canonical

theorem budgetClaims_pass : ∀ claim ∈ budgetClaims bundle, claim.Passes := by
  simp [budgetClaims, note_passes_iff]

/-- The authority told the service of exactly this request, operation and payment. -/
structure AuthorizationAgrees (platform : Platform) (bundle : EvidenceBundle) (trust : VerifierTrust)
    (authorization : SignedServiceAuthorizationV1) : Prop where
  signed : verifyServiceAuthorizationSignature platform authorization trust.authority = true
  invocation : authorization.invocationId = bundle.invocationId
  grant : authorization.grantId = bundle.grantId
  outbound : ∃ outbound, bundle.outboundRequest = some outbound ∧ authorization.url = outbound.url ∧
    authorization.requestSha256 = outbound.sha256
  operationDigest : authorization.operationDigest = computeOperationDigest platform bundle.request.operation
  payment : ∃ requirement, bundle.paymentRequirement = some requirement ∧
    authorization.payment.network = requirement.network ∧ authorization.payment.asset = requirement.asset ∧
    authorization.payment.payTo = requirement.payTo ∧
    authorization.payment.amountAtomic = requirement.amountAtomic

theorem any_eq_true {α : Type} {value : Option α} {p : α → Bool} :
    value.any p = true ↔ ∃ a, value = some a ∧ p a = true := by
  cases value <;> simp

theorem serviceAuthorizationProblems_eq_nil {authorization : SignedServiceAuthorizationV1} :
    serviceAuthorizationProblems platform bundle trust authorization = [] ↔
      AuthorizationAgrees platform bundle trust authorization := by
  simp only [serviceAuthorizationProblems, List.append_eq_nil_iff, problemIf_eq_nil, Bool.not_eq_false',
    Bool.or_eq_false_iff, decide_eq_false_iff_not, ne_eq, not_not, any_eq_true, Bool.and_eq_true, decide_eq_true_eq]
  constructor
  · rintro ⟨⟨⟨⟨hsigned, hinvocation, hgrant⟩, houtbound⟩, hoperation⟩, requirement, hrequirement,
      ⟨⟨hnetwork, hasset⟩, hpayTo⟩, hamount⟩
    exact ⟨hsigned, hinvocation, hgrant, houtbound, hoperation, requirement, hrequirement, hnetwork, hasset, hpayTo,
      hamount⟩
  · intro h
    obtain ⟨requirement, hrequirement, hnetwork, hasset, hpayTo, hamount⟩ := h.payment
    exact ⟨⟨⟨⟨h.signed, h.invocation, h.grant⟩, h.outbound⟩, h.operationDigest⟩, requirement, hrequirement,
      ⟨⟨hnetwork, hasset⟩, hpayTo⟩, hamount⟩

/-- The service performed exactly the authorized operation, for the payment and with the result of the
bundle. -/
structure AcknowledgementAgrees (platform : Platform) (bundle : EvidenceBundle) (pinnedService : String)
    (authorization : Option SignedServiceAuthorizationV1) (ack : SignedServiceAcknowledgementV1) : Prop where
  signed : verifyServiceAcknowledgementSignature platform ack pinnedService = true
  invocation : ack.invocationId = bundle.invocationId
  authorization : ∃ accepted, authorization = some accepted ∧
    ack.authorizationDigest = serviceAuthorizationDigest platform accepted
  outbound : ∃ outbound, bundle.outboundRequest = some outbound ∧ ack.requestSha256 = outbound.sha256
  received : ack.received = bundle.request.operation
  payment : ∃ requirement, bundle.paymentRequirement = some requirement ∧ ack.asset = requirement.asset ∧
    ack.payTo = requirement.payTo ∧ ack.amountAtomic = requirement.amountAtomic
  transaction : some ack.transaction = bundle.settlement.map (some ·.transactionId)
  result : ∃ result, bundle.result = some result ∧ ack.sha256 = result.sha256 ∧ ack.bytes = result.bytes ∧
    ack.httpStatus = result.httpStatus

theorem acknowledgementProblems_eq_nil {pinnedService : String}
    {authorization : Option SignedServiceAuthorizationV1} {ack : SignedServiceAcknowledgementV1} :
    acknowledgementProblems platform bundle pinnedService authorization ack = [] ↔
      AcknowledgementAgrees platform bundle pinnedService authorization ack := by
  simp only [acknowledgementProblems, List.append_eq_nil_iff, problemIf_eq_nil, Bool.not_eq_false',
    decide_eq_false_iff_not, ne_eq, not_not, any_eq_true, Bool.and_eq_true, decide_eq_true_eq, operationsEqual_iff]
  constructor
  · rintro ⟨⟨⟨⟨⟨⟨⟨hsigned, hinvocation⟩, hauthorization⟩, houtbound⟩, hreceived⟩, requirement, hrequirement,
      ⟨hasset, hpayTo⟩, hamount⟩, htransaction⟩, result, hresult, ⟨hsha256, hbytes⟩, hstatus⟩
    exact ⟨hsigned, hinvocation, hauthorization, houtbound, hreceived,
      ⟨requirement, hrequirement, hasset, hpayTo, hamount⟩, htransaction, ⟨result, hresult, hsha256, hbytes, hstatus⟩⟩
  · intro h
    obtain ⟨requirement, hrequirement, hasset, hpayTo, hamount⟩ := h.payment
    obtain ⟨result, hresult, hsha256, hbytes, hstatus⟩ := h.result
    exact ⟨⟨⟨⟨⟨⟨⟨h.signed, h.invocation⟩, h.authorization⟩, h.outbound⟩, h.received⟩, requirement, hrequirement,
      ⟨hasset, hpayTo⟩, hamount⟩, h.transaction⟩, result, hresult, ⟨hsha256, hbytes⟩, hstatus⟩

/-- What was said to the service is in order, and what a pinned service said of a completed purchase is there
and in order. -/
structure ServiceAgrees (platform : Platform) (bundle : EvidenceBundle) (trust : VerifierTrust)
    (service : ServiceExchange) : Prop where
  authorization : ∀ authorization ∈ service.serviceAuthorization,
    AuthorizationAgrees platform bundle trust authorization
  acknowledgement : ∀ pinned ∈ trust.service, bundle.state = "CONFIRMED" →
    ∃ ack, service.serviceAcknowledgement = some ack ∧
      AcknowledgementAgrees platform bundle pinned service.serviceAuthorization ack

theorem serviceAuthorizationClaim_passes {authorization : Option SignedServiceAuthorizationV1} :
    (serviceAuthorizationClaim platform bundle trust authorization).Passes ↔
      ∀ accepted ∈ authorization, AuthorizationAgrees platform bundle trust accepted := by
  cases authorization with
  | none => simp [serviceAuthorizationClaim, note_passes_iff]
  | some accepted => simp [serviceAuthorizationClaim, demand_passes, serviceAuthorizationProblems_eq_nil]

theorem acknowledgementClaims_pass {service : ServiceExchange} :
    (∀ claim ∈ acknowledgementClaims platform bundle trust service, claim.Passes) ↔
      ∀ pinned ∈ trust.service, bundle.state = "CONFIRMED" →
        ∃ ack, service.serviceAcknowledgement = some ack ∧
          AcknowledgementAgrees platform bundle pinned service.serviceAuthorization ack := by
  unfold acknowledgementClaims
  cases trust.service with
  | none => simp [note_passes_iff, resultAttestation]
  | some pinned =>
    simp only [Option.mem_def, Option.some.injEq, forall_eq']
    by_cases hstate : bundle.state = "CONFIRMED"
    · rw [confirmed_iff.2 hstate]
      simp only [Bool.not_true, Bool.false_eq_true, if_false, hstate, forall_const]
      cases service.serviceAcknowledgement with
      | none => simp [demand_passes]
      | some ack =>
        simp only [List.forall_mem_cons, List.not_mem_nil, false_imp_iff, implies_true, and_true, demand_passes,
          note_passes_iff, problemIf_eq_nil, decide_eq_false_iff_not, ne_eq, not_not,
          acknowledgementProblems_eq_nil, Option.some.injEq, exists_eq_left']
        constructor
        · exact fun h ↦ h.2.1
        · intro h
          have hproblems := acknowledgementProblems_eq_nil.2 h
          refine ⟨(verifyPinned_eq_true.1 h.signed).1, h, ?_⟩
          rw [hproblems]
          decide
    · rw [Bool.eq_false_iff.2 (confirmed_iff.not.2 hstate)]
      simp [note_passes_iff, resultAttestation, hstate]

theorem serviceClaims_pass : (∀ claim ∈ serviceClaims platform bundle trust, claim.Passes) ↔
    ∀ service ∈ bundle.service, ServiceAgrees platform bundle trust service := by
  unfold serviceClaims
  cases bundle.service with
  | none => simp [note_passes_iff, resultAttestation, correctness]
  | some service =>
    have hcorrectness : correctness.Passes := note_passes (by decide)
    simp only [List.forall_mem_cons, List.forall_mem_append, List.not_mem_nil, false_imp_iff, implies_true, and_true,
      serviceAuthorizationClaim_passes, acknowledgementClaims_pass, hcorrectness, Option.mem_def, Option.some.injEq,
      forall_eq']
    exact ⟨fun h ↦ ⟨h.1, h.2⟩, fun h ↦ ⟨h.authorization, h.acknowledgement⟩⟩

/-! ## The whole report -/

/-- Everything a valid offline report says of a bundle. -/
structure Proven (platform : Platform) (bundle : EvidenceBundle) (trust : VerifierTrust) : Prop where
  issuer : bundle.purchasePermit.issuer = trust.issuer
  sealed : verifyEvidenceManifestSignature platform bundle.manifest trust.authority = true
  digests : computeEvidenceDigests platform bundle.toEvidenceArtifacts = bundle.manifest.digests
  named : Named bundle
  shaped : Shaped bundle
  signed : Signed platform bundle
  receipt : ∀ receipt ∈ bundle.authorityDecision,
    ReceiptNamed bundle receipt ∧ ReceiptAgrees platform bundle trust receipt
  policy : Authority.PolicyAgrees bundle
  payment : bundle.allowed = true → ∀ requirement ∈ bundle.paymentRequirement,
    PaysFor platform bundle trust requirement
  result : ∀ result ∈ bundle.result, ResultAgrees platform result
  service : ∀ service ∈ bundle.service, ServiceAgrees platform bundle trust service

/-- A valid offline report says all of it, and where all of it holds the report is valid. -/
theorem overallOf_offline : overallOf (formatClaim bundle :: verifyParsed platform bundle trust .offline) = .VALID ↔
    Proven platform bundle trust := by
  rw [overallOf_claims, and_iff_left settlementClaim_offline_passes]
  simp only [modelessClaims, List.forall_mem_cons, List.forall_mem_append, trustClaims_pass, integrityClaims_pass,
    authorizationClaims_pass, policyClaims_pass, paymentClaims_pass, resultClaims_pass, serviceClaims_pass,
    stateProblems_eq_nil]
  constructor
  · rintro ⟨-, ⟨⟨⟨⟨⟨⟨⟨hissuer, -⟩, hsealed, hdigests, hnamed, hshaped, hreceipts⟩, hsigned, hagree⟩, hpolicy⟩,
      hpayment⟩, hresult⟩, -⟩, hservice⟩
    exact ⟨hissuer, hsealed, hdigests, hnamed, hshaped, hsigned,
      fun receipt hmem ↦ ⟨hreceipts receipt hmem, hagree receipt hmem⟩, hpolicy, hpayment, hresult, hservice⟩
  · intro h
    -- A signature that verifies under the pinned key is by the key it names.
    have hauthority : bundle.manifest.authority = trust.authority := (verifyPinned_eq_true.1 h.sealed).1
    have hreceipts : ∀ receipt ∈ bundle.authorityDecision, receipt.authority = trust.authority :=
      fun receipt hmem ↦ (verifyPinned_eq_true.1 (h.receipt receipt hmem).2.signed).1
    exact ⟨formatClaim_passes bundle, ⟨⟨⟨⟨⟨⟨⟨h.issuer, hauthority, hreceipts⟩, h.sealed, h.digests, h.named, h.shaped,
      fun receipt hmem ↦ (h.receipt receipt hmem).1⟩, h.signed, fun receipt hmem ↦ (h.receipt receipt hmem).2⟩,
      h.policy⟩, h.payment⟩, h.result⟩, budgetClaims_pass⟩, h.service⟩

/-! ## A completed purchase -/

/-- One purchase, from what the human signed to what came back: the agent asked within the permit, the
authority allowed exactly that and sealed the record of it, the payment is the one that was asked for, and the
receipt names the transaction that settled it. -/
structure Completed (platform : Platform) (trust : VerifierTrust) (bundle : EvidenceBundle)
    (receipt : SignedAuthorizationReceipt) (requirement : PaymentRequirement) (attempt : PaymentAttempt)
    (settlement : ConfirmedSettlement) (result : EvidenceResult) : Prop where
  state : bundle.state = "CONFIRMED"
  receipt_eq : bundle.authorityDecision = some receipt
  requirement_eq : bundle.paymentRequirement = some requirement
  attempt_eq : bundle.paymentAttempt = some attempt
  settlement_eq : bundle.settlement = some settlement
  result_eq : bundle.result = some result
  issuer : bundle.purchasePermit.issuer = trust.issuer
  signed : Signed platform bundle
  within : Within bundle.purchasePermit bundle.request
  sealed : verifyEvidenceManifestSignature platform bundle.manifest trust.authority = true
  digests : computeEvidenceDigests platform bundle.toEvidenceArtifacts = bundle.manifest.digests
  named : Named bundle
  allow : bundle.manifest.decision = "ALLOW"
  decided : ReceiptNamed bundle receipt
  agreed : ReceiptAgrees platform bundle trust receipt
  transaction : receipt.paymentTransactionId = some settlement.transactionId
  paid : PaysFor platform bundle trust requirement
  returned : ResultAgrees platform result
  service : ∀ service ∈ bundle.service, ServiceAgrees platform bundle trust service

theorem allowed_of_confirmed (hstate : bundle.state = "CONFIRMED") : bundle.allowed = true := by
  simp [EvidenceBundle.allowed, hstate, ALLOW_STATES]

theorem Proven.completed (h : Proven platform bundle trust) (hfits : bundle.Fits)
    (hstate : bundle.state = "CONFIRMED") : ∃ receipt requirement attempt settlement result,
      Completed platform trust bundle receipt requirement attempt settlement result := by
  obtain ⟨-, hrequirement, hattempt, hsettlement, hresult⟩ := h.shaped.confirmed hstate
  obtain ⟨receipt, hreceipt⟩ := Option.isSome_iff_exists.1 (h.shaped.receipt.2 (.inl hstate))
  obtain ⟨requirement, hrequirement⟩ := Option.isSome_iff_exists.1 hrequirement
  obtain ⟨attempt, hattempt⟩ := Option.isSome_iff_exists.1 hattempt
  obtain ⟨settlement, hsettlement⟩ := Option.isSome_iff_exists.1 hsettlement
  obtain ⟨result, hresult⟩ := Option.isSome_iff_exists.1 hresult
  obtain ⟨hnamed, hagrees⟩ := h.receipt receipt hreceipt
  have hallowed := allowed_of_confirmed hstate
  have hdeny : bundle.manifest.decision ≠ "DENY" := by
    rw [ne_eq, h.shaped.decision, hstate]
    decide
  have hcodes : staticCodes bundle = [] := (Authority.policyAgrees_iff.1 h.policy).1 hallowed
  have htransaction := hagrees.transaction hstate
  rw [hsettlement, Option.map_some] at htransaction
  exact ⟨receipt, requirement, attempt, settlement, result, {
    state := hstate
    receipt_eq := hreceipt
    requirement_eq := hrequirement
    attempt_eq := hattempt
    settlement_eq := hsettlement
    result_eq := hresult
    issuer := h.issuer
    signed := h.signed
    within := staticCodes_within.1 hcodes
    sealed := h.sealed
    digests := h.digests
    named := h.named
    allow := hfits.manifest.decision.resolve_right hdeny
    decided := hnamed
    agreed := hagrees
    transaction := Option.some.inj htransaction
    paid := h.payment hallowed requirement hrequirement
    returned := h.result result hresult
    service := h.service }⟩

theorem Completed.proven {receipt : SignedAuthorizationReceipt} {requirement : PaymentRequirement}
    {attempt : PaymentAttempt} {settlement : ConfirmedSettlement} {result : EvidenceResult}
    (h : Completed platform trust bundle receipt requirement attempt settlement result) :
    Proven platform bundle trust := by
  have hallowed := allowed_of_confirmed h.state
  obtain ⟨outbound, houtbound, -⟩ := h.paid.outbound
  exact {
    issuer := h.issuer
    sealed := h.sealed
    digests := h.digests
    named := h.named
    shaped := {
      decision := by simp [h.allow, h.state]
      receipt := by simp [h.receipt_eq, h.state]
      confirmed := fun _ ↦ by
        simp [houtbound, h.requirement_eq, h.attempt_eq, h.settlement_eq, h.result_eq]
      unconfirmed := fun hstate ↦ absurd h.state hstate
      unresolved := fun _ ↦ by rw [h.attempt_eq, Option.isSome_some]
      denied := fun hstate ↦ by simp [h.state] at hstate
      acknowledged := fun _ _ _ ↦ h.state
      authorized := fun _ _ _ ↦ by rw [h.attempt_eq, Option.isSome_some] }
    signed := h.signed
    receipt := fun found hfound ↦ by
      obtain rfl := Option.some.inj (h.receipt_eq.symm.trans hfound)
      exact ⟨h.decided, h.agreed⟩
    policy := Authority.policyAgrees_iff.2 ⟨fun _ ↦ staticCodes_within.2 h.within, fun hdenied ↦ by
      rw [hallowed] at hdenied
      cases hdenied⟩
    payment := fun _ found hfound ↦ by
      obtain rfl := Option.some.inj (h.requirement_eq.symm.trans hfound)
      exact h.paid
    result := fun found hfound ↦ by
      obtain rfl := Option.some.inj (h.result_eq.symm.trans hfound)
      exact h.returned
    service := h.service }

/-- The RPC is the sandbox's where a profile is pinned, and shows the settled transaction: it carries the payment
of the attempt under the settlement's id, and reports no error. -/
structure Observed (platform : Platform) (trust : VerifierTrust) (network : String) (rpc : OnlineSettlementSource)
    (settlement : ConfirmedSettlement) (attempt : PaymentAttempt) : Prop where
  sandbox : ∃ version, rpc.getVersion = .ok version ∧
    ((trust.settlementProfiles network).isSome = true → (text version "surfnet-version").isSome = true)
  shown : ∃ tx, rpc.getTransaction settlement.transactionId = .ok (some tx) ∧
    CarriesPayment platform tx attempt.settlementFacts ∧ isPresent tx.err = false ∧
    tx.signatures.bind List.head? = some settlement.transactionId
  derived : TokenAccountsDerived platform attempt.settlementFacts

/-- A settled transaction goes by its first signature. -/
theorem checkSettledTransaction_settled_id {tx : RpcTransaction} {expected : ExpectedSettlement}
    {transactionId : String} {slot : Option String}
    (h : checkSettledTransaction platform (some tx) expected = .ok (.settled transactionId slot)) :
    tx.signatures.bind List.head? = some transactionId := by
  unfold checkSettledTransaction at h
  dsimp only at h
  split at h
  · cases h
  · rename_i signatures hsignatures
    obtain ⟨hsome, hmem⟩ := signatures_filter_eq_some.1 hsignatures
    obtain ⟨destination, -, h⟩ := bind_eq_ok.1 h
    obtain ⟨destination2022, -, h⟩ := bind_eq_ok.1 h
    rw [hsome, Option.bind_some]
    cases signatures with
    | nil => cases hmem
    | cons first rest =>
      split_ifs at h <;> cases h
      rfl

theorem observeSettlement_verified {rpc : OnlineSettlementSource} {settlement : ConfirmedSettlement}
    {attempt : PaymentAttempt} :
    (∃ detail, observeSettlement platform bundle trust rpc settlement attempt = .ok (.VERIFIED, detail)) ↔
      Observed platform trust bundle.purchasePermit.network rpc settlement attempt := by
  constructor
  · rintro ⟨detail, h⟩
    unfold observeSettlement at h
    obtain ⟨version, hversion, h⟩ := bind_eq_ok.1 h
    split at h
    · cases h
    · rename_i hsandbox
      obtain ⟨found, hfound, h⟩ := bind_eq_ok.1 h
      cases found with
      | none => cases h
      | some tx =>
        obtain ⟨checked, hchecked, h⟩ := bind_eq_ok.1 h
        cases checked with
        | settled transactionId slot =>
          dsimp only at h
          split at h
          · rename_i hsame
            obtain rfl := hsame
            obtain ⟨hcarries, hderived, herr⟩ := checkSettledTransaction_settled_iff.1 ⟨_, _, hchecked⟩
            refine ⟨⟨version, hversion, fun hpinned ↦ ?_⟩,
              ⟨tx, hfound, hcarries, herr, checkSettledTransaction_settled_id hchecked⟩, hderived⟩
            simpa [hpinned, Option.isSome_iff_ne_none] using hsandbox
          · cases h
        | notThisPayment => cases h
        | failedOnchain transactionId error => cases h
        | factsMismatch transactionId detail => cases h
  · intro h
    obtain ⟨version, hversion, hsandbox⟩ := h.sandbox
    obtain ⟨tx, hshown, hcarries, herr, hid⟩ := h.shown
    obtain ⟨transactionId, slot, hchecked⟩ :=
      checkSettledTransaction_settled_iff.2 ⟨hcarries, h.derived, herr⟩
    have hsame : transactionId = settlement.transactionId :=
      Option.some.inj ((checkSettledTransaction_settled_id hchecked).symm.trans hid)
    have hidentifies : ((trust.settlementProfiles bundle.purchasePermit.network).isSome &&
        (text version "surfnet-version").isNone) = false := by
      rw [Bool.and_eq_false_imp]
      intro hpinned
      simpa [Option.isSome_iff_ne_none] using hsandbox hpinned
    unfold observeSettlement
    rw [hversion, ok_bind, hidentifies, if_neg Bool.false_ne_true, hshown, ok_bind]
    dsimp only
    rw [hchecked, ok_bind]
    dsimp only
    rw [if_pos hsame]
    exact ⟨_, rfl⟩

theorem settlementClaim_passes {options : VerifyOptions} {settlement : ConfirmedSettlement}
    {attempt : PaymentAttempt} (hstate : bundle.state = "CONFIRMED") (hsettlement : bundle.settlement = some settlement)
    (hattempt : bundle.paymentAttempt = some attempt) :
    (settlementClaim platform bundle trust options).Passes ↔ ∀ rpc, options = .online rpc →
      Observed platform trust bundle.purchasePermit.network rpc settlement attempt := by
  cases options with
  | offline => simp [settlementClaim_offline_passes]
  | online rpc =>
    simp only [VerifyOptions.online.injEq, forall_eq', ← @observeSettlement_verified platform bundle trust]
    unfold settlementClaim
    rw [confirmed_iff.2 hstate, hsettlement, hattempt]
    dsimp only
    cases observeSettlement platform bundle trust rpc settlement attempt with
    | error message => simp [Claim.Passes]
    | ok observed =>
      obtain ⟨status, detail⟩ := observed
      simp only [Claim.Passes, forall_const, Except.ok.injEq, Prod.mk.injEq, exists_and_left, exists_eq', and_true]
      exact ⟨fun h ↦ h.2, fun h ↦ ⟨by rw [h]; decide, h⟩⟩

end

/-- Whatever the input and the pinned keys: a report is valid for a completed purchase exactly if the input is a
bundle of one, and online if the transaction can be observed as well. -/
theorem completed_iff_valid (platform : Platform) (input : BundleInput) (trust : VerifierTrust)
    (options : VerifyOptions) :
    ((verifyEvidenceBundle platform input trust options).overall = .VALID ∧
      (verifyEvidenceBundle platform input trust options).purchaseState = some "CONFIRMED") ↔
    ∃ bundle receipt requirement attempt settlement result, parseEvidenceBundle platform input = .ok bundle ∧
      Completed platform trust bundle receipt requirement attempt settlement result ∧
      ∀ rpc, options = .online rpc →
        Observed platform trust bundle.purchasePermit.network rpc settlement attempt := by
  cases hparsed : parseEvidenceBundle platform input with
  | error failure => simp [verifyEvidenceBundle, hparsed]
  | ok bundle =>
    have hstated : (verifyEvidenceBundle platform input trust options).purchaseState = some bundle.state := by
      simp only [verifyEvidenceBundle, hparsed]
    rw [verifyEvidenceBundle_overall hparsed, hstated, Option.some.injEq]
    constructor
    · rintro ⟨hvalid, hstate⟩
      obtain ⟨hmodeless, hsettled⟩ := overallOf_claims.1 hvalid
      have hproven : Proven platform bundle trust :=
        overallOf_offline.1 (overallOf_claims.2 ⟨hmodeless, settlementClaim_offline_passes⟩)
      obtain ⟨receipt, requirement, attempt, settlement, result, hcompleted⟩ :=
        hproven.completed (parseEvidenceBundle_accepted hparsed) hstate
      have hobserved := (settlementClaim_passes hstate hcompleted.settlement_eq hcompleted.attempt_eq).1 hsettled
      exact ⟨bundle, receipt, requirement, attempt, settlement, result, rfl, hcompleted, hobserved⟩
    · rintro ⟨found, receipt, requirement, attempt, settlement, result, hfound, hcompleted, hobserved⟩
      obtain rfl := Except.ok.inj hfound
      refine ⟨overallOf_claims.2 ⟨?_, ?_⟩, hcompleted.state⟩
      · exact (overallOf_claims.1 (overallOf_offline.2 hcompleted.proven)).1
      · exact (settlementClaim_passes hcompleted.state hcompleted.settlement_eq hcompleted.attempt_eq).2 hobserved

end VirtualHaibin.Evidence
