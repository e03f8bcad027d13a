import VirtualHaibin.Authority.Documents
import VirtualHaibin.Authority.Issuing
import VirtualHaibin.Authority.Receipts

/-!
# What is exported verifies

The authority exports a row, and the verifier judges the bundle knowing only its pinned keys.  In the runs of
one process at a time with a provider that keeps its contract, whatever is exported passes every check of the
verifier but two: that the request was signed in time, and, where a service is pinned, that its acknowledgement
was kept.
-/

namespace VirtualHaibin.Authority

open Foundation Foundation.Checked Mandate Payments Policy Evidence

/-- A process as its entry point sets it up: one settlement profile, the provider's own, under its name, and a
key pair that signs. -/
structure Configured (platform : Platform) (options : AuthorityServiceOptions) : Prop where
  key : KeyPair platform options.authorityAddress
  profile : ∀ name profile, options.settlementProfiles name = some profile →
    name = profile.name ∧ profile = options.paymentProvider.profile

/-- The verifier pins what the authority runs with, and any service or none. -/
structure Pins (options : AuthorityServiceOptions) (trust : VerifierTrust) : Prop where
  issuer : trust.issuer = options.issuerEntitlement.issuer
  authority : trust.authority = options.authorityAddress
  settlementProfiles : trust.settlementProfiles = options.settlementProfiles

/-! ## What a bundle shows -/

/-- What the bundle of a row is made of, once it is known whose request the row records. -/
structure ShowsRow (platform : Platform) (options : AuthorityServiceOptions) (row : InvocationRecord)
    (auth : AuthenticatedRequest) (bundleVersion : EvidenceBundleVersion) (bundle : EvidenceBundle) : Prop where
  state : bundle.state = row.state.name
  final : row.state ≠ .RESERVED
  settlementProfile : bundle.settlementProfile = auth.permit.network
  grantId : bundle.grantId = auth.permit.grantId
  invocationId : bundle.invocationId = auth.request.invocationId
  permit : bundle.purchasePermit = auth.permit
  request : bundle.request = auth.request
  agentSignature : bundle.agentSignature = auth.agentSignature
  receipt : bundle.authorityDecision = row.receipt
  decided : row.isDecided = true → row.receipt.isSome = true
  outbound : bundle.outboundRequest = row.paymentRequirement.bind fun _ ↦ outboundRequest platform options auth.request
  requirement : bundle.paymentRequirement = row.paymentRequirement
  attempt : bundle.paymentAttempt = row.paymentAttempt
  settlement : bundle.settlement = if row.state = .CONFIRMED then row.settlement else none
  result : exportedResult row = .ok bundle.result
  service : ∀ service ∈ bundle.service, exportedAcknowledgement platform row = .ok service.serviceAcknowledgement ∧
    service.serviceAuthorization = if row.paymentAttempt.isNone then none else row.serviceAuthorization
  decision : bundle.manifest.decision = if row.state = .DENIED then "DENY" else "ALLOW"
  reasonCodes : bundle.manifest.reasonCodes = row.reasonCodes
  manifestGrant : bundle.manifest.grantId = auth.permit.grantId
  manifestInvocation : bundle.manifest.invocationId = auth.request.invocationId
  manifestProfile : bundle.manifest.settlementProfile = auth.permit.network
  digests : bundle.manifest.digests = computeEvidenceDigests platform bundle.toEvidenceArtifacts
  sealed : bundle.manifest.authority = options.authorityAddress ∧ bundle.manifest.signature =
    platform.signBytes options.authorityAddress (canonicalizeManifest platform
      bundle.manifest.toUnsignedEvidenceManifest)

section

variable {platform : Platform} {options : AuthorityServiceOptions} {digests : Digests} {row : InvocationRecord}
  {auth : AuthenticatedRequest} {issuedAt : ℤ} {bundleVersion : EvidenceBundleVersion} {bundle : EvidenceBundle}
  {trust : VerifierTrust}

theorem exportedExchange_eq_ok {input : ExportInput} {service : Option ServiceExchange}
    (h : exportedExchange platform input = .ok service) : ∀ exchange ∈ service,
      exportedAcknowledgement platform input.invocation = .ok exchange.serviceAcknowledgement ∧
      exchange.serviceAuthorization =
        if input.invocation.paymentAttempt.isNone then none else input.invocation.serviceAuthorization := by
  unfold exportedExchange at h
  cases hversion : input.bundleVersion with
  | v1 =>
    rw [hversion] at h
    cases h
    intro exchange hmem
    cases hmem
  | v2 =>
    rw [hversion] at h
    cases hack : exportedAcknowledgement platform input.invocation with
    | error failure =>
      simp only [hack] at h
      cases h
    | ok acknowledgement =>
      simp only [hack] at h
      cases h
      intro exchange hmem
      cases hmem
      exact ⟨rfl, rfl⟩

theorem Exported.showsRow (h : Exported platform (exportInput options row issuedAt bundleVersion) bundle)
    (hrequested : RequestedBy platform options digests row auth) :
    ShowsRow platform options row auth bundleVersion bundle := by
  obtain ⟨authorization, result, service, hauthorization, hresult, hservice, hartifacts⟩ := h.artifacts
  obtain rfl := Option.some.inj (hrequested.authorization_eq.symm.trans hauthorization)
  have hmanifest := h.manifest
  have hauth := hrequested.authenticated.choose_spec
  obtain ⟨hsigner, hsealed⟩ := signEvidenceManifest_eq_some.1 h.signed
  have hauthority : bundle.manifest.authority = options.authorityAddress :=
    congrArg UnsignedEvidenceManifest.authority hmanifest
  have hprofile : bundle.settlementProfile = auth.permit.network :=
    congrArg EvidenceArtifacts.settlementProfile hartifacts
  exact {
    state := congrArg UnsignedEvidenceManifest.purchaseState hmanifest
    final := h.final
    settlementProfile := hprofile
    grantId := (congrArg EvidenceArtifacts.grantId hartifacts).trans hrequested.grantId_eq
    invocationId := (congrArg EvidenceArtifacts.invocationId hartifacts).trans hrequested.invocationId_eq
    permit := congrArg EvidenceArtifacts.purchasePermit hartifacts
    request := (congrArg EvidenceArtifacts.request hartifacts).trans hrequested.request_eq
    agentSignature := congrArg EvidenceArtifacts.agentSignature hartifacts
    receipt := congrArg EvidenceArtifacts.authorityDecision hartifacts
    decided := fun hdecided ↦ by
      rw [InvocationRecord.isDecided, Bool.or_eq_true, decide_eq_true_iff, decide_eq_true_iff, or_comm] at hdecided
      obtain ⟨receipt, hreceipt, -⟩ := h.receipt hdecided
      exact Option.isSome_iff_exists.2 ⟨receipt, hreceipt⟩
    outbound := by
      have houtbound := congrArg EvidenceArtifacts.outboundRequest hartifacts
      change _ = row.paymentRequirement.bind fun _ ↦ outboundRequest platform options row.request at houtbound
      rw [hrequested.request_eq] at houtbound
      exact houtbound
    requirement := congrArg EvidenceArtifacts.paymentRequirement hartifacts
    attempt := congrArg EvidenceArtifacts.paymentAttempt hartifacts
    settlement := congrArg EvidenceArtifacts.settlement hartifacts
    result := hresult.trans (congrArg Except.ok (congrArg EvidenceArtifacts.result hartifacts).symm)
    service := fun exchange hmem ↦ by
      have hshown : bundle.service = service := congrArg EvidenceArtifacts.service hartifacts
      exact exportedExchange_eq_ok hservice exchange (hshown ▸ hmem)
    decision := congrArg UnsignedEvidenceManifest.decision hmanifest
    reasonCodes := congrArg UnsignedEvidenceManifest.reasonCodes hmanifest
    manifestGrant := (congrArg UnsignedEvidenceManifest.grantId hmanifest).trans hrequested.grantId_eq
    manifestInvocation := (congrArg UnsignedEvidenceManifest.invocationId hmanifest).trans hrequested.invocationId_eq
    manifestProfile := (congrArg UnsignedEvidenceManifest.settlementProfile hmanifest).trans hprofile
    digests := congrArg UnsignedEvidenceManifest.digests hmanifest
    sealed := by
      refine ⟨hauthority, ?_⟩
      have hsignature := congrArg SignedEvidenceManifest.signature hsealed
      rwa [hsigner, hauthority] at hsignature }

theorem InvocationState.name_injective {state state' : InvocationState} (h : state.name = state'.name) :
    state = state' := by
  revert h
  cases state <;> cases state' <;> decide

theorem ShowsRow.state_iff (h : ShowsRow platform options row auth bundleVersion bundle) (state : InvocationState) :
    bundle.state = state.name ↔ row.state = state := by
  rw [h.state]
  exact ⟨InvocationState.name_injective, congrArg InvocationState.name⟩

theorem ShowsRow.named (h : ShowsRow platform options row auth bundleVersion bundle)
    (hgrantId : auth.request.grantId = auth.permit.grantId) : Named bundle where
  manifestGrant := h.manifestGrant.trans h.grantId.symm
  permitGrant := by rw [h.permit, h.grantId]
  requestGrant := by rw [h.request, h.grantId, hgrantId]
  manifestInvocation := h.manifestInvocation.trans h.invocationId.symm
  requestInvocation := by rw [h.request, h.invocationId]
  manifestProfile := h.manifestProfile.trans h.settlementProfile.symm
  permitProfile := by rw [h.permit, h.settlementProfile]

/-- A row with a requirement has its request rebuilt from the registry. -/
theorem ShowsRow.outbound_eq (h : ShowsRow platform options row auth bundleVersion bundle)
    {profile : SettlementProfile} {paidRequest : PaidRequest} {requirement : PaymentRequirement}
    (hfetch : FetchBound platform options auth profile paidRequest)
    (hrequirement : row.paymentRequirement = some requirement) : bundle.outboundRequest = some paidRequest := by
  rw [h.outbound, hrequirement, Option.bind_some, hfetch.paidRequest_eq]

/-- An exported result is the recorded one. -/
theorem exportedResult_eq_some {result : EvidenceResult} (h : exportedResult row = .ok (some result)) :
    ∃ recorded bodyBase64, row.result = some recorded ∧ recorded.bodyBase64 = some bodyBase64 ∧
      result = {
        httpStatus := recorded.httpStatus, bodyBase64, bytes := recorded.bytes, sha256 := recorded.sha256 } := by
  unfold exportedResult at h
  split at h
  · split at h
    · rename_i recorded bodyBase64 settlement hrecorded hsettlement
      obtain ⟨found, hfound, hpaired⟩ := Option.bind_eq_some_iff.1 hrecorded
      obtain ⟨body, hbody, heq⟩ := Option.map_eq_some_iff.1 hpaired
      obtain ⟨rfl, rfl⟩ := Prod.mk.inj heq
      exact ⟨found, body, hfound, hbody, (Option.some.inj (Except.ok.inj h)).symm⟩
    · cases h
  · cases h

theorem exportedResult_isSome_iff {result : Option EvidenceResult} (h : exportedResult row = .ok result) :
    result.isSome = true ↔ row.state = .CONFIRMED := by
  unfold exportedResult at h
  split at h
  · rename_i hstate
    split at h
    · obtain rfl := Except.ok.inj h
      exact iff_of_true rfl hstate
    · cases h
  · rename_i hstate
    obtain rfl := Except.ok.inj h
    exact iff_of_false Bool.false_ne_true hstate

/-- An acknowledgement is exported from the header that was kept with a confirmed row. -/
theorem exportedAcknowledgement_eq_some {acknowledgement : SignedServiceAcknowledgementV1}
    (h : exportedAcknowledgement platform row = .ok (some acknowledgement)) :
    row.state = .CONFIRMED ∧ ∃ result header, row.result = some result ∧
      result.serviceAcknowledgementHeader = some header ∧
      decodeServiceAcknowledgementHeader platform header = .ok acknowledgement := by
  unfold exportedAcknowledgement at h
  split at h
  · cases h
  · rename_i header hheader
    split at hheader
    · rename_i hstate
      obtain ⟨result, hresult, hkept⟩ := Option.bind_eq_some_iff.1 hheader
      refine ⟨hstate, result, header, hresult, hkept, ?_⟩
      cases hdecoded : decodeServiceAcknowledgementHeader platform header with
      | error error =>
        rw [hdecoded] at h
        cases h
      | ok found =>
        rw [hdecoded] at h
        exact congrArg Except.ok (Option.some.inj (Except.ok.inj h))
    · cases hheader

theorem Reached.settled_of_confirmed (h : Reached platform options auth row) (hstate : row.state = .CONFIRMED) :
    ∃ payment serviceAuthorization attempt settlement,
      Attempts platform options auth row payment serviceAuthorization attempt ∧ row.settlement = some settlement ∧
      row.paymentTransactionId = some settlement.transactionId ∧ ∀ result ∈ row.result,
        Returned platform options auth payment serviceAuthorization settlement result := by
  cases h with
  | unpaid state attempt_eq result_eq =>
    rw [hstate] at state
    rcases state with heq | heq | heq <;> cases heq
  | attempted attempts state result_eq =>
    rw [hstate] at state
    rcases state with heq | heq | heq <;> cases heq
  | settled attempts state settlement_eq transaction_eq returned =>
    exact ⟨_, _, _, _, attempts, settlement_eq, transaction_eq, returned⟩

theorem Reached.unpaid_of_denied (h : Reached platform options auth row) (hstate : row.state = .DENIED) :
    row.paymentAttempt = none := by
  cases h with
  | unpaid state attempt_eq result_eq => exact attempt_eq
  | attempted attempts state result_eq =>
    rw [hstate] at state
    rcases state with heq | heq | heq <;> cases heq
  | settled attempts state settlement_eq transaction_eq returned =>
    rw [hstate] at state
    cases state

theorem ShowsRow.shaped (h : ShowsRow platform options row auth bundleVersion bundle)
    (hdocuments : Documents platform options digests row auth)
    (hreceipt : ∀ receipt, row.receipt = some receipt → row.isDecided = true) : Shaped bundle := by
  have hresult := exportedResult_isSome_iff h.result
  exact {
    decision := by
      rw [h.decision, show "DENIED" = InvocationState.DENIED.name from rfl, h.state_iff]
      by_cases hstate : row.state = .DENIED <;> simp [hstate]
    receipt := by
      rw [h.receipt, show "CONFIRMED" = InvocationState.CONFIRMED.name from rfl,
        show "DENIED" = InvocationState.DENIED.name from rfl, h.state_iff, h.state_iff]
      constructor
      · intro hsome
        obtain ⟨receipt, hstored⟩ := Option.isSome_iff_exists.1 hsome
        simpa [InvocationRecord.isDecided, or_comm] using hreceipt receipt hstored
      · intro hstate
        exact h.decided (by simpa [InvocationRecord.isDecided, or_comm] using hstate)
    confirmed := fun hstate ↦ by
      have hconfirmed := (h.state_iff .CONFIRMED).1 hstate
      obtain ⟨payment, serviceAuthorization, attempt, settlement, hattempts, hsettlement, -, -⟩ :=
        hdocuments.reached.settled_of_confirmed hconfirmed
      obtain ⟨profile, hfetch, -⟩ := hattempts.bound.accepted
      refine ⟨?_, ?_, ?_, ?_, hresult.2 hconfirmed⟩
      · rw [h.outbound_eq hfetch hattempts.requirement_eq, Option.isSome_some]
      · rw [h.requirement, hattempts.requirement_eq, Option.isSome_some]
      · rw [h.attempt, hattempts.attempt_eq, Option.isSome_some]
      · rw [h.settlement, if_pos hconfirmed, hsettlement, Option.isSome_some]
    unconfirmed := fun hstate ↦ by
      have hunconfirmed : row.state ≠ .CONFIRMED := fun hconfirmed ↦ hstate ((h.state_iff .CONFIRMED).2 hconfirmed)
      rw [h.settlement, if_neg hunconfirmed]
      exact ⟨rfl, Option.not_isSome_iff_eq_none.1 fun hsome ↦ hunconfirmed (hresult.1 hsome)⟩
    unresolved := fun hstate ↦ by
      obtain ⟨-, payment, serviceAuthorization, attempt, hattempts⟩ :=
        hdocuments.reached.unresolved ((h.state_iff .RECONCILIATION_REQUIRED).1 hstate)
      rw [h.attempt, hattempts.attempt_eq, Option.isSome_some]
    denied := fun hstate ↦ by
      rw [h.attempt]
      exact hdocuments.reached.unpaid_of_denied ((h.state_iff .DENIED).1 hstate)
    acknowledged := fun service hmem hsome ↦ by
      obtain ⟨acknowledgement, hack⟩ := Option.isSome_iff_exists.1 hsome
      have hexported := (h.service service hmem).1
      rw [hack] at hexported
      exact (h.state_iff .CONFIRMED).2 (exportedAcknowledgement_eq_some hexported).1
    authorized := fun service hmem hsome ↦ by
      rw [(h.service service hmem).2] at hsome
      rw [h.attempt]
      cases hattempt : row.paymentAttempt with
      | none => simp [hattempt] at hsome
      | some attempt => rfl }

theorem ShowsRow.signed (h : ShowsRow platform options row auth bundleVersion bundle) {now : ℤ}
    (hauth : Authenticated platform options now auth) : Signed platform bundle where
  permit := by
    rw [h.permit]
    exact hauth.permit_verified
  valid := by
    rw [h.request]
    exact hauth.request_valid
  request := by
    rw [h.request, h.agentSignature, h.permit]
    exact hauth.signed
  permitDigest := by
    rw [h.request, h.permit]
    exact hauth.permitDigest_eq

theorem ShowsRow.sealed_by (h : ShowsRow platform options row auth bundleVersion bundle)
    (hkey : KeyPair platform options.authorityAddress) :
    verifyEvidenceManifestSignature platform bundle.manifest options.authorityAddress = true := by
  obtain ⟨hauthority, hsignature⟩ := h.sealed
  rw [verifyEvidenceManifestSignature, hauthority, hsignature]
  exact hkey.verifyPinned _

theorem signReceipt_eq_some {receipt : SignedAuthorizationReceipt}
    (h : signReceipt platform options row = some receipt) :
    receipt.toUnsignedAuthorizationReceiptV2 = unsignedReceipt platform options row ∧
      receipt.signature = platform.signBytes options.authorityAddress
        (canonicalizeReceipt platform receipt.toUnsignedAuthorizationReceiptV2) := by
  unfold signReceipt signAuthorizationReceipt at h
  split at h
  · rename_i hsigner
    rw [← Option.some.inj h, hsigner]
    exact ⟨rfl, rfl⟩
  · cases h

/-- A receipt of the row repeats the manifest's decision, and is the authority's own. -/
theorem ShowsRow.receipt_agrees (h : ShowsRow platform options row auth bundleVersion bundle)
    (hkey : KeyPair platform options.authorityAddress) (htrust : trust.authority = options.authorityAddress)
    (hdocuments : Documents platform options digests row auth) {receipt : SignedAuthorizationReceipt}
    (hdecided : row.isDecided = true) (hsigned : signReceipt platform options row = some receipt) :
    ReceiptNamed bundle receipt ∧ ReceiptAgrees platform bundle trust receipt := by
  obtain ⟨hunsigned, hsignature⟩ := signReceipt_eq_some hsigned
  have hrequested := hdocuments.requested
  have htruthful := signReceipt_truthful hsigned
  have hdecision : receipt.decision = if row.state = .CONFIRMED then "ALLOW" else "DENY" :=
    congrArg UnsignedAuthorizationReceiptV2.decision hunsigned
  have hauthority : receipt.authority = options.authorityAddress :=
    congrArg UnsignedAuthorizationReceiptV2.authority hunsigned
  constructor
  · exact {
      invocation := by rw [htruthful.invocationId, h.invocationId, hrequested.invocationId_eq]
      grant := by rw [htruthful.grantId, h.grantId, hrequested.grantId_eq]
      decision := by
        rw [hdecision, h.decision]
        -- A decided row is denied or confirmed.
        cases hstate : row.state <;> simp [InvocationRecord.isDecided, hstate] at hdecided ⊢
      reasonCodes := by rw [htruthful.reasonCodes, h.reasonCodes] }
  · exact {
      signed := by
        rw [verifyAuthorizationReceiptSignature, hsignature, hauthority, htrust]
        exact hkey.verifyPinned _
      service := by rw [htruthful.service, h.request, hrequested.request_eq]
      capability := by rw [htruthful.capability, h.request, hrequested.request_eq]
      network := by rw [htruthful.network, h.request, hrequested.request_eq]
      mint := by rw [htruthful.mint, h.request, hrequested.request_eq]
      recipient := by rw [htruthful.recipient, h.request, hrequested.request_eq]
      amountAtomic := by rw [htruthful.amountAtomic, h.request, hrequested.amount_eq]
      permitDigest := by rw [htruthful.permitDigest, h.request, hrequested.request_eq]
      agent := by rw [htruthful.agent, h.permit, hrequested.agent_eq]
      operation := by rw [htruthful.operation, h.request, hrequested.request_eq]
      operationDigest := by rw [htruthful.operationDigest, h.request, hrequested.request_eq]
      transaction := fun hstate ↦ by
        have hconfirmed := (h.state_iff .CONFIRMED).1 hstate
        obtain ⟨payment, serviceAuthorization, attempt, settlement, -, hsettlement, htransaction, -⟩ :=
          hdocuments.reached.settled_of_confirmed hconfirmed
        rw [htruthful.paymentTransactionId, htransaction, h.settlement, if_pos hconfirmed, hsettlement]
        rfl }

/-! ## Payments -/

/-- The request of a fetch is the operation's, with its own digest. -/
theorem FetchBound.built {profile : SettlementProfile} {paidRequest : PaidRequest}
    (h : FetchBound platform options auth profile paidRequest) :
    auth.request.operation.method = "POST" ∧ platform.pathname paidRequest.url = some auth.request.operation.resource ∧
      paidRequest.body = operationRequestBody platform auth.request.operation ∧
      paidRequest.sha256 = computePaidRequestDigest platform paidRequest.url paidRequest.body := by
  obtain ⟨resource, -, hbuilt⟩ := Option.bind_eq_some_iff.1 h.paidRequest_eq
  obtain ⟨hmethod, hpath, rfl⟩ := buildPaidRequest_eq_some.1 hbuilt
  exact ⟨hmethod, hpath, rfl, rfl⟩

/-- One profile and one request can be fetched for a request. -/
theorem FetchBound.unique {profile profile' : SettlementProfile} {paidRequest paidRequest' : PaidRequest}
    (h : FetchBound platform options auth profile paidRequest)
    (h' : FetchBound platform options auth profile' paidRequest') : profile' = profile ∧ paidRequest' = paidRequest :=
  ⟨Option.some.inj (h'.profile_eq.symm.trans h.profile_eq),
    Option.some.inj (h'.paidRequest_eq.symm.trans h.paidRequest_eq)⟩

theorem Reached.attempts_of_some {attempt : PaymentAttempt} (h : Reached platform options auth row)
    (hattempt : row.paymentAttempt = some attempt) : ∃ payment serviceAuthorization,
      Attempts platform options auth row payment serviceAuthorization attempt := by
  have hfound {payment : Payment} {serviceAuthorization : SignedServiceAuthorizationV1} {found : PaymentAttempt}
      (hattempts : Attempts platform options auth row payment serviceAuthorization found) :
      ∃ payment serviceAuthorization, Attempts platform options auth row payment serviceAuthorization attempt := by
    obtain rfl := Option.some.inj (hattempts.attempt_eq.symm.trans hattempt)
    exact ⟨payment, serviceAuthorization, hattempts⟩
  cases h with
  | unpaid state attempt_eq result_eq =>
    rw [attempt_eq] at hattempt
    cases hattempt
  | attempted attempts state result_eq => exact hfound attempts
  | settled attempts state settlement_eq transaction_eq returned => exact hfound attempts

/-- The attempt of a row pays the requirement of the row. -/
theorem Attempts.agrees {payment : Payment} {serviceAuthorization : SignedServiceAuthorizationV1}
    {attempt : PaymentAttempt} {requirement : PaymentRequirement}
    (h : Attempts platform options auth row payment serviceAuthorization attempt)
    (hrequirement : row.paymentRequirement = some requirement) : AttemptAgrees platform requirement attempt := by
  obtain rfl := Option.some.inj (h.requirement_eq.symm.trans hrequirement)
  have hprepared := h.prepared
  obtain ⟨profile, -, haccepted⟩ := h.bound.accepted
  exact {
    scheme := hprepared.scheme_eq
    network := hprepared.network_eq
    asset := hprepared.asset_eq
    payTo := hprepared.payTo_eq
    amountAtomic := hprepared.amount_eq
    feePayer := hprepared.feePayer_eq.symm
    resourceUrl := by
      rw [hprepared.url_eq]
      exact haccepted.url_eq.symm
    feePayer_ne := hprepared.feePayer_ne
    transaction := fun encoded hencoded ↦ by
      obtain ⟨⟨payerSignature, tokenProgram⟩, hvalid, hpayer⟩ := hprepared.transaction
      rw [Option.mem_def.1 hencoded] at hvalid
      rw [transactionAgrees_iff, hpayer]
      exact ⟨⟨tokenProgram, hvalid⟩, h.signed encoded hencoded⟩ }

/-- A row that was not denied was decided without an objection. -/
theorem RequestedBy.allowed (h : RequestedBy platform options digests row auth) (hadjudicated : row.Adjudicated)
    (hstate : row.state ≠ .DENIED) : ∃ committed, requestCodes auth row.decidedAt committed = [] := by
  obtain ⟨decided, terms, committed, hdecided⟩ := hadjudicated
  have hpermit : decided.permit = auth.permit :=
    congrArg StoredAuthorizationEvidence.permit
      (Option.some.inj (hdecided.authorization_eq.symm.trans h.authorization_eq))
  have hrequest : decided.request = auth.request := hdecided.request_eq.symm.trans h.request_eq
  have hcodes : decisionCodes decided row.decidedAt terms committed = [] := by
    by_contra hne
    exact hstate (hdecided.denied_iff.2 hne)
  have hsame : requestCodes auth row.decidedAt committed = requestCodes decided row.decidedAt committed := by
    rw [requestCodes, requestCodes, policyCodes, policyCodes, hpermit, hrequest]
  refine ⟨committed, ?_⟩
  rw [hsame, List.eq_nil_iff_forall_not_mem]
  intro code hmem
  have hfound : code ∈ decisionCodes decided row.decidedAt terms committed := mem_decisionCodes_of_request hmem
  rw [hcodes] at hfound
  cases hfound

theorem ShowsRow.paysFor (h : ShowsRow platform options row auth bundleVersion bundle)
    (hconfigured : Configured platform options) (hpins : Pins options trust)
    (hdocuments : Documents platform options digests row auth) (hadjudicated : row.Adjudicated)
    (hstate : row.state ≠ .DENIED) {requirement : PaymentRequirement}
    (hrequirement : row.paymentRequirement = some requirement) : PaysFor platform bundle trust requirement := by
  obtain ⟨profile, paidRequest, challenge, demanded, hfetch, haccepted, hstored⟩ := hdocuments.demands hstate
  obtain rfl := Option.some.inj (hstored.symm.trans hrequirement)
  obtain ⟨committed, hcodes⟩ := hdocuments.requested.allowed hadjudicated hstate
  obtain ⟨-, -, -, -, hmint, hrecipient, -, hle⟩ := requestCodes_eq_nil hcodes
  obtain ⟨hmethod, hpath, hbody, hdigest⟩ := hfetch.built
  obtain ⟨hname, hprofile⟩ := hconfigured.profile _ _ hfetch.profile_eq
  exact {
    profile := by
      refine ⟨profile, by rw [hpins.settlementProfiles, h.permit, hfetch.profile_eq], ?_⟩
      exact {
        name := h.manifestProfile.trans hname
        protocol := haccepted.protocol_eq
        version := haccepted.version_eq
        scheme := haccepted.scheme_eq
        network := haccepted.network_mem
        asset := haccepted.asset_mem
        attempt := fun attempt hmem ↦ by
          obtain ⟨payment, serviceAuthorization, hattempts⟩ :=
            hdocuments.reached.attempts_of_some (h.attempt.symm.trans (Option.mem_def.1 hmem))
          rw [hprofile]
          exact ⟨hattempts.prepared.profile_eq, List.isPrefixOf_iff_prefix.1 hattempts.prepared.blockhash_pinned⟩ }
    asset := by
      rw [h.request, h.permit]
      exact ⟨haccepted.asset_eq, hmint⟩
    payTo := by
      rw [h.request, h.permit]
      exact ⟨haccepted.payTo_eq, hrecipient⟩
    amountAtomic := by
      rw [h.request, h.permit]
      have hamount : demanded.stored.amountAtomic = auth.request.amountAtomic := haccepted.amount_eq
      rw [hamount]
      exact ⟨rfl, hle⟩
    outbound := by
      refine ⟨paidRequest, h.outbound_eq hfetch hstored, ?_⟩
      rw [← h.request] at hmethod hpath hbody
      exact {
        path := hpath
        method := hmethod
        body := hbody
        digest := hdigest
        url := haccepted.url_eq
        attempt := fun attempt hmem ↦ by
          obtain ⟨payment, serviceAuthorization, hattempts⟩ :=
            hdocuments.reached.attempts_of_some (h.attempt.symm.trans (Option.mem_def.1 hmem))
          obtain ⟨other, hother, -⟩ := hattempts.bound.accepted
          rw [hattempts.prepared.request_eq, (hfetch.unique hother).2] }
    attempt := fun attempt hmem ↦ by
      obtain ⟨payment, serviceAuthorization, hattempts⟩ :=
        hdocuments.reached.attempts_of_some (h.attempt.symm.trans (Option.mem_def.1 hmem))
      exact hattempts.agrees hstored }

theorem ShowsRow.result_agrees (h : ShowsRow platform options row auth bundleVersion bundle)
    (hreached : Reached platform options auth row) {result : EvidenceResult} (hresult : bundle.result = some result) :
    ResultAgrees platform result := by
  have hexported := h.result
  rw [hresult] at hexported
  have hconfirmed := (exportedResult_isSome_iff hexported).1 rfl
  obtain ⟨recorded, bodyBase64, hrecorded, hbody, rfl⟩ := exportedResult_eq_some hexported
  obtain ⟨payment, serviceAuthorization, attempt, settlement, -, -, -, hreturned⟩ :=
    hreached.settled_of_confirmed hconfirmed
  exact (hreturned recorded hrecorded).genuine bodyBase64 hbody

/-- What is exported of the service authorization belongs to the attempt. -/
theorem ShowsRow.authorization_agrees (h : ShowsRow platform options row auth bundleVersion bundle)
    (hkey : KeyPair platform options.authorityAddress) (htrust : trust.authority = options.authorityAddress)
    (hreached : Reached platform options auth row) {service : ServiceExchange} (hservice : service ∈ bundle.service)
    {authorization : SignedServiceAuthorizationV1}
    (hauthorization : service.serviceAuthorization = some authorization) :
    AuthorizationAgrees platform bundle trust authorization := by
  have hexported := (h.service service hservice).2
  rw [hauthorization] at hexported
  cases hattempt : row.paymentAttempt with
  | none => simp [hattempt] at hexported
  | some attempt =>
    obtain ⟨payment, serviceAuthorization, hattempts⟩ := hreached.attempts_of_some hattempt
    rw [hattempt, Option.isNone_some, if_neg Bool.false_ne_true, hattempts.authorization_eq] at hexported
    obtain rfl := Option.some.inj hexported
    obtain ⟨now, hunsigned, hsignature⟩ := hattempts.authorized.unsigned
    obtain ⟨hinvocation, hrequest⟩ := hattempts.bound.invocation_eq
    obtain ⟨profile, hfetch, -⟩ := hattempts.bound.accepted
    exact {
      signed := by
        have hauthority : authorization.authority = options.authorityAddress := congrArg (·.authority) hunsigned
        rw [verifyServiceAuthorizationSignature, hsignature, hauthority, htrust]
        exact hkey.verifyPinned _
      invocation := by
        rw [h.invocationId, ← hinvocation]
        exact congrArg (·.invocationId) hunsigned
      grant := by
        rw [h.grantId]
        exact congrArg (·.grantId) hunsigned
      outbound := ⟨payment.paidRequest, h.outbound_eq hfetch hattempts.requirement_eq, congrArg (·.url) hunsigned,
        congrArg (·.requestSha256) hunsigned⟩
      operationDigest := by
        rw [h.request, ← hrequest]
        exact congrArg (·.operationDigest) hunsigned
      payment := ⟨payment.requirement.stored, h.requirement.trans hattempts.requirement_eq,
        congrArg (·.payment.network) hunsigned, congrArg (·.payment.asset) hunsigned,
        congrArg (·.payment.payTo) hunsigned, congrArg (·.payment.amountAtomic) hunsigned⟩ }

/-- An exported acknowledgement states all of the exchange, and its key is the one the authority trusts. -/
theorem ShowsRow.acknowledgement_agrees (h : ShowsRow platform options row auth bundleVersion bundle)
    (hreached : Reached platform options auth row) {service : ServiceExchange} (hservice : service ∈ bundle.service)
    {acknowledgement : SignedServiceAcknowledgementV1}
    (hacknowledgement : service.serviceAcknowledgement = some acknowledgement) : ∃ pinned,
      options.trustedServiceKeys auth.permit.service = some pinned ∧
      AcknowledgementAgrees platform bundle pinned service.serviceAuthorization acknowledgement := by
  obtain ⟨hexported, hauthorization⟩ := h.service service hservice
  rw [hacknowledgement] at hexported
  obtain ⟨hconfirmed, result, header, hresult, hheader, hdecoded⟩ := exportedAcknowledgement_eq_some hexported
  obtain ⟨payment, serviceAuthorization, attempt, settlement, hattempts, hsettlement, -, hreturned⟩ :=
    hreached.settled_of_confirmed hconfirmed
  obtain ⟨pinned, found, hpinned, hfound, hmatches⟩ := (hreturned result hresult).acknowledged header hheader
  obtain rfl := Except.ok.inj (hfound.symm.trans hdecoded)
  obtain ⟨hinvocation, hrequest⟩ := hattempts.bound.invocation_eq
  obtain ⟨profile, hfetch, -⟩ := hattempts.bound.accepted
  simp only [acknowledgementMatches, Bool.and_eq_true, decide_eq_true_eq] at hmatches
  obtain ⟨⟨⟨⟨⟨⟨⟨⟨⟨⟨⟨hsigned, hid⟩, hdigest⟩, hsha256⟩, hreceived⟩, hasset⟩, hpayTo⟩, hamount⟩, htransaction⟩,
    hbytesHash⟩, hbytes⟩, hstatus⟩ := hmatches
  rw [hattempts.attempt_eq, Option.isNone_some, if_neg Bool.false_ne_true, hattempts.authorization_eq] at hauthorization
  refine ⟨pinned, hpinned, {
    signed := hsigned
    invocation := by rw [hid, hinvocation, h.invocationId]
    authorization := ⟨serviceAuthorization, hauthorization, hdigest⟩
    outbound := ⟨payment.paidRequest, h.outbound_eq hfetch hattempts.requirement_eq, hsha256⟩
    received := by rw [hreceived, hrequest, h.request]
    payment := ⟨payment.requirement.stored, h.requirement.trans hattempts.requirement_eq, hasset, hpayTo, hamount⟩
    transaction := by rw [htransaction, h.settlement, if_pos hconfirmed, hsettlement, Option.map_some]
    result := ?_ }⟩
  obtain ⟨exported, hexportedResult⟩ := Option.isSome_iff_exists.1 ((exportedResult_isSome_iff h.result).2 hconfirmed)
  have hshown := h.result
  rw [hexportedResult] at hshown
  obtain ⟨recorded, bodyBase64, hrecorded, -, rfl⟩ := exportedResult_eq_some hshown
  obtain rfl := Option.some.inj (hresult.symm.trans hrecorded)
  exact ⟨_, hexportedResult, hbytesHash, hbytes, hstatus⟩

/-- The bundle of a completed purchase, if it has a service part, has the acknowledgement of the pinned service. -/
def Acknowledged (options : AuthorityServiceOptions) (trust : VerifierTrust) (bundle : EvidenceBundle) : Prop :=
  ∀ service ∈ bundle.service, ∀ pinned ∈ trust.service, bundle.state = "CONFIRMED" →
    service.serviceAcknowledgement.isSome = true ∧
      options.trustedServiceKeys bundle.purchasePermit.service = some pinned

theorem ShowsRow.service_agrees_iff (h : ShowsRow platform options row auth bundleVersion bundle)
    (hkey : KeyPair platform options.authorityAddress) (htrust : trust.authority = options.authorityAddress)
    (hreached : Reached platform options auth row) :
    (∀ service ∈ bundle.service, ServiceAgrees platform bundle trust service) ↔ Acknowledged options trust bundle := by
  rw [Acknowledged, h.permit]
  constructor
  · intro hagrees service hservice pinned hpinned hstate
    obtain ⟨acknowledgement, hsome, hfor⟩ := (hagrees service hservice).acknowledgement pinned hpinned hstate
    obtain ⟨trusted, htrusted, hkept⟩ := h.acknowledgement_agrees hreached hservice hsome
    -- Both keys are the one the acknowledgement names.
    obtain rfl : trusted = pinned :=
      (verifyPinned_eq_true.1 hkept.signed).1.symm.trans (verifyPinned_eq_true.1 hfor.signed).1
    exact ⟨by rw [hsome, Option.isSome_some], htrusted⟩
  · intro hacknowledged service hservice
    refine ⟨fun authorization hauthorization ↦ h.authorization_agrees hkey htrust hreached hservice hauthorization,
      fun pinned hpinned hstate ↦ ?_⟩
    obtain ⟨hsome, htrusted⟩ := hacknowledged service hservice pinned hpinned hstate
    obtain ⟨acknowledgement, hacknowledgement⟩ := Option.isSome_iff_exists.1 hsome
    obtain ⟨found, hfound, hkept⟩ := h.acknowledgement_agrees hreached hservice hacknowledgement
    obtain rfl := Option.some.inj (hfound.symm.trans htrusted)
    exact ⟨acknowledgement, hacknowledgement, hkept⟩

/-! ## The whole bundle -/

/-- The bundle of a documented row fails no check of the verifier but the policy and the acknowledgement. -/
theorem ShowsRow.proven_iff (h : ShowsRow platform options row auth bundleVersion bundle)
    (hconfigured : Configured platform options) (hpins : Pins options trust)
    (hdocuments : Documents platform options digests row auth) (hadjudicated : row.Adjudicated)
    (hreceipt : ∀ receipt, row.receipt = some receipt →
      row.isDecided = true ∧ signReceipt platform options row = some receipt) :
    Proven platform bundle trust ↔ PolicyAgrees bundle ∧ Acknowledged options trust bundle := by
  obtain ⟨now, hauth⟩ := hdocuments.requested.authenticated
  have hservice := @ShowsRow.service_agrees_iff platform options row auth bundleVersion bundle trust h
    hconfigured.key hpins.authority hdocuments.reached
  constructor
  · intro hproven
    exact ⟨hproven.policy, hservice.1 hproven.service⟩
  · rintro ⟨hpolicy, hacknowledged⟩
    exact {
      issuer := by rw [h.permit, hpins.issuer, hauth.issuer_eq]
      sealed := by
        rw [hpins.authority]
        exact h.sealed_by hconfigured.key
      digests := h.digests.symm
      named := h.named hauth.grantId_eq
      shaped := h.shaped hdocuments fun receipt hstored ↦ (hreceipt receipt hstored).1
      signed := h.signed hauth
      receipt := fun receipt hmem ↦ by
        obtain ⟨hdecided, hsigned⟩ := hreceipt receipt (h.receipt.symm.trans (Option.mem_def.1 hmem))
        exact h.receipt_agrees hconfigured.key hpins.authority hdocuments hdecided hsigned
      policy := hpolicy
      payment := fun hallowed requirement hmem ↦ by
        have hstate : row.state ≠ .DENIED := by
          intro hdenied
          rw [EvidenceBundle.allowed, (h.state_iff .DENIED).2 hdenied] at hallowed
          simp [InvocationState.name, ALLOW_STATES] at hallowed
        exact h.paysFor hconfigured hpins hdocuments hadjudicated hstate
          (h.requirement.symm.trans (Option.mem_def.1 hmem))
      result := fun result hmem ↦ h.result_agrees hdocuments.reached (Option.mem_def.1 hmem)
      service := hservice.2 hacknowledged }

end

/-- In every run of one process at a time with a provider that keeps its contract, a stored row is the record of an
authenticated request: unless it was denied, of a requirement accepted for it; with an attempt, of one that pays
exactly that requirement; and confirmed, of a settlement with its transaction and of what came back for it. -/
theorem rows_documented {platform : Platform} {options : AuthorityServiceOptions} {digests : Digests}
    {labels : List Action} {sys : System} {invocationId : String} {row : InvocationRecord}
    (hrun : Run (System.step platform fun _ ↦ options) (Contracted platform options digests) .initial labels sys)
    (hfind : sys.db.invocations.find? invocationId = some row) : ∃ auth,
      Documents platform options digests row auth :=
  (WellDocumented.of_run hrun).rows invocationId row hfind

/-- Whatever row is exported after a run of one process at a time, with a provider that keeps its contract: the
verifier that pins the authority's keys finds the bundle it reads valid exactly if the request was signed in time
and, where it pins a service, a completed purchase has that service's acknowledgement. -/
theorem exported_valid_iff {platform : Platform} {options : AuthorityServiceOptions} {digests : Digests}
    {trust : VerifierTrust} (hconfigured : Configured platform options) (hpins : Pins options trust)
    {labels : List Action} {sys : System} {invocationId : String} {row : InvocationRecord} {issuedAt : ℤ}
    {bundleVersion : EvidenceBundleVersion} {bundle : EvidenceBundle} {input : BundleInput}
    (hrun : Run (System.step platform fun _ ↦ options) (Contracted platform options digests) .initial labels sys)
    (hfind : sys.db.invocations.find? invocationId = some row)
    (hexport : exportEvidence platform options sys.db invocationId issuedAt bundleVersion = .ok bundle)
    (hread : parseEvidenceBundle platform input = .ok bundle) :
    (verifyEvidenceBundle platform input trust .offline).overall = .VALID ↔
      SignedInTime bundle.purchasePermit bundle.request row.decidedAt ∧ Acknowledged options trust bundle := by
  obtain ⟨invocation, hinvocation, hbuilt⟩ := exportEvidence_eq_ok.1 hexport
  obtain rfl := Option.some.inj (hfind.symm.trans hinvocation)
  obtain ⟨auth, hdocuments⟩ := (WellDocumented.of_run hrun).rows invocationId row hfind
  obtain ⟨decided, terms, committed, hadjudicated⟩ := (Ruled.of_run hrun).rows invocationId row hfind
  have hexported := buildEvidenceBundle_ok hbuilt
  have hshows := hexported.showsRow hdocuments.requested
  have hreceipt (receipt : SignedAuthorizationReceipt) (hstored : row.receipt = some receipt) :
      row.isDecided = true ∧ signReceipt platform options row = some receipt := by
    obtain ⟨hdecided, process, hsigned⟩ := (Receipted.of_run hrun).rows invocationId row receipt hfind hstored
    exact ⟨hdecided, hsigned⟩
  have hpolicy : PolicyAgrees bundle ↔ SignedInTime bundle.purchasePermit bundle.request row.decidedAt :=
    AdjudicatedBy.policyAgrees_iff hadjudicated hexported
  rw [verifyEvidenceBundle_overall hread, overallOf_offline,
    hshows.proven_iff hconfigured hpins hdocuments ⟨decided, terms, committed, hadjudicated⟩ hreceipt, hpolicy]

namespace Sample

open Evidence.Sample (issuer agent authority operation unsignedPermit permit permitDigest operationDigest paidDigest
  url request agentSignature requestArtifactDigest profile)

theorem contracted_start {sys : System} {process : ℕ} (halone : ∀ process, ¬ sys.Alive process) :
    Contracted platform options digests sys (.start process) :=
  ⟨⟨trivial, trivial⟩, halone, trivial⟩

theorem contracted_call {sys : System} {event : CallEvent}
    (hprepares : Prepares platform (fun _ ↦ options) sys (.call id event))
    (hkeeps : ∀ stage, KeepsContract platform stage event) :
    Contracted platform options digests sys (.call id event) :=
  ⟨⟨trivial, hprepares⟩, trivial, fun _ stage _ ↦ hkeeps stage⟩

theorem attempt_signed :
    verifyTransactionPayerSignature platform Payments.Sample.transactionBase64 Payments.Sample.wallet = true := by
  have hdecoded : platform.decodeTransaction Payments.Sample.transactionBase64 = .ok Payments.Sample.transaction := by
    simp only [platform, recording, base, Recording.platform, Payments.Sample.payments, if_true]
  have hsigned : WireTransaction.signature? Payments.Sample.transaction Payments.Sample.wallet =
      some Payments.Sample.payerSignature := by
    rfl
  have hverified : platform.verifySignature Payments.Sample.wallet Payments.Sample.payerSignature
      Payments.Sample.transaction.messageBytes = true := by
    simp [platform, recording, base, Recording.platform]
  have hkey : platform.isAddress Payments.Sample.wallet = true ∧
      platform.importsKey Payments.Sample.wallet = true := by
    simp [platform, recording, Recording.platform]
  simp only [verifyTransactionPayerSignature, hdecoded, hsigned, hkey, hverified, Bool.and_self]

theorem result_agrees : ResultAgrees platform evidenceResult where
  canonical := by
    simp only [evidenceResult, platform, recording, base, Recording.platform, if_true]
  sha256 := by
    simp only [evidenceResult, platform, recording, base, Recording.platform, if_true]
  bytes := by
    simp only [evidenceResult, platform, recording, base, Recording.platform, if_true]
    rfl

theorem result_genuine : Genuine platform result := by
  intro bodyBase64 hbody
  obtain rfl : resultBase64 = bodyBase64 := Option.some.inj hbody
  exact result_agrees

theorem contracted_submit {sys : System} : Contracted platform options digests
    (sys.withCall id auth reservedDb (.building (payment reserved) serviceAuthorization))
    (.call id (.submit attempt (some 3200))) where
  honoured := by
    refine ⟨trivial, ?_⟩
    intro other payment authorization hcall
    rw [System.withCall_calls] at hcall
    cases hcall
    exact ⟨answers, prepares⟩
  alone := trivial
  provider := by
    intro found stage hcall encoded hencoded
    obtain rfl : Payments.Sample.transactionBase64 = encoded := Option.some.inj hencoded
    exact attempt_signed

theorem contracted_executed {sys : System} : Contracted platform options digests
    (sys.withCall id auth attemptedDb (.transmitted (payment reserved) serviceAuthorization attempt))
    (.call id (.executed settlement result)) where
  honoured := ⟨trivial, trivial⟩
  alone := trivial
  provider := by
    intro found stage hcall
    rw [System.withCall_calls] at hcall
    cases hcall
    exact ⟨result_genuine, fun _ _ ↦ by simp⟩

/-- The paid purchase is one of the runs of a process that is alone with a provider that keeps its contract. -/
theorem receipted_contracted : Run (System.step platform fun _ ↦ options) (Contracted platform options digests) .initial
    (confirming ++ [.call id (.store (some 4200))])
    ((pending.sent credential).withCall id auth receiptedDb
      (.done (.returned (resultOf options confirmed receipt false)))) := by
  have hstarted : Run (System.step platform fun _ ↦ options) (Contracted platform options digests) .initial
      [.start 0, .recover 0 (some 1000)] started :=
    (Run.start.next (contracted_start fun process halive ↦ by
      rcases halive with heq | heq <;> cases heq) starting_step).next ⟨⟨trivial, trivial⟩, trivial, trivial⟩
      serving_step
  have harrived : Run (System.step platform fun _ ↦ options) (Contracted platform options digests) .initial
      [.start 0, .recover 0 (some 1000), .arrive id input 2500 (some 2500)]
      (pending.withCall id auth .empty (.known none)) :=
    hstarted.next ⟨⟨arrival_honest, trivial⟩, trivial, trivial⟩ arrives
  have hfetching := run_call harrived (by exact contracted_call trivial fun _ ↦ trivial) resuming_step
  have hreserving := run_call hfetching (by exact contracted_call trivial fun _ ↦ trivial) fetching_step
  have hbudgeting := run_call hreserving (by exact contracted_call trivial fun _ ↦ trivial) reserving_step
  have hauthorizing := run_call hbudgeting (by exact contracted_call trivial fun _ ↦ trivial) budgeting_step
  have hbuilding := run_call hauthorizing (by exact contracted_call trivial fun _ ↦ trivial) authorizing_step
  have htransmitted : Run (System.step platform fun _ ↦ options) (Contracted platform options digests) .initial
      (paying ++ [.transmit id]) _ :=
    (run_call hbuilding contracted_submit building_step).next ⟨⟨trivial, trivial⟩, trivial, trivial⟩
      (System.withCall_transmit _ _ _)
  have hexecuted := run_call htransmitted contracted_executed transmitted_step
  have hconfirmed := run_call hexecuted (by exact contracted_call trivial fun _ ↦ trivial) confirming_step
  exact run_call hconfirmed (by exact contracted_call trivial fun _ ↦ trivial) signing_step

theorem receipted_found : ((pending.sent credential).withCall id auth receiptedDb
    (.done (.returned (resultOf options confirmed receipt false)))).db.invocations.find? "invocation" =
      some receipted := by
  rfl

/-- The receipted row documents the purchase that was paid. -/
theorem rows_documented_acknowledged : ∃ auth, Documents platform options digests receipted auth :=
  rows_documented receipted_contracted receipted_found

/-! ### The evidence -/

def bundle : EvidenceBundle where
  settlementProfile := "devnet"
  grantId := "grant"
  invocationId := "invocation"
  purchasePermit := permit
  request := request
  agentSignature := agentSignature
  authorityDecision := some receipt
  outboundRequest := some paidRequest
  paymentRequirement := some requirement
  paymentAttempt := some attempt
  settlement := some settlement
  result := some evidenceResult
  service := some ⟨some serviceAuthorization, some acknowledgement⟩
  manifest := { manifest with signature := manifestSignature }

theorem digests_eq : computeEvidenceDigests platform bundle.toEvidenceArtifacts = manifest.digests := by
  have hrequest : artifactDigest platform "authorization-request"
      (authorizationRequestJson request agentSignature) = requestArtifactDigest :=
    hash_recorded (.artifact (.authorizationRequest request agentSignature), requestArtifactDigest)
      (by simp [hashed])
  have hreceipt : artifactDigest platform "authority-decision" receipt.toJson = receiptDigest :=
    hash_recorded (.artifact (.authorityDecision receipt), receiptDigest) (by simp [hashed])
  have houtbound : artifactDigest platform "outbound-request" (outboundRequestJson paidRequest) = outboundDigest :=
    hash_recorded (.artifact (.outboundRequest paidRequest), outboundDigest) (by simp [hashed])
  have hrequirement : artifactDigest platform "payment-requirement" (requirementJson requirement) =
      requirementDigest :=
    hash_recorded (.artifact (.paymentRequirement requirement), requirementDigest) (by simp [hashed])
  have hattempt : artifactDigest platform "payment-attempt" (attemptJson attempt) = attemptDigest :=
    hash_recorded (.artifact (.paymentAttempt attempt), attemptDigest) (by simp [hashed])
  have hsettlement : artifactDigest platform "settlement" (settlementJson settlement) = settlementDigest :=
    hash_recorded (.artifact (.settlement settlement), settlementDigest) (by simp [hashed])
  have hresult : artifactDigest platform "result" evidenceResult.toJson = resultArtifactDigest :=
    hash_recorded (.artifact (.result evidenceResult), resultArtifactDigest) (by simp [hashed])
  have hacknowledgement : artifactDigest platform "service-acknowledgement" acknowledgement.toJson =
      acknowledgementDigest :=
    hash_recorded (.artifact (.serviceAcknowledgement acknowledgement), acknowledgementDigest) (by simp [hashed])
  have hauthorization : artifactDigest platform "service-authorization" serviceAuthorization.toJson =
      authorizationDigest := authorization_hashed
  have hrequested : request.operation = Evidence.Sample.operation := rfl
  simp only [computeEvidenceDigests, bundle, hrequested, permit_hashed, operation_hashed, hrequest, Option.map_some,
    hreceipt, houtbound, hrequirement, hattempt, hsettlement, hresult, hauthorization, hacknowledgement]
  rfl

theorem exported : exportEvidence platform options receiptedDb "invocation" 5000 .v2 = .ok bundle := by
  rw [exportEvidence_eq_ok]
  refine ⟨receipted, rfl, ?_⟩
  have houtbound : exportedRequest platform (exportInput options receipted 5000 .v2) = some paidRequest := outbound
  have hacknowledgement : exportedAcknowledgement platform receipted = .ok (some acknowledgement) := by
    have hdecoded : decodeServiceAcknowledgementHeader platform acknowledgementHeader = .ok acknowledgement :=
      acknowledgement_decoded
    have hheader : receipted.result.bind PaidResult.serviceAcknowledgementHeader = some acknowledgementHeader := rfl
    simp only [exportedAcknowledgement, show receipted.state = .CONFIRMED from rfl, if_true, hheader, hdecoded]
    rfl
  have hexchange : exportedExchange platform (exportInput options receipted 5000 .v2) =
      .ok (some ⟨some serviceAuthorization, some acknowledgement⟩) := by
    have hstored : exportedAcknowledgement platform (exportInput options receipted 5000 .v2).invocation =
        .ok (some acknowledgement) := hacknowledgement
    simp only [exportedExchange, hstored]
    rfl
  have hartifacts : exportedArtifacts platform (exportInput options receipted 5000 .v2) ⟨permit, agentSignature⟩
      (some evidenceResult) (some ⟨some serviceAuthorization, some acknowledgement⟩) =
        bundle.toEvidenceArtifacts := by
    rw [exportedArtifacts, houtbound]
    rfl
  have hmanifest : exportedManifest platform (exportInput options receipted 5000 .v2) bundle.toEvidenceArtifacts =
      manifest := by
    rw [exportedManifest, digests_eq]
    rfl
  have hsigned : platform.signBytes authority ((Message.manifest manifest).text platform) = manifestSignature :=
    Recording.sign_of_mem (recorded_signed ▸ by simp [signed])
  have hsealed : signEvidenceManifest platform manifest authority =
      some { manifest with signature := manifestSignature } :=
    signEvidenceManifest_eq_some.2 ⟨rfl, congrArg (SignedEvidenceManifest.mk manifest) hsigned.symm⟩
  unfold buildEvidenceBundle
  simp only [guardThat_bind_eq_ok, required_bind_eq_ok]
  refine ⟨by decide, ⟨permit, agentSignature⟩, rfl, by decide, bind_eq_ok.2 ⟨some evidenceResult, rfl, bind_eq_ok.2
    ⟨_, hexchange, required_bind_eq_ok.2 ⟨{ manifest with signature := manifestSignature }, ?_, ?_⟩⟩⟩⟩
  · rw [hartifacts, hmanifest]
    exact hsealed
  · rw [hartifacts]
    rfl

theorem receipt_fits : SignedAuthorizationReceipt.Fits receipt where
  domain := by decide
  invocationId := by decide
  grantId := by decide
  authority := base58_fits (Text.inClass_ofList rfl)
  agent := Evidence.Sample.permit_fits.authorizedAgent
  permitDigest := Evidence.Sample.request_fits.permitDigest
  requestFingerprint := hashed_field (.fingerprint (fingerprintInput permit request operationDigest), fingerprint)
    (by simp [hashed])
  service := by decide
  capability := by decide
  network := by decide
  mint := Evidence.Sample.permit_fits.mint.bounded
  recipient := Evidence.Sample.permit_fits.recipient.bounded
  amountAtomic := ⟨by decide, by decide⟩
  decision := .inl rfl
  reasonCodes := ⟨by decide, by simp [receipt, unsignedReceipt]⟩
  paymentTransactionId := by
    intro id hid
    cases hid
    exact base58_fits (Text.inClass_ofList rfl)
  decidedAt := by decide
  operation := Evidence.Sample.operation_fits
  operationDigest := hashed_field (.operation Evidence.Sample.operation, operationDigest) (by simp [hashed])
  signature := signed_base58 ((authority, .receiptV2 unsignedReceipt), receipt.signature) (by simp [signed])

theorem paidRequest_fits : PaidRequest.Fits paidRequest :=
  ⟨by decide, by decide, hashed_field (.paidRequest url body, paidDigest) (by simp [hashed])⟩

theorem requirement_fits : PaymentRequirement.Fits requirement where
  protocol := rfl
  x402Version := by decide
  acceptsIndex := by decide
  scheme := by decide
  network := by decide
  asset := Evidence.Sample.permit_fits.mint.bounded
  payTo := Evidence.Sample.permit_fits.recipient.bounded
  amountAtomic := ⟨by decide, by decide⟩
  feePayer := by
    intro key hkey
    cases hkey
    exact Field.bounded (base58_fits (Text.inClass_ofList rfl))
  maxTimeoutSeconds := ⟨none, rfl, by simp⟩
  resourceUrl := by
    intro found hfound
    cases hfound
    decide

-- The transaction is read piece by piece, as it is written.
theorem transaction_field : Field MAX_TRANSACTION_BASE64 BASE64 Payments.Sample.transactionBase64 := by
  refine base64_fits ?_
  show Text.inClass isBase64Char 1 4096 Payments.Sample.transactionBase64 = true
  unfold Payments.Sample.transactionBase64
  iterate 5 refine Text.inClass_append _ 110 ?_ (Text.inClass_ofList rfl)
  exact Text.inClass_ofList rfl

theorem attempt_fits : PaymentAttempt.Fits attempt where
  protocol := rfl
  scheme := Evidence.Sample.overpaid_fits.scheme
  settlementProfile := Evidence.Sample.overpaid_fits.settlementProfile
  network := Evidence.Sample.overpaid_fits.network
  payer := Evidence.Sample.overpaid_fits.payer
  payerSignature := Evidence.Sample.overpaid_fits.payerSignature
  feePayer := Evidence.Sample.overpaid_fits.feePayer
  asset := Evidence.Sample.overpaid_fits.asset
  payTo := Evidence.Sample.overpaid_fits.payTo
  amountAtomic := ⟨by decide, by decide⟩
  blockhash := Evidence.Sample.overpaid_fits.blockhash
  lastValidBlockHeight := Evidence.Sample.overpaid_fits.lastValidBlockHeight
  resourceUrl := Evidence.Sample.overpaid_fits.resourceUrl
  requestSha256 := Evidence.Sample.overpaid_fits.requestSha256
  transactionBase64 := by
    intro encoded hencoded
    obtain rfl := Option.some.inj hencoded
    exact transaction_field
  preparedAt := by decide

theorem settlement_fits : ConfirmedSettlement.Fits settlement where
  transactionId := base58_fits (Text.inClass_ofList rfl)
  slot := by
    intro slot hslot
    cases hslot
    exact ⟨by decide, by decide⟩
  facilitatorReportedTransaction := by
    intro id hid
    cases hid
    exact Field.bounded (base58_fits (Text.inClass_ofList rfl))
  confirmedAt := by decide

theorem serviceAuthorization_fits : SignedServiceAuthorizationV1.Fits serviceAuthorization where
  authority := receipt_fits.authority
  invocationId := by decide
  grantId := by decide
  url := by decide
  requestSha256 := paidRequest_fits.sha256
  operationDigest := receipt_fits.operationDigest
  network := by decide
  asset := Evidence.Sample.permit_fits.mint.bounded
  payTo := Evidence.Sample.permit_fits.recipient.bounded
  amountAtomic := ⟨by decide, by decide⟩
  issuedAt := by decide
  expiresAt := by decide
  signature := signed_base58 ((authority, .serviceAuthorization unsignedAuthorization), serviceAuthorization.signature)
    (by simp [signed])

theorem evidenceResult_fits : EvidenceResult.Fits evidenceResult where
  httpStatus := by decide
  bodyLength := by decide
  bodyBase64 := by decide
  bytes := by decide
  sha256 := digest_fits (Text.inClass_ofList rfl)

theorem hashed_some (entry : Message × String) (h : entry ∈ hashed) : ∀ text ∈ some entry.2, Field 64 HEX64 text :=
  fun _ htext ↦ Option.some.inj htext ▸ hashed_field entry h

theorem manifest_fits : SignedEvidenceManifest.Fits { manifest with signature := manifestSignature } where
  authority := receipt_fits.authority
  issuedAt := by decide
  settlementProfile := by decide
  grantId := by decide
  invocationId := by decide
  purchaseState := by decide
  decision := .inl rfl
  reasonCodes := ⟨by decide, by simp [manifest]⟩
  digests := {
    purchasePermit := receipt_fits.permitDigest
    authorizationRequest := hashed_field
      (.artifact (.authorizationRequest request agentSignature), requestArtifactDigest) (by simp [hashed])
    operation := receipt_fits.operationDigest
    authorityDecision := hashed_some (.artifact (.authorityDecision receipt), receiptDigest) (by simp [hashed])
    outboundRequest := hashed_some (.artifact (.outboundRequest paidRequest), outboundDigest) (by simp [hashed])
    paymentRequirement :=
      hashed_some (.artifact (.paymentRequirement requirement), requirementDigest) (by simp [hashed])
    paymentAttempt := hashed_some (.artifact (.paymentAttempt attempt), attemptDigest) (by simp [hashed])
    settlement := hashed_some (.artifact (.settlement settlement), settlementDigest) (by simp [hashed])
    result := hashed_some (.artifact (.result evidenceResult), resultArtifactDigest) (by simp [hashed])
    service := by
      intro service hservice
      cases hservice
      constructor
      · exact hashed_some (.artifact (.serviceAuthorization serviceAuthorization), authorizationDigest)
          (by simp [hashed])
      · exact hashed_some (.artifact (.serviceAcknowledgement acknowledgement), acknowledgementDigest)
          (by simp [hashed]) }
  signature := signed_base58 ((authority, .manifest manifest), manifestSignature) (by simp [signed])

theorem bundle_fits : bundle.Fits where
  settlementProfile := by decide
  grantId := by decide
  invocationId := by decide
  purchasePermit := Evidence.Sample.permit_fits
  request := Evidence.Sample.request_fits
  agentSignature := signed_base58 ((agent, .requestV2 request), agentSignature.signature) (by simp [signed])
  authorityDecision := fun _ h ↦ Option.some.inj h ▸ receipt_fits
  outboundRequest := fun _ h ↦ Option.some.inj h ▸ paidRequest_fits
  paymentRequirement := fun _ h ↦ Option.some.inj h ▸ requirement_fits
  paymentAttempt := fun _ h ↦ Option.some.inj h ▸ attempt_fits
  settlement := fun _ h ↦ Option.some.inj h ▸ settlement_fits
  result := fun _ h ↦ Option.some.inj h ▸ evidenceResult_fits
  service := by
    intro found hfound
    obtain rfl := Option.some.inj hfound
    exact ⟨fun _ h ↦ Option.some.inj h ▸ serviceAuthorization_fits, fun _ h ↦ Option.some.inj h ▸ acknowledgement_fits⟩
  manifest := manifest_fits
  version := rfl

def trust : VerifierTrust where
  issuer := issuer
  authority := authority
  settlementProfiles := options.settlementProfiles
  service := some service

theorem configured : Configured platform options where
  key := Recording.keyPair (by simp [recording, options])
  profile := by
    intro name found hfound
    simp only [options] at hfound
    split at hfound
    · rename_i hname
      obtain rfl := Option.some.inj hfound
      exact ⟨hname, rfl⟩
    · cases hfound

/-- The evidence of the paid purchase is valid: the request was signed in time, and the pinned service acknowledged
the payment. -/
theorem exported_valid_iff_acknowledged :
    (verifyEvidenceBundle platform (.value bundle.toJson) trust .offline).overall = .VALID := by
  have hread : parseEvidenceBundle platform (.value bundle.toJson) = .ok bundle := parseEvidenceValue_toJson bundle_fits
  refine (exported_valid_iff configured ⟨rfl, rfl, rfl⟩ receipted_contracted receipted_found exported hread).2
    ⟨⟨by decide, .inl (by decide)⟩, ?_⟩
  intro exchange hexchange pinned hpinned _
  obtain rfl := Option.some.inj hexchange
  obtain rfl := Option.some.inj hpinned
  exact ⟨rfl, rfl⟩

end Sample

end VirtualHaibin.Authority
