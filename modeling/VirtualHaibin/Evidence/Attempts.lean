import VirtualHaibin.Evidence.Tamper

/-!
# The payment attempt of a valid bundle

The payment checks of the verifier are made against the payment requirement of the bundle.  With a
requirement they tie the attempt to the signed request, to the permit, to the derived outbound
request and to the environment of the profile.  Without one nothing about the attempt is checked:
the authority can put any attempt there and sign the bundle anew.
-/

namespace VirtualHaibin.Evidence

open Foundation Foundation.Checked Foundation.Schema Mandate Payments Policy

/-- The attempt is what the agent and the human signed, for the request of the operation, in the
environment of the pinned profile, and its transaction bytes are that payment. -/
structure AttemptChecked (platform : Platform) (bundle : EvidenceBundle) (trust : VerifierTrust)
    (attempt : PaymentAttempt) : Prop where
  permitSigned : ∃ permit, verifyPurchasePermitV2 platform bundle.purchasePermit.toJson = .ok permit
  requestSigned : ∃ request, validateAuthorizationRequestV2 bundle.request.toJson = .ok request ∧
    verifyAuthorizationRequestSignature platform request bundle.agentSignature.toJson
      bundle.purchasePermit.authorizedAgent = true
  asset : attempt.asset = bundle.request.mint ∧ attempt.asset = bundle.purchasePermit.mint
  payTo : attempt.payTo = bundle.request.recipient ∧ attempt.payTo = bundle.purchasePermit.recipient
  amountAtomic : attempt.amountAtomic = bundle.request.amountAtomic
  method : bundle.request.operation.method = "POST"
  path : platform.pathname attempt.resourceUrl = some bundle.request.operation.resource
  requestSha256 : attempt.requestSha256 = computePaidRequestDigest platform attempt.resourceUrl
    (operationRequestBody platform bundle.request.operation)
  environment : ∃ profile, trust.settlementProfiles bundle.purchasePermit.network = some profile ∧
    profile.requiredBlockhashPrefix.toList <+: attempt.blockhash.toList
  transaction : ∀ encoded ∈ attempt.transactionBase64,
    (∃ transaction, PaysExactly platform attempt.expected encoded attempt.payerSignature transaction) ∧
      verifyTransactionPayerSignature platform encoded attempt.payer = true

section

variable {platform : Platform} {bundle : EvidenceBundle} {trust : VerifierTrust} {options : VerifyOptions}
  {attempt : PaymentAttempt}

/-! ## With a requirement -/

theorem transactionProblems_eq_nil {encoded : String}
    (h : transactionProblems platform attempt encoded = []) :
    (∃ transaction, PaysExactly platform attempt.expected encoded attempt.payerSignature transaction) ∧
      verifyTransactionPayerSignature platform encoded attempt.payer = true := by
  simp only [transactionProblems, List.append_eq_nil_iff, problemIf_eq_nil, Bool.not_eq_false'] at h
  obtain ⟨hvalidated, hsigned⟩ := h
  refine ⟨?_, hsigned⟩
  cases hvalid : validateExactPaymentTransaction platform (some encoded) attempt.expected with
  | error reason => simp [hvalid] at hvalidated
  | ok valid =>
    simp only [hvalid, problemIf_eq_nil, decide_eq_false_iff_not, ne_eq, not_not] at hvalidated
    obtain ⟨found, transaction, hfound, hpays⟩ := validateExactPaymentTransaction_ok hvalid
    obtain rfl := Option.some.inj hfound
    exact ⟨transaction, hvalidated ▸ hpays⟩

theorem stateProblems_of_not_invalid
    (h : ∀ claim ∈ verifyParsed platform bundle trust options, claim.status ≠ .INVALID) :
    stateProblems bundle = [] := by
  have hclaim := h (demand "state_consistent" .INTEGRITY (stateProblems bundle)
    (some s!"{bundle.state}: identifiers and artifacts agree")) (by simp [verifyParsed, integrityClaims])
  rwa [ne_eq, demand_status, not_not] at hclaim

/-- A bundle with an attempt that is not rejected is one the authority allowed. -/
theorem allowed_of_attempt (hfits : bundle.Fits)
    (h : ∀ claim ∈ verifyParsed platform bundle trust options, claim.status ≠ .INVALID)
    (hattempt : bundle.paymentAttempt = some attempt) : bundle.allowed = true := by
  have hstate := stateProblems_of_not_invalid h
  simp only [stateProblems, List.append_eq_nil_iff, problemIf_eq_nil] at hstate
  obtain ⟨⟨-, hdenied⟩, -⟩ := hstate
  have hknown := hfits.manifest.purchaseState
  simp only [PURCHASE_STATES, List.mem_cons, List.not_mem_nil, or_false] at hknown
  simp only [hattempt, Option.isSome_some, Bool.and_true, decide_eq_false_iff_not] at hdenied
  simp only [EvidenceBundle.allowed, ALLOW_STATES, EvidenceBundle.state] at hdenied ⊢
  simp only [List.mem_cons, List.not_mem_nil, or_false, decide_eq_true_eq]
  tauto

/-- The payment checks tie the attempt to everything that was signed. -/
theorem attemptChecked_of_requirement (hfits : bundle.Fits)
    (h : ∀ claim ∈ verifyParsed platform bundle trust options, claim.status ≠ .INVALID)
    (hattempt : bundle.paymentAttempt = some attempt) {requirement : PaymentRequirement}
    (hrequirement : bundle.paymentRequirement = some requirement) :
    AttemptChecked platform bundle trust attempt := by
  have hallowed := allowed_of_attempt hfits h hattempt
  have hauthorization : ∀ claim ∈ authorizationClaims platform bundle trust, claim.status ≠ .INVALID :=
    fun claim hmem ↦ h claim (by simp [verifyParsed, hmem])
  have hpayment : ∀ claim ∈ paymentClaims platform bundle trust, claim.status ≠ .INVALID :=
    fun claim hmem ↦ h claim (by simp [verifyParsed, hmem])
  simp only [authorizationClaims, List.mem_cons, forall_eq_or_imp, ne_eq, demand_status, not_not] at hauthorization
  obtain ⟨hpermit, hrequest, -⟩ := hauthorization
  simp only [paymentClaims, hrequirement, hallowed, Option.filter_some, if_true, attemptClaims, hattempt,
    List.mem_cons, List.cons_append, List.nil_append, forall_eq_or_imp, ne_eq, demand_status,
    not_not, problemIf_eq_nil] at hpayment
  obtain ⟨hprofile, hasset, hpayTo, hamount, houtbound, hmatches, htransaction, -⟩ := hpayment
  simp only [attemptProblems, List.append_eq_nil_iff, problemIf_eq_nil, decide_eq_false_iff_not, ne_eq,
    not_not] at hmatches
  obtain ⟨⟨⟨⟨⟨⟨⟨-, -⟩, hassetEq⟩, hpayToEq⟩, hamountEq⟩, -⟩, hurl⟩, -⟩ := hmatches
  simp only [Bool.not_eq_false', Bool.and_eq_true, decide_eq_true_eq] at hasset hpayTo hamount
  obtain ⟨outbound, houtboundEq⟩ : ∃ outbound, bundle.outboundRequest = some outbound := by
    cases hnone : bundle.outboundRequest with
    | none => simp [outboundProblems, hnone] at houtbound
    | some outbound => exact ⟨outbound, rfl⟩
  simp only [outboundProblems, houtboundEq, hattempt, Option.toList_some, List.flatMap_cons, List.flatMap_nil,
    List.append_nil, List.append_eq_nil_iff, problemIf_eq_nil, decide_eq_false_iff_not, ne_eq, not_not,
    Bool.and_eq_false_imp] at houtbound
  obtain ⟨⟨⟨⟨⟨⟨hpath, hmethod⟩, hresource⟩, hbody⟩, hdigest⟩, hresourceUrl⟩, hsha256⟩ := houtbound
  have hurl : attempt.resourceUrl = outbound.url := Option.some.inj (hurl.trans hresourceUrl)
  refine ⟨?_, ?_, ⟨hassetEq.trans hasset.1, hassetEq.trans (hasset.1.trans hasset.2)⟩,
    ⟨hpayToEq.trans hpayTo.1, hpayToEq.trans (hpayTo.1.trans hpayTo.2)⟩, hamountEq.trans hamount.1, hmethod.symm,
    ?_, ?_, ?_, ?_⟩
  · cases hverified : verifyPurchasePermitV2 platform bundle.purchasePermit.toJson with
    | error failure => simp [hverified] at hpermit
    | ok permit => exact ⟨permit, rfl⟩
  · cases hvalidated : validateAuthorizationRequestV2 bundle.request.toJson with
    | error message => simp [hvalidated] at hrequest
    | ok request => exact ⟨request, rfl, by simpa [hvalidated] using hrequest⟩
  · rw [hurl]
    exact hresource (by simpa [Option.isSome_iff_ne_none] using hpath)
  · rw [hsha256, ← hdigest, hbody, hurl]
  · cases hpinned : trust.settlementProfiles bundle.purchasePermit.network with
    | none => simp [profileProblems, hpinned] at hprofile
    | some profile =>
      simp only [profileProblems, hpinned, hattempt, Option.toList_some, List.flatMap_cons, List.flatMap_nil,
        List.append_nil, List.append_eq_nil_iff, problemIf_eq_nil, Bool.not_eq_false'] at hprofile
      exact ⟨profile, rfl, List.isPrefixOf_iff_prefix.1 hprofile.2.2⟩
  · intro encoded hencoded
    rw [Option.mem_def.1 hencoded] at htransaction
    simp only [demand_status, not_not] at htransaction
    exact transactionProblems_eq_nil htransaction

/-! ## Without a requirement -/

/-- The same bundle with another attempt, its digest in the manifest and a new signature. -/
structure Reissued (a b : EvidenceBundle) : Prop where
  artifacts : b.toEvidenceArtifacts = { a.toEvidenceArtifacts with paymentAttempt := b.paymentAttempt }
  manifest : b.manifest.toUnsignedEvidenceManifest = { a.manifest.toUnsignedEvidenceManifest with
    digests := { a.manifest.digests with paymentAttempt := b.manifest.digests.paymentAttempt } }

/-- What the authority signs to put another attempt into a bundle. -/
def reissue (platform : Platform) (bundle : EvidenceBundle) (attempt : PaymentAttempt) : EvidenceBundle :=
  let unsigned : UnsignedEvidenceManifest := { bundle.manifest.toUnsignedEvidenceManifest with
    digests := { bundle.manifest.digests with
      paymentAttempt := some (artifactDigest platform "payment-attempt" (attemptJson attempt)) } }
  { bundle with
    paymentAttempt := some attempt
    manifest := { unsigned with
      signature := platform.signBytes unsigned.authority (canonicalizeManifest platform unsigned) } }

theorem reissue_reissued (bundle : EvidenceBundle) (attempt : PaymentAttempt) :
    Reissued bundle (reissue platform bundle attempt) := ⟨rfl, rfl⟩

theorem reissue_fits (hkey : KeyPair platform bundle.manifest.authority)
    (hhex : ∀ text, Text.isDigest (platform.sha256Hex text) = true) (hfits : bundle.Fits)
    (hattempt : PaymentAttempt.Fits attempt) : (reissue platform bundle attempt).Fits :=
  { hfits with
    paymentAttempt := fun other hother ↦ by
      obtain rfl : attempt = other := by simpa [reissue] using hother
      exact hattempt
    manifest := { hfits.manifest with
      digests := { hfits.manifest.digests with
        paymentAttempt := fun text htext ↦ by
          obtain rfl : artifactDigest platform "payment-attempt" (attemptJson attempt) = text := by
            simpa [reissue] using htext
          exact digest_fits (hhex _) }
      signature := hkey.encoded _ } }

theorem stateProblems_reissue (hattempt : bundle.paymentAttempt.isSome = true) :
    stateProblems (reissue platform bundle attempt) = stateProblems bundle := by
  obtain ⟨other, hother⟩ := Option.isSome_iff_exists.1 hattempt
  simp only [stateProblems, hother]
  rfl

theorem authority_of_not_invalid
    (h : ∀ claim ∈ verifyParsed platform bundle trust options, claim.status ≠ .INVALID) :
    bundle.manifest.authority = trust.authority := by
  have htrust : ∀ claim ∈ trustClaims bundle trust, claim.status ≠ .INVALID :=
    fun claim hmem ↦ h claim (by simp [verifyParsed, hmem])
  simp only [trustClaims, List.mem_cons, forall_eq_or_imp, ne_eq, demand_status, not_not,
    List.append_eq_nil_iff, problemIf_eq_nil, decide_eq_false_iff_not] at htrust
  exact htrust.2.1.1

theorem integrityClaims_reissue (hkey : KeyPair platform trust.authority)
    (h : ∀ claim ∈ verifyParsed platform bundle trust options, claim.status ≠ .INVALID)
    (hattempt : bundle.paymentAttempt.isSome = true) :
    integrityClaims platform (reissue platform bundle attempt) trust = integrityClaims platform bundle trust := by
  have hauthority := authority_of_not_invalid h
  have hsigned : verifyEvidenceManifestSignature platform bundle.manifest trust.authority = true := by
    have hclaim := h (demand "manifest_signature" .INTEGRITY _ none)
      (by rw [verifyParsed, integrityClaims]; simp only [List.mem_append, List.mem_cons]; tauto)
    simpa using hclaim
  have hresigned : verifyEvidenceManifestSignature platform (reissue platform bundle attempt).manifest
      trust.authority = true := by
    have hpinned := hkey.verifyPinned (canonicalizeManifest platform
      (reissue platform bundle attempt).manifest.toUnsignedEvidenceManifest)
    rw [← hauthority] at hpinned ⊢
    exact hpinned
  have hdigests := (Pinned.of_verified h).digests
  have hredigested : computeEvidenceDigests platform (reissue platform bundle attempt).toEvidenceArtifacts =
      (reissue platform bundle attempt).manifest.digests := by
    simp only [reissue]
    rw [← hdigests]
    rfl
  simp only [integrityClaims, hsigned, hresigned, hdigests, hredigested, digestProblems_self,
    stateProblems_reissue hattempt]
  rfl

/-- No claim of the report looks at an attempt without a requirement. -/
theorem verifyParsed_reissue (hkey : KeyPair platform trust.authority)
    (h : ∀ claim ∈ verifyParsed platform bundle trust options, claim.status ≠ .INVALID)
    (hattempt : bundle.paymentAttempt.isSome = true) (hrequirement : bundle.paymentRequirement = none) :
    verifyParsed platform (reissue platform bundle attempt) trust options =
      verifyParsed platform bundle trust options := by
  have hpayment : paymentClaims platform (reissue platform bundle attempt) trust =
      paymentClaims platform bundle trust := by
    simp only [paymentClaims, reissue, hrequirement, Option.filter_none]
    rfl
  have hservice : serviceClaims platform (reissue platform bundle attempt) trust =
      serviceClaims platform bundle trust := by
    obtain ⟨other, hother⟩ := Option.isSome_iff_exists.1 hattempt
    simp only [serviceClaims, serviceAuthorizationClaim, hother]
    rfl
  have hsettlement : settlementClaim platform (reissue platform bundle attempt) trust options =
      settlementClaim platform bundle trust options := by
    have hconfirmed : bundle.confirmed = false := by
      have hstate := stateProblems_of_not_invalid h
      by_contra hconfirmed
      rw [Bool.not_eq_false] at hconfirmed
      simp [stateProblems, hconfirmed, hrequirement, problemIf] at hstate
    simp only [settlementClaim, hconfirmed]
    rw [show (reissue platform bundle attempt).confirmed = false from hconfirmed]
    rfl
  simp only [verifyParsed, integrityClaims_reissue hkey h hattempt, hpayment, hservice, hsettlement]
  rfl

/-- Another attempt within the bounds, for an amount the agent did not sign. -/
def otherAttempt (request : AuthorizationRequestV2) (attempt : PaymentAttempt) : PaymentAttempt :=
  { attempt with amountAtomic := if request.amountAtomic = "1" then "2" else "1" }

theorem otherAttempt_amount (request : AuthorizationRequestV2) :
    (otherAttempt request attempt).amountAtomic ≠ request.amountAtomic := by
  unfold otherAttempt
  split
  · rename_i hone
    rw [hone]
    show "2" ≠ "1"
    decide
  · rename_i hother
    exact Ne.symm hother

theorem otherAttempt_fits (request : AuthorizationRequestV2) (h : PaymentAttempt.Fits attempt) :
    PaymentAttempt.Fits (otherAttempt request attempt) :=
  { h with
    amountAtomic := by
      unfold otherAttempt
      dsimp only
      split <;> exact ⟨by decide, by decide⟩ }

/-- In a valid bundle with an attempt, every attempt that the authority could sign into it is
checked exactly when the bundle carries a payment requirement. -/
theorem attempt_checked_iff_requirement (hkey : KeyPair platform trust.authority)
    (hhex : ∀ text, Text.isDigest (platform.sha256Hex text) = true) {input : BundleInput}
    (hparsed : parseEvidenceBundle platform input = .ok bundle)
    (hvalid : (verifyEvidenceBundle platform input trust options).overall = .VALID)
    (hattempt : bundle.paymentAttempt.isSome = true) :
    (∀ input' bundle' attempt', parseEvidenceBundle platform input' = .ok bundle' → Reissued bundle bundle' →
      (verifyEvidenceBundle platform input' trust options).overall = .VALID →
      bundle'.paymentAttempt = some attempt' → AttemptChecked platform bundle' trust attempt') ↔
      bundle.paymentRequirement.isSome = true := by
  have hclaims := verifyParsed_of_not_invalid hparsed (by rw [hvalid]; decide)
  have hfits := parseEvidenceBundle_accepted hparsed
  constructor
  · intro hall
    by_contra hnone
    rw [Option.not_isSome_iff_eq_none] at hnone
    obtain ⟨attempt, hsome⟩ := Option.isSome_iff_exists.1 hattempt
    have hauthority : bundle.manifest.authority = trust.authority := authority_of_not_invalid hclaims
    let other := otherAttempt bundle.request attempt
    have hparsed' : parseEvidenceBundle platform (.value (reissue platform bundle other).toJson) =
        .ok (reissue platform bundle other) :=
      parseEvidenceValue_toJson (reissue_fits (hauthority ▸ hkey) hhex hfits
        (otherAttempt_fits _ (hfits.paymentAttempt attempt hsome)))
    have hvalid' : (verifyEvidenceBundle platform (.value (reissue platform bundle other).toJson) trust
        options).overall = .VALID := by
      rw [verifyEvidenceBundle_overall hparsed] at hvalid
      rw [verifyEvidenceBundle_overall hparsed', verifyParsed_reissue hkey hclaims hattempt hnone]
      exact hvalid
    have hchecked := hall _ _ other hparsed' (reissue_reissued bundle other) hvalid' rfl
    exact otherAttempt_amount bundle.request hchecked.amountAtomic
  · intro hrequirement input' bundle' attempt' hparsed' hreissued hvalid' hattempt'
    obtain ⟨requirement, hrequirement⟩ := Option.isSome_iff_exists.1 hrequirement
    have hrequirement' : bundle'.paymentRequirement = some requirement := by
      rw [← hrequirement, hreissued.artifacts]
    have hclaims' := verifyParsed_of_not_invalid hparsed' (by rw [hvalid']; decide)
    exact attemptChecked_of_requirement (parseEvidenceBundle_accepted hparsed') hclaims' hattempt' hrequirement'

end

namespace Sample

/-- An attempt to pay five thousand where the agent signed five, in a valid bundle. -/
theorem overpaid_unchecked :
    parseEvidenceBundle platform (.value failed.toJson) = .ok failed ∧
      (verifyEvidenceBundle platform (.value failed.toJson) trust .offline).overall = .VALID ∧
      failed.paymentAttempt = some overpaid ∧ overpaid.amountAtomic ≠ failed.request.amountAtomic ∧
      ¬AttemptChecked platform failed trust overpaid := by
  have hamount : overpaid.amountAtomic ≠ failed.request.amountAtomic := by decide
  exact ⟨failed_parsed, failed_valid, rfl, hamount, fun h ↦ hamount h.amountAtomic⟩

end Sample

theorem attempt_checked_iff_requirement_failed :
    ¬∀ input' bundle' attempt', parseEvidenceBundle Sample.platform input' = .ok bundle' →
      Reissued Sample.failed bundle' →
      (verifyEvidenceBundle Sample.platform input' Sample.trust .offline).overall = .VALID →
      bundle'.paymentAttempt = some attempt' →
      AttemptChecked Sample.platform bundle' Sample.trust attempt' := by
  have hkey : KeyPair Sample.platform Sample.trust.authority :=
    Recording.keyPair (by simp [Sample.recording, Sample.trust])
  have hhex : ∀ text, Text.isDigest (Sample.platform.sha256Hex text) = true :=
    Recording.sha256Hex_isDigest Sample.recording
  have hiff := attempt_checked_iff_requirement hkey hhex Sample.failed_parsed Sample.failed_valid rfl
  exact hiff.not.2 (by simp [Sample.failed])

end VirtualHaibin.Evidence
