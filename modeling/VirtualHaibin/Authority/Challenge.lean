import VirtualHaibin.Payments.X402
import VirtualHaibin.Policy.PurchasePermit

/-!
# Challenge selection

The trusted registry of paid services, the outbound request derived from a verified operation, and
the validation of an untrusted payment challenge against the profile, the resource and the request.
-/

namespace VirtualHaibin.Authority

open Foundation Mandate Payments Policy

/-- Keyed by `paidServiceKey`.  Every URL was parsed when the registry was created. -/
abbrev PaidServiceRegistry := String → Option PaidResource

def paidServiceKey (serviceId capability : String) : String := serviceId ++ "\x00" ++ capability

/-- The exact outbound request of an operation, if the resource serves its method and path. -/
def buildPaidRequest (platform : Platform) (resource : PaidResource) (operation : ExactOperationV1) :
    Option PaidRequest :=
  if "POST" ≠ operation.method ∨ platform.pathname resource.url ≠ some operation.resource then none
  else some (createPaidRequest platform resource.url (operationRequestBody platform operation))

structure ChallengeSelection where
  requirement : Option PaymentRequirement
  reasonCodes : List ReasonCode

def rejectionCode : ChallengeRejectionCode → ReasonCode
  | .CHALLENGE_NOT_PAYMENT_REQUIRED => .CHALLENGE_NOT_PAYMENT_REQUIRED
  | .CHALLENGE_REDIRECT => .CHALLENGE_REDIRECT
  | .CHALLENGE_MALFORMED => .CHALLENGE_MALFORMED
  | .UNSUPPORTED_PAYMENT_PROTOCOL => .UNSUPPORTED_PAYMENT_PROTOCOL

/-- A code that is reported when its condition holds. -/
def codeIf (violated : Bool) (code : ReasonCode) : List ReasonCode := if violated then [code] else []

@[simp] theorem codeIf_eq_nil {violated : Bool} {code : ReasonCode} :
    codeIf violated code = [] ↔ violated = false := by
  cases violated <;> simp [codeIf]

/-- The checks of the one selected requirement. -/
def requirementCodes (challenge : PaymentChallenge) (profile : SettlementProfile) (paidRequest : PaidRequest)
    (request : AuthorizationRequestV2) (payerAddress : String) (requirement : PaymentRequirement) :
    List ReasonCode :=
  codeIf (requirement.protocol ≠ profile.protocol || requirement.x402Version ≠ profile.x402Version)
    .UNSUPPORTED_PAYMENT_PROTOCOL ++
  codeIf (!profile.allowedAssets.contains requirement.asset) .ASSET_NOT_ALLOWED ++
  codeIf (requirement.resourceUrl ≠ some paidRequest.url || challenge.requestSha256 ≠ paidRequest.sha256)
    .CHALLENGE_RESOURCE_MISMATCH ++
  -- The facilitator must pay fees; the payment wallet must never be the fee payer.
  codeIf (requirement.feePayer.isNone || requirement.feePayer = some payerAddress)
    .CHALLENGE_FEE_PAYER_INVALID ++
  codeIf (requirement.asset ≠ request.mint || requirement.payTo ≠ request.recipient ||
    requirement.amountAtomic ≠ request.amountAtomic) .CHALLENGE_REQUEST_MISMATCH

def selectAndValidateChallenge (result : ChallengeResult) (profile : SettlementProfile)
    (paidRequest : PaidRequest) (request : AuthorizationRequestV2) (payerAddress : String) :
    ChallengeSelection :=
  match result with
  | .rejected reasonCode _ => ⟨none, [rejectionCode reasonCode]⟩
  | .challenge challenge =>
    let sameScheme := challenge.requirements.filter fun candidate ↦ candidate.scheme = profile.scheme
    let candidates := sameScheme.filter fun candidate ↦
      profile.acceptedChallengeNetworks.contains candidate.network
    match candidates.head? with
    | none =>
      ⟨none, [if sameScheme.isEmpty then .UNSUPPORTED_PAYMENT_SCHEME else .CHALLENGE_NETWORK_MISMATCH]⟩
    | some requirement =>
      ⟨some requirement, requirementCodes challenge profile paidRequest request payerAddress requirement⟩

theorem buildPaidRequest_eq_some {platform : Platform} {resource : PaidResource}
    {operation : ExactOperationV1} {paidRequest : PaidRequest} :
    buildPaidRequest platform resource operation = some paidRequest ↔
      operation.method = "POST" ∧ platform.pathname resource.url = some operation.resource ∧
        paidRequest = createPaidRequest platform resource.url (operationRequestBody platform operation) := by
  unfold buildPaidRequest
  split
  · rename_i hbad
    constructor
    · intro h
      cases h
    · rintro ⟨hmethod, hpath, -⟩
      rcases hbad with hbad | hbad
      · exact absurd hmethod.symm hbad
      · exact absurd hpath hbad
  · rename_i hgood
    rw [not_or, not_ne_iff, not_ne_iff] at hgood
    rw [Option.some.injEq]
    constructor
    · intro h
      exact ⟨hgood.1.symm, hgood.2, h.symm⟩
    · intro h
      exact h.2.2.symm

/-- A requirement the authority may pay, of a challenge for exactly its request. -/
structure RequirementAccepted (profile : SettlementProfile) (paidRequest : PaidRequest)
    (request : AuthorizationRequestV2) (payerAddress : String) (challenge : PaymentChallenge)
    (requirement : PaymentRequirement) : Prop where
  mem : requirement ∈ challenge.requirements
  scheme_eq : requirement.scheme = profile.scheme
  network_mem : requirement.network ∈ profile.acceptedChallengeNetworks
  protocol_eq : requirement.protocol = profile.protocol
  version_eq : requirement.x402Version = profile.x402Version
  asset_mem : requirement.asset ∈ profile.allowedAssets
  url_eq : requirement.resourceUrl = some paidRequest.url
  digest_eq : challenge.requestSha256 = paidRequest.sha256
  feePayer_some : requirement.feePayer.isSome = true
  feePayer_ne : requirement.feePayer ≠ some payerAddress
  asset_eq : requirement.asset = request.mint
  payTo_eq : requirement.payTo = request.recipient
  amount_eq : requirement.amountAtomic = request.amountAtomic

/-- The selected requirement is one the profile's scheme and networks admit. -/
theorem selectAndValidateChallenge_selected {result : ChallengeResult} {profile : SettlementProfile}
    {paidRequest : PaidRequest} {request : AuthorizationRequestV2} {payerAddress : String}
    {requirement : PaymentRequirement}
    (h : (selectAndValidateChallenge result profile paidRequest request payerAddress).requirement =
      some requirement) :
    ∃ challenge, result = .challenge challenge ∧ requirement ∈ challenge.requirements ∧
      requirement.scheme = profile.scheme ∧ requirement.network ∈ profile.acceptedChallengeNetworks ∧
      (selectAndValidateChallenge result profile paidRequest request payerAddress).reasonCodes =
        requirementCodes challenge profile paidRequest request payerAddress requirement := by
  cases result with
  | rejected reasonCode message => cases h
  | challenge challenge =>
    refine ⟨challenge, rfl, ?_⟩
    simp only [selectAndValidateChallenge] at h ⊢
    split at h
    · cases h
    · rename_i selected hhead
      cases h
      have hmem := List.mem_of_mem_head? hhead
      simp only [List.mem_filter, decide_eq_true_eq, List.contains_eq_mem] at hmem
      exact ⟨hmem.1.1, hmem.1.2, hmem.2, rfl⟩

theorem selectAndValidateChallenge_accepted {result : ChallengeResult} {profile : SettlementProfile}
    {paidRequest : PaidRequest} {request : AuthorizationRequestV2} {payerAddress : String}
    {requirement : PaymentRequirement}
    (hrequirement : (selectAndValidateChallenge result profile paidRequest request payerAddress).requirement =
      some requirement)
    (hcodes : (selectAndValidateChallenge result profile paidRequest request payerAddress).reasonCodes = []) :
    ∃ challenge, result = .challenge challenge ∧
      RequirementAccepted profile paidRequest request payerAddress challenge requirement := by
  obtain ⟨challenge, hresult, hmem, hscheme, hnetwork, heq⟩ :=
    selectAndValidateChallenge_selected hrequirement
  rw [heq] at hcodes
  simp only [requirementCodes, List.append_eq_nil_iff, codeIf_eq_nil, Bool.or_eq_false_iff,
    decide_eq_false_iff_not, not_not, Bool.not_eq_false', List.contains_eq_mem, decide_eq_true_eq,
    Option.isNone_eq_false_iff] at hcodes
  obtain ⟨⟨⟨⟨⟨hprotocol, hversion⟩, hasset⟩, hurl, hdigest⟩, hsome, hne⟩, ⟨hmint, hpayTo⟩, hamount⟩ := hcodes
  exact ⟨challenge, hresult, {
    mem := hmem, scheme_eq := hscheme, network_mem := hnetwork, protocol_eq := hprotocol,
    version_eq := hversion, asset_mem := hasset, url_eq := hurl, digest_eq := hdigest,
    feePayer_some := hsome, feePayer_ne := hne, asset_eq := hmint, payTo_eq := hpayTo,
    amount_eq := hamount }⟩

/-! ## The entry that is signed -/

/-- An entry the profile may be paid through. -/
def Admits (profile : SettlementProfile) (requirement : PaymentRequirement) : Prop :=
  requirement.scheme = profile.scheme ∧ requirement.network ∈ profile.acceptedChallengeNetworks

/-- Without a reason code, the first admitted requirement is selected. -/
theorem selectAndValidateChallenge_first {result : ChallengeResult} {profile : SettlementProfile}
    {paidRequest : PaidRequest} {request : AuthorizationRequestV2} {payerAddress : String}
    (hcodes : (selectAndValidateChallenge result profile paidRequest request payerAddress).reasonCodes = []) :
    ∃ challenge requirement before after, result = .challenge challenge ∧
      (selectAndValidateChallenge result profile paidRequest request payerAddress).requirement =
        some requirement ∧
      challenge.requirements = before ++ requirement :: after ∧ Admits profile requirement ∧
      ∀ earlier ∈ before, ¬ Admits profile earlier := by
  cases result with
  | rejected reasonCode message => cases hcodes
  | challenge challenge =>
    simp only [selectAndValidateChallenge, List.filter_filter, List.head?_filter] at hcodes ⊢
    split at hcodes
    · cases hcodes
    · rename_i requirement hfind
      obtain ⟨hadmits, before, after, heq, hearlier⟩ := List.find?_eq_some_iff_append.1 hfind
      refine ⟨challenge, requirement, before, after, rfl, rfl, heq, ?_, fun earlier hmem ↦ ?_⟩
      · simpa [Admits, and_comm] using hadmits
      · rintro ⟨hscheme, hnetwork⟩
        simpa [hscheme, hnetwork] using hearlier earlier hmem

/-- A challenge is read exactly if its envelope is in order and some entry is well formed, and then
lists the well-formed entries; the first admitted one is validated, and the raw entry it was read
from is the one that is signed. -/
theorem validated_entry_signed (platform : Platform) (decoded : Json) (requestSha256 : String) :
    ((∃ challenge, normalizeChallenge platform decoded requestSha256 = .challenge challenge) ↔
      ∃ record accepts, Envelope decoded record accepts ∧ ∃ entry ∈ accepts, WellFormedEntry entry) ∧
    ∀ challenge, normalizeChallenge platform decoded requestSha256 = .challenge challenge →
      ∃ record accepts, Envelope decoded record accepts ∧
        challenge.requestSha256 = requestSha256 ∧ challenge.raw = decoded ∧
        ListsEntries (challengeResourceUrl record) accepts challenge.requirements ∧
        ∀ profile paidRequest request payerAddress,
          (selectAndValidateChallenge (.challenge challenge) profile paidRequest request
            payerAddress).reasonCodes = [] →
          ∃ requirement before after original,
            (selectAndValidateChallenge (.challenge challenge) profile paidRequest request
              payerAddress).requirement = some requirement ∧
            challenge.requirements = before ++ requirement :: after ∧ Admits profile requirement ∧
            (∀ earlier ∈ before, ¬ Admits profile earlier) ∧
            accepts[requirement.acceptsIndex]? = some (.obj original) ∧
            CopiesEntry (challengeResourceUrl record) original requirement ∧
            originalMatches challenge.raw requirement = true := by
  constructor
  · constructor
    · rintro ⟨challenge, h⟩
      obtain ⟨record, accepts, henvelope, hne, -⟩ := normalizeChallenge_iff.1 h
      exact ⟨record, accepts, henvelope, readEntries_ne_nil.1 hne⟩
    · rintro ⟨record, accepts, henvelope, hentry⟩
      exact ⟨_, normalizeChallenge_iff.2 ⟨record, accepts, henvelope, readEntries_ne_nil.2 hentry, rfl⟩⟩
  · intro challenge h
    obtain ⟨record, accepts, henvelope, -, rfl⟩ := normalizeChallenge_iff.1 h
    have hlists : ListsEntries (challengeResourceUrl record) accepts (readEntries record accepts) :=
      listsEntries _ accepts
    refine ⟨record, accepts, henvelope, rfl, rfl, hlists, ?_⟩
    intro profile paidRequest request payerAddress hcodes
    obtain ⟨challenge, requirement, before, after, heq, hselected, hsplit, hadmits, hearlier⟩ :=
      selectAndValidateChallenge_first hcodes
    obtain rfl := ChallengeResult.challenge.inj heq
    have hmem : requirement ∈ readEntries record accepts := by
      rw [show readEntries record accepts = before ++ requirement :: after from hsplit]
      simp
    obtain ⟨original, horiginal, hcopies⟩ := hlists.copied requirement hmem
    refine ⟨requirement, before, after, original, hselected, hsplit, hadmits, hearlier, horiginal,
      hcopies, ?_⟩
    rw [henvelope.decoded_eq]
    exact originalMatches_of_copied henvelope.accepts_eq horiginal hcopies

end VirtualHaibin.Authority
