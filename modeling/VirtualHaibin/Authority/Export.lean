import VirtualHaibin.Authority.Process

/-!
# The evidence export

The bundle of one invocation, built from its durable row and the registry of paid services, with the
manifest the authority signs over it.  An invocation in flight is not exported, and neither is one whose
row lacks what its state calls for.
-/

namespace VirtualHaibin.Authority

open Foundation Foundation.Checked Foundation.Schema Mandate Payments Evidence

inductive EvidenceBundleVersion where
  | v1
  | v2
  deriving DecidableEq, Repr

/-- What `buildEvidenceBundle` throws. -/
inductive ExportFailure where
  | refused (reasonCode : AuthorityReasonCode) (message : String)
  | malformed (error : FormatError)
  | thrown (message : String)

structure ExportInput where
  invocation : InvocationRecord
  paidServices : PaidServiceRegistry
  authorityAddress : String
  signer : String
  issuedAt : ℤ
  bundleVersion : EvidenceBundleVersion

/-- The result bytes of a confirmed invocation. -/
def exportedResult (invocation : InvocationRecord) : Except ExportFailure (Option EvidenceResult) :=
  if invocation.state = .CONFIRMED then
    match invocation.result.bind fun result ↦ result.bodyBase64.map (result, ·), invocation.settlement with
    | some (result, bodyBase64), some _ => .ok (some {
        httpStatus := result.httpStatus, bodyBase64, bytes := result.bytes, sha256 := result.sha256 })
    | _, _ => .error (.refused .EVIDENCE_UNAVAILABLE "Invocation has no recorded result bytes or settlement.")
  else .ok none

/-- Derived again from the registry and the authenticated operation. -/
def exportedRequest (platform : Platform) (input : ExportInput) : Option PaidRequest :=
  input.invocation.paymentRequirement.bind fun _ ↦
    (input.paidServices (paidServiceKey input.invocation.request.service input.invocation.request.capability)).bind
      fun resource ↦ buildPaidRequest platform resource input.invocation.request.operation

/-- The acknowledgement of a confirmed invocation; its header was validated before it was stored. -/
def exportedAcknowledgement (platform : Platform) (invocation : InvocationRecord) :
    Except ExportFailure (Option SignedServiceAcknowledgementV1) :=
  match (if invocation.state = .CONFIRMED then
      invocation.result.bind PaidResult.serviceAcknowledgementHeader else none) with
  | none => .ok none
  | some header => ((decodeServiceAcknowledgementHeader platform header).mapError .malformed).map some

def exportedExchange (platform : Platform) (input : ExportInput) :
    Except ExportFailure (Option ServiceExchange) :=
  match input.bundleVersion with
  | .v1 => .ok none
  | .v2 => (exportedAcknowledgement platform input.invocation).map fun serviceAcknowledgement ↦ some {
      serviceAuthorization :=
        if input.invocation.paymentAttempt.isNone then none else input.invocation.serviceAuthorization
      serviceAcknowledgement }

def exportedArtifacts (platform : Platform) (input : ExportInput) (authorization : StoredAuthorizationEvidence)
    (result : Option EvidenceResult) (service : Option ServiceExchange) : EvidenceArtifacts where
  settlementProfile := authorization.permit.network
  grantId := input.invocation.grantId
  invocationId := input.invocation.invocationId
  purchasePermit := authorization.permit
  request := input.invocation.request
  agentSignature := authorization.agentSignature
  authorityDecision := input.invocation.receipt
  outboundRequest := exportedRequest platform input
  paymentRequirement := input.invocation.paymentRequirement
  paymentAttempt := input.invocation.paymentAttempt
  settlement := if input.invocation.state = .CONFIRMED then input.invocation.settlement else none
  result := result
  service := service

def exportedManifest (platform : Platform) (input : ExportInput) (artifacts : EvidenceArtifacts) :
    UnsignedEvidenceManifest where
  authority := input.authorityAddress
  issuedAt := input.issuedAt
  settlementProfile := artifacts.settlementProfile
  grantId := input.invocation.grantId
  invocationId := input.invocation.invocationId
  purchaseState := input.invocation.state.name
  decision := if input.invocation.state = .DENIED then "DENY" else "ALLOW"
  reasonCodes := input.invocation.reasonCodes
  digests := computeEvidenceDigests platform artifacts

def buildEvidenceBundle (platform : Platform) (input : ExportInput) : Except ExportFailure EvidenceBundle := do
  let invocation := input.invocation
  guardThat (invocation.state ≠ .RESERVED) (.refused .EVIDENCE_NOT_FINAL
    "Invocation is still being processed; export it once it is decided.")
  let authorization ← required invocation.authorization (.refused .EVIDENCE_UNAVAILABLE
    "Invocation was recorded before evidence capture and cannot be exported.")
  guardThat (!((invocation.state = .CONFIRMED || invocation.state = .DENIED) &&
      !(invocation.receipt.any fun receipt ↦ receipt.authority = input.authorityAddress)))
    (.refused .EVIDENCE_UNAVAILABLE
      "Invocation's decision receipt was not signed by this authority's persistent key.")
  let result ← exportedResult invocation
  let service ← exportedExchange platform input
  let artifacts := exportedArtifacts platform input authorization result service
  let manifest ← required (signEvidenceManifest platform (exportedManifest platform input artifacts) input.signer)
    (.thrown "Manifest signer does not match the manifest's authority field.")
  return { artifacts with manifest }

/-! ## The endpoint -/

def invocationNotFoundError (invocationId : String) : AuthorityRequestError :=
  ⟨404, .INVOCATION_NOT_FOUND, s!"Invocation {invocationId} does not exist.", [("invocationId", invocationId)]⟩

/-- A refusal of the export becomes one of the authority; what else is thrown passes. -/
def exportFailure (invocationId : String) : ExportFailure → Failure
  | .refused reasonCode message => .refused ⟨409, reasonCode, message, [("invocationId", invocationId)]⟩
  | .malformed error => .thrown error.message
  | .thrown message => .thrown message

def exportInput (options : AuthorityServiceOptions) (invocation : InvocationRecord) (issuedAt : ℤ)
    (bundleVersion : EvidenceBundleVersion) : ExportInput where
  invocation := invocation
  paidServices := options.paidServices
  authorityAddress := options.authorityAddress
  signer := options.authoritySigner
  issuedAt := issuedAt
  bundleVersion := bundleVersion

/-- The stored invocation, exported and sealed by this process. -/
def exportEvidence (platform : Platform) (options : AuthorityServiceOptions) (db : Db) (invocationId : String)
    (now : ℤ) (bundleVersion : EvidenceBundleVersion) : Except Failure EvidenceBundle :=
  match db.invocations.find? invocationId with
  | none => .error (.refused (invocationNotFoundError invocationId))
  | some invocation => (buildEvidenceBundle platform (exportInput options invocation now bundleVersion)).mapError
      (exportFailure invocationId)

theorem exportEvidence_eq_ok {platform : Platform} {options : AuthorityServiceOptions} {db : Db}
    {invocationId : String} {now : ℤ} {bundleVersion : EvidenceBundleVersion} {bundle : EvidenceBundle} :
    exportEvidence platform options db invocationId now bundleVersion = .ok bundle ↔
      ∃ invocation, db.invocations.find? invocationId = some invocation ∧
        buildEvidenceBundle platform (exportInput options invocation now bundleVersion) = .ok bundle := by
  unfold exportEvidence
  cases db.invocations.find? invocationId with
  | none => simp
  | some invocation => simp [mapError_eq_ok]

/-! ## What is exported -/

/-- What an exported bundle is made of. -/
structure Exported (platform : Platform) (input : ExportInput) (bundle : EvidenceBundle) : Prop where
  final : input.invocation.state ≠ .RESERVED
  artifacts : ∃ authorization result service, input.invocation.authorization = some authorization ∧
    exportedResult input.invocation = .ok result ∧ exportedExchange platform input = .ok service ∧
    bundle.toEvidenceArtifacts = exportedArtifacts platform input authorization result service
  receipt : input.invocation.state = .CONFIRMED ∨ input.invocation.state = .DENIED →
    ∃ receipt, input.invocation.receipt = some receipt ∧ receipt.authority = input.authorityAddress
  manifest : bundle.manifest.toUnsignedEvidenceManifest =
    exportedManifest platform input bundle.toEvidenceArtifacts
  signed : signEvidenceManifest platform bundle.manifest.toUnsignedEvidenceManifest input.signer =
    some bundle.manifest

theorem signEvidenceManifest_eq_some {platform : Platform} {unsigned : UnsignedEvidenceManifest}
    {signer : String} {manifest : SignedEvidenceManifest} :
    signEvidenceManifest platform unsigned signer = some manifest ↔
      signer = unsigned.authority ∧ manifest = { unsigned with
        signature := platform.signBytes signer (canonicalizeManifest platform unsigned) } := by
  unfold signEvidenceManifest
  split
  · rename_i hsigner
    simp only [Option.some.injEq, hsigner, true_and]
    exact eq_comm
  · rename_i hsigner
    simp [hsigner]

theorem buildEvidenceBundle_ok {platform : Platform} {input : ExportInput} {bundle : EvidenceBundle}
    (h : buildEvidenceBundle platform input = .ok bundle) : Exported platform input bundle := by
  unfold buildEvidenceBundle at h
  simp only [guardThat_bind_eq_ok, required_bind_eq_ok] at h
  obtain ⟨hfinal, authorization, hauthorization, hreceipt, h⟩ := h
  obtain ⟨result, hresult, h⟩ := bind_eq_ok.1 h
  obtain ⟨service, hservice, h⟩ := bind_eq_ok.1 h
  obtain ⟨manifest, hmanifest, h⟩ := required_bind_eq_ok.1 h
  cases h
  obtain ⟨hsigner, rfl⟩ := signEvidenceManifest_eq_some.1 hmanifest
  refine {
    final := of_decide_eq_true hfinal
    artifacts := ⟨authorization, result, service, hauthorization, hresult, hservice, rfl⟩
    receipt := fun hstate ↦ ?_
    manifest := rfl
    signed := hmanifest }
  have hdecided : (input.invocation.state = .CONFIRMED || input.invocation.state = .DENIED) = true := by
    simpa using hstate
  rw [hdecided, Bool.true_and, Bool.not_not, Option.any_eq_true] at hreceipt
  obtain ⟨receipt, hstored, hauthority⟩ := hreceipt
  exact ⟨receipt, hstored, of_decide_eq_true hauthority⟩

end VirtualHaibin.Authority
