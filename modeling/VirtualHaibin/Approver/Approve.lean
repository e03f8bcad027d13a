import VirtualHaibin.Evidence.Accepted

/-!
# Human approvals

The approval boundary issues a permit for exactly one agent, operation and dataset.  The payee, the asset, the
limits and the lifetime are its fixed terms, and the issuer key signs nothing but the permit built from them.
-/

namespace VirtualHaibin.Mandate

open Foundation Foundation.Checked

/-- The error is the text of the exception.  A key pair is named by its public address. -/
def signPurchasePermitV2 (platform : Platform) (unsigned : UnsignedPurchasePermitV2) (signer : String) :
    Except String SignedPurchasePermitV2 := do
  let permit ← (validateUnsignedPurchasePermitV2 platform (.obj unsigned.members)).mapError fun failure ↦
    s!"Cannot sign an invalid purchase permit ({failure.reasonCode.name}): {failure.message}"
  guardThat (signer = permit.issuer) "Signer keypair public key does not match the permit issuer field."
  return { permit with
    signature := platform.signBytes signer (canonicalizeUnsignedPurchasePermit platform permit) }

/-- A permit is read back from its own members. -/
theorem carriesPermit_members {permit other : UnsignedPurchasePermitV2} :
    CarriesPermit permit.members other ↔ other = permit := by
  constructor
  · intro h
    obtain ⟨carried, hcarried, hoperation⟩ := h.operation_eq
    have hmembers : some permit.operation.toJson = some (.obj carried) := hcarried
    obtain rfl : _ = carried := Json.obj.inj (Option.some.inj hmembers)
    have htext {value value' : String} (heq : some (Json.str value') = some (.str value)) : value = value' :=
      (Json.str.inj (Option.some.inj heq)).symm
    have hint {value value' : ℤ} (heq : some (Json.int value') = some (.int value)) : value = value' :=
      (Json.int_inj.1 (Option.some.inj heq)).symm
    apply UnsignedPurchasePermitV2.ext
    · exact htext h.domain_eq
    · exact htext h.grantId_eq
    · exact htext h.issuer_eq
    · exact htext h.authorizedAgent_eq
    · exact htext h.service_eq
    · exact htext h.capability_eq
    · exact htext h.network_eq
    · exact htext h.mint_eq
    · exact htext h.recipient_eq
    · exact htext h.maxPerCallAtomic_eq
    · exact htext h.maxTotalAtomic_eq
    · exact hint h.issuedAt_eq
    · exact hint h.expiresAt_eq
    · apply ExactOperationV1.ext
      · exact htext hoperation.method_eq
      · exact htext hoperation.resource_eq
      · exact htext hoperation.operation_eq
      · exact htext hoperation.datasetId_eq
  · rintro rfl
    exact {
      version_eq := rfl, domain_eq := rfl, grantId_eq := rfl, issuer_eq := rfl, authorizedAgent_eq := rfl
      service_eq := rfl, capability_eq := rfl, network_eq := rfl, mint_eq := rfl, recipient_eq := rfl
      maxPerCallAtomic_eq := rfl, maxTotalAtomic_eq := rfl, issuedAt_eq := rfl, expiresAt_eq := rfl
      subdelegation_eq := rfl
      operation_eq := ⟨_, rfl, fun _ hname ↦ hname, rfl, rfl, rfl, rfl⟩ }

/-- Exactly the valid permits that name the signer are signed, as they are. -/
theorem signPurchasePermitV2_eq_ok {platform : Platform} {unsigned : UnsignedPurchasePermitV2} {signer : String}
    {permit : SignedPurchasePermitV2} :
    signPurchasePermitV2 platform unsigned signer = .ok permit ↔
      unsigned.Valid platform ∧ signer = unsigned.issuer ∧
        permit = { unsigned with
          signature := platform.signBytes signer (canonicalizeUnsignedPurchasePermit platform unsigned) } := by
  unfold signPurchasePermitV2
  simp only [mapError_bind_eq_ok, guardThat_bind_eq_ok, decide_eq_true_eq, pure_eq_ok, Except.ok.injEq,
    validateUnsignedPurchasePermitV2_eq_ok, Json.obj.injEq, exists_eq_left', carriesPermit_members]
  constructor
  · rintro ⟨_, ⟨rfl, hvalid⟩, hsigner, rfl⟩
    exact ⟨hvalid, hsigner, rfl⟩
  · rintro ⟨hvalid, hsigner, rfl⟩
    exact ⟨unsigned, ⟨rfl, hvalid⟩, hsigner, rfl⟩

end VirtualHaibin.Mandate

namespace VirtualHaibin.Approver

open Foundation Foundation.Checked Mandate

/-- The service and the payment terms a human is willing to authorize. -/
structure ApprovalTerms where
  service : String
  capability : String
  network : String
  mint : String
  recipient : String
  maxPerCallAtomic : String
  maxTotalAtomic : String
  ttlMs : ℤ
  method : String
  resource : String

/-- What the human approves. -/
structure ApprovalRequest where
  agent : String
  operation : String
  datasetId : String
  deriving DecidableEq

def APPROVAL_FIELDS : List String := ["agent", "operation", "datasetId"]

/-- The operation of a request under the terms; an absent member stays absent. -/
def candidateOperation (record : List (String × Json)) (terms : ApprovalTerms) : Json :=
  .obj ([("method", .str terms.method), ("resource", .str terms.resource)] ++
    (((Json.member record "operation").map fun value ↦ ("operation", value)).toList ++
      ((Json.member record "datasetId").map fun value ↦ ("datasetId", value)).toList))

/-- Strict validation of a request body; the error is the message. -/
def parseApprovalRequest (platform : Platform) (candidate : Json) (terms : ApprovalTerms) :
    Except String ApprovalRequest := do
  let record ← required (object? (some candidate)) "Approval request must be a JSON object."
  match unknownMember record APPROVAL_FIELDS with
  | some unknownField =>
    .error s!"Unexpected field {Text.quote unknownField}; only agent, operation and datasetId can be chosen."
  | none =>
    let agent ← required ((text record "agent").filter platform.isAddress)
      "agent must be the agent's base58 Ed25519 public key."
    let operation ← validateExactOperation (some (candidateOperation record terms))
    return { agent, operation := operation.operation, datasetId := operation.datasetId }

/-- The one operation an approval is for. -/
def ApprovalRequest.exactOperation (approval : ApprovalRequest) (terms : ApprovalTerms) : ExactOperationV1 where
  method := terms.method
  resource := terms.resource
  operation := approval.operation
  datasetId := approval.datasetId

/-- An object with the three members of an approval and no other. -/
structure CarriesApproval (record : List (String × Json)) (approval : ApprovalRequest) : Prop where
  known : ∀ name ∈ record.map Prod.fst, name ∈ APPROVAL_FIELDS
  agent_eq : Json.member record "agent" = some (.str approval.agent)
  operation_eq : Json.member record "operation" = some (.str approval.operation)
  datasetId_eq : Json.member record "datasetId" = some (.str approval.datasetId)

theorem validateExactOperation_candidate {record : List (String × Json)} {terms : ApprovalTerms}
    {operation : ExactOperationV1} :
    validateExactOperation (some (candidateOperation record terms)) = .ok operation ↔
      operation.method = terms.method ∧ operation.resource = terms.resource ∧
        Json.member record "operation" = some (.str operation.operation) ∧
        Json.member record "datasetId" = some (.str operation.datasetId) ∧ operation.Valid := by
  rw [validateExactOperation_eq_ok]
  simp only [candidateOperation, Option.some.injEq, Json.obj.injEq, exists_eq_left']
  constructor
  · rintro ⟨hcarries, hvalid⟩
    have hmethod := hcarries.method_eq
    have hresource := hcarries.resource_eq
    have hoperation := hcarries.operation_eq
    have hdatasetId := hcarries.datasetId_eq
    generalize Json.member record "operation" = first at *
    generalize Json.member record "datasetId" = second at *
    refine ⟨?_, ?_, ?_, ?_, hvalid⟩
    · simpa [Json.member, eq_comm] using hmethod
    · simpa [Json.member, eq_comm] using hresource
    · cases first <;> cases second <;> simp [Json.member] at hoperation ⊢
      all_goals exact hoperation
    · cases first <;> cases second <;> simp [Json.member] at hdatasetId ⊢
      all_goals exact hdatasetId
  · rintro ⟨hmethod, hresource, hoperation, hdatasetId, hvalid⟩
    rw [hoperation, hdatasetId, ← hmethod, ← hresource]
    exact ⟨⟨fun _ hname ↦ hname, rfl, rfl, rfl, rfl⟩, hvalid⟩

/-- Exactly the strict objects that name a key and a valid operation are approvals. -/
theorem parseApprovalRequest_eq_ok {platform : Platform} {candidate : Json} {terms : ApprovalTerms}
    {approval : ApprovalRequest} :
    parseApprovalRequest platform candidate terms = .ok approval ↔
      ∃ record, candidate = .obj record ∧ CarriesApproval record approval ∧
        platform.isAddress approval.agent = true ∧ (approval.exactOperation terms).Valid := by
  unfold parseApprovalRequest
  simp only [required_bind_eq_ok, object?_eq_some, Option.some.injEq]
  refine exists_congr fun record ↦ and_congr_right fun _ ↦ ?_
  cases hknown : unknownMember record APPROVAL_FIELDS with
  | some name =>
    constructor
    · intro h
      cases h
    · rintro ⟨hcarries, -, -⟩
      rw [unknownMember_eq_none.2 hcarries.known] at hknown
      cases hknown
  | none =>
    simp only [required_eq_ok, filter_eq_some, text_eq_some, bind_eq_ok, validateExactOperation_candidate,
      pure_eq_ok, Except.ok.injEq]
    constructor
    · rintro ⟨agent, ⟨hagent, haddress⟩, operation, ⟨hmethod, hresource, hoperation, hdatasetId, hvalid⟩, rfl⟩
      have hexact : (⟨agent, operation.operation, operation.datasetId⟩ : ApprovalRequest).exactOperation terms =
          operation :=
        ExactOperationV1.ext hmethod.symm hresource.symm rfl rfl
      exact ⟨⟨unknownMember_eq_none.1 hknown, hagent, hoperation, hdatasetId⟩, haddress, hexact.symm ▸ hvalid⟩
    · rintro ⟨hcarries, haddress, hvalid⟩
      exact ⟨approval.agent, ⟨hcarries.agent_eq, haddress⟩, approval.exactOperation terms,
        ⟨rfl, rfl, hcarries.operation_eq, hcarries.datasetId_eq, hvalid⟩, rfl⟩

/-- The terms of the permit for an approval. -/
def approvedPermit (approval : ApprovalRequest) (terms : ApprovalTerms) (issuer : String) (now : ℤ)
    (grantId : String) : UnsignedPurchasePermitV2 where
  domain := PURCHASE_PERMIT_DOMAIN
  grantId := grantId
  issuer := issuer
  authorizedAgent := approval.agent
  service := terms.service
  capability := terms.capability
  network := terms.network
  mint := terms.mint
  recipient := terms.recipient
  maxPerCallAtomic := terms.maxPerCallAtomic
  maxTotalAtomic := terms.maxTotalAtomic
  issuedAt := now
  expiresAt := now + terms.ttlMs
  operation := approval.exactOperation terms

def issuePermit (platform : Platform) (approval : ApprovalRequest) (terms : ApprovalTerms) (issuer : String) (now : ℤ)
    (grantId : String) : Except String SignedPurchasePermitV2 :=
  signPurchasePermitV2 platform (approvedPermit approval terms issuer now grantId) issuer

end VirtualHaibin.Approver
