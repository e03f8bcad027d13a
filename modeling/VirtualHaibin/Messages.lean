import VirtualHaibin.Authority.Decision
import VirtualHaibin.Evidence.Encoding

/-!
# Signed and hashed messages

Every text the repository signs or hashes under a domain: a line naming the domain, the version
and, for an evidence artifact, its name, then the content as canonical JSON or an array of string
literals.  No line contains the newline that ends it and no two kinds share a line, so the bytes
of a message determine its kind and its value.
-/

namespace VirtualHaibin

open Foundation Mandate Payments Evidence Authority

/-! ## Version 1 -/

namespace Mandate

/-- `version` is 1 and `subdelegation` is false in every value of this type. -/
@[ext] structure UnsignedPurchasePermitV1 where
  domain : String
  grantId : String
  issuer : String
  authorizedAgent : String
  service : String
  capability : String
  network : String
  mint : String
  recipient : String
  maxPerCallAtomic : String
  maxTotalAtomic : String
  issuedAt : ℤ
  expiresAt : ℤ
  deriving DecidableEq

structure SignedPurchasePermitV1 extends UnsignedPurchasePermitV1 where
  signature : String
  deriving DecidableEq

/-- `version` is 1 in every value of this type. -/
@[ext] structure AuthorizationRequestV1 where
  protocol : String
  audience : String
  grantId : String
  permitDigest : String
  invocationId : String
  service : String
  capability : String
  network : String
  mint : String
  recipient : String
  amountAtomic : String
  issuedAt : ℤ
  deriving DecidableEq

def REQUEST_FIELDS_V1 : List String :=
  ["protocol", "version", "audience", "grantId", "permitDigest", "invocationId", "service",
    "capability", "network", "mint", "recipient", "amountAtomic", "issuedAt"]

def UnsignedPurchasePermitV1.members (permit : UnsignedPurchasePermitV1) : List (String × Json) :=
  [("version", .int 1), ("domain", .str permit.domain), ("grantId", .str permit.grantId),
    ("issuer", .str permit.issuer), ("authorizedAgent", .str permit.authorizedAgent),
    ("service", .str permit.service), ("capability", .str permit.capability),
    ("network", .str permit.network), ("mint", .str permit.mint),
    ("recipient", .str permit.recipient), ("maxPerCallAtomic", .str permit.maxPerCallAtomic),
    ("maxTotalAtomic", .str permit.maxTotalAtomic), ("issuedAt", .int permit.issuedAt),
    ("expiresAt", .int permit.expiresAt), ("subdelegation", .bool false)]

def SignedPurchasePermitV1.toJson (permit : SignedPurchasePermitV1) : Json :=
  .obj (permit.toUnsignedPurchasePermitV1.members ++ [("signature", signatureJson permit.signature)])

def AuthorizationRequestV1.toJson (request : AuthorizationRequestV1) : Json :=
  .obj [("protocol", .str request.protocol), ("version", .int 1), ("audience", .str request.audience),
    ("grantId", .str request.grantId), ("permitDigest", .str request.permitDigest),
    ("invocationId", .str request.invocationId), ("service", .str request.service),
    ("capability", .str request.capability), ("network", .str request.network),
    ("mint", .str request.mint), ("recipient", .str request.recipient),
    ("amountAtomic", .str request.amountAtomic), ("issuedAt", .int request.issuedAt)]

def canonicalizeUnsignedPurchasePermitV1 (platform : Platform) (permit : UnsignedPurchasePermitV1) : String :=
  PURCHASE_PERMIT_DOMAIN ++ ":v1\n" ++ platform.canonicalize (.obj permit.members)

/-- The text behind `computePermitDigest` of a version 1 permit. -/
def permitDigestTextV1 (platform : Platform) (permit : SignedPurchasePermitV1) : String :=
  PURCHASE_PERMIT_DOMAIN ++ ":v1:digest\n" ++ platform.canonicalize permit.toJson

def canonicalizeAuthorizationRequestV1 (platform : Platform) (request : AuthorizationRequestV1) : String :=
  AUTHORIZATION_REQUEST_PROTOCOL ++ ":v1\n" ++ platform.canonicalize request.toJson

theorem UnsignedPurchasePermitV1.values (a b : UnsignedPurchasePermitV1)
    (h : a.members.map (fun entry ↦ entry.2.normal) = b.members.map fun entry ↦ entry.2.normal) :
    a = b := by
  simpa [members, UnsignedPurchasePermitV1.ext_iff] using h

theorem UnsignedPurchasePermitV1.faithful :
    Json.Faithful fun permit : UnsignedPurchasePermitV1 ↦ .obj permit.members :=
  .of_members permitNamesV1 (by decide) (fun _ ↦ rfl) values

theorem SignedPurchasePermitV1.toJson_faithful : Json.Faithful SignedPurchasePermitV1.toJson :=
  .of_members (permitNamesV1 ++ ["signature"]) (by decide) (fun _ ↦ rfl) fun a b h ↦ by
    cases a
    cases b
    obtain ⟨rfl, rfl⟩ := signed_values UnsignedPurchasePermitV1.values h
    rfl

theorem AuthorizationRequestV1.toJson_faithful : Json.Faithful AuthorizationRequestV1.toJson :=
  .of_members REQUEST_FIELDS_V1 (by decide) (fun _ ↦ rfl) fun a b h ↦ by
    simpa [AuthorizationRequestV1.ext_iff] using h

end Mandate

namespace Evidence

/-- `version` is 1 in every value of this type. -/
@[ext] structure UnsignedAuthorizationReceiptV1 where
  domain : String
  invocationId : String
  grantId : String
  authority : String
  agent : String
  permitDigest : String
  requestFingerprint : String
  service : String
  capability : String
  network : String
  mint : String
  recipient : String
  amountAtomic : String
  decision : String
  reasonCodes : List String
  paymentTransactionId : Option String
  decidedAt : ℤ
  deriving DecidableEq

def UnsignedAuthorizationReceiptV1.members (receipt : UnsignedAuthorizationReceiptV1) :
    List (String × Json) :=
  [("version", .int 1), ("domain", .str receipt.domain), ("invocationId", .str receipt.invocationId),
    ("grantId", .str receipt.grantId), ("authority", .str receipt.authority),
    ("agent", .str receipt.agent), ("permitDigest", .str receipt.permitDigest),
    ("requestFingerprint", .str receipt.requestFingerprint), ("service", .str receipt.service),
    ("capability", .str receipt.capability), ("network", .str receipt.network),
    ("mint", .str receipt.mint), ("recipient", .str receipt.recipient),
    ("amountAtomic", .str receipt.amountAtomic), ("decision", .str receipt.decision),
    ("reasonCodes", .arr (receipt.reasonCodes.map .str)),
    ("paymentTransactionId", Json.orNull .str receipt.paymentTransactionId),
    ("decidedAt", .int receipt.decidedAt)]

def canonicalizeReceiptV1 (platform : Platform) (receipt : UnsignedAuthorizationReceiptV1) : String :=
  AUTHORIZATION_RECEIPT_DOMAIN ++ ":v1\n" ++ platform.canonicalize (.obj receipt.members)

theorem UnsignedAuthorizationReceiptV1.faithful :
    Json.Faithful fun receipt : UnsignedAuthorizationReceiptV1 ↦ .obj receipt.members :=
  .of_members receiptNamesV1 (by decide) (fun _ ↦ rfl) fun a b h ↦ by
    simpa [members, UnsignedAuthorizationReceiptV1.ext_iff] using h

end Evidence

theorem fingerprintJson_faithful : Json.Faithful FingerprintInput.toJson :=
  .of_members ["version", "permitDigest", "grantId", "agent", "invocationId", "service", "capability",
    "network", "mint", "recipient", "amountAtomic", "operationDigest"] (by decide) (fun _ ↦ rfl) fun a b h ↦ by
    cases a
    cases b
    simpa using h

/-! ## The messages -/

inductive ArtifactKind where
  | authorizationRequest | authorityDecision | outboundRequest | paymentRequirement | paymentAttempt
  | settlement | result | serviceAuthorization | serviceAcknowledgement
  deriving DecidableEq

/-- The name an artifact is digested under. -/
def ArtifactKind.name : ArtifactKind → String
  | authorizationRequest => "authorization-request"
  | authorityDecision => "authority-decision"
  | outboundRequest => "outbound-request"
  | paymentRequirement => "payment-requirement"
  | paymentAttempt => "payment-attempt"
  | settlement => "settlement"
  | result => "result"
  | serviceAuthorization => "service-authorization"
  | serviceAcknowledgement => "service-acknowledgement"

inductive Artifact where
  | authorizationRequest (request : AuthorizationRequestV2) (agentSignature : AgentRequestSignature)
  | authorityDecision (receipt : SignedAuthorizationReceipt)
  | outboundRequest (request : PaidRequest)
  | paymentRequirement (requirement : PaymentRequirement)
  | paymentAttempt (attempt : PaymentAttempt)
  | settlement (settlement : ConfirmedSettlement)
  | result (result : EvidenceResult)
  | serviceAuthorization (authorization : SignedServiceAuthorizationV1)
  | serviceAcknowledgement (acknowledgement : SignedServiceAcknowledgementV1)

def Artifact.kind : Artifact → ArtifactKind
  | authorizationRequest .. => .authorizationRequest
  | authorityDecision _ => .authorityDecision
  | outboundRequest _ => .outboundRequest
  | paymentRequirement _ => .paymentRequirement
  | paymentAttempt _ => .paymentAttempt
  | settlement _ => .settlement
  | result _ => .result
  | serviceAuthorization _ => .serviceAuthorization
  | serviceAcknowledgement _ => .serviceAcknowledgement

def Artifact.toJson : Artifact → Json
  | authorizationRequest request agentSignature => authorizationRequestJson request agentSignature
  | authorityDecision receipt => receipt.toJson
  | outboundRequest request => outboundRequestJson request
  | paymentRequirement requirement => requirementJson requirement
  | paymentAttempt attempt => attemptJson attempt
  | settlement report => settlementJson report
  | result response => response.toJson
  | serviceAuthorization authorization => authorization.toJson
  | serviceAcknowledgement acknowledgement => acknowledgement.toJson

theorem Artifact.eq_of_json {a b : Artifact} (hkind : a.kind = b.kind)
    (h : a.toJson.normal = b.toJson.normal) : a = b := by
  cases a with
  | authorizationRequest request signature =>
    cases b with
    | authorizationRequest request' signature' =>
      have hpair := authorizationRequestJson_faithful (a := (request, signature))
        (b := (request', signature')) h
      obtain ⟨rfl, rfl⟩ := Prod.mk.inj hpair
      rfl
    | _ => cases hkind
  | authorityDecision a =>
    cases b with
    | authorityDecision b => rw [SignedAuthorizationReceipt.toJson_faithful (a := a) (b := b) h]
    | _ => cases hkind
  | outboundRequest a =>
    cases b with
    | outboundRequest b => rw [outboundRequestJson_faithful (a := a) (b := b) h]
    | _ => cases hkind
  | paymentRequirement a =>
    cases b with
    | paymentRequirement b => rw [requirementJson_faithful (a := a) (b := b) h]
    | _ => cases hkind
  | paymentAttempt a =>
    cases b with
    | paymentAttempt b => rw [attemptJson_faithful (a := a) (b := b) h]
    | _ => cases hkind
  | settlement a =>
    cases b with
    | settlement b => rw [settlementJson_faithful (a := a) (b := b) h]
    | _ => cases hkind
  | result a =>
    cases b with
    | result b => rw [EvidenceResult.toJson_faithful (a := a) (b := b) h]
    | _ => cases hkind
  | serviceAuthorization a =>
    cases b with
    | serviceAuthorization b => rw [SignedServiceAuthorizationV1.toJson_faithful (a := a) (b := b) h]
    | _ => cases hkind
  | serviceAcknowledgement a =>
    cases b with
    | serviceAcknowledgement b => rw [SignedServiceAcknowledgementV1.toJson_faithful (a := a) (b := b) h]
    | _ => cases hkind

/-- The method and the content type of a paid request have one value each; a manifest is of
version 2 exactly when it has service digests. -/
inductive Message where
  | unsignedPermitV1 (permit : UnsignedPurchasePermitV1)
  | unsignedPermitV2 (permit : UnsignedPurchasePermitV2)
  | permitDigestV1 (permit : SignedPurchasePermitV1)
  | permitDigestV2 (permit : SignedPurchasePermitV2)
  | requestV1 (request : AuthorizationRequestV1)
  | requestV2 (request : AuthorizationRequestV2)
  | operation (operation : ExactOperationV1)
  | fingerprint (input : FingerprintInput)
  | paidRequest (url body : String)
  | receiptV1 (receipt : UnsignedAuthorizationReceiptV1)
  | receiptV2 (receipt : UnsignedAuthorizationReceiptV2)
  | manifest (manifest : UnsignedEvidenceManifest)
  | artifact (artifact : Artifact)
  | serviceAuthorization (authorization : UnsignedServiceAuthorizationV1)
  | serviceAcknowledgement (acknowledgement : UnsignedServiceAcknowledgementV1)

namespace Message

variable {platform : Platform}

/-- The text each module builds. -/
def text (platform : Platform) : Message → String
  | unsignedPermitV1 permit => canonicalizeUnsignedPurchasePermitV1 platform permit
  | unsignedPermitV2 permit => canonicalizeUnsignedPurchasePermit platform permit
  | permitDigestV1 permit => permitDigestTextV1 platform permit
  | permitDigestV2 permit =>
    PURCHASE_PERMIT_DOMAIN ++ ":v2:digest\n" ++ platform.canonicalize permit.toJson
  | requestV1 request => canonicalizeAuthorizationRequestV1 platform request
  | requestV2 request => canonicalizeAuthorizationRequest platform request
  | operation value => EXACT_OPERATION_DOMAIN ++ ":v1\n" ++ platform.canonicalize value.toJson
  | fingerprint input =>
    "virtual-haibin/invocation-fingerprint:v2\n" ++ platform.canonicalize input.toJson
  | paidRequest url body =>
    PAID_REQUEST_DOMAIN ++ Text.quoteAll ["POST", url, "application/json", body]
  | receiptV1 receipt => canonicalizeReceiptV1 platform receipt
  | receiptV2 receipt => canonicalizeReceipt platform receipt
  | manifest unsigned => canonicalizeManifest platform unsigned
  | artifact value =>
    "virtual-haibin/evidence-artifact:" ++ value.kind.name ++ ":v1\n" ++ platform.canonicalize value.toJson
  | serviceAuthorization authorization =>
    statementText platform SERVICE_AUTHORIZATION_DOMAIN authorization.members
  | serviceAcknowledgement acknowledgement =>
    statementText platform SERVICE_ACKNOWLEDGEMENT_DOMAIN acknowledgement.members

/-- The UTF-8 bytes that are signed or hashed. -/
def bytes (platform : Platform) (message : Message) : ByteArray := (message.text platform).toUTF8

/-- The hashed kinds are the texts behind the digests of the model. -/
theorem sha256Hex_text (platform : Platform) :
    (∀ permit, platform.sha256Hex ((permitDigestV2 permit).text platform) =
      computePermitDigest platform permit) ∧
    (∀ value, platform.sha256Hex ((operation value).text platform) =
      computeOperationDigest platform value) ∧
    (∀ permit request digest,
      platform.sha256Hex ((fingerprint (fingerprintInput permit request digest)).text platform) =
        computeRequestFingerprint platform permit request digest) ∧
    (∀ url body, platform.sha256Hex ((paidRequest url body).text platform) =
      computePaidRequestDigest platform url body) ∧
    ∀ value : Artifact, platform.sha256Hex ((artifact value).text platform) =
      artifactDigest platform value.kind.name value.toJson :=
  ⟨fun _ ↦ rfl, fun _ ↦ rfl, fun _ _ _ ↦ rfl, fun _ _ ↦ rfl, fun _ ↦ rfl⟩

/-- One value for each line in front of a content. -/
inductive Kind where
  | unsignedPermitV1 | unsignedPermitV2 | permitDigestV1 | permitDigestV2 | requestV1 | requestV2
  | operation | fingerprint | paidRequest | receiptV1 | receiptV2
  | manifest (serviceDigests : Bool)
  | artifact (kind : ArtifactKind)
  | serviceAuthorization | serviceAcknowledgement

def Kind.line : Kind → String
  | unsignedPermitV1 => "virtual-haibin/purchase-permit:v1"
  | unsignedPermitV2 => "virtual-haibin/purchase-permit:v2"
  | permitDigestV1 => "virtual-haibin/purchase-permit:v1:digest"
  | permitDigestV2 => "virtual-haibin/purchase-permit:v2:digest"
  | requestV1 => "virtual-haibin/authorization-request:v1"
  | requestV2 => "virtual-haibin/authorization-request:v2"
  | operation => "virtual-haibin/exact-operation:v1"
  | fingerprint => "virtual-haibin/invocation-fingerprint:v2"
  | paidRequest => "virtual-haibin/paid-request:v1"
  | receiptV1 => "virtual-haibin/authorization-receipt:v1"
  | receiptV2 => "virtual-haibin/authorization-receipt:v2"
  | manifest false => "virtual-haibin/evidence-manifest:v1"
  | manifest true => "virtual-haibin/evidence-manifest:v2"
  | artifact .authorizationRequest => "virtual-haibin/evidence-artifact:authorization-request:v1"
  | artifact .authorityDecision => "virtual-haibin/evidence-artifact:authority-decision:v1"
  | artifact .outboundRequest => "virtual-haibin/evidence-artifact:outbound-request:v1"
  | artifact .paymentRequirement => "virtual-haibin/evidence-artifact:payment-requirement:v1"
  | artifact .paymentAttempt => "virtual-haibin/evidence-artifact:payment-attempt:v1"
  | artifact .settlement => "virtual-haibin/evidence-artifact:settlement:v1"
  | artifact .result => "virtual-haibin/evidence-artifact:result:v1"
  | artifact .serviceAuthorization => "virtual-haibin/evidence-artifact:service-authorization:v1"
  | artifact .serviceAcknowledgement => "virtual-haibin/evidence-artifact:service-acknowledgement:v1"
  | serviceAuthorization => "virtual-haibin/service-authorization:v1"
  | serviceAcknowledgement => "virtual-haibin/service-acknowledgement:v1"

def kinds : List Kind :=
  [.unsignedPermitV1, .unsignedPermitV2, .permitDigestV1, .permitDigestV2, .requestV1, .requestV2,
    .operation, .fingerprint, .paidRequest, .receiptV1, .receiptV2, .manifest false, .manifest true,
    .artifact .authorizationRequest, .artifact .authorityDecision, .artifact .outboundRequest,
    .artifact .paymentRequirement, .artifact .paymentAttempt, .artifact .settlement, .artifact .result,
    .artifact .serviceAuthorization, .artifact .serviceAcknowledgement, .serviceAuthorization,
    .serviceAcknowledgement]

theorem mem_kinds (kind : Kind) : kind ∈ kinds := by
  cases kind with
  | manifest serviceDigests => cases serviceDigests <;> simp [kinds]
  | artifact kind => cases kind <;> simp [kinds]
  | _ => simp [kinds]

/-- The characters of the lines: no line is another, and none contains a newline. -/
theorem lines_written : ∃ lines : List (List Char), kinds.map Kind.line = lines.map String.ofList ∧
    lines.Nodup ∧ ∀ line ∈ lines, '\n' ∉ line :=
  ⟨[_, _, _, _, _, _, _, _, _, _, _, _, _, _, _, _, _, _, _, _, _, _, _, _], rfl, by decide, by decide⟩

theorem Kind.line_injective : Function.Injective Kind.line := by
  intro a b h
  obtain ⟨lines, hlines, hnodup, -⟩ := lines_written
  have hdistinct : (kinds.map Kind.line).Nodup := hlines ▸ hnodup.map fun _ _ ↦ String.ofList_injective
  exact List.inj_on_of_nodup_map hdistinct (mem_kinds a) (mem_kinds b) h

theorem Kind.newline_notMem_line (kind : Kind) : '\n' ∉ kind.line.toList := by
  obtain ⟨lines, hlines, -, hnewline⟩ := lines_written
  have hmem : kind.line ∈ lines.map String.ofList := hlines ▸ List.mem_map_of_mem (mem_kinds kind)
  obtain ⟨line, hline, heq⟩ := List.mem_map.1 hmem
  rw [← heq, String.toList_ofList]
  exact hnewline line hline

def kind : Message → Kind
  | unsignedPermitV1 _ => .unsignedPermitV1
  | unsignedPermitV2 _ => .unsignedPermitV2
  | permitDigestV1 _ => .permitDigestV1
  | permitDigestV2 _ => .permitDigestV2
  | requestV1 _ => .requestV1
  | requestV2 _ => .requestV2
  | operation _ => .operation
  | fingerprint _ => .fingerprint
  | paidRequest .. => .paidRequest
  | receiptV1 _ => .receiptV1
  | receiptV2 _ => .receiptV2
  | manifest unsigned => .manifest unsigned.digests.service.isSome
  | artifact value => .artifact value.kind
  | serviceAuthorization _ => .serviceAuthorization
  | serviceAcknowledgement _ => .serviceAcknowledgement

/-- What stands behind the first newline. -/
def content (platform : Platform) : Message → String
  | unsignedPermitV1 permit => platform.canonicalize (.obj permit.members)
  | unsignedPermitV2 permit => platform.canonicalize (.obj permit.members)
  | permitDigestV1 permit => platform.canonicalize permit.toJson
  | permitDigestV2 permit => platform.canonicalize permit.toJson
  | requestV1 request => platform.canonicalize request.toJson
  | requestV2 request => platform.canonicalize request.toJson
  | operation value => platform.canonicalize value.toJson
  | fingerprint input => platform.canonicalize input.toJson
  | paidRequest url body => Text.quoteAll ["POST", url, "application/json", body]
  | receiptV1 receipt => platform.canonicalize (.obj receipt.members)
  | receiptV2 receipt => platform.canonicalize (.obj receipt.members)
  | manifest unsigned => platform.canonicalize (.obj unsigned.members)
  | artifact value => platform.canonicalize value.toJson
  | serviceAuthorization authorization => platform.canonicalize (.obj authorization.members)
  | serviceAcknowledgement acknowledgement => platform.canonicalize (.obj acknowledgement.members)

theorem text_eq (message : Message) :
    message.text platform = message.kind.line ++ "\n" ++ message.content platform := by
  cases message with
  | manifest unsigned =>
    have hpre : EVIDENCE_MANIFEST_DOMAIN ++ ":v" ++ (versionNumber unsigned.digests.service).repr ++
        "\n" = (Kind.manifest unsigned.digests.service.isSome).line ++ "\n" := by
      cases unsigned.digests.service <;> rfl
    exact congrArg (· ++ platform.canonicalize (.obj unsigned.members)) hpre
  | artifact value =>
    have hpre (kind : ArtifactKind) : "virtual-haibin/evidence-artifact:" ++ kind.name ++ ":v1\n" =
        (Kind.artifact kind).line ++ "\n" := by
      cases kind <;> simp [ArtifactKind.name, Kind.line]
    exact congrArg (· ++ platform.canonicalize value.toJson) (hpre value.kind)
  | _ => exact congrArg₂ (· ++ ·) rfl rfl

/-- The line in front of the first newline tells the kind. -/
theorem kind_and_content_eq {a b : Message} (h : a.text platform = b.text platform) :
    a.kind = b.kind ∧ a.content platform = b.content platform := by
  have hchars := congrArg String.toList h
  simp only [text_eq, String.toList_append, List.append_assoc] at hchars
  obtain ⟨hline, hcontent⟩ :=
    Text.eq_of_separator a.kind.newline_notMem_line b.kind.newline_notMem_line hchars
  exact ⟨Kind.line_injective (String.toList_injective hline), String.toList_injective hcontent⟩

/-- Within one kind, the content determines the value. -/
theorem eq_of_content (hcanonical : platform.CanonicalizeInjective) {a b : Message}
    (hkind : a.kind = b.kind) (h : a.content platform = b.content platform) : a = b := by
  cases a with
  | paidRequest url body =>
    cases b with
    | paidRequest url' body' =>
      have htexts := Json.quoteAll_injective h
      simp only [List.cons.injEq, true_and, and_true] at htexts
      rw [htexts.1, htexts.2]
    | _ => cases hkind
  | artifact a =>
    cases b with
    | artifact b => rw [Artifact.eq_of_json (Kind.artifact.inj hkind) (hcanonical h)]
    | _ => cases hkind
  | unsignedPermitV1 a =>
    cases b with
    | unsignedPermitV1 b => rw [UnsignedPurchasePermitV1.faithful (a := a) (b := b) (hcanonical h)]
    | _ => cases hkind
  | unsignedPermitV2 a =>
    cases b with
    | unsignedPermitV2 b => rw [UnsignedPurchasePermitV2.faithful (a := a) (b := b) (hcanonical h)]
    | _ => cases hkind
  | permitDigestV1 a =>
    cases b with
    | permitDigestV1 b => rw [SignedPurchasePermitV1.toJson_faithful (a := a) (b := b) (hcanonical h)]
    | _ => cases hkind
  | permitDigestV2 a =>
    cases b with
    | permitDigestV2 b => rw [SignedPurchasePermitV2.toJson_faithful (a := a) (b := b) (hcanonical h)]
    | _ => cases hkind
  | requestV1 a =>
    cases b with
    | requestV1 b => rw [AuthorizationRequestV1.toJson_faithful (a := a) (b := b) (hcanonical h)]
    | _ => cases hkind
  | requestV2 a =>
    cases b with
    | requestV2 b => rw [AuthorizationRequestV2.toJson_faithful (a := a) (b := b) (hcanonical h)]
    | _ => cases hkind
  | operation a =>
    cases b with
    | operation b => rw [ExactOperationV1.toJson_faithful (a := a) (b := b) (hcanonical h)]
    | _ => cases hkind
  | fingerprint a =>
    cases b with
    | fingerprint b => rw [fingerprintJson_faithful (a := a) (b := b) (hcanonical h)]
    | _ => cases hkind
  | receiptV1 a =>
    cases b with
    | receiptV1 b => rw [UnsignedAuthorizationReceiptV1.faithful (a := a) (b := b) (hcanonical h)]
    | _ => cases hkind
  | receiptV2 a =>
    cases b with
    | receiptV2 b => rw [UnsignedAuthorizationReceiptV2.faithful (a := a) (b := b) (hcanonical h)]
    | _ => cases hkind
  | manifest a =>
    cases b with
    | manifest b => rw [UnsignedEvidenceManifest.faithful (a := a) (b := b) (hcanonical h)]
    | _ => cases hkind
  | serviceAuthorization a =>
    cases b with
    | serviceAuthorization b => rw [UnsignedServiceAuthorizationV1.faithful (a := a) (b := b) (hcanonical h)]
    | _ => cases hkind
  | serviceAcknowledgement a =>
    cases b with
    | serviceAcknowledgement b => rw [UnsignedServiceAcknowledgementV1.faithful (a := a) (b := b) (hcanonical h)]
    | _ => cases hkind

theorem text_injective (hcanonical : platform.CanonicalizeInjective) :
    Function.Injective (Message.text platform) := fun a b h ↦ by
  obtain ⟨hkind, hcontent⟩ := kind_and_content_eq h
  exact eq_of_content hcanonical hkind hcontent

end Message

/-- No two messages share their bytes: neither two kinds nor two values of one kind. -/
theorem message_bytes_injective {platform : Platform} (hcanonical : platform.CanonicalizeInjective) :
    Function.Injective (Message.bytes platform) := fun _ _ h ↦
  Message.text_injective hcanonical (String.toByteArray_inj.1 h)

theorem message_bytes_injective_plain : Function.Injective (Message.bytes Platform.plain) :=
  message_bytes_injective Platform.plain_canonicalizeInjective

end VirtualHaibin
