import VirtualHaibin.Evidence.Bundle

/-!
# Records and their JSON

The JSON of every signed or hashed record determines the record, whatever the order of its
members.  Versions that share a type are told apart by the names their objects have.
-/

namespace VirtualHaibin

open Foundation

namespace Mandate

theorem ExactOperationV1.toJson_faithful : Json.Faithful ExactOperationV1.toJson :=
  .of_members OPERATION_FIELDS (by decide) (fun _ ↦ rfl) fun a b h ↦ by
    simpa [ExactOperationV1.ext_iff] using h

@[simp] theorem ExactOperationV1.normal_toJson {a b : ExactOperationV1} :
    a.toJson.normal = b.toJson.normal ↔ a = b := toJson_faithful.iff

theorem signatureJson_faithful : Json.Faithful signatureJson :=
  .of_members ["algorithm", "signature"] (by decide) (fun _ ↦ rfl) fun a b h ↦ by simpa using h

@[simp] theorem normal_signatureJson {a b : String} :
    (signatureJson a).normal = (signatureJson b).normal ↔ a = b := signatureJson_faithful.iff

/-- The signature is the last member of a signed record. -/
theorem signed_values {α : Type*} {members : α → List (String × Json)}
    (hvalues : ∀ a b, (members a).map (fun entry ↦ entry.2.normal) =
      (members b).map (fun entry ↦ entry.2.normal) → a = b) {a b : α} {s t : String}
    (h : (members a ++ [("signature", signatureJson s)]).map (fun entry ↦ entry.2.normal) =
      (members b ++ [("signature", signatureJson t)]).map fun entry ↦ entry.2.normal) :
    a = b ∧ s = t := by
  rw [List.map_append, List.map_append] at h
  obtain ⟨hunsigned, hsignature⟩ := List.append_inj' h rfl
  exact ⟨hvalues a b hunsigned, by simpa using hsignature⟩

def permitNamesV1 : List String :=
  ["version", "domain", "grantId", "issuer", "authorizedAgent", "service", "capability", "network",
    "mint", "recipient", "maxPerCallAtomic", "maxTotalAtomic", "issuedAt", "expiresAt", "subdelegation"]

theorem UnsignedPurchasePermitV2.values (a b : UnsignedPurchasePermitV2)
    (h : a.members.map (fun entry ↦ entry.2.normal) = b.members.map fun entry ↦ entry.2.normal) :
    a = b := by
  simpa [members, UnsignedPurchasePermitV2.ext_iff] using h

theorem UnsignedPurchasePermitV2.faithful :
    Json.Faithful fun permit : UnsignedPurchasePermitV2 ↦ .obj permit.members :=
  .of_members (permitNamesV1 ++ ["operation"]) (by decide) (fun _ ↦ rfl) values

theorem SignedPurchasePermitV2.toJson_faithful : Json.Faithful SignedPurchasePermitV2.toJson :=
  .of_members (permitNamesV1 ++ ["operation", "signature"]) (by decide) (fun _ ↦ rfl) fun a b h ↦ by
    cases a
    cases b
    obtain ⟨rfl, rfl⟩ := signed_values UnsignedPurchasePermitV2.values h
    rfl

theorem AuthorizationRequestV2.toJson_faithful : Json.Faithful AuthorizationRequestV2.toJson :=
  .of_members REQUEST_FIELDS_V2 (by decide) (fun _ ↦ rfl) fun a b h ↦ by
    simpa [members, AuthorizationRequestV2.ext_iff] using h

@[simp] theorem AuthorizationRequestV2.normal_toJson {a b : AuthorizationRequestV2} :
    a.toJson.normal = b.toJson.normal ↔ a = b := toJson_faithful.iff

@[simp] theorem AgentRequestSignature.normal_toJson {a b : AgentRequestSignature} :
    a.toJson.normal = b.toJson.normal ↔ a = b := by
  cases a
  cases b
  simp [AgentRequestSignature.toJson]

end Mandate

namespace Evidence

open Mandate Payments

def receiptNamesV1 : List String :=
  ["version", "domain", "invocationId", "grantId", "authority", "agent", "permitDigest",
    "requestFingerprint", "service", "capability", "network", "mint", "recipient", "amountAtomic",
    "decision", "reasonCodes", "paymentTransactionId", "decidedAt"]

theorem UnsignedAuthorizationReceiptV2.values (a b : UnsignedAuthorizationReceiptV2)
    (h : a.members.map (fun entry ↦ entry.2.normal) = b.members.map fun entry ↦ entry.2.normal) :
    a = b := by
  simpa [members, UnsignedAuthorizationReceiptV2.ext_iff] using h

theorem UnsignedAuthorizationReceiptV2.faithful :
    Json.Faithful fun receipt : UnsignedAuthorizationReceiptV2 ↦ .obj receipt.members :=
  .of_members (receiptNamesV1 ++ ["operation", "operationDigest"]) (by decide) (fun _ ↦ rfl) values

theorem SignedAuthorizationReceipt.toJson_faithful : Json.Faithful SignedAuthorizationReceipt.toJson :=
  .of_members (receiptNamesV1 ++ ["operation", "operationDigest", "signature"]) (by decide)
    (fun _ ↦ rfl) fun a b h ↦ by
    cases a
    cases b
    obtain ⟨rfl, rfl⟩ := signed_values UnsignedAuthorizationReceiptV2.values h
    rfl

theorem servicePaymentJson_faithful : Json.Faithful fun payment : ServicePayment ↦
    .obj [("network", .str payment.network), ("asset", .str payment.asset), ("payTo", .str payment.payTo),
      ("amountAtomic", .str payment.amountAtomic)] :=
  .of_members ["network", "asset", "payTo", "amountAtomic"] (by decide) (fun _ ↦ rfl) fun a b h ↦ by
    simpa [ServicePayment.ext_iff] using h

def serviceAuthorizationNames : List String :=
  ["version", "domain", "authority", "invocationId", "grantId", "request", "operationDigest", "payment",
    "issuedAt", "expiresAt"]

/-- The request part of a service authorization. -/
theorem authorizedRequestJson_faithful : Json.Faithful fun request : String × String ↦
    .obj [("method", .str "POST"), ("url", .str request.1), ("contentType", .str "application/json"),
      ("requestSha256", .str request.2)] :=
  .of_members ["method", "url", "contentType", "requestSha256"] (by decide) (fun _ ↦ rfl) fun a b h ↦ by
    simpa [Prod.ext_iff] using h

theorem UnsignedServiceAuthorizationV1.values (a b : UnsignedServiceAuthorizationV1)
    (h : a.members.map (fun entry ↦ entry.2.normal) = b.members.map fun entry ↦ entry.2.normal) :
    a = b := by
  simp only [members, List.map_cons, List.map_nil, Json.normal_str, Json.normal_int, List.cons.injEq,
    Json.str.injEq, Json.int_inj, true_and, and_true] at h
  obtain ⟨hauthority, hinvocation, hgrant, hrequest, hoperation, hpayment, hissued, hexpires⟩ := h
  obtain ⟨hurl, hdigest⟩ := Prod.ext_iff.1 (authorizedRequestJson_faithful
    (a := (a.url, a.requestSha256)) (b := (b.url, b.requestSha256)) hrequest)
  exact UnsignedServiceAuthorizationV1.ext hauthority hinvocation hgrant hurl hdigest hoperation
    (servicePaymentJson_faithful hpayment) hissued hexpires

theorem UnsignedServiceAuthorizationV1.faithful :
    Json.Faithful fun authorization : UnsignedServiceAuthorizationV1 ↦ .obj authorization.members :=
  .of_members serviceAuthorizationNames (by decide) (fun _ ↦ rfl) values

theorem SignedServiceAuthorizationV1.toJson_faithful : Json.Faithful SignedServiceAuthorizationV1.toJson :=
  .of_members (serviceAuthorizationNames ++ ["signature"]) (by decide) (fun _ ↦ rfl) fun a b h ↦ by
    cases a
    cases b
    obtain ⟨rfl, rfl⟩ := signed_values UnsignedServiceAuthorizationV1.values h
    rfl

def serviceAcknowledgementNames : List String :=
  ["version", "domain", "service", "invocationId", "authorizationDigest", "requestSha256", "received",
    "payment", "result", "fulfilledAt"]

/-- The payment part of an acknowledgement. -/
theorem settledPaymentJson_faithful : Json.Faithful fun payment : Option String × String × String × String ↦
    .obj [("transaction", Json.orNull .str payment.1), ("asset", .str payment.2.1),
      ("payTo", .str payment.2.2.1), ("amountAtomic", .str payment.2.2.2)] :=
  .of_members ["transaction", "asset", "payTo", "amountAtomic"] (by decide) (fun _ ↦ rfl) fun a b h ↦ by
    simpa [Prod.ext_iff] using h

/-- The result part of an acknowledgement. -/
theorem returnedResultJson_faithful : Json.Faithful fun result : ℤ × String × ℤ ↦
    .obj [("httpStatus", .int result.1), ("contentType", .str "application/json"),
      ("sha256", .str result.2.1), ("bytes", .int result.2.2)] :=
  .of_members ["httpStatus", "contentType", "sha256", "bytes"] (by decide) (fun _ ↦ rfl) fun a b h ↦ by
    simpa [Prod.ext_iff] using h

theorem UnsignedServiceAcknowledgementV1.values (a b : UnsignedServiceAcknowledgementV1)
    (h : a.members.map (fun entry ↦ entry.2.normal) = b.members.map fun entry ↦ entry.2.normal) :
    a = b := by
  simp only [members, List.map_cons, List.map_nil, Json.normal_str, Json.normal_int, List.cons.injEq,
    Json.str.injEq, Json.int_inj, ExactOperationV1.normal_toJson, true_and, and_true] at h
  obtain ⟨hservice, hinvocation, hdigest, hrequest, hreceived, hpayment, hresult, hfulfilled⟩ := h
  have hpaid := settledPaymentJson_faithful
    (a := (a.transaction, a.asset, a.payTo, a.amountAtomic))
    (b := (b.transaction, b.asset, b.payTo, b.amountAtomic)) hpayment
  have hreturned := returnedResultJson_faithful (a := (a.httpStatus, a.sha256, a.bytes))
    (b := (b.httpStatus, b.sha256, b.bytes)) hresult
  simp only [Prod.mk.injEq] at hpaid hreturned
  obtain ⟨htransaction, hasset, hpayTo, hamount⟩ := hpaid
  obtain ⟨hstatus, hsha256, hbytes⟩ := hreturned
  exact UnsignedServiceAcknowledgementV1.ext hservice hinvocation hdigest hrequest hreceived htransaction
    hasset hpayTo hamount hstatus hsha256 hbytes hfulfilled

theorem UnsignedServiceAcknowledgementV1.faithful :
    Json.Faithful fun acknowledgement : UnsignedServiceAcknowledgementV1 ↦ .obj acknowledgement.members :=
  .of_members serviceAcknowledgementNames (by decide) (fun _ ↦ rfl) values

theorem SignedServiceAcknowledgementV1.toJson_faithful :
    Json.Faithful SignedServiceAcknowledgementV1.toJson :=
  .of_members (serviceAcknowledgementNames ++ ["signature"]) (by decide) (fun _ ↦ rfl) fun a b h ↦ by
    cases a
    cases b
    obtain ⟨rfl, rfl⟩ := signed_values UnsignedServiceAcknowledgementV1.values h
    rfl

/-! ## Artifacts of a bundle -/

theorem authorizationRequestJson_faithful :
    Json.Faithful fun signed : AuthorizationRequestV2 × AgentRequestSignature ↦
      authorizationRequestJson signed.1 signed.2 :=
  .of_members ["request", "agentSignature"] (by decide) (fun _ ↦ rfl) fun a b h ↦ by
    simpa [Prod.ext_iff] using h

theorem outboundRequestJson_faithful : Json.Faithful outboundRequestJson :=
  .of_members ["method", "url", "contentType", "body", "sha256"] (by decide) (fun _ ↦ rfl) fun a b h ↦ by
    simpa [PaidRequest.ext_iff] using h

theorem requirementJson_faithful : Json.Faithful requirementJson :=
  .of_members ["protocol", "x402Version", "acceptsIndex", "scheme", "network", "asset", "payTo",
    "amountAtomic", "feePayer", "maxTimeoutSeconds", "resourceUrl"] (by decide) (fun _ ↦ rfl)
    fun a b h ↦ by simpa [PaymentRequirement.ext_iff] using h

theorem settlementJson_faithful : Json.Faithful settlementJson :=
  .of_members ["transactionId", "slot", "facilitatorReportedTransaction", "confirmedAt"] (by decide)
    (fun _ ↦ rfl) fun a b h ↦ by simpa [ConfirmedSettlement.ext_iff] using h

theorem EvidenceResult.toJson_faithful : Json.Faithful EvidenceResult.toJson :=
  .of_members ["httpStatus", "contentType", "bodyBase64", "bytes", "sha256"] (by decide) (fun _ ↦ rfl)
    fun a b h ↦ by simpa [EvidenceResult.ext_iff] using h

theorem attemptJson_faithful : Json.Faithful attemptJson :=
  .of_tagged_members (fun attempt ↦ attempt.transactionBase64.isSome)
    (fun sent ↦ ["protocol", "scheme", "settlementProfile", "network", "payer", "payerSignature",
      "feePayer", "asset", "payTo", "amountAtomic", "blockhash", "lastValidBlockHeight", "resourceUrl",
      "requestSha256"] ++ (if sent then ["transactionBase64"] else []) ++ ["preparedAt"])
    (by decide) (by decide)
    (fun attempt ↦ by cases hsent : attempt.transactionBase64 <;> simp)
    fun a b htag h ↦ by
      cases ha : a.transactionBase64 <;> cases hb : b.transactionBase64 <;> simp [ha, hb] at htag <;>
        simpa [ha, hb, PaymentAttempt.ext_iff] using h

theorem EvidenceDigests.faithful :
    Json.Faithful fun digests : EvidenceDigests ↦ .obj digests.members :=
  .of_tagged_members (fun digests ↦ digests.service.isSome)
    (fun exchanged ↦ ["purchasePermit", "authorizationRequest", "operation", "authorityDecision",
      "outboundRequest", "paymentRequirement", "paymentAttempt", "settlement", "result"] ++
        if exchanged then ["serviceAuthorization", "serviceAcknowledgement"] else [])
    (by decide) (by decide)
    (fun digests ↦ by cases hservice : digests.service <;> simp [members, ServiceDigests.members, hservice])
    fun a b htag h ↦ by
      cases ha : a.service <;> cases hb : b.service <;> simp [ha, hb] at htag <;>
        simpa [members, ServiceDigests.members, ha, hb, EvidenceDigests.ext_iff,
          ServiceDigests.ext_iff] using h

def manifestNames : List String :=
  ["version", "domain", "authority", "issuedAt", "settlementProfile", "grantId", "invocationId",
    "purchaseState", "decision", "reasonCodes", "digests"]

theorem UnsignedEvidenceManifest.values (a b : UnsignedEvidenceManifest)
    (h : a.members.map (fun entry ↦ entry.2.normal) = b.members.map fun entry ↦ entry.2.normal) :
    a = b := by
  simp only [members, List.map_cons, List.map_nil, Json.normal_str, Json.normal_int, List.cons.injEq,
    Json.str.injEq, Json.int_inj, Json.normal_strings, EvidenceDigests.faithful.iff, true_and,
    and_true] at h
  obtain ⟨-, hauthority, hissued, hprofile, hgrant, hinvocation, hstate, hdecision, hcodes, hdigests⟩ := h
  exact UnsignedEvidenceManifest.ext hauthority hissued hprofile hgrant hinvocation hstate hdecision
    hcodes hdigests

theorem UnsignedEvidenceManifest.faithful :
    Json.Faithful fun manifest : UnsignedEvidenceManifest ↦ .obj manifest.members :=
  .of_members manifestNames (by decide) (fun _ ↦ rfl) values

end Evidence

end VirtualHaibin
