import VirtualHaibin.Evidence.Tamper

/-!
# Exact parsing

An accepted bundle is the value that was supplied, up to the order of members: nothing is dropped,
defaulted or coerced at any level.  So every text the verifier hashes or checks a signature over is
the one of the bytes supplied, also where it is an object without its `signature` member.
-/

namespace VirtualHaibin

open Foundation

/-- RFC 8785: the order of members does not show. -/
def Platform.CanonicalizesValues (platform : Platform) : Prop :=
  ∀ ⦃a b : Json⦄, a.normal = b.normal → platform.canonicalize a = platform.canonicalize b

namespace Evidence

open Checked Schema Mandate Payments

/-! ## Distinct member names -/

theorem distinct_orNull {α : Type} {encode : α → Json} (h : ∀ a, (encode a).Distinct) (value : Option α) :
    (Json.orNull encode value).Distinct := by
  cases value with
  | none => trivial
  | some a => exact h a

theorem distinct_strings (texts : List String) : (Json.arr (texts.map .str)).Distinct :=
  Json.distinctItems_iff.2 fun item hitem ↦ by
    obtain ⟨text, -, rfl⟩ := List.mem_map.1 hitem
    simp [Json.Distinct]

@[simp] theorem distinct_orNull_str (value : Option String) : (Json.orNull .str value).Distinct :=
  distinct_orNull (fun _ ↦ by simp [Json.Distinct]) value

@[simp] theorem distinct_orNull_num (value : Option Number) : (Json.orNull .num value).Distinct :=
  distinct_orNull (fun _ ↦ by simp [Json.Distinct]) value

@[simp] theorem distinct_str (value : String) : (Json.str value).Distinct := trivial

@[simp] theorem distinct_int (value : ℤ) : (Json.int value).Distinct := trivial

@[simp] theorem distinct_bool (value : Bool) : (Json.bool value).Distinct := trivial

/-- Distinct names by computation, the values one by one. -/
theorem distinct_of_names {members : List (String × Json)} (names : List String)
    (hnames : members.map Prod.fst = names) (hnodup : names.Nodup) (h : ∀ entry ∈ members, entry.2.Distinct) :
    (Json.obj members).Distinct :=
  Json.distinct_obj.2 ⟨hnames ▸ hnodup, h⟩

theorem signatureJson_distinct (signature : String) : (signatureJson signature).Distinct :=
  distinct_of_names ["algorithm", "signature"] rfl (by decide) (by simp)

theorem operation_distinct (operation : ExactOperationV1) : operation.toJson.Distinct :=
  distinct_of_names OPERATION_FIELDS rfl (by decide) (by simp)

theorem permit_distinct (permit : SignedPurchasePermitV2) : permit.toJson.Distinct :=
  distinct_of_names PERMIT_FIELDS rfl (by decide)
    (by simp [UnsignedPurchasePermitV2.members, signatureJson_distinct, operation_distinct])

theorem request_distinct (request : AuthorizationRequestV2) : request.toJson.Distinct :=
  distinct_of_names REQUEST_FIELDS_V2 rfl (by decide)
    (by simp [AuthorizationRequestV2.members, operation_distinct])

theorem authorizationRequestJson_distinct (request : AuthorizationRequestV2) (signature : AgentRequestSignature) :
    (authorizationRequestJson request signature).Distinct :=
  distinct_of_names ["request", "agentSignature"] rfl (by decide)
    (by simp [request_distinct, AgentRequestSignature.toJson, signatureJson_distinct])

theorem receipt_distinct (receipt : SignedAuthorizationReceipt) : receipt.toJson.Distinct :=
  distinct_of_names RECEIPT_FIELDS rfl (by decide)
    (by simp [UnsignedAuthorizationReceiptV2.members, signatureJson_distinct, operation_distinct,
      distinct_strings])

theorem outboundRequestJson_distinct (request : PaidRequest) : (outboundRequestJson request).Distinct :=
  distinct_of_names ["method", "url", "contentType", "body", "sha256"] rfl (by decide) (by simp)

theorem requirementJson_distinct (requirement : PaymentRequirement) : (requirementJson requirement).Distinct :=
  distinct_of_names REQUIREMENT_FIELDS rfl (by decide) (by simp)

theorem attemptJson_distinct (attempt : PaymentAttempt) : (attemptJson attempt).Distinct := by
  unfold attemptJson
  cases attempt.transactionBase64 with
  | none => exact distinct_of_names ATTEMPT_FIELDS rfl (by decide) (by simp)
  | some transaction =>
    exact distinct_of_names (ATTEMPT_FIELDS.take 14 ++ ["transactionBase64", "preparedAt"]) rfl (by decide)
      (by simp)

theorem settlementJson_distinct (settlement : ConfirmedSettlement) : (settlementJson settlement).Distinct :=
  distinct_of_names ["transactionId", "slot", "facilitatorReportedTransaction", "confirmedAt"] rfl (by decide)
    (by simp)

theorem result_distinct (result : EvidenceResult) : result.toJson.Distinct :=
  distinct_of_names ["httpStatus", "contentType", "bodyBase64", "bytes", "sha256"] rfl (by decide) (by simp)

theorem serviceAuthorization_distinct (authorization : SignedServiceAuthorizationV1) :
    authorization.toJson.Distinct := by
  have hrequest : (Json.obj [("method", .str "POST"), ("url", .str authorization.url),
      ("contentType", .str "application/json"), ("requestSha256", .str authorization.requestSha256)]).Distinct :=
    distinct_of_names ["method", "url", "contentType", "requestSha256"] rfl (by decide) (by simp)
  have hpayment : (Json.obj [("network", .str authorization.payment.network),
      ("asset", .str authorization.payment.asset), ("payTo", .str authorization.payment.payTo),
      ("amountAtomic", .str authorization.payment.amountAtomic)]).Distinct :=
    distinct_of_names ["network", "asset", "payTo", "amountAtomic"] rfl (by decide) (by simp)
  exact distinct_of_names ["version", "domain", "authority", "invocationId", "grantId", "request",
    "operationDigest", "payment", "issuedAt", "expiresAt", "signature"] rfl (by decide)
    (by simp [UnsignedServiceAuthorizationV1.members, hrequest, hpayment, signatureJson_distinct])

theorem serviceAcknowledgement_distinct (acknowledgement : SignedServiceAcknowledgementV1) :
    acknowledgement.toJson.Distinct := by
  have hpayment : (Json.obj [("transaction", Json.orNull .str acknowledgement.transaction),
      ("asset", .str acknowledgement.asset), ("payTo", .str acknowledgement.payTo),
      ("amountAtomic", .str acknowledgement.amountAtomic)]).Distinct :=
    distinct_of_names ["transaction", "asset", "payTo", "amountAtomic"] rfl (by decide) (by simp)
  have hresult : (Json.obj [("httpStatus", .int acknowledgement.httpStatus),
      ("contentType", .str "application/json"), ("sha256", .str acknowledgement.sha256),
      ("bytes", .int acknowledgement.bytes)]).Distinct :=
    distinct_of_names ["httpStatus", "contentType", "sha256", "bytes"] rfl (by decide) (by simp)
  exact distinct_of_names ["version", "domain", "service", "invocationId", "authorizationDigest",
    "requestSha256", "received", "payment", "result", "fulfilledAt", "signature"] rfl (by decide)
    (by simp [UnsignedServiceAcknowledgementV1.members, operation_distinct, hpayment, hresult,
      signatureJson_distinct])

theorem digests_distinct (digests : EvidenceDigests) : (Json.obj digests.members).Distinct := by
  unfold EvidenceDigests.members
  cases digests.service with
  | none => exact distinct_of_names DIGEST_FIELDS rfl (by decide) (by simp)
  | some service =>
    exact distinct_of_names (DIGEST_FIELDS ++ SERVICE_FIELDS) rfl (by decide) (by simp [ServiceDigests.members])

theorem manifest_distinct (manifest : SignedEvidenceManifest) : manifest.toJson.Distinct :=
  distinct_of_names MANIFEST_FIELDS rfl (by decide)
    (by simp [UnsignedEvidenceManifest.members, distinct_strings, digests_distinct, signatureJson_distinct])

theorem EvidenceBundle.toJson_distinct (bundle : EvidenceBundle) : bundle.toJson.Distinct := by
  have henvironment : (Json.obj [("settlementProfile", .str bundle.settlementProfile)]).Distinct :=
    distinct_of_names ["settlementProfile"] rfl (by decide) (by simp)
  have hidentifiers : (Json.obj [("grantId", .str bundle.grantId),
      ("invocationId", .str bundle.invocationId)]).Distinct :=
    distinct_of_names ["grantId", "invocationId"] rfl (by decide) (by simp)
  unfold EvidenceBundle.toJson
  cases bundle.service with
  | none =>
    exact distinct_of_names BUNDLE_FIELDS rfl (by decide)
      (by simp [henvironment, hidentifiers, permit_distinct, authorizationRequestJson_distinct,
        distinct_orNull receipt_distinct, distinct_orNull outboundRequestJson_distinct,
        distinct_orNull requirementJson_distinct, distinct_orNull attemptJson_distinct,
        distinct_orNull settlementJson_distinct, distinct_orNull result_distinct, manifest_distinct])
  | some service =>
    exact distinct_of_names (BUNDLE_FIELDS.take 12 ++ SERVICE_FIELDS ++ ["manifest"]) rfl (by decide)
      (by simp [ServiceExchange.members, henvironment, hidentifiers, permit_distinct,
        authorizationRequestJson_distinct, distinct_orNull receipt_distinct,
        distinct_orNull outboundRequestJson_distinct, distinct_orNull requirementJson_distinct,
        distinct_orNull attemptJson_distinct, distinct_orNull settlementJson_distinct,
        distinct_orNull result_distinct, distinct_orNull serviceAuthorization_distinct,
        distinct_orNull serviceAcknowledgement_distinct, manifest_distinct])

/-! ## The bundle -/

/-- The JSON value behind an untrusted bundle, unless its text is none. -/
def BundleInput.json (platform : Platform) : BundleInput → Option Json
  | .value given => some given
  | .text given => platform.parseJson given

/-- An accepted value and the bundle it was parsed to. -/
structure ParsedExactly (platform : Platform) (value : Json) (bundle : EvidenceBundle) : Prop where
  /-- The same members with the same values at every level. -/
  same : value.Same bundle.toJson
  fits : bundle.Fits
  version : value.at? ["version"] = some (.int (versionNumber bundle.service))
  manifestVersion : value.at? ["manifest", "version"] = some (.int (versionNumber bundle.service))
  service : ∀ name ∈ SERVICE_FIELDS, (value.at? [name]).isSome = bundle.service.isSome
  again : parseEvidenceValue bundle.toJson = .ok bundle
  /-- Every part has the text it was supplied with, also without its signature or another member. -/
  texts : value.Distinct → ∀ path name, Option.Rel
    (fun part parsed ↦ platform.canonicalize part = platform.canonicalize parsed ∧
      platform.canonicalize (part.without name) = platform.canonicalize (parsed.without name))
    (value.at? path) (bundle.toJson.at? path)

theorem Same.at?_int {value : Json} {other : Json} (h : value.Same other) {path : List String} {number : ℤ}
    (hother : other.at? path = some (.int number)) : value.at? path = some (.int number) := by
  rcases Json.optionRel_iff.1 (h.at? path) with ⟨-, hnone⟩ | ⟨part, found, hpart, hfound, hsame⟩
  · cases hnone.symm.trans hother
  · cases hfound.symm.trans hother
    cases hsame
    exact hpart

theorem parsedExactly {platform : Platform} (hcanonical : platform.CanonicalizesValues) {value : Json}
    {bundle : EvidenceBundle} (h : parseEvidenceValue value = .ok bundle) : ParsedExactly platform value bundle := by
  obtain ⟨hfits, hsame⟩ := parseEvidenceValue_accepted h
  have hversion : bundle.toJson.at? ["version"] = some (.int (versionNumber bundle.service)) := rfl
  have hmanifest : bundle.toJson.at? ["manifest", "version"] =
      some (.int (versionNumber bundle.manifest.digests.service)) := by
    unfold EvidenceBundle.toJson
    cases bundle.service <;> rfl
  have hnumber : versionNumber bundle.manifest.digests.service = versionNumber bundle.service := by
    rw [versionNumber, versionNumber, hfits.version]
  have hservice : ∀ name ∈ SERVICE_FIELDS, (bundle.toJson.at? [name]).isSome = bundle.service.isSome := by
    unfold EvidenceBundle.toJson
    cases bundle.service <;> intro name hname <;> fin_cases hname <;> rfl
  exact {
    same := hsame
    fits := hfits
    version := Same.at?_int hsame hversion
    manifestVersion := Same.at?_int hsame (hnumber ▸ hmanifest)
    service := fun name hname ↦ by
      rw [← hservice name hname]
      rcases Json.optionRel_iff.1 (hsame.at? [name]) with ⟨hnone, hnone'⟩ | ⟨part, found, hpart, hfound, -⟩
      · rw [hnone, hnone']
      · rw [hpart, hfound]
        rfl
    again := parseEvidenceValue_toJson hfits
    texts := fun hdistinct path name ↦ by
      rcases Json.optionRel_iff.1 (hsame.parts_normal hdistinct bundle.toJson_distinct path name) with
        ⟨hnone, hnone'⟩ | ⟨part, parsed, hpart, hparsed, hnormal, hwithout⟩
      · rw [hnone, hnone']
        exact .none
      · rw [hpart, hparsed]
        exact .some ⟨hcanonical hnormal, hcanonical hwithout⟩ }

/-- Whatever is accepted is kept whole, and a value that is not the JSON of a bundle within the
bounds, member by member, is rejected. -/
theorem parseEvidenceBundle_exact {platform : Platform} (hcanonical : platform.CanonicalizesValues)
    {input : BundleInput} {value : Json} (hvalue : input.json platform = some value) :
    (∀ bundle, parseEvidenceBundle platform input = .ok bundle → ParsedExactly platform value bundle) ∧
    ((∀ bundle : EvidenceBundle, bundle.Fits → ¬ value.Same bundle.toJson) →
      ∃ error, parseEvidenceBundle platform input = .error error) := by
  have hparsed (bundle : EvidenceBundle) (h : parseEvidenceBundle platform input = .ok bundle) :
      parseEvidenceValue value = .ok bundle := by
    cases input with
    | value given =>
      obtain rfl := Option.some.inj hvalue
      exact h
    | text text =>
      simp only [parseEvidenceBundle, guardThat_bind_eq_ok, required_bind_eq_ok] at h
      obtain ⟨-, found, hfound, h⟩ := h
      obtain rfl := Option.some.inj (hfound.symm.trans hvalue)
      exact h
  refine ⟨fun bundle h ↦ parsedExactly hcanonical (hparsed bundle h), fun hnone ↦ ?_⟩
  cases hparse : parseEvidenceBundle platform input with
  | error error => exact ⟨error, rfl⟩
  | ok bundle =>
    obtain ⟨hfits, hsame⟩ := parseEvidenceValue_accepted (hparsed bundle hparse)
    exact absurd hsame (hnone bundle hfits)

end Evidence

theorem Recording.canonicalizesValues (recording : Recording) : recording.platform.CanonicalizesValues :=
  fun a b h ↦ by
    show a.canonical = b.canonical
    rw [Json.canonical, Json.canonical, h]

namespace Evidence

theorem parseEvidenceBundle_exact_failed :
    ParsedExactly Sample.platform Sample.failed.toJson Sample.failed :=
  (parseEvidenceBundle_exact (Recording.canonicalizesValues Sample.recording)
    (show BundleInput.json Sample.platform (.value Sample.failed.toJson) = some Sample.failed.toJson from rfl)).1 _
    (parseEvidenceValue_toJson Sample.failed_fits)

end Evidence

end VirtualHaibin
