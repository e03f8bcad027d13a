import VirtualHaibin.Evidence.Tamper

/-!
# Verified permits

Verification reads the known members of a candidate and nothing else, and the permit it returns is
made of exactly those.  SHA-256 and Ed25519 enter through the two events that would break them: a
collision of two texts, and a signature over one text that verifies over another.
-/

namespace VirtualHaibin

/-- Two texts with one digest. -/
def Platform.Collides (platform : Platform) (text other : String) : Prop :=
  text ≠ other ∧ platform.sha256Hex text = platform.sha256Hex other

/-- A signature made over one text that verifies over another. -/
def Platform.Forges (platform : Platform) (key text other : String) : Prop :=
  text ≠ other ∧ platform.verifySignature key (platform.signBytes key text) other = true

namespace Mandate

open Foundation Foundation.Checked

variable {platform : Platform}

def PERMIT_FIELDS : List String :=
  ["version", "domain", "grantId", "issuer", "authorizedAgent", "service", "capability", "network", "mint",
    "recipient", "maxPerCallAtomic", "maxTotalAtomic", "issuedAt", "expiresAt", "subdelegation", "operation",
    "signature"]

/-- The known members decide the outcome, the reason of a failure included. -/
theorem verifyPurchasePermitV2_congr {record other : List (String × Json)}
    (h : ∀ name ∈ PERMIT_FIELDS, Json.member record name = Json.member other name) :
    verifyPurchasePermitV2 platform (.obj record) = verifyPurchasePermitV2 platform (.obj other) := by
  have htext (name : String) (hname : name ∈ PERMIT_FIELDS) : text record name = text other name := by
    rw [text, text, h name hname]
  have hinteger (name : String) (hname : name ∈ PERMIT_FIELDS) :
      safeInteger record name = safeInteger other name := by
    rw [safeInteger, safeInteger, h name hname]
  have hunsigned : validateUnsignedPurchasePermitV2 platform (.obj record) =
      validateUnsignedPurchasePermitV2 platform (.obj other) := by
    simp only [validateUnsignedPurchasePermitV2, object?, required_some, ok_bind,
      hinteger "version" (by decide), h "version" (by decide), htext "domain" (by decide),
      htext "grantId" (by decide), htext "issuer" (by decide), htext "authorizedAgent" (by decide),
      htext "service" (by decide), htext "capability" (by decide), htext "network" (by decide),
      htext "mint" (by decide), htext "recipient" (by decide), htext "maxPerCallAtomic" (by decide),
      htext "maxTotalAtomic" (by decide), hinteger "issuedAt" (by decide), hinteger "expiresAt" (by decide),
      h "subdelegation" (by decide), h "operation" (by decide)]
  simp only [verifyPurchasePermitV2, object?, required_some, ok_bind, hunsigned,
    h "signature" (by decide)]

theorem verifyPurchasePermitV2_of_version {record : List (String × Json)}
    (h : Json.member record "version" ≠ some (.int 2)) (permit : SignedPurchasePermitV2) :
    verifyPurchasePermitV2 platform (.obj record) ≠ .ok permit := by
  intro hverified
  obtain ⟨carried, heq, hcarries, -⟩ := verifyPurchasePermitV2_eq_ok.1 hverified
  obtain rfl := Json.obj.inj heq
  exact h hcarries.version_eq

/-- The versions are part of the signed line. -/
theorem canonicalizeUnsignedPurchasePermit_version (old : UnsignedPurchasePermitV1)
    (permit : UnsignedPurchasePermitV2) :
    canonicalizeUnsignedPurchasePermitV1 platform old ≠ canonicalizeUnsignedPurchasePermit platform permit := by
  intro h
  have hkind := (Message.kind_and_content_eq (a := .unsignedPermitV1 old) (b := .unsignedPermitV2 permit) h).1
  cases hkind

/-- A digest identifies the permit, its signature included, unless SHA-256 collides. -/
theorem computePermitDigest_eq (hcanonical : platform.CanonicalizeInjective) {a b : SignedPurchasePermitV2}
    (h : computePermitDigest platform a = computePermitDigest platform b) :
    a = b ∨ platform.Collides ((Message.permitDigestV2 a).text platform)
      ((Message.permitDigestV2 b).text platform) := by
  by_cases htext : (Message.permitDigestV2 a).text platform = (Message.permitDigestV2 b).text platform
  · exact .inl (Message.permitDigestV2.inj (Message.text_injective hcanonical htext))
  · exact .inr ⟨htext, h⟩

/-- What the verification of permits binds. -/
structure VerifiesExactly (platform : Platform) : Prop where
  /-- The known members pass their checks and the issuer signed exactly them; the result has those
  members and the signature. -/
  accepted : ∀ candidate permit, verifyPurchasePermitV2 platform candidate = .ok permit ↔
    ∃ record, candidate = .obj record ∧ CarriesPermit record permit.toUnsignedPurchasePermitV2 ∧
      CarriesSignature record permit.signature ∧ permit.Verified platform
  known : ∀ record other, (∀ name ∈ PERMIT_FIELDS, Json.member record name = Json.member other name) →
    verifyPurchasePermitV2 platform (.obj record) = verifyPurchasePermitV2 platform (.obj other)
  stable : ∀ candidate permit, verifyPurchasePermitV2 platform candidate = .ok permit →
    verifyPurchasePermitV2 platform permit.toJson = .ok permit
  digested : ∀ candidate permit candidate' permit', verifyPurchasePermitV2 platform candidate = .ok permit →
    verifyPurchasePermitV2 platform candidate' = .ok permit' →
    computePermitDigest platform permit = computePermitDigest platform permit' →
      permit = permit' ∨ platform.Collides ((Message.permitDigestV2 permit).text platform)
        ((Message.permitDigestV2 permit').text platform)
  versionOne : ∀ record permit, Json.member record "version" = some (.int 1) →
    verifyPurchasePermitV2 platform (.obj record) ≠ .ok permit
  signedVersionOne : ∀ old candidate permit, verifyPurchasePermitV2 platform candidate = .ok permit →
    permit.signature = platform.signBytes permit.issuer (canonicalizeUnsignedPurchasePermitV1 platform old) →
      platform.Forges permit.issuer (canonicalizeUnsignedPurchasePermitV1 platform old)
        (canonicalizeUnsignedPurchasePermit platform permit.toUnsignedPurchasePermitV2)

theorem verifyPurchasePermitV2_exact (hcanonical : platform.CanonicalizeInjective) : VerifiesExactly platform where
  accepted _ _ := verifyPurchasePermitV2_eq_ok
  known _ _ := verifyPurchasePermitV2_congr
  stable _ _ h := verifyPurchasePermitV2_toJson (verifyPurchasePermitV2_verified h)
  digested _ _ _ _ _ _ h := computePermitDigest_eq hcanonical h
  versionOne _ permit h := by
    refine verifyPurchasePermitV2_of_version ?_ permit
    simp [h]
  signedVersionOne old candidate permit h hsignature := by
    refine ⟨canonicalizeUnsignedPurchasePermit_version old _, ?_⟩
    rw [← hsignature]
    exact (verifyPurchasePermitV2_verified h).signed

/-- A member outside the signed fields changes nothing. -/
theorem verifyPurchasePermitV2_exact_annotated :
    verifyPurchasePermitV2 Evidence.Sample.platform
      (.obj (("note", .str "unsigned") :: (Evidence.Sample.permit.toUnsignedPurchasePermitV2.members ++
        [("signature", signatureJson Evidence.Sample.permit.signature)]))) =
      .ok Evidence.Sample.permit := by
  have hexact : VerifiesExactly Evidence.Sample.platform :=
    verifyPurchasePermitV2_exact (Recording.canonicalizeInjective Evidence.Sample.recording)
  rw [← verifyPurchasePermitV2_toJson Evidence.Sample.permit_verified]
  refine hexact.known _ _ fun name hname ↦ ?_
  have hne : name ≠ "note" := by
    rintro rfl
    exact absurd hname (by decide)
  simp [Json.member, List.find?_cons, Ne.symm hne]

end Mandate

end VirtualHaibin
