import VirtualHaibin.Mandate.Permit

/-!
# Authorization requests

Version 2 of the request an agent signs with its identity key.  Validation is structural;
whether the values are authorized is decided against the permit.
-/

namespace VirtualHaibin.Mandate

open Foundation Foundation.Checked

def AUTHORIZATION_REQUEST_PROTOCOL : String := "virtual-haibin/authorization-request"

def REQUEST_FIELDS_V2 : List String :=
  ["protocol", "version", "audience", "grantId", "permitDigest", "invocationId", "service",
    "capability", "network", "mint", "recipient", "amountAtomic", "issuedAt", "operation"]

/-- `version` is 2 in every value of this type. -/
@[ext] structure AuthorizationRequestV2 where
  protocol : String
  audience : String
  grantId : String
  permitDigest : String
  invocationId : String
  service : String
  capability : String
  network : String
  mint : String
  recipient : String
  amountAtomic : String
  issuedAt : ℤ
  operation : ExactOperationV1
  deriving DecidableEq

/-- The algorithm is `ed25519` in every value of this type. -/
structure AgentRequestSignature where
  signature : String
  deriving DecidableEq

def AgentRequestSignature.toJson (signature : AgentRequestSignature) : Json :=
  signatureJson signature.signature

def isBoundedString (value : String) : Bool :=
  0 < Text.utf16Length value && Text.utf16Length value ≤ 256

namespace AuthorizationRequestV2

def members (request : AuthorizationRequestV2) : List (String × Json) :=
  [("protocol", .str request.protocol), ("version", .int 2), ("audience", .str request.audience),
    ("grantId", .str request.grantId), ("permitDigest", .str request.permitDigest),
    ("invocationId", .str request.invocationId), ("service", .str request.service),
    ("capability", .str request.capability), ("network", .str request.network),
    ("mint", .str request.mint), ("recipient", .str request.recipient),
    ("amountAtomic", .str request.amountAtomic), ("issuedAt", .int request.issuedAt),
    ("operation", request.operation.toJson)]

def toJson (request : AuthorizationRequestV2) : Json := .obj request.members

/-- What `validateAuthorizationRequestV2` establishes of the request it returns. -/
structure Valid (request : AuthorizationRequestV2) : Prop where
  protocol_eq : request.protocol = AUTHORIZATION_REQUEST_PROTOCOL
  audience_pattern : IDENTIFIER_PATTERN request.audience = true
  grantId_pattern : IDENTIFIER_PATTERN request.grantId = true
  invocationId_pattern : IDENTIFIER_PATTERN request.invocationId = true
  permitDigest_pattern : Text.isDigest request.permitDigest = true
  service_bounded : isBoundedString request.service = true
  capability_bounded : isBoundedString request.capability = true
  network_bounded : isBoundedString request.network = true
  mint_bounded : isBoundedString request.mint = true
  recipient_bounded : isBoundedString request.recipient = true
  amount_canonical : isCanonicalAtomicAmount request.amountAtomic = true
  issuedAt_safe : isSafeTimestamp request.issuedAt = true
  operation_valid : request.operation.Valid

end AuthorizationRequestV2

/-- Structural validation of an untrusted request; the failure is the message. -/
def validateAuthorizationRequestV2 (candidate : Json) : Except String AuthorizationRequestV2 := do
  let record ← required (object? (some candidate)) "authorizationRequest must be a JSON object."
  match unknownMember record REQUEST_FIELDS_V2 with
  | some unknownField => .error s!"authorizationRequest has unexpected field {Text.quote unknownField}."
  | none =>
    guardThat (text record "protocol" = some AUTHORIZATION_REQUEST_PROTOCOL &&
      safeInteger record "version" = some 2) "Unsupported authorization request protocol/version."
    let audience ← required ((text record "audience").filter IDENTIFIER_PATTERN)
      "authorizationRequest.audience must be a non-empty identifier."
    let grantId ← required ((text record "grantId").filter IDENTIFIER_PATTERN)
      "authorizationRequest.grantId must be a non-empty identifier."
    let invocationId ← required ((text record "invocationId").filter IDENTIFIER_PATTERN)
      "authorizationRequest.invocationId must be a non-empty identifier."
    let permitDigest ← required ((text record "permitDigest").filter Text.isDigest)
      "authorizationRequest.permitDigest must be a lowercase hex SHA-256 digest."
    let service ← required ((text record "service").filter isBoundedString)
      "authorizationRequest.service must be a non-empty string."
    let capability ← required ((text record "capability").filter isBoundedString)
      "authorizationRequest.capability must be a non-empty string."
    let network ← required ((text record "network").filter isBoundedString)
      "authorizationRequest.network must be a non-empty string."
    let mint ← required ((text record "mint").filter isBoundedString)
      "authorizationRequest.mint must be a non-empty string."
    let recipient ← required ((text record "recipient").filter isBoundedString)
      "authorizationRequest.recipient must be a non-empty string."
    let amountAtomic ← required ((text record "amountAtomic").filter isCanonicalAtomicAmount)
      "authorizationRequest.amountAtomic must be a canonical integer string."
    let issuedAt ← required ((safeInteger record "issuedAt").filter isSafeTimestamp)
      "authorizationRequest.issuedAt must be a positive safe-integer Unix millisecond timestamp."
    let operation ← (validateExactOperation (Json.member record "operation")).mapError
      fun message ↦ s!"authorizationRequest.{message}"
    return {
      protocol := AUTHORIZATION_REQUEST_PROTOCOL, audience, grantId, permitDigest, invocationId,
      service, capability, network, mint, recipient, amountAtomic, issuedAt, operation }

theorem validateAuthorizationRequestV2_valid {candidate : Json} {request : AuthorizationRequestV2}
    (h : validateAuthorizationRequestV2 candidate = .ok request) : request.Valid := by
  unfold validateAuthorizationRequestV2 at h
  rw [required_bind_eq_ok] at h
  obtain ⟨record, -, h⟩ := h
  split at h
  · cases h
  · simp only [required_bind_eq_ok, guardThat_bind_eq_ok, mapError_bind_eq_ok, filter_eq_some,
      pure_eq_ok, Except.ok.injEq] at h
    obtain ⟨-, audience, ⟨-, haudience⟩, grantId, ⟨-, hgrantId⟩, invocationId, ⟨-, hinvocationId⟩,
      permitDigest, ⟨-, hpermitDigest⟩, service, ⟨-, hservice⟩, capability, ⟨-, hcapability⟩, network,
      ⟨-, hnetwork⟩, mint, ⟨-, hmint⟩, recipient, ⟨-, hrecipient⟩, amount, ⟨-, hamount⟩, issuedAt,
      ⟨-, hissuedAt⟩, operation, hoperation, rfl⟩ := h
    exact ⟨rfl, haudience, hgrantId, hinvocationId, hpermitDigest, hservice, hcapability, hnetwork,
      hmint, hrecipient, hamount, hissuedAt, validateExactOperation_valid hoperation⟩

/-- A valid request validates again from its own JSON, and to itself. -/
theorem validateAuthorizationRequestV2_toJson {request : AuthorizationRequestV2} (h : request.Valid) :
    validateAuthorizationRequestV2 request.toJson = .ok request := by
  obtain ⟨protocol, audience, grantId, permitDigest, invocationId, service, capability, network, mint,
    recipient, amount, issuedAt, operation⟩ := request
  obtain ⟨rfl, haudience, hgrantId, hinvocationId, hpermitDigest, hservice, hcapability, hnetwork, hmint,
    hrecipient, hamount, hissuedAt, hoperation⟩ := h
  simp only at *
  have hversion : (Number.finite 2).safeInteger? = some 2 := by decide
  have hissued : (Number.finite (issuedAt : ℚ)).safeInteger? = some issuedAt := by
    simp only [isSafeTimestamp, Bool.and_eq_true, decide_eq_true_eq] at hissuedAt
    exact safeInteger?_finite (by omega) (by omega)
  have hknown : unknownMember (AuthorizationRequestV2.members ⟨AUTHORIZATION_REQUEST_PROTOCOL, audience,
      grantId, permitDigest, invocationId, service, capability, network, mint, recipient, amount, issuedAt,
      operation⟩) REQUEST_FIELDS_V2 = none := by
    show REQUEST_FIELDS_V2.find? (fun name ↦ name ∉ REQUEST_FIELDS_V2) = none
    rw [List.find?_eq_none]
    exact fun name hname ↦ by simpa using hname
  simp only [validateAuthorizationRequestV2, AuthorizationRequestV2.toJson, object?, required_some, ok_bind,
    hknown]
  simp [AuthorizationRequestV2.members, text, safeInteger, Json.member, Json.int, hversion, hissued,
    Option.filter_some_pos, haudience, hgrantId, hinvocationId, hpermitDigest, hservice, hcapability, hnetwork,
    hmint, hrecipient, hamount, hissuedAt, validateExactOperation_toJson hoperation, Except.mapError]

/-- Domain-separated canonical JSON: the text an agent signs. -/
def canonicalizeAuthorizationRequest (platform : Platform) (request : AuthorizationRequestV2) : String :=
  AUTHORIZATION_REQUEST_PROTOCOL ++ ":v2\n" ++ platform.canonicalize request.toJson

/-- Verifies an untrusted signature over a validated request against the expected agent. -/
def verifyAuthorizationRequestSignature (platform : Platform) (request : AuthorizationRequestV2)
    (candidateSignature : Json) (expectedAgent : String) : Bool :=
  match object? (some candidateSignature) with
  | none => false
  | some record =>
    match (text record "signature").filter platform.isSignature with
    | none => false
    | some signature =>
      decide (text record "algorithm" = some "ed25519") && platform.isAddress expectedAgent &&
        platform.importsKey expectedAgent &&
        platform.verifySignature expectedAgent signature (canonicalizeAuthorizationRequest platform request)

theorem verifyAuthorizationRequestSignature_eq_true {platform : Platform}
    {request : AuthorizationRequestV2} {candidate : Json} {agent : String} :
    verifyAuthorizationRequestSignature platform request candidate agent = true ↔
      ∃ record signature, candidate = .obj record ∧ text record "signature" = some signature ∧
        platform.isSignature signature = true ∧ text record "algorithm" = some "ed25519" ∧
        platform.isAddress agent = true ∧ platform.importsKey agent = true ∧
        platform.verifySignature agent signature (canonicalizeAuthorizationRequest platform request) = true := by
  cases candidate with
  | obj record =>
    simp only [verifyAuthorizationRequestSignature, object?, Json.obj.injEq, exists_and_left,
      ↓existsAndEq, true_and]
    cases hsignature : text record "signature" with
    | none => simp
    | some signature =>
      cases hformat : platform.isSignature signature with
      | false => simp [Option.filter_some_neg hformat, hformat]
      | true => simp [Option.filter_some_pos hformat, hformat, and_assoc]
  | _ => simp [verifyAuthorizationRequestSignature, object?]

theorem verifyAuthorizationRequestSignature_toJson {platform : Platform} {request : AuthorizationRequestV2}
    {signature : AgentRequestSignature} {agent : String} :
    verifyAuthorizationRequestSignature platform request signature.toJson agent = true ↔
      platform.isSignature signature.signature = true ∧ platform.isAddress agent = true ∧
        platform.importsKey agent = true ∧ platform.verifySignature agent signature.signature
          (canonicalizeAuthorizationRequest platform request) = true := by
  rw [verifyAuthorizationRequestSignature_eq_true]
  simp [AgentRequestSignature.toJson, signatureJson, text, Json.member]

end VirtualHaibin.Mandate
