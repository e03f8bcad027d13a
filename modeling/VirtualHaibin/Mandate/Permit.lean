import VirtualHaibin.Mandate.Operation

/-!
# Purchase permits

Version 2 of the permit: the terms a human issuer signs, their structural validation in the
order of the source, the signed bytes, and the verification against the permit's own issuer key.
Unknown top-level members are never copied, so they are neither signed nor read.
-/

namespace VirtualHaibin.Mandate

open Foundation Foundation.Checked

def PURCHASE_PERMIT_DOMAIN : String := "virtual-haibin/purchase-permit"
def SUPPORTED_NETWORKS : List String := ["solana-payment-sandbox", "devnet"]

inductive PermitReasonCode where
  | INVALID_SCHEMA
  | UNSUPPORTED_VERSION
  | INVALID_DOMAIN
  | INVALID_GRANT_ID
  | INVALID_ISSUER
  | INVALID_AGENT
  | INVALID_SERVICE
  | INVALID_CAPABILITY
  | INVALID_NETWORK
  | INVALID_MINT
  | INVALID_RECIPIENT
  | INVALID_AMOUNT
  | INVALID_TIME_RANGE
  | INVALID_SUBDELEGATION
  | INVALID_OPERATION
  | INVALID_SIGNATURE
  deriving DecidableEq, Repr

def PermitReasonCode.name : PermitReasonCode → String
  | INVALID_SCHEMA => "INVALID_SCHEMA"
  | UNSUPPORTED_VERSION => "UNSUPPORTED_VERSION"
  | INVALID_DOMAIN => "INVALID_DOMAIN"
  | INVALID_GRANT_ID => "INVALID_GRANT_ID"
  | INVALID_ISSUER => "INVALID_ISSUER"
  | INVALID_AGENT => "INVALID_AGENT"
  | INVALID_SERVICE => "INVALID_SERVICE"
  | INVALID_CAPABILITY => "INVALID_CAPABILITY"
  | INVALID_NETWORK => "INVALID_NETWORK"
  | INVALID_MINT => "INVALID_MINT"
  | INVALID_RECIPIENT => "INVALID_RECIPIENT"
  | INVALID_AMOUNT => "INVALID_AMOUNT"
  | INVALID_TIME_RANGE => "INVALID_TIME_RANGE"
  | INVALID_SUBDELEGATION => "INVALID_SUBDELEGATION"
  | INVALID_OPERATION => "INVALID_OPERATION"
  | INVALID_SIGNATURE => "INVALID_SIGNATURE"

structure PermitFailure where
  reasonCode : PermitReasonCode
  message : String
  deriving DecidableEq

/-- `version` is 2 and `subdelegation` is false in every value of this type. -/
@[ext] structure UnsignedPurchasePermitV2 where
  domain : String
  grantId : String
  issuer : String
  authorizedAgent : String
  service : String
  capability : String
  network : String
  mint : String
  recipient : String
  maxPerCallAtomic : String
  maxTotalAtomic : String
  issuedAt : ℤ
  expiresAt : ℤ
  operation : ExactOperationV1
  deriving DecidableEq

/-- The algorithm is `ed25519` in every value of this type. -/
structure SignedPurchasePermitV2 extends UnsignedPurchasePermitV2 where
  signature : String
  deriving DecidableEq

def isGrantIdChar (c : Char) : Bool := c.isAlphanum || c = '_' || c = '.' || c = '-'
def isIdentifierChar (c : Char) : Bool := isGrantIdChar c || c = ':'

/-- `/^[A-Za-z0-9_.-]{1,128}$/` -/
def GRANT_ID_PATTERN (text : String) : Bool := Text.inClass isGrantIdChar 1 128 text

/-- `/^[A-Za-z0-9_.:-]{1,128}$/`, for services, capabilities and the identifiers of a request. -/
def IDENTIFIER_PATTERN (text : String) : Bool := Text.inClass isIdentifierChar 1 128 text

def isBase58PublicKey (platform : Platform) (value : String) : Bool :=
  value ≠ "" && platform.isAddress value

def isSafeTimestamp (value : ℤ) : Bool := 0 < value && value ≤ 9007199254740991

def isPositiveU64 (value : String) : Bool :=
  0 < Decimal.amount value && Decimal.amount value ≤ maxU64

namespace UnsignedPurchasePermitV2

def members (permit : UnsignedPurchasePermitV2) : List (String × Json) :=
  [("version", .int 2), ("domain", .str permit.domain), ("grantId", .str permit.grantId),
    ("issuer", .str permit.issuer), ("authorizedAgent", .str permit.authorizedAgent),
    ("service", .str permit.service), ("capability", .str permit.capability),
    ("network", .str permit.network), ("mint", .str permit.mint),
    ("recipient", .str permit.recipient), ("maxPerCallAtomic", .str permit.maxPerCallAtomic),
    ("maxTotalAtomic", .str permit.maxTotalAtomic), ("issuedAt", .int permit.issuedAt),
    ("expiresAt", .int permit.expiresAt), ("subdelegation", .bool false),
    ("operation", permit.operation.toJson)]

/-- What `validateUnsignedPurchasePermitV2` establishes of the permit it returns. -/
structure Valid (platform : Platform) (permit : UnsignedPurchasePermitV2) : Prop where
  domain_eq : permit.domain = PURCHASE_PERMIT_DOMAIN
  grantId_pattern : GRANT_ID_PATTERN permit.grantId = true
  issuer_key : isBase58PublicKey platform permit.issuer = true
  agent_key : isBase58PublicKey platform permit.authorizedAgent = true
  service_pattern : IDENTIFIER_PATTERN permit.service = true
  capability_pattern : IDENTIFIER_PATTERN permit.capability = true
  network_mem : permit.network ∈ SUPPORTED_NETWORKS
  mint_key : isBase58PublicKey platform permit.mint = true
  recipient_key : isBase58PublicKey platform permit.recipient = true
  maxPerCall_canonical : isCanonicalAtomicAmount permit.maxPerCallAtomic = true
  maxTotal_canonical : isCanonicalAtomicAmount permit.maxTotalAtomic = true
  maxPerCall_range : isPositiveU64 permit.maxPerCallAtomic = true
  maxTotal_range : isPositiveU64 permit.maxTotalAtomic = true
  maxPerCall_le : Decimal.amount permit.maxPerCallAtomic ≤ Decimal.amount permit.maxTotalAtomic
  issuedAt_safe : isSafeTimestamp permit.issuedAt = true
  expiresAt_safe : isSafeTimestamp permit.expiresAt = true
  issuedAt_lt : permit.issuedAt < permit.expiresAt
  operation_valid : permit.operation.Valid

end UnsignedPurchasePermitV2

def signatureJson (signature : String) : Json :=
  .obj [("algorithm", .str "ed25519"), ("signature", .str signature)]

def SignedPurchasePermitV2.toJson (permit : SignedPurchasePermitV2) : Json :=
  .obj (permit.toUnsignedPurchasePermitV2.members ++ [("signature", signatureJson permit.signature)])

/-- The shared checks of version 1 and 2, then the operation of version 2. -/
def validateUnsignedPurchasePermitV2 (platform : Platform) (candidate : Json) :
    Except PermitFailure UnsignedPurchasePermitV2 := do
  let record ← required (object? (some candidate))
    ⟨.INVALID_SCHEMA, "Purchase permit must be a JSON object."⟩
  guardThat (safeInteger record "version" = some 2) ⟨.UNSUPPORTED_VERSION,
    "Unsupported purchase permit version: " ++ platform.stringify (Json.member record "version") ++ "."⟩
  let domain ← required ((text record "domain").filter fun value ↦ value = PURCHASE_PERMIT_DOMAIN)
    ⟨.INVALID_DOMAIN, "Purchase permit domain does not match the expected Virtual Haibin domain."⟩
  let grantId ← required ((text record "grantId").filter GRANT_ID_PATTERN)
    ⟨.INVALID_GRANT_ID, "grantId must be a non-empty identifier."⟩
  let issuer ← required ((text record "issuer").filter (isBase58PublicKey platform))
    ⟨.INVALID_ISSUER, "issuer must be a valid base58-encoded Ed25519 public key."⟩
  let authorizedAgent ← required ((text record "authorizedAgent").filter (isBase58PublicKey platform))
    ⟨.INVALID_AGENT, "authorizedAgent must be a valid base58-encoded Ed25519 public key."⟩
  let service ← required ((text record "service").filter IDENTIFIER_PATTERN)
    ⟨.INVALID_SERVICE, "service must be a non-empty identifier."⟩
  let capability ← required ((text record "capability").filter IDENTIFIER_PATTERN)
    ⟨.INVALID_CAPABILITY, "capability must be a non-empty identifier."⟩
  let network ← required ((text record "network").filter fun value ↦ value ∈ SUPPORTED_NETWORKS)
    ⟨.INVALID_NETWORK, "network must be one of: solana-payment-sandbox, devnet."⟩
  let mint ← required ((text record "mint").filter (isBase58PublicKey platform))
    ⟨.INVALID_MINT, "mint must be a valid base58-encoded token mint address."⟩
  let recipient ← required ((text record "recipient").filter (isBase58PublicKey platform))
    ⟨.INVALID_RECIPIENT, "recipient must be a valid base58-encoded Solana address."⟩
  let maxPerCallAtomic ← required ((text record "maxPerCallAtomic").filter isCanonicalAtomicAmount)
    ⟨.INVALID_AMOUNT, "maxPerCallAtomic must be a canonical non-negative integer string."⟩
  let maxTotalAtomic ← required ((text record "maxTotalAtomic").filter isCanonicalAtomicAmount)
    ⟨.INVALID_AMOUNT, "maxTotalAtomic must be a canonical non-negative integer string."⟩
  guardThat (isPositiveU64 maxPerCallAtomic)
    ⟨.INVALID_AMOUNT, "maxPerCallAtomic must be a positive integer within u64 range."⟩
  guardThat (isPositiveU64 maxTotalAtomic)
    ⟨.INVALID_AMOUNT, "maxTotalAtomic must be a positive integer within u64 range."⟩
  guardThat (Decimal.amount maxPerCallAtomic ≤ Decimal.amount maxTotalAtomic)
    ⟨.INVALID_AMOUNT, "maxPerCallAtomic must not exceed maxTotalAtomic."⟩
  let issuedAt ← required ((safeInteger record "issuedAt").filter isSafeTimestamp)
    ⟨.INVALID_TIME_RANGE, "issuedAt must be a positive safe-integer Unix millisecond timestamp."⟩
  let expiresAt ← required ((safeInteger record "expiresAt").filter isSafeTimestamp)
    ⟨.INVALID_TIME_RANGE, "expiresAt must be a positive safe-integer Unix millisecond timestamp."⟩
  guardThat (issuedAt < expiresAt)
    ⟨.INVALID_TIME_RANGE, "expiresAt must be strictly after issuedAt."⟩
  guardThat (match Json.member record "subdelegation" with | some (.bool false) => true | _ => false)
    ⟨.INVALID_SUBDELEGATION, "subdelegation must be false in purchase permits v1 and v2."⟩
  let operation ← (validateExactOperation (Json.member record "operation")).mapError
    fun message ↦ ⟨.INVALID_OPERATION, message⟩
  return {
    domain, grantId, issuer, authorizedAgent, service, capability, network, mint, recipient,
    maxPerCallAtomic, maxTotalAtomic, issuedAt, expiresAt, operation }

/-- Domain-separated canonical JSON: the text an issuer signs. -/
def canonicalizeUnsignedPurchasePermit (platform : Platform) (permit : UnsignedPurchasePermitV2) : String :=
  PURCHASE_PERMIT_DOMAIN ++ ":v2\n" ++ platform.canonicalize (.obj permit.members)

/-- Verification against the permit's own `issuer` field.  Whether that issuer may authorize
spending is decided elsewhere. -/
def verifyPurchasePermitV2 (platform : Platform) (candidate : Json) :
    Except PermitFailure SignedPurchasePermitV2 := do
  let record ← required (object? (some candidate))
    ⟨.INVALID_SCHEMA, "Purchase permit must be a JSON object."⟩
  let permit ← validateUnsignedPurchasePermitV2 platform candidate
  let signatureRecord ← required (object? (Json.member record "signature"))
    ⟨.INVALID_SIGNATURE, "Missing or malformed signature metadata."⟩
  guardThat (text signatureRecord "algorithm" = some "ed25519")
    ⟨.INVALID_SIGNATURE, "Unsupported signature algorithm."⟩
  let signature ← required ((text signatureRecord "signature").filter platform.isSignature)
    ⟨.INVALID_SIGNATURE, "signature value must be a valid base58-encoded 64-byte Ed25519 signature."⟩
  guardThat (platform.importsKey permit.issuer)
    ⟨.INVALID_ISSUER, "issuer is not a valid Ed25519 public key."⟩
  guardThat (platform.verifySignature permit.issuer signature
      (canonicalizeUnsignedPurchasePermit platform permit))
    ⟨.INVALID_SIGNATURE, "Signature does not match the permit contents and issuer key."⟩
  return { permit with signature }

/-- Digest of the exact signed permit, its signature included. -/
def computePermitDigest (platform : Platform) (permit : SignedPurchasePermitV2) : String :=
  platform.sha256Hex (PURCHASE_PERMIT_DOMAIN ++ ":v2:digest\n" ++ platform.canonicalize permit.toJson)

/-- A permit that passed `verifyPurchasePermitV2`. -/
structure SignedPurchasePermitV2.Verified (platform : Platform) (permit : SignedPurchasePermitV2) : Prop where
  valid : permit.toUnsignedPurchasePermitV2.Valid platform
  isSignature : platform.isSignature permit.signature = true
  importsKey : platform.importsKey permit.issuer = true
  signed : platform.verifySignature permit.issuer permit.signature
    (canonicalizeUnsignedPurchasePermit platform permit.toUnsignedPurchasePermitV2) = true

theorem mapError_eq_ok {ε ε' α : Type} {x : Except ε α} {f : ε → ε'} {a : α} :
    x.mapError f = .ok a ↔ x = .ok a := by
  cases x <;> simp [Except.mapError]

theorem mapError_bind_eq_ok {ε ε' α β : Type} {x : Except ε α} {f : ε → ε'} {g : α → Except ε' β}
    {b : β} : (x.mapError f >>= g) = .ok b ↔ ∃ a, x = .ok a ∧ g a = .ok b := by
  rw [bind_eq_ok]
  simp only [mapError_eq_ok]

/-- The known members of a permit candidate, whatever else it has. -/
structure CarriesPermit (record : List (String × Json)) (permit : UnsignedPurchasePermitV2) : Prop where
  version_eq : Json.member record "version" = some (.int 2)
  domain_eq : Json.member record "domain" = some (.str permit.domain)
  grantId_eq : Json.member record "grantId" = some (.str permit.grantId)
  issuer_eq : Json.member record "issuer" = some (.str permit.issuer)
  authorizedAgent_eq : Json.member record "authorizedAgent" = some (.str permit.authorizedAgent)
  service_eq : Json.member record "service" = some (.str permit.service)
  capability_eq : Json.member record "capability" = some (.str permit.capability)
  network_eq : Json.member record "network" = some (.str permit.network)
  mint_eq : Json.member record "mint" = some (.str permit.mint)
  recipient_eq : Json.member record "recipient" = some (.str permit.recipient)
  maxPerCallAtomic_eq : Json.member record "maxPerCallAtomic" = some (.str permit.maxPerCallAtomic)
  maxTotalAtomic_eq : Json.member record "maxTotalAtomic" = some (.str permit.maxTotalAtomic)
  issuedAt_eq : Json.member record "issuedAt" = some (.int permit.issuedAt)
  expiresAt_eq : Json.member record "expiresAt" = some (.int permit.expiresAt)
  subdelegation_eq : Json.member record "subdelegation" = some (.bool false)
  operation_eq : ∃ operation, Json.member record "operation" = some (.obj operation) ∧
    CarriesOperation operation permit.operation

theorem isSafeTimestamp_iff {value : ℤ} :
    isSafeTimestamp value = true ↔ 0 < value ∧ value ≤ 9007199254740991 := by
  simp [isSafeTimestamp]

theorem safeTimestamp_iff {record : List (String × Json)} {name : String} {value : ℤ} :
    (safeInteger record name = some value ∧ isSafeTimestamp value = true) ↔
      Json.member record name = some (.int value) ∧ isSafeTimestamp value = true := by
  rw [safeInteger_eq_some, isSafeTimestamp_iff]
  constructor
  · rintro ⟨⟨hmember, -⟩, hrange⟩
    exact ⟨hmember, hrange⟩
  · rintro ⟨hmember, hpos, hle⟩
    exact ⟨⟨hmember, by omega, hle⟩, hpos, hle⟩

/-- Exactly the candidates that carry a valid permit are accepted. -/
theorem validateUnsignedPurchasePermitV2_eq_ok {platform : Platform} {candidate : Json}
    {permit : UnsignedPurchasePermitV2} :
    validateUnsignedPurchasePermitV2 platform candidate = .ok permit ↔
      ∃ record, candidate = .obj record ∧ CarriesPermit record permit ∧ permit.Valid platform := by
  have hversion (record : List (String × Json)) : safeInteger record "version" = some 2 ↔
      Json.member record "version" = some (.int 2) := by
    rw [safeInteger_eq_some]
    exact and_iff_left (by norm_num)
  have hsubdelegation (record : List (String × Json)) :
      (match Json.member record "subdelegation" with | some (.bool false) => true | _ => false) = true ↔
        Json.member record "subdelegation" = some (.bool false) := by
    split <;> simp_all
  unfold validateUnsignedPurchasePermitV2
  simp only [required_bind_eq_ok, guardThat_bind_eq_ok, mapError_bind_eq_ok, filter_eq_some, pure_eq_ok,
    Except.ok.injEq, decide_eq_true_eq, object?_eq_some, Option.some.injEq, text_eq_some, hversion,
    safeTimestamp_iff, hsubdelegation, validateExactOperation_eq_ok]
  refine exists_congr fun record ↦ and_congr_right fun _ ↦ ?_
  constructor
  · rintro ⟨hversion, domain, ⟨hdomain, hdomain'⟩, grantId, ⟨hgrantId, hgrantId'⟩, issuer,
      ⟨hissuer, hissuer'⟩, agent, ⟨hagent, hagent'⟩, service, ⟨hservice, hservice'⟩, capability,
      ⟨hcapability, hcapability'⟩, network, ⟨hnetwork, hnetwork'⟩, mint, ⟨hmint, hmint'⟩, recipient,
      ⟨hrecipient, hrecipient'⟩, perCall, ⟨hperCall, hperCall'⟩, total, ⟨htotal, htotal'⟩, hperCallRange,
      htotalRange, hle, issuedAt, ⟨hissuedAt, hissuedAt'⟩, expiresAt, ⟨hexpiresAt, hexpiresAt'⟩, hlt,
      hsubdelegation, operation, ⟨carried, hoperation, hcarried, hvalid⟩, rfl⟩
    exact ⟨⟨hversion, hdomain, hgrantId, hissuer, hagent, hservice, hcapability, hnetwork, hmint,
        hrecipient, hperCall, htotal, hissuedAt, hexpiresAt, hsubdelegation, carried, hoperation, hcarried⟩,
      hdomain', hgrantId', hissuer', hagent', hservice', hcapability', hnetwork', hmint', hrecipient',
      hperCall', htotal', hperCallRange, htotalRange, hle, hissuedAt', hexpiresAt', hlt, hvalid⟩
  · rintro ⟨hcarries, hvalid⟩
    obtain ⟨carried, hoperation, hcarried⟩ := hcarries.operation_eq
    exact ⟨hcarries.version_eq, _, ⟨hcarries.domain_eq, hvalid.domain_eq⟩,
      _, ⟨hcarries.grantId_eq, hvalid.grantId_pattern⟩, _, ⟨hcarries.issuer_eq, hvalid.issuer_key⟩,
      _, ⟨hcarries.authorizedAgent_eq, hvalid.agent_key⟩, _, ⟨hcarries.service_eq, hvalid.service_pattern⟩,
      _, ⟨hcarries.capability_eq, hvalid.capability_pattern⟩, _, ⟨hcarries.network_eq, hvalid.network_mem⟩,
      _, ⟨hcarries.mint_eq, hvalid.mint_key⟩, _, ⟨hcarries.recipient_eq, hvalid.recipient_key⟩,
      _, ⟨hcarries.maxPerCallAtomic_eq, hvalid.maxPerCall_canonical⟩,
      _, ⟨hcarries.maxTotalAtomic_eq, hvalid.maxTotal_canonical⟩,
      hvalid.maxPerCall_range, hvalid.maxTotal_range, hvalid.maxPerCall_le,
      _, ⟨hcarries.issuedAt_eq, hvalid.issuedAt_safe⟩, _, ⟨hcarries.expiresAt_eq, hvalid.expiresAt_safe⟩,
      hvalid.issuedAt_lt, hcarries.subdelegation_eq, _, ⟨carried, hoperation, hcarried, hvalid.operation_valid⟩,
      rfl⟩

/-- The signature member of a permit candidate. -/
def CarriesSignature (record : List (String × Json)) (signature : String) : Prop :=
  ∃ metadata, Json.member record "signature" = some (.obj metadata) ∧
    Json.member metadata "algorithm" = some (.str "ed25519") ∧
    Json.member metadata "signature" = some (.str signature)

/-- A candidate verifies exactly if it carries a verified permit and its signature. -/
theorem verifyPurchasePermitV2_eq_ok {platform : Platform} {candidate : Json} {permit : SignedPurchasePermitV2} :
    verifyPurchasePermitV2 platform candidate = .ok permit ↔
      ∃ record, candidate = .obj record ∧ CarriesPermit record permit.toUnsignedPurchasePermitV2 ∧
        CarriesSignature record permit.signature ∧ permit.Verified platform := by
  unfold verifyPurchasePermitV2
  simp only [required_bind_eq_ok, object?_eq_some, Option.some.injEq]
  refine exists_congr fun record ↦ and_congr_right fun hrecord ↦ ?_
  rw [bind_eq_ok]
  simp only [validateUnsignedPurchasePermitV2_eq_ok, hrecord, Json.obj.injEq, exists_eq_left',
    required_bind_eq_ok, guardThat_bind_eq_ok, filter_eq_some, pure_eq_ok, Except.ok.injEq, object?_eq_some,
    text_eq_some, decide_eq_true_eq]
  constructor
  · rintro ⟨unsigned, ⟨hcarries, hvalid⟩, metadata, hmetadata, halgorithm, signature,
      ⟨hsignature, hisSignature⟩, himports, hsigned, rfl⟩
    exact ⟨hcarries, ⟨metadata, hmetadata, halgorithm, hsignature⟩, hvalid, hisSignature, himports, hsigned⟩
  · rintro ⟨hcarries, ⟨metadata, hmetadata, halgorithm, hsignature⟩, hverified⟩
    exact ⟨_, ⟨hcarries, hverified.valid⟩, metadata, hmetadata, halgorithm, _,
      ⟨hsignature, hverified.isSignature⟩, hverified.importsKey, hverified.signed, rfl⟩

theorem verifyPurchasePermitV2_verified {platform : Platform} {candidate : Json}
    {permit : SignedPurchasePermitV2} (h : verifyPurchasePermitV2 platform candidate = .ok permit) :
    permit.Verified platform := by
  obtain ⟨_, _, _, _, hverified⟩ := verifyPurchasePermitV2_eq_ok.1 h
  exact hverified

/-- A verified permit verifies again from its own JSON, and to itself. -/
theorem verifyPurchasePermitV2_toJson {platform : Platform} {permit : SignedPurchasePermitV2}
    (h : permit.Verified platform) : verifyPurchasePermitV2 platform permit.toJson = .ok permit :=
  verifyPurchasePermitV2_eq_ok.2 ⟨_, rfl,
    { version_eq := rfl, domain_eq := rfl, grantId_eq := rfl, issuer_eq := rfl, authorizedAgent_eq := rfl
      service_eq := rfl, capability_eq := rfl, network_eq := rfl, mint_eq := rfl, recipient_eq := rfl
      maxPerCallAtomic_eq := rfl, maxTotalAtomic_eq := rfl, issuedAt_eq := rfl, expiresAt_eq := rfl
      subdelegation_eq := rfl
      operation_eq := ⟨_, rfl, fun _ hname ↦ hname, rfl, rfl, rfl, rfl⟩ },
    ⟨_, rfl, rfl, rfl⟩, h⟩

end VirtualHaibin.Mandate
