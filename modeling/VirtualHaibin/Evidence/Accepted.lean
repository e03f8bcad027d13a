import Mathlib.Data.List.TakeWhile
import VirtualHaibin.Evidence.Parse
import VirtualHaibin.Foundation.Same

/-!
# What the bundle parser accepts

An accepted value has the structure of the JSON of its record, and the record meets the bounds; the
converse: a record that meets them is read back from its own JSON.
-/

namespace VirtualHaibin.Evidence

open Foundation Foundation.Checked Foundation.Schema Mandate Payments

/-- A bounded text that matches its pattern. -/
structure Field (max : ℕ) (pattern : String → Bool) (text : String) : Prop where
  bounded : Bounded max text
  pattern : pattern text = true

theorem string_eq_field {path : String} {max : ℕ} {pattern : String → Bool} {value : Option Json}
    {text : String} :
    string path max pattern value = .ok text ↔ value = some (.str text) ∧ Field max pattern text := by
  rw [string_eq_ok]
  exact and_congr_right fun _ ↦ ⟨fun h ↦ ⟨h.1, h.2⟩, fun h ↦ ⟨h.bounded, h.pattern⟩⟩

theorem string_of_field {path : String} {max : ℕ} {pattern : String → Bool} {text : String}
    (h : Field max pattern text) : string path max pattern (some (.str text)) = .ok text :=
  string_eq_field.2 ⟨rfl, h⟩

theorem string_of_bounded {path : String} {max : ℕ} {text : String} (h : Bounded max text) :
    string path max (fun _ ↦ true) (some (.str text)) = .ok text :=
  string_eq_ok.2 ⟨rfl, h, rfl⟩

theorem integer_of_safe {path : String} {min value : ℤ} (h : SafeFrom min value) :
    integer path min (some (.int value)) = .ok value :=
  integer_eq_ok.2 ⟨rfl, h⟩

/-- An object with exactly the known members is read whole. -/
theorem object_of_names {path : String} {required optional : List String} {record : List (String × Json)}
    (names : List String) (hnames : record.map Prod.fst = names)
    (hknown : ∀ name ∈ names, name ∈ required ++ optional) (hall : ∀ name ∈ required, name ∈ names) :
    object path required optional (some (.obj record)) = .ok record := by
  refine object_eq_ok.2 ⟨rfl, ?_, fun name hname ↦ ?_⟩
  · rw [unknownMember, List.find?_eq_none, hnames]
    exact fun name hname ↦ by simpa only [decide_eq_true_eq, not_not] using hknown name hname
  · obtain ⟨entry, hmem, rfl⟩ := List.mem_map.1 (hnames ▸ hall name hname)
    simp only [Json.member, Option.isSome_map, List.find?_isSome]
    exact ⟨entry, hmem, by simp⟩

/-- An object with exactly the required members, in their order. -/
theorem object_self {path : String} {record : List (String × Json)} {names : List String}
    (h : record.map Prod.fst = names) : object path names [] (some (.obj record)) = .ok record :=
  object_of_names names h (fun _ hname ↦ List.mem_append_left _ hname) fun _ hname ↦ hname

theorem literal_self {path text : String} : literal path text (some (.str text)) = .ok () :=
  literal_eq_ok.2 rfl

theorem literalInt_self {path : String} {value : ℤ} : literalInt path value (some (.int value)) = .ok () :=
  literalInt_eq_ok.2 rfl

/-- The value read is the given JSON, up to the order of members. -/
def Reads (value : Option Json) (json : Json) : Prop := ∃ found, value = some found ∧ found.Same json

theorem Reads.of_eq {value : Option Json} {json : Json} (h : value = some json) : Reads value json :=
  ⟨json, h, .refl json⟩

/-- An object of known members with all its fields, and the other known members absent. -/
theorem reads_of_object {path : String} {required optional : List String} {value : Option Json}
    {record members : List (String × Json)} (h : object path required optional value = .ok record)
    (names : List String) (hnames : members.map Prod.fst = names) (hnodup : names.Nodup)
    (hknown : ∀ name ∈ required ++ optional, name ∈ names ∨ Json.member record name = none)
    (hfields : ∀ entry ∈ members, Reads (Json.member record entry.1) entry.2) :
    Reads value (.obj members) := by
  obtain ⟨hvalue, hunknown, -⟩ := object_eq_ok.1 h
  refine ⟨_, hvalue, .of_fields (hnames ▸ hnodup) (fun name hname ↦ ?_) hfields⟩
  rcases hknown name (unknownMember_eq_none.1 hunknown name hname) with hmem | habsent
  · exact hnames ▸ hmem
  · exact absurd hname (Json.member_eq_none.1 habsent)

/-- An object with exactly the required members. -/
theorem reads_self {path : String} {names : List String} {value : Option Json}
    {record members : List (String × Json)} (h : object path names [] value = .ok record)
    (hnames : members.map Prod.fst = names) (hnodup : names.Nodup)
    (hfields : ∀ entry ∈ members, Reads (Json.member record entry.1) entry.2) :
    Reads value (.obj members) :=
  reads_of_object h names hnames hnodup (fun name hname ↦ .inl (by simpa using hname)) hfields

@[simp]
theorem reads_str {value : Option Json} {text : String} :
    Reads value (.str text) ↔ value = some (.str text) := by
  constructor
  · intro h
    obtain ⟨found, hvalue, hsame⟩ := h
    cases hsame
    exact hvalue
  · exact .of_eq

@[simp]
theorem reads_int {value : Option Json} {number : ℤ} :
    Reads value (.int number) ↔ value = some (.int number) := by
  constructor
  · intro h
    obtain ⟨found, hvalue, hsame⟩ := h
    cases hsame
    exact hvalue
  · exact .of_eq

@[simp]
theorem reads_orNull_str {value : Option Json} {text : Option String} :
    Reads value (Json.orNull .str text) ↔ value = some (Json.orNull .str text) := by
  constructor
  · intro h
    obtain ⟨found, hvalue, hsame⟩ := h
    cases text <;> cases hsame <;> exact hvalue
  · exact .of_eq

/-- Whatever the order of its members, an object with exactly the required ones is read whole. -/
theorem object_of_reads (names : List String) {value : Option Json} {members : List (String × Json)}
    (h : Reads value (.obj members)) (hnames : members.map Prod.fst = names) (hnodup : names.Nodup) :
    ∃ record, (∀ path, object path names [] value = .ok record) ∧
      ∀ entry ∈ members, Reads (Json.member record entry.1) entry.2 := by
  obtain ⟨found, rfl, hsame⟩ := h
  cases hsame with
  | @obj record _ hmembers =>
    have hfields : ∀ entry ∈ members, Reads (Json.member record entry.1) entry.2 := by
      intro entry hentry
      have hmember := Json.member_of_mem (hnames ▸ hnodup) hentry
      exact Json.Same.value_of_member' hmembers hmember
    have hknown (name : String) (hname : name ∈ record.map Prod.fst) : name ∈ names := by
      by_contra habsent
      have hnone := Json.member_eq_none.2 (hnames ▸ habsent)
      rcases Json.optionRel_iff.1 (hmembers name) with ⟨hrecord, -⟩ | ⟨_, _, -, hsome, -⟩
      · exact Json.member_eq_none.1 hrecord hname
      · cases hnone.symm.trans hsome
    refine ⟨record, fun path ↦ object_eq_ok.2 ⟨rfl, ?_, fun name hname ↦ ?_⟩, hfields⟩
    · rw [unknownMember_eq_none]
      exact fun name hname ↦ List.mem_append_left _ (hknown name hname)
    · obtain ⟨entry, hentry, rfl⟩ := List.mem_map.1 (hnames ▸ hname)
      obtain ⟨_, hmember, -⟩ := hfields entry hentry
      rw [hmember]
      rfl

theorem nullable_of_fits {α : Type} (read : Reader α) (encode : α → Json) (hne : ∀ a, encode a ≠ .null)
    {value : Option α} (h : ∀ a ∈ value, read (some (encode a)) = .ok a) :
    nullable read (some (Json.orNull encode value)) = .ok value := by
  rw [nullable_orNull hne]
  cases value with
  | none => rfl
  | some a => exact ⟨a, rfl, h a rfl⟩

theorem nullable_accepted {α : Type} {read : Reader α} {Fits : α → Prop} {encode : α → Json}
    (h : ∀ value a, read value = .ok a → Fits a ∧ Reads value (encode a)) {value : Option Json}
    {result : Option α} (hread : nullable read value = .ok result) :
    (∀ a ∈ result, Fits a) ∧ Reads value (Json.orNull encode result) := by
  rcases nullable_eq_ok.1 hread with ⟨rfl, rfl⟩ | ⟨-, a, rfl, ha⟩
  · exact ⟨by simp, .of_eq rfl⟩
  · obtain ⟨hfits, hreads⟩ := h _ _ ha
    exact ⟨by simpa using hfits, hreads⟩

theorem string_accepted {path : String} {max : ℕ} {pattern : String → Bool} (value : Option Json) (text : String)
    (h : string path max pattern value = .ok text) : Field max pattern text ∧ Reads value (.str text) :=
  ⟨(string_eq_field.1 h).2, .of_eq (string_eq_field.1 h).1⟩

theorem bounded_of_inClass {allowed : Char → Bool} {low high : ℕ} {text : String}
    (hbasic : ∀ c, allowed c = true → c.toNat < 0x10000) (hlow : 0 < low)
    (h : Text.inClass allowed low high text = true) : Bounded high text := by
  obtain ⟨hshort, hlong⟩ := Text.utf16Length_of_inClass hbasic h
  refine ⟨?_, hlong⟩
  rintro rfl
  exact absurd (hlow.trans_le hshort) (by decide)

theorem digest_fits {text : String} (h : Text.isDigest text = true) : Field 64 HEX64 text := by
  have hbasic : ∀ c, Text.isLowerHex c = true → c.toNat < 0x10000 := by
    intro c hc
    simp only [Text.isLowerHex, Char.isDigit, Bool.or_eq_true, Bool.and_eq_true, decide_eq_true_eq,
      UInt32.le_iff_toNat_le, Char.le_def] at hc
    rcases hc with ⟨-, hc⟩ | ⟨-, hc⟩ <;> exact Nat.lt_of_le_of_lt hc (by decide)
  exact ⟨bounded_of_inClass hbasic (by decide) h, h⟩

theorem base58_fits {max : ℕ} {text : String} (h : Text.inClass isBase58Char 1 max text = true) :
    Field max BASE58 text := by
  have hbasic : ∀ c, isBase58Char c = true → c.toNat < 0x10000 := by
    intro c hc
    simp only [isBase58Char, Bool.and_eq_true] at hc
    exact Text.isAlphanum_basic hc.1.1.1.1
  have hbounded := bounded_of_inClass hbasic (by decide) h
  simp only [Text.inClass, Bool.and_eq_true] at h
  exact ⟨hbounded, by simp only [BASE58, ne_eq, hbounded.1, not_false_eq_true, decide_true, h.1.1, Bool.and_self]⟩

theorem base64_fits {max : ℕ} {text : String} (h : Text.inClass isBase64Char 1 max text = true) :
    Field max BASE64 text := by
  have hbasic : ∀ c, isBase64Char c = true → c.toNat < 0x10000 := by
    intro c hc
    simp only [isBase64Char, Bool.or_eq_true, decide_eq_true_eq] at hc
    rcases hc with (hc | rfl) | rfl
    · exact Text.isAlphanum_basic hc
    · decide
    · decide
  have hbounded := bounded_of_inClass hbasic (by decide) h
  simp only [Text.inClass, Bool.and_eq_true, List.all_eq_true] at h
  have hpadding : text.toList.dropWhile isBase64Char = [] := List.dropWhile_eq_nil_iff.2 h.1.1
  exact ⟨hbounded, by simp only [BASE64, hpadding, decide_true, Bool.true_or]⟩

/-- The signature scheme for a key pair: what it signs verifies, and signatures are base58. -/
structure KeyPair (platform : Platform) (key : String) : Prop where
  isAddress : platform.isAddress key = true
  importsKey : platform.importsKey key = true
  isSignature : ∀ message, platform.isSignature (platform.signBytes key message) = true
  encoded : ∀ message, Field 128 BASE58 (platform.signBytes key message)
  verifies : ∀ message, platform.verifySignature key (platform.signBytes key message) message = true

theorem KeyPair.verifyPinned {platform : Platform} {key : String} (h : KeyPair platform key) (message : String) :
    verifyPinned platform key key (platform.signBytes key message) message = true :=
  verifyPinned_eq_true.2 ⟨rfl, h.isSignature message, h.isAddress, h.importsKey, h.verifies message⟩

structure ExactOperationV1.Fits (value : ExactOperationV1) : Prop where
  method : Bounded 16 value.method
  resource : Bounded 256 value.resource
  operation : Bounded 64 value.operation
  datasetId : Bounded 128 value.datasetId

theorem operation_accepted {path : String} {value : Option Json} {result : ExactOperationV1}
    (h : operation path value = .ok result) : ExactOperationV1.Fits result ∧ Reads value result.toJson := by
  simp only [operation, bind_eq_ok, string_eq_field, pure_eq_ok, Except.ok.injEq] at h
  obtain ⟨record, hrecord, method, ⟨hmethod, hmethod'⟩, resource, ⟨hresource, hresource'⟩, kind,
    ⟨hkind, hkind'⟩, datasetId, ⟨hdatasetId, hdatasetId'⟩, rfl⟩ := h
  refine ⟨⟨hmethod'.bounded, hresource'.bounded, hkind'.bounded, hdatasetId'.bounded⟩,
    reads_self hrecord rfl (by decide) ?_⟩
  simp only [List.forall_mem_cons, List.not_mem_nil, false_imp_iff, implies_true, and_true]
  exact ⟨.of_eq hmethod, .of_eq hresource, .of_eq hkind, .of_eq hdatasetId⟩

theorem operation_toJson {path : String} {value : ExactOperationV1} (h : ExactOperationV1.Fits value) :
    operation path (some value.toJson) = .ok value := by
  unfold operation ExactOperationV1.toJson
  refine bind_eq_ok.2 ⟨_, object_self rfl, ?_⟩
  simp [Json.member, string_of_bounded, h.method, h.resource, h.operation, h.datasetId]

theorem signature_accepted {path : String} {value : Option Json} {result : String}
    (h : signature path value = .ok result) : Field 128 BASE58 result ∧ Reads value (signatureJson result) := by
  simp only [signature, bind_eq_ok, string_eq_field, literal_eq_ok] at h
  obtain ⟨record, hrecord, -, halgorithm, hsignature, hsignature'⟩ := h
  refine ⟨hsignature', reads_self hrecord rfl (by decide) ?_⟩
  simp only [List.forall_mem_cons, List.not_mem_nil, false_imp_iff, implies_true, and_true]
  exact ⟨.of_eq halgorithm, .of_eq hsignature⟩

/-- A signature is read back whatever the order of its members. -/
theorem signature_reads {path value : String} {given : Option Json} (h : Field 128 BASE58 value)
    (hreads : Reads given (signatureJson value)) : signature path given = .ok value := by
  obtain ⟨record, hrecord, hfields⟩ := object_of_reads ["algorithm", "signature"] hreads rfl (by decide)
  simp only [List.forall_mem_cons, reads_str, List.not_mem_nil, false_imp_iff, implies_true, and_true] at hfields
  obtain ⟨halgorithm, hsignature⟩ := hfields
  unfold signature
  refine bind_eq_ok.2 ⟨_, hrecord path, ?_⟩
  simp [halgorithm, hsignature, literal_self, string_of_field h]

theorem signature_toJson {path value : String} (h : Field 128 BASE58 value) :
    signature path (some (signatureJson value)) = .ok value :=
  signature_reads h (.of_eq rfl)

/-! ## The signed permit and the signed request -/

structure SignedPurchasePermitV2.Fits (value : SignedPurchasePermitV2) : Prop where
  domain : Bounded MAX_STRING value.domain
  grantId : Bounded 128 value.grantId
  issuer : Field 64 BASE58 value.issuer
  authorizedAgent : Field 64 BASE58 value.authorizedAgent
  service : Bounded 128 value.service
  capability : Bounded 128 value.capability
  network : Bounded 64 value.network
  mint : Field 64 BASE58 value.mint
  recipient : Field 64 BASE58 value.recipient
  maxPerCallAtomic : Field 20 ATOMIC value.maxPerCallAtomic
  maxTotalAtomic : Field 20 ATOMIC value.maxTotalAtomic
  issuedAt : SafeFrom 1 value.issuedAt
  expiresAt : SafeFrom 1 value.expiresAt
  operation : ExactOperationV1.Fits value.operation
  signature : Field 128 BASE58 value.signature

theorem isFalse_eq_true {value : Option Json} : isFalse value = true ↔ value = some (.bool false) := by
  unfold isFalse
  split <;> simp_all

theorem permit_accepted {path : String} {value : Option Json} {result : SignedPurchasePermitV2}
    (h : permit path value = .ok result) : SignedPurchasePermitV2.Fits result ∧ Reads value result.toJson := by
  simp only [permit, bind_eq_ok, guardThat_eq_ok, string_eq_field, integer_eq_ok, literalInt_eq_ok,
    isFalse_eq_true, pure_eq_ok, Except.ok.injEq] at h
  obtain ⟨record, hrecord, -, hsubdelegation, -, hversion, domain, ⟨hdomain, hdomain'⟩, grantId,
    ⟨hgrantId, hgrantId'⟩, issuer, ⟨hissuer, hissuer'⟩, agent, ⟨hagent, hagent'⟩, service,
    ⟨hservice, hservice'⟩, capability, ⟨hcapability, hcapability'⟩, network, ⟨hnetwork, hnetwork'⟩, mint,
    ⟨hmint, hmint'⟩, recipient, ⟨hrecipient, hrecipient'⟩, perCall, ⟨hperCall, hperCall'⟩, total,
    ⟨htotal, htotal'⟩, issuedAt, ⟨hissuedAt, hissuedAt'⟩, expiresAt, ⟨hexpiresAt, hexpiresAt'⟩, operation,
    hoperation, signature, hsignature, rfl⟩ := h
  obtain ⟨hoperation', hoperation⟩ := operation_accepted hoperation
  obtain ⟨hsignature', hsignature⟩ := signature_accepted hsignature
  refine ⟨⟨hdomain'.bounded, hgrantId'.bounded, hissuer', hagent', hservice'.bounded, hcapability'.bounded,
    hnetwork'.bounded, hmint', hrecipient', hperCall', htotal', hissuedAt', hexpiresAt', hoperation',
    hsignature'⟩, reads_self hrecord rfl (by decide) ?_⟩
  simp only [UnsignedPurchasePermitV2.members, List.cons_append, List.nil_append, List.forall_mem_cons,
    List.not_mem_nil, false_imp_iff, implies_true, and_true]
  exact ⟨.of_eq hversion, .of_eq hdomain, .of_eq hgrantId, .of_eq hissuer, .of_eq hagent, .of_eq hservice,
    .of_eq hcapability, .of_eq hnetwork, .of_eq hmint, .of_eq hrecipient, .of_eq hperCall, .of_eq htotal,
    .of_eq hissuedAt, .of_eq hexpiresAt, .of_eq hsubdelegation, hoperation, hsignature⟩

theorem permit_toJson {path : String} {value : SignedPurchasePermitV2} (h : SignedPurchasePermitV2.Fits value) :
    permit path (some value.toJson) = .ok value := by
  unfold permit SignedPurchasePermitV2.toJson
  refine bind_eq_ok.2 ⟨_, object_self rfl, ?_⟩
  simp [Json.member, UnsignedPurchasePermitV2.members, isFalse, literalInt_self, string_of_bounded,
    string_of_field, integer_of_safe, operation_toJson, signature_toJson, h.domain, h.grantId, h.issuer,
    h.authorizedAgent, h.service, h.capability, h.network, h.mint, h.recipient, h.maxPerCallAtomic,
    h.maxTotalAtomic, h.issuedAt, h.expiresAt, h.operation, h.signature]

structure AuthorizationRequestV2.Fits (value : AuthorizationRequestV2) : Prop where
  protocol : Bounded MAX_STRING value.protocol
  audience : Bounded 128 value.audience
  grantId : Bounded 128 value.grantId
  permitDigest : Field 64 HEX64 value.permitDigest
  invocationId : Bounded 128 value.invocationId
  service : Bounded 128 value.service
  capability : Bounded 128 value.capability
  network : Bounded 64 value.network
  mint : Bounded 64 value.mint
  recipient : Bounded 64 value.recipient
  amountAtomic : Field 20 ATOMIC value.amountAtomic
  issuedAt : SafeFrom 1 value.issuedAt
  operation : ExactOperationV1.Fits value.operation

theorem requestOf_accepted {path : String} {value : Option Json} {result : AuthorizationRequestV2}
    (h : requestOf path value = .ok result) : AuthorizationRequestV2.Fits result ∧ Reads value result.toJson := by
  simp only [requestOf, bind_eq_ok, string_eq_field, integer_eq_ok, literalInt_eq_ok, pure_eq_ok,
    Except.ok.injEq] at h
  obtain ⟨record, hrecord, protocol, ⟨hprotocol, hprotocol'⟩, -, hversion, audience, ⟨haudience, haudience'⟩,
    grantId, ⟨hgrantId, hgrantId'⟩, permitDigest, ⟨hpermitDigest, hpermitDigest'⟩, invocationId,
    ⟨hinvocationId, hinvocationId'⟩, service, ⟨hservice, hservice'⟩, capability, ⟨hcapability, hcapability'⟩,
    network, ⟨hnetwork, hnetwork'⟩, mint, ⟨hmint, hmint'⟩, recipient, ⟨hrecipient, hrecipient'⟩, amountAtomic,
    ⟨hamount, hamount'⟩, issuedAt, ⟨hissuedAt, hissuedAt'⟩, operation, hoperation, rfl⟩ := h
  obtain ⟨hoperation', hoperation⟩ := operation_accepted hoperation
  refine ⟨⟨hprotocol'.bounded, haudience'.bounded, hgrantId'.bounded, hpermitDigest', hinvocationId'.bounded,
    hservice'.bounded, hcapability'.bounded, hnetwork'.bounded, hmint'.bounded, hrecipient'.bounded, hamount',
    hissuedAt', hoperation'⟩, reads_self hrecord rfl (by decide) ?_⟩
  simp only [AuthorizationRequestV2.members, List.forall_mem_cons, List.not_mem_nil, false_imp_iff, implies_true,
    and_true]
  exact ⟨.of_eq hprotocol, .of_eq hversion, .of_eq haudience, .of_eq hgrantId, .of_eq hpermitDigest,
    .of_eq hinvocationId, .of_eq hservice, .of_eq hcapability, .of_eq hnetwork, .of_eq hmint, .of_eq hrecipient,
    .of_eq hamount, .of_eq hissuedAt, hoperation⟩

theorem requestOf_toJson {path : String} {value : AuthorizationRequestV2} (h : AuthorizationRequestV2.Fits value) :
    requestOf path (some value.toJson) = .ok value := by
  unfold requestOf AuthorizationRequestV2.toJson
  refine bind_eq_ok.2 ⟨_, object_self rfl, ?_⟩
  simp [Json.member, AuthorizationRequestV2.members, literalInt_self, string_of_bounded, string_of_field,
    integer_of_safe, operation_toJson, h.protocol, h.audience, h.grantId, h.permitDigest, h.invocationId,
    h.service, h.capability, h.network, h.mint, h.recipient, h.amountAtomic, h.issuedAt, h.operation]

theorem authorizationRequest_accepted {path : String} {value : Option Json}
    {result : AuthorizationRequestV2 × AgentRequestSignature}
    (h : authorizationRequest path value = .ok result) :
    (AuthorizationRequestV2.Fits result.1 ∧ Field 128 BASE58 result.2.signature) ∧
      Reads value (authorizationRequestJson result.1 result.2) := by
  simp only [authorizationRequest, bind_eq_ok, pure_eq_ok, Except.ok.injEq] at h
  obtain ⟨wrapper, hwrapper, request, hrequest, agentSignature, hsignature, rfl⟩ := h
  obtain ⟨hrequest', hrequest⟩ := requestOf_accepted hrequest
  obtain ⟨hsignature', hsignature⟩ := signature_accepted hsignature
  refine ⟨⟨hrequest', hsignature'⟩, reads_self hwrapper rfl (by decide) ?_⟩
  simp only [List.forall_mem_cons, List.not_mem_nil, false_imp_iff, implies_true, and_true]
  exact ⟨hrequest, hsignature⟩

theorem authorizationRequest_toJson {path : String} {request : AuthorizationRequestV2}
    {agentSignature : AgentRequestSignature} (hrequest : AuthorizationRequestV2.Fits request)
    (hsignature : Field 128 BASE58 agentSignature.signature) :
    authorizationRequest path (some (authorizationRequestJson request agentSignature)) =
      .ok (request, agentSignature) := by
  unfold authorizationRequest authorizationRequestJson
  refine bind_eq_ok.2 ⟨_, object_self rfl, ?_⟩
  simp [Json.member, requestOf_toJson hrequest, AgentRequestSignature.toJson, signature_toJson hsignature]

structure CodesFit (codes : List String) : Prop where
  length : codes.length ≤ MAX_REASON_CODES
  codes : ∀ code ∈ codes, Field 64 REASON_CODE code

theorem items_accepted {α : Type} {path : String} {read : String → Reader α} {Fits : α → Prop}
    {encode : α → Json} (h : ∀ path value a, read path value = .ok a → Fits a ∧ Reads value (encode a))
    {values : List Json} {results : List α} (hread : items path read values = .ok results) :
    (∀ a ∈ results, Fits a) ∧ List.Forall₂ Json.Same values (results.map encode) := by
  obtain ⟨hlength, hall⟩ := List.forall₂_iff_get.1 (mapM_eq_ok.1 hread)
  rw [List.length_zipIdx] at hlength
  have hitem (i : ℕ) (hi : i < values.length) (hi' : i < results.length) :
      Fits results[i] ∧ Reads (some values[i]) (encode results[i]) := by
    have hread := hall i (by simpa using hi) hi'
    simp only [List.get_eq_getElem, List.getElem_zipIdx] at hread
    exact h _ _ _ hread
  refine ⟨fun a ha ↦ ?_, List.forall₂_iff_get.2 ⟨by simpa using hlength, fun i hi hi' ↦ ?_⟩⟩
  · obtain ⟨i, hi, rfl⟩ := List.mem_iff_getElem.1 ha
    exact (hitem i (hlength ▸ hi) hi).1
  · obtain ⟨found, hfound, hsame⟩ := (hitem i hi (hlength ▸ hi)).2
    obtain rfl := Option.some.inj hfound
    simpa using hsame

theorem items_of_fits {α : Type} {path : String} {read : String → Reader α} {encode : α → Json}
    {values : List α} (h : ∀ a ∈ values, ∀ path, read path (some (encode a)) = .ok a) :
    items path read (values.map encode) = .ok values := by
  refine mapM_eq_ok.2 (List.forall₂_iff_get.2 ⟨by simp, fun i hi hi' ↦ ?_⟩)
  simp only [List.get_eq_getElem, List.getElem_zipIdx, List.getElem_map]
  exact h _ (List.getElem_mem _) _

theorem reasonCodes_accepted {path : String} {value : Option Json} {result : List String}
    (h : reasonCodes path value = .ok result) :
    CodesFit result ∧ Reads value (.arr (result.map .str)) := by
  unfold reasonCodes at h
  split at h
  · split at h
    · cases h
    · rename_i codes hlength
      obtain ⟨hfits, hsame⟩ := items_accepted (fun _ ↦ string_accepted) h
      have hcodes := hsame.length_eq
      rw [List.length_map] at hcodes
      exact ⟨⟨by omega, hfits⟩, ⟨_, rfl, .arr hsame⟩⟩
  · cases h

theorem reasonCodes_toJson {path : String} {codes : List String} (h : CodesFit codes) :
    reasonCodes path (some (.arr (codes.map .str))) = .ok codes := by
  have hlength := h.length
  simp only [reasonCodes, List.length_map]
  rw [if_neg (by omega)]
  exact items_of_fits fun code hcode path ↦ string_of_field (h.codes code hcode)

def DecisionFits (decision : String) : Prop := decision = "ALLOW" ∨ decision = "DENY"

theorem decision_accepted {path : String} {value : Option Json} {result : String}
    (h : decision path value = .ok result) : DecisionFits result ∧ Reads value (.str result) := by
  unfold decision at h
  split at h
  · split at h
    · rename_i hdecision
      cases h
      exact ⟨hdecision, .of_eq rfl⟩
    · cases h
  · cases h

theorem decision_toJson {path decided : String} (h : DecisionFits decided) :
    decision path (some (.str decided)) = .ok decided := by
  exact if_pos h

structure SignedAuthorizationReceipt.Fits (value : SignedAuthorizationReceipt) : Prop where
  domain : Bounded MAX_STRING value.domain
  invocationId : Bounded 128 value.invocationId
  grantId : Bounded 128 value.grantId
  authority : Field 64 BASE58 value.authority
  agent : Field 64 BASE58 value.agent
  permitDigest : Field 64 HEX64 value.permitDigest
  requestFingerprint : Field 64 HEX64 value.requestFingerprint
  service : Bounded 128 value.service
  capability : Bounded 128 value.capability
  network : Bounded 64 value.network
  mint : Bounded 64 value.mint
  recipient : Bounded 64 value.recipient
  amountAtomic : Field 20 ATOMIC value.amountAtomic
  decision : DecisionFits value.decision
  reasonCodes : CodesFit value.reasonCodes
  paymentTransactionId : ∀ id ∈ value.paymentTransactionId, Field 128 BASE58 id
  decidedAt : SafeFrom 1 value.decidedAt
  operation : ExactOperationV1.Fits value.operation
  operationDigest : Field 64 HEX64 value.operationDigest
  signature : Field 128 BASE58 value.signature

theorem receipt_accepted {path : String} {value : Option Json} {result : SignedAuthorizationReceipt}
    (h : receipt path value = .ok result) :
    SignedAuthorizationReceipt.Fits result ∧ Reads value result.toJson := by
  simp only [receipt, bind_eq_ok, string_eq_field, integer_eq_ok, literalInt_eq_ok, pure_eq_ok,
    Except.ok.injEq] at h
  obtain ⟨record, hrecord, -, hversion, domain, ⟨hdomain, hdomain'⟩, invocationId,
    ⟨hinvocationId, hinvocationId'⟩, grantId, ⟨hgrantId, hgrantId'⟩, authority, ⟨hauthority, hauthority'⟩, agent,
    ⟨hagent, hagent'⟩, permitDigest, ⟨hpermitDigest, hpermitDigest'⟩, fingerprint,
    ⟨hfingerprint, hfingerprint'⟩, service, ⟨hservice, hservice'⟩, capability, ⟨hcapability, hcapability'⟩,
    network, ⟨hnetwork, hnetwork'⟩, mint, ⟨hmint, hmint'⟩, recipient, ⟨hrecipient, hrecipient'⟩, amountAtomic,
    ⟨hamount, hamount'⟩, decision, hdecision, codes, hcodes, transactionId, htransactionId, decidedAt,
    ⟨hdecidedAt, hdecidedAt'⟩, operation, hoperation, operationDigest, ⟨hoperationDigest, hoperationDigest'⟩,
    signature, hsignature, rfl⟩ := h
  obtain ⟨hdecision', hdecision⟩ := decision_accepted hdecision
  obtain ⟨hcodes', hcodes⟩ := reasonCodes_accepted hcodes
  obtain ⟨htransactionId', htransactionId⟩ := nullable_accepted string_accepted htransactionId
  obtain ⟨hoperation', hoperation⟩ := operation_accepted hoperation
  obtain ⟨hsignature', hsignature⟩ := signature_accepted hsignature
  refine ⟨⟨hdomain'.bounded, hinvocationId'.bounded, hgrantId'.bounded, hauthority', hagent', hpermitDigest',
    hfingerprint', hservice'.bounded, hcapability'.bounded, hnetwork'.bounded, hmint'.bounded,
    hrecipient'.bounded, hamount', hdecision', hcodes', htransactionId', hdecidedAt', hoperation',
    hoperationDigest', hsignature'⟩, reads_self hrecord rfl (by decide) ?_⟩
  simp only [UnsignedAuthorizationReceiptV2.members, List.cons_append, List.nil_append, List.forall_mem_cons,
    List.not_mem_nil, false_imp_iff, implies_true, and_true]
  exact ⟨.of_eq hversion, .of_eq hdomain, .of_eq hinvocationId, .of_eq hgrantId, .of_eq hauthority,
    .of_eq hagent, .of_eq hpermitDigest, .of_eq hfingerprint, .of_eq hservice, .of_eq hcapability,
    .of_eq hnetwork, .of_eq hmint, .of_eq hrecipient, .of_eq hamount, hdecision, hcodes, htransactionId,
    .of_eq hdecidedAt, hoperation, .of_eq hoperationDigest, hsignature⟩

theorem nullable_field (path : String) {max : ℕ} {pattern : String → Bool} {value : Option String}
    (h : ∀ text ∈ value, Field max pattern text) :
    nullable (string path max pattern) (some (Json.orNull .str value)) = .ok value :=
  nullable_of_fits _ _ (fun _ ↦ by simp) fun text htext ↦ string_of_field (h text htext)

theorem receipt_toJson {path : String} {value : SignedAuthorizationReceipt}
    (h : SignedAuthorizationReceipt.Fits value) : receipt path (some value.toJson) = .ok value := by
  unfold receipt SignedAuthorizationReceipt.toJson
  refine bind_eq_ok.2 ⟨_, object_self rfl, ?_⟩
  have htransactionId := fun path ↦ nullable_field path h.paymentTransactionId
  simp [Json.member, UnsignedAuthorizationReceiptV2.members, literalInt_self, string_of_bounded,
    string_of_field, integer_of_safe, operation_toJson, signature_toJson, decision_toJson, reasonCodes_toJson,
    h.domain, h.invocationId, h.grantId, h.authority, h.agent, h.permitDigest, h.requestFingerprint,
    h.service, h.capability, h.network, h.mint, h.recipient, h.amountAtomic, h.decision, h.reasonCodes,
    htransactionId, h.decidedAt, h.operation, h.operationDigest, h.signature]

/-! ## Payment artifacts -/

structure PaidRequest.Fits (value : PaidRequest) : Prop where
  url : Bounded MAX_URL value.url
  body : Bounded MAX_BODY value.body
  sha256 : Field 64 HEX64 value.sha256

theorem outboundRequest_accepted {path : String} {value : Option Json} {result : PaidRequest}
    (h : outboundRequest path value = .ok result) :
    PaidRequest.Fits result ∧ Reads value (outboundRequestJson result) := by
  simp only [outboundRequest, bind_eq_ok, string_eq_field, literal_eq_ok, pure_eq_ok, Except.ok.injEq] at h
  obtain ⟨record, hrecord, -, hmethod, url, ⟨hurl, hurl'⟩, -, htype, body, ⟨hbody, hbody'⟩, sha256,
    ⟨hsha256, hsha256'⟩, rfl⟩ := h
  refine ⟨⟨hurl'.bounded, hbody'.bounded, hsha256'⟩, reads_self hrecord rfl (by decide) ?_⟩
  simp only [List.forall_mem_cons, List.not_mem_nil, false_imp_iff, implies_true, and_true]
  exact ⟨.of_eq hmethod, .of_eq hurl, .of_eq htype, .of_eq hbody, .of_eq hsha256⟩

theorem outboundRequest_toJson {path : String} {value : PaidRequest} (h : PaidRequest.Fits value) :
    outboundRequest path (some (outboundRequestJson value)) = .ok value := by
  unfold outboundRequest outboundRequestJson
  refine bind_eq_ok.2 ⟨_, object_self rfl, ?_⟩
  simp [Json.member, literal_self, string_of_bounded, string_of_field, h.url, h.body, h.sha256]

structure PaymentRequirement.Fits (value : PaymentRequirement) : Prop where
  protocol : value.protocol = "x402"
  x402Version : SafeFrom 0 value.x402Version
  acceptsIndex : SafeFrom 0 value.acceptsIndex
  scheme : Bounded 32 value.scheme
  network : Bounded 128 value.network
  asset : Bounded 64 value.asset
  payTo : Bounded 64 value.payTo
  amountAtomic : Field 20 ATOMIC value.amountAtomic
  feePayer : ∀ key ∈ value.feePayer, Bounded 64 key
  maxTimeoutSeconds : ∃ seconds : Option ℤ, value.maxTimeoutSeconds = seconds.map (fun n : ℤ ↦ .finite n) ∧
    ∀ n ∈ seconds, SafeFrom 0 n
  resourceUrl : ∀ url ∈ value.resourceUrl, Bounded MAX_URL url

theorem nullable_bounded (path : String) {max : ℕ} {value : Option String}
    (h : ∀ text ∈ value, Bounded max text) :
    nullable (string path max) (some (Json.orNull .str value)) = .ok value :=
  nullable_field path fun text htext ↦ ⟨h text htext, rfl⟩

theorem bounded_accepted {path : String} {max : ℕ} (value : Option Json) (text : String)
    (h : string path max (fun _ ↦ true) value = .ok text) : Bounded max text ∧ Reads value (.str text) :=
  ⟨(string_eq_field.1 h).2.bounded, .of_eq (string_eq_field.1 h).1⟩

theorem integer_accepted {path : String} {min : ℤ} (value : Option Json) (result : ℤ)
    (h : integer path min value = .ok result) : SafeFrom min result ∧ Reads value (.int result) :=
  ⟨(integer_eq_ok.1 h).2, .of_eq (integer_eq_ok.1 h).1⟩

theorem nullable_integer (path : String) {seconds : Option ℤ} (h : ∀ n ∈ seconds, SafeFrom 0 n) :
    nullable (integer path) (some (Json.orNull .num (seconds.map fun n : ℤ ↦ .finite n))) = .ok seconds := by
  have heq : Json.orNull .num (seconds.map fun n : ℤ ↦ .finite n) = Json.orNull Json.int seconds := by
    cases seconds <;> rfl
  rw [heq]
  exact nullable_of_fits _ _ (fun _ ↦ by simp [Json.int]) fun n hn ↦ integer_of_safe (h n hn)

theorem paymentRequirement_accepted {path : String} {value : Option Json} {result : PaymentRequirement}
    (h : paymentRequirement path value = .ok result) :
    PaymentRequirement.Fits result ∧ Reads value (requirementJson result) := by
  simp only [paymentRequirement, bind_eq_ok, string_eq_field, integer_eq_ok, literal_eq_ok, pure_eq_ok,
    Except.ok.injEq] at h
  obtain ⟨record, hrecord, -, hprotocol, x402Version, ⟨hversion, hversion'⟩, acceptsIndex, ⟨hindex, hindex'⟩,
    scheme, ⟨hscheme, hscheme'⟩, network, ⟨hnetwork, hnetwork'⟩, asset, ⟨hasset, hasset'⟩, payTo,
    ⟨hpayTo, hpayTo'⟩, amountAtomic, ⟨hamount, hamount'⟩, feePayer, hfeePayer, seconds, hseconds, resourceUrl,
    hresourceUrl, rfl⟩ := h
  obtain ⟨hfeePayer', hfeePayer⟩ := nullable_accepted bounded_accepted hfeePayer
  obtain ⟨hseconds', hseconds⟩ := nullable_accepted integer_accepted hseconds
  obtain ⟨hresourceUrl', hresourceUrl⟩ := nullable_accepted bounded_accepted hresourceUrl
  have hcast : ((acceptsIndex.toNat : ℕ) : ℤ) = acceptsIndex := Int.toNat_of_nonneg hindex'.1
  have htimeout : Json.orNull .num (seconds.map fun n : ℤ ↦ .finite n) = Json.orNull Json.int seconds := by
    cases seconds <;> rfl
  refine ⟨⟨rfl, hversion', by rwa [hcast], hscheme'.bounded, hnetwork'.bounded, hasset'.bounded,
    hpayTo'.bounded, hamount', hfeePayer', ⟨seconds, rfl, hseconds'⟩, hresourceUrl'⟩,
    reads_self hrecord rfl (by decide) ?_⟩
  simp only [List.forall_mem_cons, List.not_mem_nil, false_imp_iff, implies_true, and_true, hcast, htimeout]
  exact ⟨.of_eq hprotocol, .of_eq hversion, .of_eq hindex, .of_eq hscheme, .of_eq hnetwork, .of_eq hasset,
    .of_eq hpayTo, .of_eq hamount, hfeePayer, hseconds, hresourceUrl⟩

theorem paymentRequirement_toJson {path : String} {value : PaymentRequirement}
    (h : PaymentRequirement.Fits value) :
    paymentRequirement path (some (requirementJson value)) = .ok value := by
  obtain ⟨protocol, x402Version, acceptsIndex, scheme, network, asset, payTo, amount, feePayer, maxTimeoutSeconds,
    resourceUrl⟩ := value
  obtain ⟨rfl, hversion, hindex, hscheme, hnetwork, hasset, hpayTo, hamount, hfeePayer, ⟨seconds, rfl, hsafe⟩,
    hresourceUrl⟩ := h
  simp only at *
  have htimeout := fun path ↦ nullable_integer path hsafe
  have hfeePayer := fun path ↦ nullable_bounded path hfeePayer
  have hresourceUrl := fun path ↦ nullable_bounded path hresourceUrl
  unfold paymentRequirement requirementJson
  refine bind_eq_ok.2 ⟨_, object_self rfl, ?_⟩
  simp [Json.member, literal_self, string_of_bounded, string_of_field, integer_of_safe, *]

structure PaymentAttempt.Fits (value : PaymentAttempt) : Prop where
  protocol : value.protocol = "x402"
  scheme : Bounded 32 value.scheme
  settlementProfile : Bounded 64 value.settlementProfile
  network : Bounded 128 value.network
  payer : Bounded 64 value.payer
  payerSignature : Bounded 128 value.payerSignature
  feePayer : Bounded 64 value.feePayer
  asset : Bounded 64 value.asset
  payTo : Bounded 64 value.payTo
  amountAtomic : Field 20 ATOMIC value.amountAtomic
  blockhash : Bounded 64 value.blockhash
  lastValidBlockHeight : Field 20 ATOMIC value.lastValidBlockHeight
  resourceUrl : Bounded MAX_URL value.resourceUrl
  requestSha256 : Field 64 HEX64 value.requestSha256
  transactionBase64 : ∀ text ∈ value.transactionBase64, Field MAX_TRANSACTION_BASE64 BASE64 text
  preparedAt : SafeFrom 0 value.preparedAt

theorem optionalMember_accepted {α : Type} {read : Reader α} {Fits : α → Prop} {encode : α → Json}
    (h : ∀ value a, read value = .ok a → Fits a ∧ Reads value (encode a)) {value : Option Json}
    {result : Option α} (hread : optionalMember read value = .ok result) :
    (∀ a ∈ result, Fits a) ∧ (result = none → value = none) ∧ ∀ a ∈ result, Reads value (encode a) := by
  cases value with
  | none =>
    cases hread
    simp
  | some value =>
    simp only [optionalMember] at hread
    cases hvalue : read (some value) with
    | error e => simp [hvalue, Except.map] at hread
    | ok a =>
      simp only [hvalue, Except.map, Except.ok.injEq] at hread
      subst hread
      obtain ⟨hfits, hreads⟩ := h _ _ hvalue
      exact ⟨by simpa using hfits, by simp, by simpa using hreads⟩

theorem paymentAttempt_accepted {path : String} {value : Option Json} {result : PaymentAttempt}
    (h : paymentAttempt path value = .ok result) :
    PaymentAttempt.Fits result ∧ Reads value (attemptJson result) := by
  simp only [paymentAttempt, bind_eq_ok, string_eq_field, integer_eq_ok, literal_eq_ok, pure_eq_ok,
    Except.ok.injEq] at h
  obtain ⟨record, hrecord, -, hprotocol, scheme, ⟨hscheme, hscheme'⟩, profile, ⟨hprofile, hprofile'⟩, network,
    ⟨hnetwork, hnetwork'⟩, payer, ⟨hpayer, hpayer'⟩, payerSignature, ⟨hpayerSignature, hpayerSignature'⟩,
    feePayer, ⟨hfeePayer, hfeePayer'⟩, asset, ⟨hasset, hasset'⟩, payTo, ⟨hpayTo, hpayTo'⟩, amountAtomic,
    ⟨hamount, hamount'⟩, blockhash, ⟨hblockhash, hblockhash'⟩, height, ⟨hheight, hheight'⟩, resourceUrl,
    ⟨hresourceUrl, hresourceUrl'⟩, sha256, ⟨hsha256, hsha256'⟩, preparedAt, ⟨hpreparedAt, hpreparedAt'⟩,
    transaction, htransaction, rfl⟩ := h
  obtain ⟨htransaction', habsent, htransaction⟩ := optionalMember_accepted string_accepted htransaction
  refine ⟨⟨rfl, hscheme'.bounded, hprofile'.bounded, hnetwork'.bounded, hpayer'.bounded,
    hpayerSignature'.bounded, hfeePayer'.bounded, hasset'.bounded, hpayTo'.bounded, hamount',
    hblockhash'.bounded, hheight', hresourceUrl'.bounded, hsha256', htransaction', hpreparedAt'⟩, ?_⟩
  -- The transaction is the one member that may be missing.
  cases transaction with
  | none =>
    refine reads_of_object hrecord ATTEMPT_FIELDS rfl (by decide) (fun name hname ↦ ?_) ?_
    · rcases List.mem_append.1 hname with hmem | hmem
      · exact .inl hmem
      · obtain rfl := List.mem_singleton.1 hmem
        exact .inr (habsent rfl)
    · simp only [Option.map_none, Option.toList_none, List.append_nil, List.cons_append, List.nil_append,
        List.forall_mem_cons, List.not_mem_nil, false_imp_iff, implies_true, and_true]
      exact ⟨.of_eq hprotocol, .of_eq hscheme, .of_eq hprofile, .of_eq hnetwork, .of_eq hpayer,
        .of_eq hpayerSignature, .of_eq hfeePayer, .of_eq hasset, .of_eq hpayTo, .of_eq hamount,
        .of_eq hblockhash, .of_eq hheight, .of_eq hresourceUrl, .of_eq hsha256, .of_eq hpreparedAt⟩
  | some transaction =>
    refine reads_of_object hrecord (ATTEMPT_FIELDS.take 14 ++ ["transactionBase64", "preparedAt"]) rfl
      (by decide) (fun name hname ↦ .inl ?_) ?_
    · have hall : ∀ name ∈ ATTEMPT_FIELDS ++ ["transactionBase64"],
          name ∈ ATTEMPT_FIELDS.take 14 ++ ["transactionBase64", "preparedAt"] := by decide
      exact hall name hname
    · simp only [Option.map_some, Option.toList_some, List.cons_append, List.nil_append,
        List.forall_mem_cons, List.not_mem_nil, false_imp_iff, implies_true, and_true]
      exact ⟨.of_eq hprotocol, .of_eq hscheme, .of_eq hprofile, .of_eq hnetwork, .of_eq hpayer,
        .of_eq hpayerSignature, .of_eq hfeePayer, .of_eq hasset, .of_eq hpayTo, .of_eq hamount,
        .of_eq hblockhash, .of_eq hheight, .of_eq hresourceUrl, .of_eq hsha256, htransaction _ rfl,
        .of_eq hpreparedAt⟩

/-- The transaction stands between other members, and only when there is one. -/
theorem paymentAttempt_toJson {path : String} {value : PaymentAttempt} (h : PaymentAttempt.Fits value) :
    paymentAttempt path (some (attemptJson value)) = .ok value := by
  obtain ⟨protocol, scheme, profile, network, payer, payerSignature, feePayer, asset, payTo, amount, blockhash,
    height, resourceUrl, sha256, transaction, preparedAt⟩ := value
  obtain ⟨rfl, hscheme, hprofile, hnetwork, hpayer, hpayerSignature, hfeePayer, hasset, hpayTo, hamount,
    hblockhash, hheight, hresourceUrl, hsha256, htransaction, hpreparedAt⟩ := h
  simp only at *
  unfold paymentAttempt attemptJson
  cases transaction with
  | none =>
    rw [object_of_names ATTEMPT_FIELDS rfl (by decide) (by decide), ok_bind]
    simp [Json.member, literal_self, string_of_bounded, string_of_field, integer_of_safe, optionalMember, *]
  | some transaction =>
    rw [object_of_names (ATTEMPT_FIELDS.take 14 ++ ["transactionBase64", "preparedAt"]) rfl (by decide)
      (by decide), ok_bind]
    have hencoded := htransaction transaction rfl
    simp [Json.member, literal_self, string_of_bounded, string_of_field, integer_of_safe, optionalMember,
      Except.map, *]

structure ConfirmedSettlement.Fits (value : ConfirmedSettlement) : Prop where
  transactionId : Field 128 BASE58 value.transactionId
  slot : ∀ slot ∈ value.slot, Field 20 ATOMIC slot
  facilitatorReportedTransaction : ∀ id ∈ value.facilitatorReportedTransaction, Bounded 128 id
  confirmedAt : SafeFrom 0 value.confirmedAt

theorem settlement_accepted {path : String} {value : Option Json} {result : ConfirmedSettlement}
    (h : settlement path value = .ok result) :
    ConfirmedSettlement.Fits result ∧ Reads value (settlementJson result) := by
  simp only [settlement, bind_eq_ok, string_eq_field, integer_eq_ok, pure_eq_ok, Except.ok.injEq] at h
  obtain ⟨record, hrecord, transactionId, ⟨hid, hid'⟩, slot, hslot, reported, hreported, confirmedAt,
    ⟨hconfirmed, hconfirmed'⟩, rfl⟩ := h
  obtain ⟨hslot', hslot⟩ := nullable_accepted string_accepted hslot
  obtain ⟨hreported', hreported⟩ := nullable_accepted bounded_accepted hreported
  refine ⟨⟨hid', hslot', hreported', hconfirmed'⟩, reads_self hrecord rfl (by decide) ?_⟩
  simp only [List.forall_mem_cons, List.not_mem_nil, false_imp_iff, implies_true, and_true]
  exact ⟨.of_eq hid, hslot, hreported, .of_eq hconfirmed⟩

theorem settlement_toJson {path : String} {value : ConfirmedSettlement} (h : ConfirmedSettlement.Fits value) :
    settlement path (some (settlementJson value)) = .ok value := by
  have hslot := fun path ↦ nullable_field path h.slot
  have hreported := fun path ↦ nullable_bounded path h.facilitatorReportedTransaction
  unfold settlement settlementJson
  refine bind_eq_ok.2 ⟨_, object_self rfl, ?_⟩
  simp [Json.member, string_of_field, integer_of_safe, h.transactionId, hslot, hreported, h.confirmedAt]

structure EvidenceResult.Fits (value : EvidenceResult) : Prop where
  httpStatus : SafeFrom 100 value.httpStatus
  bodyLength : Text.utf16Length value.bodyBase64 ≤ MAX_RESULT_BASE64
  bodyBase64 : BASE64 value.bodyBase64 = true
  bytes : SafeFrom 0 value.bytes
  sha256 : Field 64 HEX64 value.sha256

theorem bodyBase64_accepted {path : String} {value : Option Json} {result : String}
    (h : bodyBase64 path value = .ok result) :
    (Text.utf16Length result ≤ MAX_RESULT_BASE64 ∧ BASE64 result = true) ∧ Reads value (.str result) := by
  unfold bodyBase64 at h
  split at h
  · split at h
    · rename_i hbody
      cases h
      exact ⟨hbody, .of_eq rfl⟩
    · cases h
  · cases h

theorem result_accepted {path : String} {value : Option Json} {found : EvidenceResult}
    (h : result path value = .ok found) : found.Fits ∧ Reads value found.toJson := by
  simp only [result, bind_eq_ok, string_eq_field, integer_eq_ok, literal_eq_ok, pure_eq_ok, Except.ok.injEq] at h
  obtain ⟨record, hrecord, httpStatus, ⟨hstatus, hstatus'⟩, -, htype, body, hbody, bytes, ⟨hbytes, hbytes'⟩,
    sha256, ⟨hsha256, hsha256'⟩, rfl⟩ := h
  obtain ⟨⟨hlength, hbase64⟩, hbody⟩ := bodyBase64_accepted hbody
  refine ⟨⟨hstatus', hlength, hbase64, hbytes', hsha256'⟩, reads_self hrecord rfl (by decide) ?_⟩
  simp only [List.forall_mem_cons, List.not_mem_nil, false_imp_iff, implies_true, and_true]
  exact ⟨.of_eq hstatus, .of_eq htype, hbody, .of_eq hbytes, .of_eq hsha256⟩

theorem result_toJson {path : String} {value : EvidenceResult} (h : value.Fits) :
    result path (some value.toJson) = .ok value := by
  have hbody : ∀ path, bodyBase64 path (some (.str value.bodyBase64)) = .ok value.bodyBase64 :=
    fun path ↦ if_pos ⟨h.bodyLength, h.bodyBase64⟩
  unfold result EvidenceResult.toJson
  refine bind_eq_ok.2 ⟨_, object_self rfl, ?_⟩
  simp [Json.member, literal_self, string_of_field, integer_of_safe, hbody, h.httpStatus, h.bytes, h.sha256]

structure SignedServiceAuthorizationV1.Fits (value : SignedServiceAuthorizationV1) : Prop where
  authority : Field 64 BASE58 value.authority
  invocationId : Bounded 128 value.invocationId
  grantId : Bounded 128 value.grantId
  url : Bounded MAX_URL value.url
  requestSha256 : Field 64 HEX64 value.requestSha256
  operationDigest : Field 64 HEX64 value.operationDigest
  network : Bounded 128 value.payment.network
  asset : Bounded 64 value.payment.asset
  payTo : Bounded 64 value.payment.payTo
  amountAtomic : Field 20 ATOMIC value.payment.amountAtomic
  issuedAt : SafeFrom 1 value.issuedAt
  expiresAt : SafeFrom 1 value.expiresAt
  signature : Field 128 BASE58 value.signature

theorem parseServiceAuthorization_accepted {path : String} {value : Option Json}
    {result : SignedServiceAuthorizationV1} (h : parseServiceAuthorization path value = .ok result) :
    SignedServiceAuthorizationV1.Fits result ∧ Reads value result.toJson := by
  simp only [parseServiceAuthorization, bind_eq_ok, string_eq_field, integer_eq_ok, literal_eq_ok,
    literalInt_eq_ok, pure_eq_ok, Except.ok.injEq] at h
  obtain ⟨record, hrecord, request, hrequest, payment, hpayment, -, hversion, -, hdomain, authority,
    ⟨hauthority, hauthority'⟩, invocationId, ⟨hinvocationId, hinvocationId'⟩, grantId, ⟨hgrantId, hgrantId'⟩, -,
    hmethod, url, ⟨hurl, hurl'⟩, -, htype, sha256, ⟨hsha256, hsha256'⟩, digest, ⟨hdigest, hdigest'⟩, network,
    ⟨hnetwork, hnetwork'⟩, asset, ⟨hasset, hasset'⟩, payTo, ⟨hpayTo, hpayTo'⟩, amount, ⟨hamount, hamount'⟩,
    issuedAt, ⟨hissuedAt, hissuedAt'⟩, expiresAt, ⟨hexpiresAt, hexpiresAt'⟩, signature, hsignature, rfl⟩ := h
  obtain ⟨hsignature', hsignature⟩ := signature_accepted hsignature
  refine ⟨⟨hauthority', hinvocationId'.bounded, hgrantId'.bounded, hurl'.bounded, hsha256', hdigest',
    hnetwork'.bounded, hasset'.bounded, hpayTo'.bounded, hamount', hissuedAt', hexpiresAt', hsignature'⟩,
    reads_self hrecord rfl (by decide) ?_⟩
  simp only [UnsignedServiceAuthorizationV1.members, List.cons_append, List.nil_append, List.forall_mem_cons,
    List.not_mem_nil, false_imp_iff, implies_true, and_true]
  refine ⟨.of_eq hversion, .of_eq hdomain, .of_eq hauthority, .of_eq hinvocationId, .of_eq hgrantId,
    reads_self hrequest rfl (by decide) ?_, .of_eq hdigest, reads_self hpayment rfl (by decide) ?_,
    .of_eq hissuedAt, .of_eq hexpiresAt, hsignature⟩
  · simp only [List.forall_mem_cons, List.not_mem_nil, false_imp_iff, implies_true, and_true]
    exact ⟨.of_eq hmethod, .of_eq hurl, .of_eq htype, .of_eq hsha256⟩
  · simp only [List.forall_mem_cons, List.not_mem_nil, false_imp_iff, implies_true, and_true]
    exact ⟨.of_eq hnetwork, .of_eq hasset, .of_eq hpayTo, .of_eq hamount⟩

theorem parseServiceAuthorization_reads {path : String} {given : Option Json} {value : SignedServiceAuthorizationV1}
    (h : SignedServiceAuthorizationV1.Fits value) (hreads : Reads given value.toJson) :
    parseServiceAuthorization path given = .ok value := by
  obtain ⟨record, hrecord, hfields⟩ := object_of_reads ["version", "domain", "authority", "invocationId", "grantId",
    "request", "operationDigest", "payment", "issuedAt", "expiresAt", "signature"] hreads rfl (by decide)
  simp only [UnsignedServiceAuthorizationV1.members, List.cons_append, List.nil_append, List.forall_mem_cons,
    reads_str, reads_int, List.not_mem_nil, false_imp_iff, implies_true, and_true] at hfields
  obtain ⟨hversion, hdomain, hauthority, hinvocationId, hgrantId, hrequest, hdigest, hpayment, hissuedAt,
    hexpiresAt, hsignature⟩ := hfields
  obtain ⟨request, hrequest, hrequestFields⟩ := object_of_reads ["method", "url", "contentType", "requestSha256"]
    hrequest rfl (by decide)
  obtain ⟨payment, hpayment, hpaymentFields⟩ := object_of_reads ["network", "asset", "payTo", "amountAtomic"]
    hpayment rfl (by decide)
  simp only [List.forall_mem_cons, reads_str, List.not_mem_nil, false_imp_iff, implies_true, and_true]
    at hrequestFields hpaymentFields
  obtain ⟨hmethod, hurl, htype, hsha256⟩ := hrequestFields
  obtain ⟨hnetwork, hasset, hpayTo, hamount⟩ := hpaymentFields
  have hsigned := fun path ↦ @signature_reads path _ _ h.signature hsignature
  unfold parseServiceAuthorization
  refine bind_eq_ok.2 ⟨_, hrecord path, ?_⟩
  refine bind_eq_ok.2 ⟨_, hrequest _, ?_⟩
  refine bind_eq_ok.2 ⟨_, hpayment _, ?_⟩
  simp [hversion, hdomain, hauthority, hinvocationId, hgrantId, hdigest, hissuedAt, hexpiresAt, hsigned, hmethod,
    hurl, htype, hsha256, hnetwork, hasset, hpayTo, hamount, literal_self, literalInt_self, string_of_bounded,
    string_of_field, integer_of_safe, h.authority, h.invocationId, h.grantId, h.url, h.requestSha256,
    h.operationDigest, h.network, h.asset, h.payTo, h.amountAtomic, h.issuedAt, h.expiresAt]

theorem parseServiceAuthorization_toJson {path : String} {value : SignedServiceAuthorizationV1}
    (h : SignedServiceAuthorizationV1.Fits value) :
    parseServiceAuthorization path (some value.toJson) = .ok value :=
  parseServiceAuthorization_reads h (.of_eq rfl)

structure SignedServiceAcknowledgementV1.Fits (value : SignedServiceAcknowledgementV1) : Prop where
  service : Field 64 BASE58 value.service
  invocationId : Bounded 128 value.invocationId
  authorizationDigest : Field 64 HEX64 value.authorizationDigest
  requestSha256 : Field 64 HEX64 value.requestSha256
  received : ExactOperationV1.Fits value.received
  transaction : ∀ id ∈ value.transaction, Field 128 BASE58 id
  asset : Bounded 64 value.asset
  payTo : Bounded 64 value.payTo
  amountAtomic : Field 20 ATOMIC value.amountAtomic
  httpStatus : SafeFrom 100 value.httpStatus
  sha256 : Field 64 HEX64 value.sha256
  bytes : SafeFrom 0 value.bytes
  fulfilledAt : SafeFrom 1 value.fulfilledAt
  signature : Field 128 BASE58 value.signature

theorem parseServiceAcknowledgement_accepted {path : String} {value : Option Json}
    {result : SignedServiceAcknowledgementV1} (h : parseServiceAcknowledgement path value = .ok result) :
    SignedServiceAcknowledgementV1.Fits result ∧ Reads value result.toJson := by
  simp only [parseServiceAcknowledgement, bind_eq_ok, string_eq_field, integer_eq_ok, literal_eq_ok,
    literalInt_eq_ok, pure_eq_ok, Except.ok.injEq] at h
  obtain ⟨record, hrecord, received, hreceived, payment, hpayment, returned, hreturned, -, hversion, -, hdomain,
    service, ⟨hservice, hservice'⟩, invocationId, ⟨hinvocationId, hinvocationId'⟩, authorization,
    ⟨hauthorization, hauthorization'⟩, sha256, ⟨hsha256, hsha256'⟩, method, ⟨hmethod, hmethod'⟩, resource,
    ⟨hresource, hresource'⟩, operation, ⟨hoperation, hoperation'⟩, datasetId, ⟨hdatasetId, hdatasetId'⟩,
    transaction, htransaction, asset, ⟨hasset, hasset'⟩, payTo, ⟨hpayTo, hpayTo'⟩, amount, ⟨hamount, hamount'⟩,
    httpStatus, ⟨hstatus, hstatus'⟩, -, htype, body, ⟨hbody, hbody'⟩, bytes, ⟨hbytes, hbytes'⟩, fulfilledAt,
    ⟨hfulfilled, hfulfilled'⟩, signature, hsignature, rfl⟩ := h
  obtain ⟨htransaction', htransaction⟩ := nullable_accepted string_accepted htransaction
  obtain ⟨hsignature', hsignature⟩ := signature_accepted hsignature
  refine ⟨⟨hservice', hinvocationId'.bounded, hauthorization', hsha256',
    ⟨hmethod'.bounded, hresource'.bounded, hoperation'.bounded, hdatasetId'.bounded⟩, htransaction',
    hasset'.bounded, hpayTo'.bounded, hamount', hstatus', hbody', hbytes', hfulfilled', hsignature'⟩,
    reads_self hrecord rfl (by decide) ?_⟩
  simp only [UnsignedServiceAcknowledgementV1.members, ExactOperationV1.toJson, List.cons_append, List.nil_append,
    List.forall_mem_cons, List.not_mem_nil, false_imp_iff, implies_true, and_true]
  refine ⟨.of_eq hversion, .of_eq hdomain, .of_eq hservice, .of_eq hinvocationId, .of_eq hauthorization,
    .of_eq hsha256, reads_self hreceived rfl (by decide) ?_, reads_self hpayment rfl (by decide) ?_,
    reads_self hreturned rfl (by decide) ?_, .of_eq hfulfilled, hsignature⟩
  · simp only [List.forall_mem_cons, List.not_mem_nil, false_imp_iff, implies_true, and_true]
    exact ⟨.of_eq hmethod, .of_eq hresource, .of_eq hoperation, .of_eq hdatasetId⟩
  · simp only [List.forall_mem_cons, List.not_mem_nil, false_imp_iff, implies_true, and_true]
    exact ⟨htransaction, .of_eq hasset, .of_eq hpayTo, .of_eq hamount⟩
  · simp only [List.forall_mem_cons, List.not_mem_nil, false_imp_iff, implies_true, and_true]
    exact ⟨.of_eq hstatus, .of_eq htype, .of_eq hbody, .of_eq hbytes⟩

theorem parseServiceAcknowledgement_reads {path : String} {given : Option Json}
    {value : SignedServiceAcknowledgementV1} (h : SignedServiceAcknowledgementV1.Fits value)
    (hreads : Reads given value.toJson) : parseServiceAcknowledgement path given = .ok value := by
  obtain ⟨record, hrecord, hfields⟩ := object_of_reads ["version", "domain", "service", "invocationId",
    "authorizationDigest", "requestSha256", "received", "payment", "result", "fulfilledAt", "signature"]
    hreads rfl (by decide)
  simp only [UnsignedServiceAcknowledgementV1.members, List.cons_append, List.nil_append, List.forall_mem_cons,
    reads_str, reads_int, List.not_mem_nil, false_imp_iff, implies_true, and_true] at hfields
  obtain ⟨hversion, hdomain, hservice, hinvocationId, hauthorization, hsha256, hreceived, hpayment, hresult,
    hfulfilled, hsignature⟩ := hfields
  obtain ⟨received, hreceived, hreceivedFields⟩ := object_of_reads OPERATION_FIELDS hreceived rfl (by decide)
  obtain ⟨payment, hpayment, hpaymentFields⟩ := object_of_reads ["transaction", "asset", "payTo", "amountAtomic"]
    hpayment rfl (by decide)
  obtain ⟨returned, hreturned, hreturnedFields⟩ := object_of_reads ["httpStatus", "contentType", "sha256", "bytes"]
    hresult rfl (by decide)
  simp only [List.forall_mem_cons, reads_str, reads_int, reads_orNull_str, List.not_mem_nil, false_imp_iff,
    implies_true, and_true] at hreceivedFields hpaymentFields hreturnedFields
  obtain ⟨hmethod, hresource, hoperation, hdatasetId⟩ := hreceivedFields
  obtain ⟨htransaction, hasset, hpayTo, hamount⟩ := hpaymentFields
  obtain ⟨hstatus, htype, hbody, hbytes⟩ := hreturnedFields
  have hsettled := fun path ↦ nullable_field path h.transaction
  have hsigned := fun path ↦ @signature_reads path _ _ h.signature hsignature
  unfold parseServiceAcknowledgement
  refine bind_eq_ok.2 ⟨_, hrecord path, ?_⟩
  refine bind_eq_ok.2 ⟨_, hreceived _, ?_⟩
  refine bind_eq_ok.2 ⟨_, hpayment _, ?_⟩
  refine bind_eq_ok.2 ⟨_, hreturned _, ?_⟩
  simp [hversion, hdomain, hservice, hinvocationId, hauthorization, hsha256, hfulfilled, hsigned, hmethod,
    hresource, hoperation, hdatasetId, htransaction, hasset, hpayTo, hamount, hstatus, htype, hbody, hbytes,
    hsettled, literal_self, literalInt_self, string_of_bounded, string_of_field, integer_of_safe, h.service,
    h.invocationId, h.authorizationDigest, h.requestSha256, h.received.method, h.received.resource,
    h.received.operation, h.received.datasetId, h.asset, h.payTo, h.amountAtomic, h.httpStatus, h.sha256,
    h.bytes, h.fulfilledAt]

theorem parseServiceAcknowledgement_toJson {path : String} {value : SignedServiceAcknowledgementV1}
    (h : SignedServiceAcknowledgementV1.Fits value) :
    parseServiceAcknowledgement path (some value.toJson) = .ok value :=
  parseServiceAcknowledgement_reads h (.of_eq rfl)

structure ServiceDigests.Fits (value : ServiceDigests) : Prop where
  serviceAuthorization : ∀ text ∈ value.serviceAuthorization, Field 64 HEX64 text
  serviceAcknowledgement : ∀ text ∈ value.serviceAcknowledgement, Field 64 HEX64 text

structure EvidenceDigests.Fits (value : EvidenceDigests) : Prop where
  purchasePermit : Field 64 HEX64 value.purchasePermit
  authorizationRequest : Field 64 HEX64 value.authorizationRequest
  operation : Field 64 HEX64 value.operation
  authorityDecision : ∀ text ∈ value.authorityDecision, Field 64 HEX64 text
  outboundRequest : ∀ text ∈ value.outboundRequest, Field 64 HEX64 text
  paymentRequirement : ∀ text ∈ value.paymentRequirement, Field 64 HEX64 text
  paymentAttempt : ∀ text ∈ value.paymentAttempt, Field 64 HEX64 text
  settlement : ∀ text ∈ value.settlement, Field 64 HEX64 text
  result : ∀ text ∈ value.result, Field 64 HEX64 text
  service : ∀ service ∈ value.service, service.Fits

theorem whenVersion2_accepted {α : Type} {version2 : Bool} {read : Except FormatError α} {result : Option α}
    (h : whenVersion2 version2 read = .ok result) :
    result.isSome = version2 ∧ ∀ a ∈ result, read = .ok a := by
  cases version2 with
  | false =>
    cases h
    exact ⟨rfl, fun a h ↦ by cases h⟩
  | true =>
    cases hread : read with
    | error e => simp [whenVersion2, hread, Except.map] at h
    | ok a =>
      simp only [whenVersion2, hread, Except.map, if_true, Except.ok.injEq] at h
      subst h
      exact ⟨rfl, fun b hb ↦ by
        cases hb
        rfl⟩

theorem serviceDigests_accepted {path : String} {record : List (String × Json)} {result : ServiceDigests}
    (h : serviceDigests path record = .ok result) :
    result.Fits ∧ ∀ entry ∈ result.members, Reads (Json.member record entry.1) entry.2 := by
  simp only [serviceDigests, digest, bind_eq_ok, pure_eq_ok, Except.ok.injEq] at h
  obtain ⟨authorization, hauthorization, acknowledgement, hacknowledgement, rfl⟩ := h
  obtain ⟨hauthorization', hauthorization⟩ := nullable_accepted string_accepted hauthorization
  obtain ⟨hacknowledgement', hacknowledgement⟩ := nullable_accepted string_accepted hacknowledgement
  refine ⟨⟨hauthorization', hacknowledgement'⟩, ?_⟩
  simp only [ServiceDigests.members, List.forall_mem_cons, List.not_mem_nil, false_imp_iff, implies_true, and_true]
  exact ⟨hauthorization, hacknowledgement⟩

theorem digests_accepted {path : String} {version2 : Bool} {value : Option Json} {result : EvidenceDigests}
    (h : digests path version2 value = .ok result) :
    (result.Fits ∧ result.service.isSome = version2) ∧ Reads value (.obj result.members) := by
  simp only [digests, digest, bind_eq_ok, string_eq_field, pure_eq_ok, Except.ok.injEq] at h
  obtain ⟨record, hrecord, permit, ⟨hpermit, hpermit'⟩, request, ⟨hrequest, hrequest'⟩, operation,
    ⟨hoperation, hoperation'⟩, decision, hdecision, outbound, houtbound, requirement, hrequirement, attempt,
    hattempt, settlement, hsettlement, result, hresult, service, hservice, rfl⟩ := h
  obtain ⟨hversion, hread⟩ := whenVersion2_accepted hservice
  obtain ⟨hdecision', hdecision⟩ := nullable_accepted string_accepted hdecision
  obtain ⟨houtbound', houtbound⟩ := nullable_accepted string_accepted houtbound
  obtain ⟨hrequirement', hrequirement⟩ := nullable_accepted string_accepted hrequirement
  obtain ⟨hattempt', hattempt⟩ := nullable_accepted string_accepted hattempt
  obtain ⟨hsettlement', hsettlement⟩ := nullable_accepted string_accepted hsettlement
  obtain ⟨hresult', hresult⟩ := nullable_accepted string_accepted hresult
  refine ⟨⟨⟨hpermit', hrequest', hoperation', hdecision', houtbound', hrequirement', hattempt', hsettlement',
    hresult', fun _ h ↦ (serviceDigests_accepted (hread _ h)).1⟩, hversion⟩, ?_⟩
  subst hversion
  cases service with
  | none =>
    refine reads_of_object hrecord DIGEST_FIELDS rfl (by decide) (fun name hname ↦ .inl (by simpa using hname)) ?_
    simp only [EvidenceDigests.members, Option.elim_none, List.append_nil, List.forall_mem_cons, List.not_mem_nil,
      false_imp_iff, implies_true, and_true]
    exact ⟨.of_eq hpermit, .of_eq hrequest, .of_eq hoperation, hdecision, houtbound, hrequirement, hattempt,
      hsettlement, hresult⟩
  | some service =>
    refine reads_of_object hrecord (DIGEST_FIELDS ++ SERVICE_FIELDS) rfl (by decide)
      (fun name hname ↦ .inl (by simpa using hname)) ?_
    simp only [EvidenceDigests.members, Option.elim_some, List.forall_mem_append, List.forall_mem_cons,
      List.not_mem_nil, false_imp_iff, implies_true, and_true]
    exact ⟨⟨.of_eq hpermit, .of_eq hrequest, .of_eq hoperation, hdecision, houtbound, hrequirement, hattempt,
      hsettlement, hresult⟩, (serviceDigests_accepted (hread _ rfl)).2⟩

theorem digests_toJson {path : String} {value : EvidenceDigests} (h : value.Fits) :
    digests path value.service.isSome (some (.obj value.members)) = .ok value := by
  obtain ⟨permit, request, operation, decision, outbound, requirement, attempt, settlement, result, service⟩ := value
  obtain ⟨hpermit, hrequest, hoperation, hdecision, houtbound, hrequirement, hattempt, hsettlement, hresult,
    hservice⟩ := h
  simp only at *
  have hdecision := fun path ↦ nullable_field path hdecision
  have houtbound := fun path ↦ nullable_field path houtbound
  have hrequirement := fun path ↦ nullable_field path hrequirement
  have hattempt := fun path ↦ nullable_field path hattempt
  have hsettlement := fun path ↦ nullable_field path hsettlement
  have hresult := fun path ↦ nullable_field path hresult
  unfold digests EvidenceDigests.members
  cases service with
  | none =>
    refine bind_eq_ok.2 ⟨_, object_self rfl, ?_⟩
    simp [Json.member, digest, string_of_field, whenVersion2, *]
  | some service =>
    have hauthorization := fun path ↦ nullable_field path (hservice service rfl).serviceAuthorization
    have hacknowledgement := fun path ↦
      nullable_field path (hservice service rfl).serviceAcknowledgement
    refine bind_eq_ok.2 ⟨_, object_self rfl, ?_⟩
    simp [Json.member, ServiceDigests.members, serviceDigests, digest, string_of_field, whenVersion2,
      Except.map, *]

structure SignedEvidenceManifest.Fits (value : SignedEvidenceManifest) : Prop where
  authority : Field 64 BASE58 value.authority
  issuedAt : SafeFrom 1 value.issuedAt
  settlementProfile : Bounded 64 value.settlementProfile
  grantId : Bounded 128 value.grantId
  invocationId : Bounded 128 value.invocationId
  purchaseState : value.purchaseState ∈ PURCHASE_STATES
  decision : DecisionFits value.decision
  reasonCodes : CodesFit value.reasonCodes
  digests : value.digests.Fits
  signature : Field 128 BASE58 value.signature

theorem purchaseState_accepted {path : String} {value : Option Json} {result : String}
    (h : purchaseState path value = .ok result) : result ∈ PURCHASE_STATES ∧ Reads value (.str result) := by
  unfold purchaseState at h
  split at h
  · split at h
    · rename_i hstate
      cases h
      exact ⟨hstate, .of_eq rfl⟩
    · cases h
  · cases h

theorem manifest_accepted {path : String} {version2 : Bool} {value : Option Json}
    {result : SignedEvidenceManifest} (h : manifest path version2 value = .ok result) :
    (result.Fits ∧ result.digests.service.isSome = version2) ∧ Reads value result.toJson := by
  simp only [manifest, bind_eq_ok, string_eq_field, integer_eq_ok, literal_eq_ok, literalInt_eq_ok, pure_eq_ok,
    Except.ok.injEq] at h
  obtain ⟨record, hrecord, digests, hdigests, state, hstate, -, hdomain, authority, ⟨hauthority, hauthority'⟩,
    issuedAt, ⟨hissuedAt, hissuedAt'⟩, profile, ⟨hprofile, hprofile'⟩, grantId, ⟨hgrantId, hgrantId'⟩,
    invocationId, ⟨hinvocationId, hinvocationId'⟩, decision, hdecision, codes, hcodes, signature, hsignature, -,
    hversion, rfl⟩ := h
  obtain ⟨⟨hdigests', hservice⟩, hdigests⟩ := digests_accepted hdigests
  obtain ⟨hstate', hstate⟩ := purchaseState_accepted hstate
  obtain ⟨hdecision', hdecision⟩ := decision_accepted hdecision
  obtain ⟨hcodes', hcodes⟩ := reasonCodes_accepted hcodes
  obtain ⟨hsignature', hsignature⟩ := signature_accepted hsignature
  rw [← hservice] at hversion
  refine ⟨⟨⟨hauthority', hissuedAt', hprofile'.bounded, hgrantId'.bounded, hinvocationId'.bounded, hstate',
    hdecision', hcodes', hdigests', hsignature'⟩, hservice⟩, reads_self hrecord rfl (by decide) ?_⟩
  simp only [UnsignedEvidenceManifest.members, List.cons_append, List.nil_append, List.forall_mem_cons,
    List.not_mem_nil, false_imp_iff, implies_true, and_true]
  exact ⟨.of_eq hversion, .of_eq hdomain, .of_eq hauthority, .of_eq hissuedAt, .of_eq hprofile, .of_eq hgrantId,
    .of_eq hinvocationId, hstate, hdecision, hcodes, hdigests, hsignature⟩

theorem manifest_toJson {path : String} {value : SignedEvidenceManifest} (h : value.Fits) :
    manifest path value.digests.service.isSome (some value.toJson) = .ok value := by
  have hstate : ∀ path, purchaseState path (some (.str value.purchaseState)) = .ok value.purchaseState :=
    fun path ↦ if_pos h.purchaseState
  have hversion : ∀ path, literalInt path (if value.digests.service.isSome = true then 2 else 1)
      (some (.int (versionNumber value.digests.service))) = .ok () := fun path ↦ literalInt_self
  unfold manifest SignedEvidenceManifest.toJson
  refine bind_eq_ok.2 ⟨_, object_self rfl, ?_⟩
  simp [Json.member, UnsignedEvidenceManifest.members, literal_self, string_of_bounded, string_of_field,
    integer_of_safe, digests_toJson, decision_toJson, reasonCodes_toJson, signature_toJson, hstate, hversion,
    h.authority, h.issuedAt, h.settlementProfile, h.grantId, h.invocationId, h.decision, h.reasonCodes, h.digests,
    h.signature]

/-! ## The bundle -/

structure ServiceExchange.Fits (value : ServiceExchange) : Prop where
  serviceAuthorization : ∀ authorization ∈ value.serviceAuthorization, authorization.Fits
  serviceAcknowledgement : ∀ acknowledgement ∈ value.serviceAcknowledgement, acknowledgement.Fits

/-- The bounds of every artifact, and one version for the artifacts and the manifest. -/
structure EvidenceBundle.Fits (value : EvidenceBundle) : Prop where
  settlementProfile : Bounded 64 value.settlementProfile
  grantId : Bounded 128 value.grantId
  invocationId : Bounded 128 value.invocationId
  purchasePermit : SignedPurchasePermitV2.Fits value.purchasePermit
  request : AuthorizationRequestV2.Fits value.request
  agentSignature : Field 128 BASE58 value.agentSignature.signature
  authorityDecision : ∀ receipt ∈ value.authorityDecision, receipt.Fits
  outboundRequest : ∀ request ∈ value.outboundRequest, PaidRequest.Fits request
  paymentRequirement : ∀ requirement ∈ value.paymentRequirement, PaymentRequirement.Fits requirement
  paymentAttempt : ∀ attempt ∈ value.paymentAttempt, PaymentAttempt.Fits attempt
  settlement : ∀ settlement ∈ value.settlement, ConfirmedSettlement.Fits settlement
  result : ∀ result ∈ value.result, result.Fits
  service : ∀ service ∈ value.service, service.Fits
  manifest : value.manifest.Fits
  version : value.manifest.digests.service.isSome = value.service.isSome

theorem serviceExchange_accepted {record : List (String × Json)} {result : ServiceExchange}
    (h : serviceExchange record = .ok result) :
    result.Fits ∧ ∀ entry ∈ result.members, Reads (Json.member record entry.1) entry.2 := by
  simp only [serviceExchange, bind_eq_ok, pure_eq_ok, Except.ok.injEq] at h
  obtain ⟨authorization, hauthorization, acknowledgement, hacknowledgement, rfl⟩ := h
  obtain ⟨hauthorization', hauthorization⟩ :=
    nullable_accepted (fun _ _ ↦ parseServiceAuthorization_accepted) hauthorization
  obtain ⟨hacknowledgement', hacknowledgement⟩ :=
    nullable_accepted (fun _ _ ↦ parseServiceAcknowledgement_accepted) hacknowledgement
  refine ⟨⟨hauthorization', hacknowledgement'⟩, ?_⟩
  simp only [ServiceExchange.members, List.forall_mem_cons, List.not_mem_nil, false_imp_iff, implies_true, and_true]
  exact ⟨hauthorization, hacknowledgement⟩

theorem bundleVersion_eq_ok {record : List (String × Json)} {version2 : Bool}
    (h : bundleVersion (.obj record) = .ok version2) :
    Json.member record "version" = some (.int (if version2 then 2 else 1)) := by
  simp only [bundleVersion] at h
  split at h
  · rename_i number hmember
    split_ifs at h with htwo hone
    · cases h
      rw [hmember, htwo]
      rfl
    · cases h
      rw [hmember, hone]
      rfl
  · cases h

theorem parseEvidenceValue_accepted {value : Json} {bundle : EvidenceBundle}
    (h : parseEvidenceValue value = .ok bundle) : bundle.Fits ∧ value.Same bundle.toJson := by
  simp only [parseEvidenceValue, bind_eq_ok, string_eq_field, literal_eq_ok, pure_eq_ok, Except.ok.injEq] at h
  obtain ⟨version2, hversion2, record, hrecord, -, hdomain, environment, henvironment, identifiers, hidentifiers,
    profile, ⟨hprofile, hprofile'⟩, grantId, ⟨hgrantId, hgrantId'⟩, invocationId,
    ⟨hinvocationId, hinvocationId'⟩, permit, hpermit, signed, hsigned, decision, hdecision, outbound, houtbound,
    requirement, hrequirement, attempt, hattempt, settlement, hsettlement, result, hresult, manifest, hmanifest,
    service, hservice, rfl⟩ := h
  obtain ⟨hpermit', hpermit⟩ := permit_accepted hpermit
  obtain ⟨⟨hrequest', hsignature'⟩, hsigned⟩ := authorizationRequest_accepted hsigned
  obtain ⟨hdecision', hdecision⟩ := nullable_accepted (fun _ _ ↦ receipt_accepted) hdecision
  obtain ⟨houtbound', houtbound⟩ := nullable_accepted (fun _ _ ↦ outboundRequest_accepted) houtbound
  obtain ⟨hrequirement', hrequirement⟩ := nullable_accepted (fun _ _ ↦ paymentRequirement_accepted) hrequirement
  obtain ⟨hattempt', hattempt⟩ := nullable_accepted (fun _ _ ↦ paymentAttempt_accepted) hattempt
  obtain ⟨hsettlement', hsettlement⟩ := nullable_accepted (fun _ _ ↦ settlement_accepted) hsettlement
  obtain ⟨hresult', hresult⟩ := nullable_accepted (fun _ _ ↦ result_accepted) hresult
  obtain ⟨⟨hmanifest', hdigests⟩, hsigned'⟩ := manifest_accepted hmanifest
  obtain ⟨hversion, hread⟩ := whenVersion2_accepted hservice
  refine ⟨⟨hprofile'.bounded, hgrantId'.bounded, hinvocationId'.bounded, hpermit', hrequest', hsignature',
    hdecision', houtbound', hrequirement', hattempt', hsettlement', hresult',
    fun service h ↦ (serviceExchange_accepted (hread service h)).1, hmanifest', hdigests.trans hversion.symm⟩, ?_⟩
  obtain rfl : value = .obj record := Option.some.inj (object_eq_ok.1 hrecord).1
  have henvironment : Reads (Json.member record "environment") (.obj [("settlementProfile", .str profile)]) := by
    refine reads_self henvironment rfl (by decide) ?_
    simp only [List.forall_mem_cons, List.not_mem_nil, false_imp_iff, implies_true, and_true]
    exact .of_eq hprofile
  have hidentifiers : Reads (Json.member record "identifiers")
      (.obj [("grantId", .str grantId), ("invocationId", .str invocationId)]) := by
    refine reads_self hidentifiers rfl (by decide) ?_
    simp only [List.forall_mem_cons, List.not_mem_nil, false_imp_iff, implies_true, and_true]
    exact ⟨.of_eq hgrantId, .of_eq hinvocationId⟩
  have hversion2 := bundleVersion_eq_ok hversion2
  subst hversion
  -- Version 2 has the members of the service exchange in front of the manifest.
  suffices hreads : Reads (some (.obj record)) (EvidenceBundle.toJson _) by
    obtain ⟨found, hfound, hsame⟩ := hreads
    exact Option.some.inj hfound ▸ hsame
  cases service with
  | none =>
    refine reads_of_object hrecord BUNDLE_FIELDS rfl (by decide) (fun name hname ↦ .inl (by simpa using hname)) ?_
    simp only [Option.elim_none, List.append_nil, List.cons_append, List.nil_append, List.forall_mem_cons,
      List.not_mem_nil, false_imp_iff, implies_true, and_true]
    exact ⟨.of_eq hversion2, .of_eq hdomain, henvironment, hidentifiers, hpermit, hsigned, hdecision, houtbound,
      hrequirement, hattempt, hsettlement, hresult, hsigned'⟩
  | some service =>
    have hknown : ∀ name ∈ BUNDLE_FIELDS ++ SERVICE_FIELDS ++ [],
        name ∈ BUNDLE_FIELDS.take 12 ++ SERVICE_FIELDS ++ ["manifest"] := by decide
    refine reads_of_object hrecord (BUNDLE_FIELDS.take 12 ++ SERVICE_FIELDS ++ ["manifest"]) rfl (by decide)
      (fun name hname ↦ .inl (hknown name hname)) ?_
    simp only [Option.elim_some, List.forall_mem_append, List.forall_mem_cons, List.not_mem_nil, false_imp_iff,
      implies_true, and_true]
    exact ⟨⟨⟨.of_eq hversion2, .of_eq hdomain, henvironment, hidentifiers, hpermit, hsigned, hdecision, houtbound,
      hrequirement, hattempt, hsettlement, hresult⟩, (serviceExchange_accepted (hread _ rfl)).2⟩, hsigned'⟩

theorem parseEvidenceBundle_accepted {platform : Platform} {input : BundleInput} {bundle : EvidenceBundle}
    (h : parseEvidenceBundle platform input = .ok bundle) : bundle.Fits := by
  cases input with
  | value value => exact (parseEvidenceValue_accepted h).1
  | text text =>
    simp only [parseEvidenceBundle, guardThat_bind_eq_ok, required_bind_eq_ok] at h
    obtain ⟨-, value, -, h⟩ := h
    exact (parseEvidenceValue_accepted h).1

/-- A bundle within the bounds is read back from its JSON. -/
theorem parseEvidenceValue_toJson {bundle : EvidenceBundle} (h : bundle.Fits) :
    parseEvidenceValue bundle.toJson = .ok bundle := by
  obtain ⟨⟨profile, grantId, invocationId, permit, request, agentSignature, decision, outbound, requirement,
    attempt, settlement, result, service⟩, manifest⟩ := bundle
  obtain ⟨hprofile, hgrantId, hinvocationId, hpermit, hrequest, hsignature, hdecision, houtbound, hrequirement,
    hattempt, hsettlement, hresult, hservice, hmanifest, hversion⟩ := h
  simp only at *
  have henvironment : ∀ path, object path ["settlementProfile"] []
      (some (.obj [("settlementProfile", .str profile)])) = .ok _ := fun path ↦ object_self rfl
  have hidentifiers : ∀ path, object path ["grantId", "invocationId"] []
      (some (.obj [("grantId", .str grantId), ("invocationId", .str invocationId)])) = .ok _ :=
    fun path ↦ object_self rfl
  have hdecision := fun path ↦ nullable_of_fits (receipt path) SignedAuthorizationReceipt.toJson
    (fun _ ↦ by simp [SignedAuthorizationReceipt.toJson])
    fun a ha ↦ receipt_toJson (hdecision a ha)
  have houtbound := fun path ↦ nullable_of_fits (outboundRequest path) outboundRequestJson
    (fun _ ↦ by simp [outboundRequestJson]) fun a ha ↦ outboundRequest_toJson (houtbound a ha)
  have hrequirement := fun path ↦ nullable_of_fits (paymentRequirement path) requirementJson
    (fun _ ↦ by simp [requirementJson]) fun a ha ↦ paymentRequirement_toJson (hrequirement a ha)
  have hattempt := fun path ↦ nullable_of_fits (paymentAttempt path) attemptJson
    (fun _ ↦ by simp [attemptJson]) fun a ha ↦ paymentAttempt_toJson (hattempt a ha)
  have hsettlement := fun path ↦ nullable_of_fits (Evidence.settlement path) settlementJson
    (fun _ ↦ by simp [settlementJson]) fun a ha ↦ settlement_toJson (hsettlement a ha)
  have hresult := fun path ↦ nullable_of_fits (Evidence.result path) EvidenceResult.toJson
    (fun _ ↦ by simp [EvidenceResult.toJson]) fun a ha ↦ result_toJson (hresult a ha)
  have hmanifest : ∀ path, Evidence.manifest path service.isSome (some manifest.toJson) = .ok manifest :=
    fun path ↦ hversion ▸ manifest_toJson hmanifest
  cases service with
  | none =>
    have hbundleVersion : bundleVersion (EvidenceBundle.toJson ⟨⟨profile, grantId, invocationId, permit, request,
        agentSignature, decision, outbound, requirement, attempt, settlement, result, none⟩, manifest⟩) =
        .ok false := by
      simp [bundleVersion, EvidenceBundle.toJson, Json.member, versionNumber, Json.int]
    refine bind_eq_ok.2 ⟨_, hbundleVersion, bind_eq_ok.2 ⟨_, object_self rfl, ?_⟩⟩
    have hmanifest : ∀ path, Evidence.manifest path false (some manifest.toJson) = .ok manifest := hmanifest
    simp [Json.member, literal_self, string_of_bounded, permit_toJson, authorizationRequest_toJson, whenVersion2, *]
  | some service =>
    have hbundleVersion : bundleVersion (EvidenceBundle.toJson ⟨⟨profile, grantId, invocationId, permit, request,
        agentSignature, decision, outbound, requirement, attempt, settlement, result, some service⟩, manifest⟩) =
        .ok true := by
      simp [bundleVersion, EvidenceBundle.toJson, Json.member, versionNumber, Json.int]
    have hrecord : object "$" (BUNDLE_FIELDS ++ if true then SERVICE_FIELDS else []) []
        (some (EvidenceBundle.toJson ⟨⟨profile, grantId, invocationId, permit, request, agentSignature, decision,
          outbound, requirement, attempt, settlement, result, some service⟩, manifest⟩)) = .ok _ :=
      object_of_names (BUNDLE_FIELDS.take 12 ++ SERVICE_FIELDS ++ ["manifest"]) rfl (by decide) (by decide)
    have hauthorization := fun path ↦ nullable_of_fits (parseServiceAuthorization path)
      SignedServiceAuthorizationV1.toJson (fun _ ↦ by simp [SignedServiceAuthorizationV1.toJson])
      fun a ha ↦ parseServiceAuthorization_toJson ((hservice service rfl).serviceAuthorization a ha)
    have hacknowledgement := fun path ↦ nullable_of_fits (parseServiceAcknowledgement path)
      SignedServiceAcknowledgementV1.toJson (fun _ ↦ by simp [SignedServiceAcknowledgementV1.toJson])
      fun a ha ↦ parseServiceAcknowledgement_toJson ((hservice service rfl).serviceAcknowledgement a ha)
    have hmanifest : ∀ path, Evidence.manifest path true (some manifest.toJson) = .ok manifest := hmanifest
    refine bind_eq_ok.2 ⟨_, hbundleVersion, bind_eq_ok.2 ⟨_, hrecord, ?_⟩⟩
    simp [Json.member, ServiceExchange.members, serviceExchange, literal_self, string_of_bounded, permit_toJson,
      authorizationRequest_toJson, whenVersion2, Except.map, *]

end VirtualHaibin.Evidence
