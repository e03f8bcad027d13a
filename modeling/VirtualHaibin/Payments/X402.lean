import VirtualHaibin.Payments.Transaction

/-!
# The x402 exact provider

The normalization of a decoded challenge, and everything the provider does before it transmits a
credential.  A failure before transmission has provably sent nothing.
-/

namespace VirtualHaibin.Payments

open Foundation Foundation.Checked

def MAX_ACCEPTS : ℕ := 16

/-- The number a JSON member carries, if it is one. -/
def number (members : List (String × Json)) (name : String) : Option Number :=
  match Json.member members name with
  | some (.num value) => some value
  | _ => none

/-- `resource.url` of the challenge envelope. -/
def challengeResourceUrl (decoded : List (String × Json)) : Option String :=
  (object? (Json.member decoded "resource")).bind fun resource ↦ text resource "url"

/-- One entry of `accepts`, or nothing if it is not well formed. -/
def normalizeRequirement (resourceUrl : Option String) (acceptsIndex : ℕ) (entry : Json) :
    Option PaymentRequirement := do
  let record ← object? (some entry)
  let scheme ← text record "scheme"
  let network ← text record "network"
  let asset ← text record "asset"
  let payTo ← text record "payTo"
  let amountAtomic ← (text record "amount").filter fun amount ↦
    isCanonicalAtomicAmount amount && Decimal.amount amount ≤ maxU64
  let extra := (object? (Json.member record "extra")).getD []
  return {
    protocol := "x402", x402Version := 2, acceptsIndex, scheme, network, asset, payTo, amountAtomic,
    feePayer := text extra "feePayer", maxTimeoutSeconds := number record "maxTimeoutSeconds", resourceUrl }

/-- Strict normalization of a decoded payment challenge. -/
def normalizeChallenge (platform : Platform) (decoded : Json) (requestSha256 : String) : ChallengeResult :=
  match decoded with
  | .obj record =>
    if number record "x402Version" ≠ some (.finite 2) then
      .rejected .UNSUPPORTED_PAYMENT_PROTOCOL
        ("Unsupported x402 version " ++ platform.stringify (Json.member record "x402Version") ++ ".")
    else match Json.member record "accepts" with
      | some (.arr accepts) =>
        if accepts.length = 0 ∨ MAX_ACCEPTS < accepts.length then
          .rejected .CHALLENGE_MALFORMED "Challenge accepts[] is missing, empty or too long."
        else
          let requirements := accepts.zipIdx.filterMap fun entry ↦
            normalizeRequirement (challengeResourceUrl record) entry.2 entry.1
          if requirements.isEmpty then
            .rejected .CHALLENGE_MALFORMED "Challenge has no well-formed payment requirement."
          else .challenge { requirements, requestSha256, raw := decoded }
      | _ => .rejected .CHALLENGE_MALFORMED "Challenge accepts[] is missing, empty or too long."
  | _ => .rejected .CHALLENGE_MALFORMED "Challenge is not an object."

structure FreshBlockhash where
  blockhash : String
  lastValidBlockHeight : ℤ

/-- The blockhash of the pinned RPC; `value` is `result.value` of its answer. -/
def freshBlockhash (platform : Platform) (profile : SettlementProfile) (value : List (String × Json)) :
    Except String FreshBlockhash := do
  let blockhash ← required (text value "blockhash") "Pinned RPC returned a malformed blockhash."
  let lastValid ← required (number value "lastValidBlockHeight") "Pinned RPC returned a malformed blockhash."
  guardThat (profile.requiredBlockhashPrefix.toList.isPrefixOf blockhash.toList)
    "Pinned RPC blockhash is not a sandbox blockhash; refusing to sign."
  match lastValid with
  | .finite height =>
    guardThat (height.den = 1) ("The number " ++ platform.stringify (some (.num lastValid)) ++
      " cannot be converted to a BigInt because it is not an integer")
    return { blockhash, lastValidBlockHeight := height.num }
  | .infinite _ => .error ("The number " ++ platform.stringify (some (.num lastValid)) ++
      " cannot be converted to a BigInt because it is not an integer")

/-- The entry of the raw challenge a requirement was normalized from, if it still agrees with it. -/
def originalMatches (raw : Json) (requirement : PaymentRequirement) : Bool :=
  match raw with
  | .obj record =>
    match Json.member record "accepts" with
    | some (.arr accepts) =>
      match accepts[requirement.acceptsIndex]? with
      | some (.obj original) =>
        text original "payTo" = some requirement.payTo && text original "amount" = some requirement.amountAtomic &&
          text original "asset" = some requirement.asset
      | _ => false
    | _ => false
  | _ => false

/-- The provider's pinned settlement profile and payment wallet. -/
structure ProviderPins where
  profile : SettlementProfile
  payerAddress : String

def ProviderPins.settlementProfile (pins : ProviderPins) : String := pins.profile.name

/-- What the outside world answers while a credential is being built. -/
structure CredentialAnswers where
  /-- `result.value` of `getLatestBlockhash`. -/
  blockhash : List (String × Json)
  /-- The transaction of the created payload, or the text of its exception. -/
  transaction : Except String (Option String)
  preparedAt : ℤ

/-- Everything before transmission: the recorded attempt, or why nothing was sent. -/
def prepareAttempt (platform : Platform) (pins : ProviderPins) (request : PaidRequest)
    (challenge : PaymentChallenge) (requirement : PaymentRequirement) (answers : CredentialAnswers) :
    Except String PaymentAttempt := do
  guardThat (paidRequestMatches platform request challenge.requestSha256)
    "Paid request does not match the request the challenge was issued for."
  guardThat (originalMatches challenge.raw requirement)
    "Selected requirement does not match the parsed challenge."
  let feePayer ← required (requirement.feePayer.filter fun feePayer ↦ feePayer ≠ pins.payerAddress)
    "Challenge fee payer is missing or is the payment wallet itself."
  let fresh ← freshBlockhash platform pins.profile answers.blockhash
  let transaction ← answers.transaction
  let check ← (validateExactPaymentTransaction platform transaction {
    payer := pins.payerAddress, feePayer, asset := requirement.asset, payTo := requirement.payTo,
    amountAtomic := requirement.amountAtomic, blockhash := fresh.blockhash }).mapError
      fun reason ↦ "payment transaction rejected: " ++ reason
  return {
    protocol := "x402", scheme := requirement.scheme, settlementProfile := pins.profile.name,
    network := requirement.network, payer := pins.payerAddress, payerSignature := check.payerSignature,
    feePayer, asset := requirement.asset, payTo := requirement.payTo,
    amountAtomic := requirement.amountAtomic, blockhash := fresh.blockhash,
    lastValidBlockHeight := fresh.lastValidBlockHeight.repr, resourceUrl := request.url,
    requestSha256 := request.sha256, transactionBase64 := transaction, preparedAt := answers.preparedAt }

/-! ## What a prepared attempt is -/

def PaymentAttempt.expected (attempt : PaymentAttempt) : ExpectedExactPayment where
  payer := attempt.payer
  feePayer := attempt.feePayer
  asset := attempt.asset
  payTo := attempt.payTo
  amountAtomic := attempt.amountAtomic
  blockhash := attempt.blockhash

/-- An attempt that pays exactly a requirement for exactly a request. -/
structure Prepared (platform : Platform) (pins : ProviderPins) (request : PaidRequest)
    (challenge : PaymentChallenge) (requirement : PaymentRequirement) (attempt : PaymentAttempt) : Prop where
  request_digest : computePaidRequestDigest platform request.url request.body = request.sha256
  challenge_digest : request.sha256 = challenge.requestSha256
  protocol_eq : attempt.protocol = "x402"
  scheme_eq : attempt.scheme = requirement.scheme
  profile_eq : attempt.settlementProfile = pins.profile.name
  network_eq : attempt.network = requirement.network
  payer_eq : attempt.payer = pins.payerAddress
  feePayer_eq : requirement.feePayer = some attempt.feePayer
  feePayer_ne : attempt.feePayer ≠ attempt.payer
  asset_eq : attempt.asset = requirement.asset
  payTo_eq : attempt.payTo = requirement.payTo
  amount_eq : attempt.amountAtomic = requirement.amountAtomic
  blockhash_pinned : pins.profile.requiredBlockhashPrefix.toList.isPrefixOf attempt.blockhash.toList = true
  height_eq : ∃ height : ℤ, attempt.lastValidBlockHeight = height.repr
  url_eq : attempt.resourceUrl = request.url
  request_eq : attempt.requestSha256 = request.sha256
  transaction : ∃ valid, validateExactPaymentTransaction platform attempt.transactionBase64 attempt.expected =
    .ok valid ∧ attempt.payerSignature = valid.payerSignature

theorem freshBlockhash_ok {platform : Platform} {profile : SettlementProfile} {value : List (String × Json)}
    {fresh : FreshBlockhash} (h : freshBlockhash platform profile value = .ok fresh) :
    profile.requiredBlockhashPrefix.toList.isPrefixOf fresh.blockhash.toList = true := by
  unfold freshBlockhash at h
  simp only [required_bind_eq_ok, guardThat_bind_eq_ok] at h
  obtain ⟨blockhash, -, lastValid, -, hprefixed, h⟩ := h
  cases lastValid with
  | finite height =>
    rw [guardThat_bind_eq_ok] at h
    obtain ⟨-, h⟩ := h
    cases h
    exact hprefixed
  | infinite negative => cases h

theorem prepareAttempt_ok {platform : Platform} {pins : ProviderPins} {request : PaidRequest}
    {challenge : PaymentChallenge} {requirement : PaymentRequirement} {answers : CredentialAnswers}
    {attempt : PaymentAttempt}
    (h : prepareAttempt platform pins request challenge requirement answers = .ok attempt) :
    Prepared platform pins request challenge requirement attempt := by
  unfold prepareAttempt at h
  simp only [required_bind_eq_ok, guardThat_bind_eq_ok, filter_eq_some, decide_eq_true_eq] at h
  obtain ⟨hmatches, -, feePayer, ⟨hfeePayer, hne⟩, h⟩ := h
  rw [bind_eq_ok] at h
  obtain ⟨fresh, hfresh, h⟩ := h
  rw [bind_eq_ok] at h
  obtain ⟨transaction, -, h⟩ := h
  rw [Mandate.mapError_bind_eq_ok] at h
  obtain ⟨valid, hvalid, h⟩ := h
  cases h
  simp only [paidRequestMatches, Bool.and_eq_true, decide_eq_true_eq] at hmatches
  exact {
    request_digest := hmatches.1, challenge_digest := hmatches.2, protocol_eq := rfl, scheme_eq := rfl,
    profile_eq := rfl, network_eq := rfl, payer_eq := rfl, feePayer_eq := hfeePayer, feePayer_ne := hne,
    asset_eq := rfl, payTo_eq := rfl, amount_eq := rfl, blockhash_pinned := freshBlockhash_ok hfresh,
    height_eq := ⟨_, rfl⟩, url_eq := rfl, request_eq := rfl, transaction := ⟨valid, hvalid, rfl⟩ }

/-! ## The entries of a challenge -/

/-- An entry of `accepts` that states all its terms, with a printed token amount. -/
def WellFormedEntry (entry : Json) : Prop :=
  ∃ record scheme network asset payTo amount, entry = .obj record ∧
    Json.member record "scheme" = some (.str scheme) ∧ Json.member record "network" = some (.str network) ∧
    Json.member record "asset" = some (.str asset) ∧ Json.member record "payTo" = some (.str payTo) ∧
    Json.member record "amount" = some (.str (Nat.repr amount)) ∧ amount ≤ maxU64

/-- A requirement that repeats the terms of an entry. -/
structure CopiesEntry (resourceUrl : Option String) (record : List (String × Json))
    (requirement : PaymentRequirement) : Prop where
  protocol_eq : requirement.protocol = "x402"
  version_eq : requirement.x402Version = 2
  scheme_eq : Json.member record "scheme" = some (.str requirement.scheme)
  network_eq : Json.member record "network" = some (.str requirement.network)
  asset_eq : Json.member record "asset" = some (.str requirement.asset)
  payTo_eq : Json.member record "payTo" = some (.str requirement.payTo)
  amount_eq : Json.member record "amount" = some (.str requirement.amountAtomic)
  amount_u64 : ∃ amount ≤ maxU64, requirement.amountAtomic = Nat.repr amount
  feePayer_eq : requirement.feePayer =
    (object? (Json.member record "extra")).bind fun extra ↦ text extra "feePayer"
  maxTimeout_eq : requirement.maxTimeoutSeconds = number record "maxTimeoutSeconds"
  resourceUrl_eq : requirement.resourceUrl = resourceUrl

theorem tokenAmount_iff {text : String} :
    (isCanonicalAtomicAmount text && decide (Decimal.amount text ≤ maxU64)) = true ↔
      ∃ amount ≤ maxU64, text = Nat.repr amount := by
  rw [Bool.and_eq_true, decide_eq_true_eq]
  constructor
  · rintro ⟨hcanonical, hle⟩
    exact ⟨_, hle, (repr_amount hcanonical).symm⟩
  · rintro ⟨amount, hle, rfl⟩
    exact ⟨isCanonicalAtomicAmount_repr hle, by rwa [Decimal.amount_repr]⟩

theorem normalizeRequirement_iff {resourceUrl : Option String} {index : ℕ} {entry : Json}
    {requirement : PaymentRequirement} :
    normalizeRequirement resourceUrl index entry = some requirement ↔
      requirement.acceptsIndex = index ∧
        ∃ record, entry = .obj record ∧ CopiesEntry resourceUrl record requirement := by
  have hextra (record : List (String × Json)) :
      text ((object? (Json.member record "extra")).getD []) "feePayer" =
        (object? (Json.member record "extra")).bind fun extra ↦ text extra "feePayer" := by
    cases object? (Json.member record "extra") <;> rfl
  simp only [normalizeRequirement, Option.bind_eq_bind, Option.bind_eq_some_iff, filter_eq_some,
    Option.pure_def, Option.some.injEq, text_eq_some, object?_eq_some, tokenAmount_iff, hextra]
  constructor
  · rintro ⟨record, rfl, scheme, hscheme, network, hnetwork, asset, hasset, payTo, hpayTo, amount,
      ⟨hamount, hu64⟩, rfl⟩
    exact ⟨rfl, record, rfl, rfl, rfl, hscheme, hnetwork, hasset, hpayTo, hamount, hu64, rfl, rfl, rfl⟩
  · rintro ⟨rfl, record, rfl, h⟩
    refine ⟨record, rfl, _, h.scheme_eq, _, h.network_eq, _, h.asset_eq, _, h.payTo_eq, _,
      ⟨h.amount_eq, h.amount_u64⟩, ?_⟩
    ext1
    · exact h.protocol_eq.symm
    · exact h.version_eq.symm
    all_goals first | rfl | exact h.feePayer_eq.symm | exact h.maxTimeout_eq.symm | exact h.resourceUrl_eq.symm

theorem wellFormedEntry_iff {resourceUrl : Option String} {index : ℕ} {entry : Json} :
    WellFormedEntry entry ↔ ∃ requirement, normalizeRequirement resourceUrl index entry = some requirement := by
  constructor
  · rintro ⟨record, scheme, network, asset, payTo, amount, rfl, hscheme, hnetwork, hasset, hpayTo, hamount, hle⟩
    exact ⟨{ protocol := "x402", x402Version := 2, acceptsIndex := index, scheme, network, asset, payTo,
             amountAtomic := Nat.repr amount, feePayer := _, maxTimeoutSeconds := _, resourceUrl },
      normalizeRequirement_iff.2 ⟨rfl, record, rfl, rfl, rfl, hscheme, hnetwork, hasset, hpayTo, hamount,
        ⟨amount, hle, rfl⟩, rfl, rfl, rfl⟩⟩
  · rintro ⟨requirement, h⟩
    obtain ⟨-, record, rfl, hcopies⟩ := normalizeRequirement_iff.1 h
    obtain ⟨amount, hle, hamount⟩ := hcopies.amount_u64
    exact ⟨record, _, _, _, _, amount, rfl, hcopies.scheme_eq, hcopies.network_eq, hcopies.asset_eq,
      hcopies.payTo_eq, hamount ▸ hcopies.amount_eq, hle⟩

/-- The requirements are the well-formed entries of `accepts`, each once and in their order. -/
structure ListsEntries (resourceUrl : Option String) (accepts : List Json)
    (requirements : List PaymentRequirement) : Prop where
  ordered : requirements.Pairwise fun earlier later ↦ earlier.acceptsIndex < later.acceptsIndex
  copied : ∀ requirement ∈ requirements, ∃ record,
    accepts[requirement.acceptsIndex]? = some (.obj record) ∧ CopiesEntry resourceUrl record requirement
  complete : ∀ (index : ℕ) entry, accepts[index]? = some entry → WellFormedEntry entry →
    ∃ requirement ∈ requirements, requirement.acceptsIndex = index

theorem zipIdx_pairwise {α : Type} (items : List α) :
    items.zipIdx.Pairwise fun earlier later ↦ earlier.2 < later.2 := by
  have hindices : (items.zipIdx.map Prod.snd).Pairwise (· < ·) := by
    rw [List.zipIdx_map_snd]
    exact List.pairwise_lt_range'
  exact List.pairwise_map.1 hindices

theorem listsEntries (resourceUrl : Option String) (accepts : List Json) :
    ListsEntries resourceUrl accepts
      (accepts.zipIdx.filterMap fun entry ↦ normalizeRequirement resourceUrl entry.2 entry.1) where
  ordered := by
    refine (zipIdx_pairwise accepts).filterMap _ fun earlier later hlt first hfirst second hsecond ↦ ?_
    rw [(normalizeRequirement_iff.1 hfirst).1, (normalizeRequirement_iff.1 hsecond).1]
    exact hlt
  copied := by
    intro requirement hmem
    obtain ⟨⟨entry, index⟩, hentry, hnormalized⟩ := List.mem_filterMap.1 hmem
    obtain ⟨rfl, record, rfl, hcopies⟩ := normalizeRequirement_iff.1 hnormalized
    exact ⟨record, List.mk_mem_zipIdx_iff_getElem?.1 hentry, hcopies⟩
  complete := by
    intro index entry hentry hwellFormed
    obtain ⟨requirement, hnormalized⟩ := wellFormedEntry_iff.1 hwellFormed
    exact ⟨requirement, List.mem_filterMap.2 ⟨(entry, index), List.mk_mem_zipIdx_iff_getElem?.2 hentry, hnormalized⟩,
      (normalizeRequirement_iff.1 hnormalized).1⟩

/-- The envelope of a challenge that is read at all. -/
structure Envelope (decoded : Json) (record : List (String × Json)) (accepts : List Json) : Prop where
  decoded_eq : decoded = .obj record
  version_eq : Json.member record "x402Version" = some (.num (.finite 2))
  accepts_eq : Json.member record "accepts" = some (.arr accepts)
  nonempty : 1 ≤ accepts.length
  bounded : accepts.length ≤ MAX_ACCEPTS

theorem number_eq_some {members : List (String × Json)} {name : String} {value : Number} :
    number members name = some value ↔ Json.member members name = some (.num value) := by
  unfold number
  split <;> simp_all

/-- The requirements read from the entries of `accepts`. -/
def readEntries (record : List (String × Json)) (accepts : List Json) : List PaymentRequirement :=
  accepts.zipIdx.filterMap fun entry ↦ normalizeRequirement (challengeResourceUrl record) entry.2 entry.1

theorem normalizeChallenge_iff {platform : Platform} {decoded : Json} {requestSha256 : String}
    {challenge : PaymentChallenge} :
    normalizeChallenge platform decoded requestSha256 = .challenge challenge ↔
      ∃ record accepts, Envelope decoded record accepts ∧ readEntries record accepts ≠ [] ∧
        challenge = { requirements := readEntries record accepts, requestSha256, raw := decoded } := by
  constructor
  · intro h
    unfold normalizeChallenge at h
    split at h
    · rename_i record
      split at h
      · cases h
      · rename_i hversion
        split at h
        · rename_i accepts haccepts
          split at h
          · cases h
          · rename_i hlength
            simp only at h
            split at h
            · cases h
            · rename_i hnonempty
              rw [not_or, not_lt] at hlength
              rw [not_not, number_eq_some] at hversion
              cases h
              exact ⟨record, accepts, ⟨rfl, hversion, haccepts, by omega, hlength.2⟩,
                fun hnil ↦ hnonempty (List.isEmpty_iff.2 hnil), rfl⟩
        · cases h
    · cases h
  · rintro ⟨record, accepts, ⟨rfl, hversion, haccepts, hpos, hbound⟩, hnonempty, rfl⟩
    have hlength : ¬ (accepts.length = 0 ∨ MAX_ACCEPTS < accepts.length) := by omega
    have hisEmpty : (readEntries record accepts).isEmpty = false := by simpa using hnonempty
    unfold normalizeChallenge
    simp only [number_eq_some.2 hversion, haccepts, hlength, if_false, not_true_eq_false, ne_eq]
    rw [← readEntries, hisEmpty]
    rfl

theorem readEntries_ne_nil {record : List (String × Json)} {accepts : List Json} :
    readEntries record accepts ≠ [] ↔ ∃ entry ∈ accepts, WellFormedEntry entry := by
  have hlists := listsEntries (challengeResourceUrl record) accepts
  constructor
  · intro hne
    obtain ⟨requirement, hmem⟩ := List.exists_mem_of_ne_nil _ hne
    obtain ⟨⟨entry, index⟩, hentry, hnormalized⟩ := List.mem_filterMap.1 hmem
    exact ⟨entry, List.fst_mem_of_mem_zipIdx hentry, wellFormedEntry_iff.2 ⟨requirement, hnormalized⟩⟩
  · rintro ⟨entry, hmem, hwellFormed⟩
    obtain ⟨index, hindex⟩ := List.getElem?_of_mem hmem
    obtain ⟨requirement, hrequirement, -⟩ := hlists.complete index entry hindex hwellFormed
    exact List.ne_nil_of_mem hrequirement

/-- The re-lookup before signing finds the entry a requirement was read from. -/
theorem originalMatches_of_copied {record : List (String × Json)} {accepts : List Json}
    {resourceUrl : Option String} {requirement : PaymentRequirement} {original : List (String × Json)}
    (haccepts : Json.member record "accepts" = some (.arr accepts))
    (horiginal : accepts[requirement.acceptsIndex]? = some (.obj original))
    (hcopies : CopiesEntry resourceUrl original requirement) :
    originalMatches (.obj record) requirement = true := by
  simp [originalMatches, haccepts, horiginal, text_eq_some.2 hcopies.payTo_eq,
    text_eq_some.2 hcopies.amount_eq, text_eq_some.2 hcopies.asset_eq]

end VirtualHaibin.Payments
