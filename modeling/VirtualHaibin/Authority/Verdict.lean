import VirtualHaibin.Authority.Alone
import VirtualHaibin.Authority.Refusals

/-!
# The atomic decision

On a balanced database the transaction of a decision commits: its own checks never refuse what the
evaluator allowed.  What it decides is one predicate of the permit, the request, the committed budget
and the first admitted entry of the challenge, although the code merges three evaluations and the
codes of the challenge.
-/

namespace VirtualHaibin.Authority

open Foundation Foundation.Checked Mandate Payments Policy Evidence

variable {keyOf : String → String → GrantKey} {db : Db}

/-- The transaction ends without an exception. -/
def Transaction.Commits {α : Type} (transaction : Transaction α) (db : Db) : Prop :=
  ∃ a db', transaction db = .ok (a, db')

theorem Transaction.Commits.bind {α β : Type} {x : Transaction α} {f : α → Transaction β}
    (hx : x.Commits db) (hf : ∀ a db', x db = .ok (a, db') → (f a).Commits db') : (x >>= f).Commits db := by
  obtain ⟨a, db', hx⟩ := hx
  obtain ⟨b, db'', hf⟩ := hf a db' hx
  exact ⟨b, db'', Transaction.bind_eq_ok.2 ⟨a, db', hx, hf⟩⟩

theorem commits_pure {α : Type} (a : α) : (pure a : Transaction α).Commits db := ⟨a, db, rfl⟩

theorem commits_get {α : Type} {f : Db → Transaction α} (h : (f db).Commits db) : (get >>= f).Commits db := by
  refine Transaction.Commits.bind ⟨db, db, rfl⟩ fun current db' hget ↦ ?_
  cases hget
  exact h

theorem commits_bigInt {α : Type} {text : String} {value : ℤ} {f : ℤ → Transaction α}
    (h : Decimal.bigInt text = some value) (hf : (f value).Commits db) : (bigInt text >>= f).Commits db := by
  unfold bigInt
  rw [h]
  exact hf

theorem commits_requireInvocation {invocationId : String} {row : InvocationRecord}
    (h : db.invocations.find? invocationId = some row) : (requireInvocation invocationId).Commits db :=
  ⟨row, db, requireInvocation_ok.2 ⟨h, rfl⟩⟩

theorem commits_requireGrant {key : GrantKey} {grant : GrantRecord} (h : db.grants.find? key = some grant) :
    (requireGrant key).Commits db := by
  refine ⟨grant, db, Transaction.bind_eq_ok.2 ⟨_, db, selectGrant_ok.2 ⟨rfl, rfl⟩, ?_⟩⟩
  rw [h]
  rfl

theorem commits_insertGrant {grant : GrantRecord} (hchecks : grant.satisfiesChecks = true)
    (hfresh : db.grants.find? grant.key = none) : (insertGrant grant).Commits db := by
  have hinsert : db.grants.insert? grant = some ⟨_, _⟩ := dif_neg (Table.find?_eq_none.1 hfresh)
  refine commits_get ?_
  rw [if_pos hchecks, hinsert]
  exact ⟨(), _, rfl⟩

theorem commits_insertInvocation {row : InvocationRecord} (hchecks : row.satisfiesChecks = true)
    (hgrant : (db.grants.find? row.grantKey).isSome = true)
    (hfresh : db.invocations.find? row.invocationId = none) : (insertInvocation row).Commits db := by
  have hinsert : db.invocations.insert? row = some ⟨_, _⟩ := dif_neg (Table.find?_eq_none.1 hfresh)
  refine commits_get ?_
  rw [hchecks, hgrant, Bool.and_true, if_pos rfl, hinsert]
  exact ⟨(), _, rfl⟩

theorem commits_updateInvocation {invocationId action : String} {selected : InvocationRecord → Bool}
    {change : InvocationRecord → InvocationRecord} {hkey : ∀ row, (change row).invocationId = row.invocationId}
    {row : InvocationRecord} (hfind : db.invocations.find? invocationId = some row)
    (hselected : selected row = true) (hchecks : (change row).satisfiesChecks = true) :
    (updateInvocation invocationId selected change action hkey).Commits db := by
  refine commits_get ?_
  rw [filter_eq_some.2 ⟨hfind, hselected⟩]
  dsimp only
  rw [if_pos hchecks]
  exact ⟨(), _, rfl⟩

theorem commits_updateGrantAmounts {key : GrantKey} {reserved consumed : String} {now : ℤ}
    (hreserved : isCanonicalAtomicAmount reserved = true) (hconsumed : isCanonicalAtomicAmount consumed = true) :
    (updateGrantAmounts key reserved consumed now).Commits db := by
  refine commits_get ?_
  rw [hreserved, hconsumed, Bool.and_true, if_pos rfl]
  exact ⟨(), _, rfl⟩

theorem commits_writeDecision {input : ReserveInput} {state : InvocationState} {reasonCodes : List String}
    {now : ℤ} {existing : Option InvocationRecord} (hexisting : db.invocations.find? input.invocationId = existing)
    (hretry : ∀ row, existing = some row → retryingFailed input row = true)
    (hcanonical : isCanonicalAtomicAmount input.amountAtomic = true) (hstate : state ≠ .CONFIRMED)
    (hgrant : (db.grants.find? input.grantKey).isSome = true) :
    (writeDecision input existing state reasonCodes now).Commits db := by
  have hchecks (written : InvocationRecord) (hamount : written.amountAtomic = input.amountAtomic)
      (hwritten : written.state = state) : written.satisfiesChecks = true := by
    simp [InvocationRecord.satisfiesChecks, hamount, hcanonical, hwritten, hstate]
  have hlogs (fromState : Option InvocationState) (reason : Option String) (db : Db) :
      (recordTransition input.invocationId fromState state reason now).Commits db := ⟨(), _, rfl⟩
  cases existing with
  | none => exact (commits_insertInvocation (hchecks _ rfl rfl) hgrant hexisting).bind fun _ _ _ ↦ hlogs _ _ _
  | some row =>
    have hfailed : row.state = .FAILED := (retryingFailed_iff.1 (hretry row rfl)).1
    exact (commits_updateInvocation hexisting (decide_eq_true hfailed) (hchecks _ rfl rfl)).bind fun _ _ _ ↦
      hlogs _ _ _

theorem commits_pinGrant {terms : GrantTerms} {now : ℤ}
    (hcanonical : isCanonicalAtomicAmount terms.maxTotalAtomic = true) : (pinGrant terms now).Commits db := by
  refine Transaction.Commits.bind ⟨_, db, selectGrant_ok.2 ⟨rfl, rfl⟩⟩ fun found db' hfound ↦ ?_
  obtain ⟨rfl, rfl⟩ := selectGrant_ok.1 hfound
  cases hfind : db'.grants.find? (terms.issuer, terms.grantId) with
  | some grant =>
    dsimp only
    split
    · exact commits_pure _
    · exact commits_pure _
  | none =>
    have hchecks : GrantRecord.satisfiesChecks
        ⟨terms, "0", "0", now, now⟩ = true := by
      simp only [GrantRecord.satisfiesChecks, hcanonical, Bool.true_and]
      decide
    refine (commits_insertGrant hchecks hfind).bind fun _ inserted hinsert ↦ ?_
    obtain ⟨-, hwrote, -⟩ := insertGrant_ok hinsert
    exact (commits_requireGrant hwrote.find_self).bind fun grant _ _ ↦ commits_pure _

/-- The row a decision wrote is there to be read back. -/
theorem commits_written {input : ReserveInput} {state : InvocationState} {reasonCodes : List String} {now : ℤ}
    {existing : Option InvocationRecord} (hexisting : db.invocations.find? input.invocationId = existing)
    (hretry : ∀ row, existing = some row → retryingFailed input row = true)
    (hcanonical : isCanonicalAtomicAmount input.amountAtomic = true) (hstate : state ≠ .CONFIRMED)
    (hgrant : (db.grants.find? input.grantKey).isSome = true) {f : InvocationRecord → ReserveResult} :
    (do
      writeDecision input existing state reasonCodes now
      return f (← requireInvocation input.invocationId)).Commits db := by
  refine (commits_writeDecision hexisting hretry hcanonical hstate hgrant).bind fun _ written hwrite ↦ ?_
  obtain ⟨-, hrow⟩ := writeDecision_ok hexisting hwrite
  have hid : (input.written existing state reasonCodes now).invocationId = input.invocationId :=
    ReserveInput.written_invocationId fun row hrow ↦ Table.key_of_find? (hexisting.trans hrow)
  exact (commits_requireInvocation (hid ▸ hrow.wrote.find_self)).bind fun _ _ _ ↦ commits_pure _

/-- The evaluator always answers, and allows only amounts that fit the total. -/
structure Judges (evaluate : BudgetEvaluator) (amountAtomic : String) (maxTotal : ℕ) : Prop where
  answers : ∀ committed, evaluate committed ≠ none
  fits : ∀ committed : ℕ, evaluate committed.repr = some .allowed →
    0 < Decimal.amount amountAtomic ∧ committed + Decimal.amount amountAtomic ≤ maxTotal

/-- The checks behind the evaluator never refuse what it allowed. -/
theorem commits_decideBudget {input : ReserveInput} {evaluate : BudgetEvaluator} {now : ℤ} {grant : GrantRecord}
    {existing : Option InvocationRecord} (hexisting : db.invocations.find? input.invocationId = existing)
    (hretry : ∀ row, existing = some row → retryingFailed input row = true)
    (hcanonical : isCanonicalAtomicAmount input.amountAtomic = true)
    (hgrant : db.grants.find? input.grantKey = some grant) {maxTotal : ℕ}
    (hbalanced : GrantBalanced db input.grantKey grant) (hmaxTotal : grant.maxTotalAtomic = maxTotal.repr)
    (hjudges : Judges evaluate input.amountAtomic maxTotal) :
    (decideBudget input evaluate existing grant now).Commits db := by
  obtain ⟨⟨total, hle, hrepr, hspent⟩, hreserved, hconsumed⟩ := hbalanced
  obtain rfl : maxTotal = total := Decimal.repr_injective (hmaxTotal.symm.trans hrepr)
  have hsome : (db.grants.find? input.grantKey).isSome = true := by rw [hgrant]; rfl
  unfold decideBudget
  rw [hreserved, hconsumed, hmaxTotal]
  refine commits_bigInt (Decimal.bigInt_repr _) (commits_bigInt (Decimal.bigInt_repr _) ?_)
  rw [← Nat.cast_add, repr_natCast]
  cases hdecision : evaluate (db.invocations.sum (held input.grantKey) +
      db.invocations.sum (spent input.grantKey)).repr with
  | none => exact absurd hdecision (hjudges.answers _)
  | some decision =>
    cases decision with
    | refused reasonCodes => exact commits_written hexisting hretry hcanonical (by decide) hsome
    | allowed =>
      obtain ⟨hpositive, hfits⟩ := hjudges.fits _ hdecision
      have hamount : Decimal.bigInt input.amountAtomic = some (Decimal.amount input.amountAtomic : ℤ) := by
        rw [← Decimal.bigInt_repr, repr_amount hcanonical]
      refine commits_bigInt hamount (commits_bigInt (Decimal.bigInt_repr _) ?_)
      rw [if_neg (by omega), ← Nat.cast_add, repr_natCast]
      have hupdate : (updateGrantAmounts grant.key (db.invocations.sum (held input.grantKey) +
          Decimal.amount input.amountAtomic).repr (db.invocations.sum (spent input.grantKey)).repr now).Commits db :=
        commits_updateGrantAmounts (isCanonicalAtomicAmount_repr (by omega)) (isCanonicalAtomicAmount_repr (by omega))
      refine hupdate.bind fun _ posted hpost ↦ ?_
      have hkey : grant.key = input.grantKey := Table.key_of_find? hgrant
      have hposted := updateGrantAmounts_ok (hkey ▸ hgrant) hpost
      have hfound : posted.grants.find? grant.key = some _ := hposted.wrote.find_self
      refine commits_written (hposted.invocations ▸ hexisting) hretry hcanonical (by decide) ?_
      rw [← hkey, hfound]
      rfl

theorem commits_reserve {input : ReserveInput} {evaluate : BudgetEvaluator} {now : ℤ} (hbalanced : Balanced keyOf db)
    (hcanonical : isCanonicalAtomicAmount input.amountAtomic = true) {maxTotal : ℕ} (hle : maxTotal ≤ maxU64)
    (hmaxTotal : input.grant.maxTotalAtomic = maxTotal.repr)
    (hjudges : Judges evaluate input.amountAtomic maxTotal) : (reserve input evaluate now).Commits db := by
  refine Transaction.Commits.bind ⟨_, db, selectInvocation_ok.2 ⟨rfl, rfl⟩⟩ fun existing db₁ hselect ↦ ?_
  obtain ⟨rfl, rfl⟩ := selectInvocation_ok.1 hselect
  cases hfilter : (db₁.invocations.find? input.invocationId).filter fun row ↦ !retryingFailed input row with
  | some row => exact commits_pure _
  | none =>
    have hretry : ∀ row, db₁.invocations.find? input.invocationId = some row → retryingFailed input row = true := by
      intro row hrow
      rw [hrow] at hfilter
      simpa using hfilter
    have htotal : isCanonicalAtomicAmount input.grant.maxTotalAtomic = true :=
      hmaxTotal ▸ isCanonicalAtomicAmount_repr hle
    refine (commits_pinGrant htotal).bind fun pin pinned hpin ↦ ?_
    rcases pinGrant_ok hpin with ⟨grant, rfl, -⟩ | ⟨grant, rfl, hpinned⟩
    · exact commits_pure _
    · have hpinnedBalanced := hbalanced.pinned hpinned ⟨maxTotal, hle, hmaxTotal⟩
      exact commits_decideBudget (hpinned.invocations ▸ rfl) hretry hcanonical hpinned.found
        (hpinnedBalanced.grant _ _ hpinned.found) (hpinned.terms_eq.2.trans hmaxTotal) hjudges

/-! ## What is permitted -/

/-- The committed total of a grant, by its two counters. -/
def Db.committed (db : Db) (key : GrantKey) : ℕ :=
  (db.grants.find? key).elim 0 fun grant ↦ Decimal.amount grant.reservedAtomic + Decimal.amount grant.consumedAtomic

/-- The first entry of the challenge that the profile admits asks for exactly the signed request. -/
def Offered (platform : Platform) (options : AuthorityServiceOptions) (auth : AuthenticatedRequest)
    (result : ChallengeResult) : Prop :=
  ∃ profile paidRequest challenge requirement before after,
    options.settlementProfiles auth.permit.network = some profile ∧
    profile.name = options.paymentProvider.settlementProfile ∧
    outboundRequest platform options auth.request = some paidRequest ∧
    result = .challenge challenge ∧ challenge.requirements = before ++ requirement :: after ∧
    (∀ earlier ∈ before, ¬ Admits profile earlier) ∧
    RequirementAccepted profile paidRequest auth.request options.paymentProvider.payerAddress challenge requirement

/-- The signed request is one the permit grants, with so much of its total already committed. -/
structure Granted (auth : AuthenticatedRequest) (decidedAt : ℤ) (committed : ℕ) : Prop where
  operation_eq : auth.request.operation = auth.permit.operation
  not_expired : decidedAt ≤ auth.permit.expiresAt
  service_eq : auth.request.service = auth.permit.service
  capability_eq : auth.request.capability = auth.permit.capability
  network_eq : auth.request.network = auth.permit.network
  mint_eq : auth.request.mint = auth.permit.mint
  recipient_eq : auth.request.recipient = auth.permit.recipient
  amount_canonical : isCanonicalAtomicAmount auth.request.amountAtomic = true
  amount_pos : 0 < Decimal.amount auth.request.amountAtomic
  amount_le : Decimal.amount auth.request.amountAtomic ≤ Decimal.amount auth.permit.maxPerCallAtomic
  total_le : committed + Decimal.amount auth.request.amountAtomic ≤ Decimal.amount auth.permit.maxTotalAtomic

/-- The terms a decision was made on: the challenge is fetched only for a request that stands on its own. -/
def DecidedOn (platform : Platform) (options : AuthorityServiceOptions) (auth : AuthenticatedRequest) (decidedAt : ℤ)
    (result : ChallengeResult) (terms : ChallengeTerms) : Prop :=
  decide platform options auth decidedAt = .reserving decidedAt terms ∨
    ∃ profile paidRequest, decide platform options auth decidedAt = .fetching decidedAt profile paidRequest ∧
      terms = challengeTerms options auth profile paidRequest result

section

variable {platform : Platform} {options : AuthorityServiceOptions} {auth : AuthenticatedRequest} {decidedAt : ℤ}
  {terms : ChallengeTerms} {result : ChallengeResult}

theorem granted_of_requestCodes {committed : ℕ} (h : requestCodes auth decidedAt committed.repr = []) :
    Granted auth decidedAt committed := by
  simp only [requestCodes, policyCodes, List.append_eq_nil_iff, reasonCodes_eq_nil, evaluateExactOperation_eq_nil,
    evaluatePurchasePermit_eq_nil, Decimal.amount_repr] at h
  obtain ⟨hoperation, hexpiry, hservice, hcapability, hnetwork, hmint, hrecipient, hcanonical, -, hpositive, hper,
    htotal⟩ := h
  exact ⟨hoperation, hexpiry, hservice, hcapability, hnetwork, hmint, hrecipient, hcanonical, hpositive, hper, htotal⟩

theorem Granted.requestCodes {committed : ℕ} (h : Granted auth decidedAt committed) (hle : committed ≤ maxU64) :
    requestCodes auth decidedAt committed.repr = [] := by
  simp only [Authority.requestCodes, policyCodes, List.append_eq_nil_iff, reasonCodes_eq_nil,
    evaluateExactOperation_eq_nil, evaluatePurchasePermit_eq_nil, Decimal.amount_repr]
  exact ⟨h.operation_eq, h.not_expired, h.service_eq, h.capability_eq, h.network_eq, h.mint_eq, h.recipient_eq,
    h.amount_canonical, isCanonicalAtomicAmount_repr hle, h.amount_pos, h.amount_le, h.total_le⟩

/-- What is granted with a budget already drawn on is granted without. -/
theorem Granted.requestAllowed {committed : ℕ} (h : Granted auth decidedAt committed) :
    requestAllowed auth decidedAt = true := by
  have hzero : Granted auth decidedAt 0 := { h with total_le := by have := h.total_le; omega }
  unfold Authority.requestAllowed
  rw [decide_eq_true_eq]
  exact hzero.requestCodes (Nat.zero_le _)

/-- Without an objection the first admitted entry is what was signed, and asks for the signed terms. -/
theorem selectAndValidateChallenge_offered_iff {profile : SettlementProfile} {paidRequest : PaidRequest}
    {request : AuthorizationRequestV2} {payerAddress : String} :
    (selectAndValidateChallenge result profile paidRequest request payerAddress).reasonCodes = [] ↔
      ∃ challenge requirement before after, result = .challenge challenge ∧
        challenge.requirements = before ++ requirement :: after ∧ (∀ earlier ∈ before, ¬ Admits profile earlier) ∧
        RequirementAccepted profile paidRequest request payerAddress challenge requirement := by
  constructor
  · intro hcodes
    obtain ⟨challenge, requirement, before, after, rfl, hselected, hsplit, -, hearlier⟩ :=
      selectAndValidateChallenge_first hcodes
    obtain ⟨other, hother, haccepted⟩ := selectAndValidateChallenge_accepted hselected hcodes
    obtain rfl := ChallengeResult.challenge.inj hother
    exact ⟨challenge, requirement, before, after, rfl, hsplit, hearlier, haccepted⟩
  · rintro ⟨challenge, requirement, before, after, rfl, hsplit, hearlier, haccepted⟩
    have hhead : ((challenge.requirements.filter fun candidate ↦ candidate.scheme = profile.scheme).filter
        fun candidate ↦ profile.acceptedChallengeNetworks.contains candidate.network).head? = some requirement := by
      rw [List.filter_filter, List.head?_filter, List.find?_eq_some_iff_append]
      refine ⟨?_, before, after, hsplit, fun earlier hmem ↦ ?_⟩
      · simp [haccepted.scheme_eq, haccepted.network_mem]
      · have hnot := hearlier earlier hmem
        rw [Admits, not_and_or] at hnot
        simpa [or_comm] using hnot
    simp only [selectAndValidateChallenge, hhead]
    simp only [requirementCodes, List.append_eq_nil_iff, codeIf_eq_nil, Bool.or_eq_false_iff,
      decide_eq_false_iff_not, not_not, Bool.not_eq_false', List.contains_eq_mem, decide_eq_true_eq,
      Option.isNone_eq_false_iff]
    exact ⟨⟨⟨⟨⟨haccepted.protocol_eq, haccepted.version_eq⟩, haccepted.asset_mem⟩, haccepted.url_eq,
      haccepted.digest_eq⟩, haccepted.feePayer_some, haccepted.feePayer_ne⟩,
      ⟨haccepted.asset_eq, haccepted.payTo_eq⟩, haccepted.amount_eq⟩

/-- The challenge has no objection to a request that stands on its own exactly if it offers it. -/
theorem DecidedOn.offered_iff (h : DecidedOn platform options auth decidedAt result terms)
    (hallowed : requestAllowed auth decidedAt = true) :
    terms.challengeCodes = [] ↔ Offered platform options auth result := by
  unfold DecidedOn decide at h
  rw [if_pos hallowed] at h
  dsimp only at h
  cases hprofile : (options.settlementProfiles auth.permit.network).filter fun profile ↦
      profile.name = options.paymentProvider.settlementProfile with
  | none =>
    rw [hprofile] at h
    rcases h with h | ⟨profile, paidRequest, h, -⟩
    · cases h
      refine ⟨(nomatch ·), fun ⟨profile, _, _, _, _, _, hfound, hname, _⟩ ↦ ?_⟩
      have hsome : (options.settlementProfiles auth.permit.network).filter (fun profile ↦
          profile.name = options.paymentProvider.settlementProfile) = some profile :=
        filter_eq_some.2 ⟨hfound, decide_eq_true hname⟩
      rw [hprofile] at hsome
      cases hsome
    · cases h
  | some profile =>
    rw [hprofile] at h
    obtain ⟨hfound, hname⟩ := filter_eq_some.1 hprofile
    rw [decide_eq_true_eq] at hname
    cases hpaid : outboundRequest platform options auth.request with
    | none =>
      rw [hpaid] at h
      rcases h with h | ⟨profile, paidRequest, h, -⟩
      · cases h
        exact ⟨(nomatch ·), fun ⟨_, _, _, _, _, _, _, _, hsome, _⟩ ↦ nomatch hpaid.symm.trans hsome⟩
      · cases h
    | some paidRequest =>
      rw [hpaid] at h
      rcases h with h | ⟨_, _, h, rfl⟩
      · cases h
      · cases h
        unfold challengeTerms
        refine selectAndValidateChallenge_offered_iff.trans ⟨?_, ?_⟩
        · rintro ⟨challenge, requirement, before, after, hresult, hsplit, hearlier, haccepted⟩
          exact ⟨profile, paidRequest, challenge, requirement, before, after, hfound, hname, hpaid, hresult, hsplit,
            hearlier, haccepted⟩
        · rintro ⟨other, otherPaid, challenge, requirement, before, after, hother, -, hsame, hresult, hsplit, hearlier,
            haccepted⟩
          obtain rfl := Option.some.inj (hfound.symm.trans hother)
          obtain rfl := Option.some.inj (hpaid.symm.trans hsame)
          exact ⟨challenge, requirement, before, after, hresult, hsplit, hearlier, haccepted⟩

/-- A requirement that is accepted repeats the signed terms. -/
theorem DecidedOn.requirement (h : DecidedOn platform options auth decidedAt result terms)
    (hallowed : requestAllowed auth decidedAt = true) (hcodes : terms.challengeCodes = []) :
    ∃ requirement, terms.requirement = some requirement ∧ requirement.asset = auth.request.mint ∧
      requirement.payTo = auth.request.recipient ∧ requirement.amountAtomic = auth.request.amountAtomic := by
  unfold DecidedOn decide at h
  rw [if_pos hallowed] at h
  dsimp only at h
  rcases h with h | ⟨profile, paidRequest, -, rfl⟩
  · split at h
    · cases h
      cases hcodes
    · split at h
      · cases h
        cases hcodes
      · cases h
  · obtain ⟨challenge, requirement, before, after, -, hselected, -⟩ := selectAndValidateChallenge_first hcodes
    obtain ⟨_, -, haccepted⟩ := selectAndValidateChallenge_accepted hselected hcodes
    exact ⟨requirement, hselected, haccepted.asset_eq, haccepted.payTo_eq, haccepted.amount_eq⟩

/-- The union of the three evaluations and the codes of the challenge is one predicate. -/
theorem DecidedOn.evaluate_iff (h : DecidedOn platform options auth decidedAt result terms) {committed : ℕ}
    (hle : committed ≤ maxU64) : evaluate auth decidedAt terms committed.repr = some .allowed ↔
      Granted auth decidedAt committed ∧ Offered platform options auth result := by
  constructor
  · intro hallowed
    obtain ⟨hrequest, hchallenge, -⟩ := evaluate_allowed hallowed
    have hgranted := granted_of_requestCodes hrequest
    exact ⟨hgranted, (h.offered_iff hgranted.requestAllowed).1 hchallenge⟩
  · rintro ⟨hgranted, hoffered⟩
    have hrequest := hgranted.requestCodes hle
    have hchallenge := (h.offered_iff hgranted.requestAllowed).2 hoffered
    obtain ⟨requirement, hrequirement, hasset, hpayTo, hamount⟩ := h.requirement hgranted.requestAllowed hchallenge
    have hterms : policyCodes auth decidedAt requirement.asset requirement.payTo requirement.amountAtomic
        committed.repr = [] := by
      rw [hasset, hpayTo, hamount]
      exact hrequest
    have hcodes : decisionCodes auth decidedAt terms committed.repr = [] := by
      simp [decisionCodes, hrequest, hchallenge, hrequirement, hterms]
    simp only [evaluate, hcodes, if_true]

theorem nodup_eraseDups {α : Type} [DecidableEq α] : ∀ items : List α, items.eraseDups.Nodup
  | [] => List.nodup_nil
  | item :: rest => by
    have hlength : (rest.filter fun other ↦ !other == item).length < rest.length + 1 :=
      Nat.lt_succ_of_le (List.length_filter_le _ _)
    rw [List.eraseDups_cons, List.nodup_cons]
    exact ⟨by simp, nodup_eraseDups _⟩
termination_by items => items.length

theorem decisionCodes_nodup (committed : String) : (decisionCodes auth decidedAt terms committed).Nodup := by
  unfold decisionCodes
  cases terms.requirement with
  | some requirement => exact nodup_eraseDups _
  | none =>
    dsimp only
    split
    · exact List.nodup_singleton _
    · exact nodup_eraseDups _

theorem reasonCodes_of_refused {committed : String} {reasonCodes : List String}
    (h : evaluate auth decidedAt terms committed = some (.refused reasonCodes)) :
    reasonCodes = (decisionCodes auth decidedAt terms committed).map ReasonCode.name := by
  simp only [evaluate, Option.some.injEq] at h
  split at h
  · cases h
  · cases h
    rfl

theorem evaluate_refused {committed : String} {reasonCodes : List String}
    (h : evaluate auth decidedAt terms committed = some (.refused reasonCodes)) :
    reasonCodes ≠ [] ∧ reasonCodes.Nodup := by
  obtain rfl := reasonCodes_of_refused h
  refine ⟨fun hnil ↦ ?_, (decisionCodes_nodup committed).map ReasonCode.name_injective⟩
  simp [evaluate, List.map_eq_nil_iff.1 hnil] at h

theorem judges_evaluate : Judges (evaluate auth decidedAt terms) auth.request.amountAtomic
    (Decimal.amount auth.permit.maxTotalAtomic) where
  answers _ := Option.some_ne_none _
  fits _ h :=
    have hgranted := granted_of_requestCodes (evaluate_allowed h).1
    ⟨hgranted.amount_pos, hgranted.total_le⟩

/-! ## The decision of a transaction -/

theorem Pinned.not_conflicting {pinned : Db} {terms : GrantTerms} {grant other : GrantRecord} {now : ℤ}
    (h : Pinned db pinned terms grant now) : ¬ Conflicting db terms other := by
  rintro ⟨hfound, hother⟩
  rcases h.origin with rfl | ⟨-, -, hwrote⟩
  · obtain rfl := Option.some.inj (h.found.symm.trans hfound)
    exact hother.elim (absurd h.terms_eq.1) (absurd h.terms_eq.2)
  · have hnone : db.grants.find? grant.key = none := hwrote.old_eq
    rw [show grant.key = (terms.issuer, terms.grantId) from Table.key_of_find? h.found, hfound] at hnone
    cases hnone

/-- The evaluator sees the committed total of the grant, which is zero before its first use. -/
theorem Balanced.committed_eq (h : Balanced keyOf db) {pinned : Db} {terms : GrantTerms} {grant : GrantRecord}
    {now reserved consumed : ℤ} (hpinned : Pinned db pinned terms grant now)
    (hcommitted : Committed grant reserved consumed) :
    reserved + consumed = db.committed (terms.issuer, terms.grantId) ∧
      db.committed (terms.issuer, terms.grantId) ≤ maxU64 := by
  obtain ⟨hreserved, hconsumed⟩ := hcommitted
  unfold Db.committed
  rcases hpinned.origin with rfl | ⟨-, rfl, hwrote⟩
  · obtain ⟨⟨maxTotal, hle, -, hspent⟩, hheld, hsettled⟩ := h.grant _ _ hpinned.found
    rw [hpinned.found]
    dsimp only [Option.elim]
    rw [hheld, Decimal.bigInt_repr] at hreserved
    rw [hsettled, Decimal.bigInt_repr] at hconsumed
    obtain rfl := Option.some.inj hreserved
    obtain rfl := Option.some.inj hconsumed
    rw [hheld, hsettled, Decimal.amount_repr, Decimal.amount_repr]
    exact ⟨(Nat.cast_add _ _).symm, by omega⟩
  · have hnone : db.grants.find? (terms.issuer, terms.grantId) = none := hwrote.old_eq
    have hzero : Decimal.bigInt "0" = some 0 := by decide
    rw [hzero] at hreserved hconsumed
    obtain rfl := Option.some.inj hreserved
    obtain rfl := Option.some.inj hconsumed
    rw [hnone]
    exact ⟨rfl, Nat.zero_le _⟩

/-- The row of the invocation after its decision. -/
structure Leaves (outcome : Except StoreError ReserveResult × Db) (invocationId : String)
    (kind : InvocationRecord → ReserveResult) (state : InvocationState) (row : InvocationRecord) : Prop where
  result : outcome.1 = .ok (kind row)
  stored : outcome.2.invocations.find? invocationId = some row
  state_eq : row.state = state

theorem leaves_of_written {input : ReserveInput} {existing : Option InvocationRecord} {before after : Db} {now : ℤ}
    {state : InvocationState} {reasonCodes : List String} {entry : TransitionRecord} {new : InvocationRecord}
    (kind : InvocationRecord → ReserveResult) (hexisting : db.invocations.find? input.invocationId = existing)
    (hnew : new = input.written existing state reasonCodes now)
    (hwritten : RowWritten before after existing new entry) :
    Leaves (.ok (kind new), after) input.invocationId kind state new := by
  subst hnew
  have hid : (input.written existing state reasonCodes now).invocationId = input.invocationId :=
    ReserveInput.written_invocationId fun row hrow ↦ Table.key_of_find? (hexisting.trans hrow)
  exact ⟨rfl, hid ▸ hwritten.wrote.find_self, written_state⟩

theorem written_reasonCodes {input : ReserveInput} {existing : Option InvocationRecord} {state : InvocationState}
    {reasonCodes : List String} {now : ℤ} :
    (input.written existing state reasonCodes now).reasonCodes = reasonCodes := by
  cases existing <;> rfl

/-- The atomic decision of a new invocation, or of a failed one that is retried.  It allows exactly the
granted and offered requests and denies the others with reasons; only a grant that is pinned to another
permit is not decided upon. -/
theorem decision_characterized {now clock : ℤ} (hauth : Authenticated platform options now auth)
    (hbalanced : Balanced keyOf db)
    (hfresh : ∀ row, db.invocations.find? auth.request.invocationId = some row →
      row.state = .FAILED ∧ row.fingerprint = auth.fingerprint)
    (hterms : DecidedOn platform options auth decidedAt result terms)
    {outcome : Except StoreError ReserveResult × Db} (houtcome : outcome = db.access (some clock)
      (reserve (reserveInput auth decidedAt terms) (evaluate auth decidedAt terms))) :
    (∀ grant, Conflicting db (reserveInput auth decidedAt terms).grant grant →
      outcome = (.ok (.grant_conflict grant), db)) ∧
    ((∀ grant, ¬ Conflicting db (reserveInput auth decidedAt terms).grant grant) →
      ((∃ row, Leaves outcome auth.request.invocationId .reserved .RESERVED row) ↔
        Granted auth decidedAt (db.committed (auth.permit.issuer, auth.permit.grantId)) ∧
          Offered platform options auth result) ∧
      (¬ (Granted auth decidedAt (db.committed (auth.permit.issuer, auth.permit.grantId)) ∧
          Offered platform options auth result) →
        ∃ row, Leaves outcome auth.request.invocationId .denied .DENIED row ∧ row.reasonCodes ≠ [] ∧
          row.reasonCodes.Nodup)) := by
  have hvalid := hauth.permit_verified.valid
  have htotal : auth.permit.maxTotalAtomic = (Decimal.amount auth.permit.maxTotalAtomic).repr :=
    (repr_amount hvalid.maxTotal_canonical).symm
  have hle : Decimal.amount auth.permit.maxTotalAtomic ≤ maxU64 := by
    have hrange := hvalid.maxTotal_range
    rw [isPositiveU64, Bool.and_eq_true, decide_eq_true_eq, decide_eq_true_eq] at hrange
    exact hrange.2
  obtain ⟨answer, db', hanswer⟩ : (reserve (reserveInput auth decidedAt terms) (evaluate auth decidedAt terms)
      clock).Commits db :=
    commits_reserve hbalanced hauth.request_valid.amount_canonical hle htotal judges_evaluate
  obtain rfl : outcome = (.ok answer, db') := by
    rw [houtcome]
    show Transaction.run _ _ = _
    simp only [Transaction.run, StateT.run, hanswer]
  have heffect := reserve_ok hanswer
  cases answer with
  | existing row =>
    obtain ⟨-, hfind, hretry⟩ := heffect
    have hretrying : retryingFailed (reserveInput auth decidedAt terms) row = true :=
      retryingFailed_iff.2 (hfresh row hfind)
    rw [hretry] at hretrying
    cases hretrying
  | grant_conflict grant =>
    obtain ⟨rfl, hconflict⟩ := heffect
    refine ⟨fun other hother ↦ ?_, fun hnone ↦ absurd hconflict (hnone grant)⟩
    obtain rfl := Option.some.inj (hconflict.found.symm.trans hother.found)
    rfl
  | denied row =>
    obtain ⟨existing, hexisting, -, ⟨pinned, grant, reserved, consumed, reasonCodes, hpinned, hcommitted, hrefused,
      hrow, hwritten⟩⟩ := heffect
    refine ⟨fun other hother ↦ absurd hother hpinned.not_conflicting, fun _ ↦ ⟨⟨?_, fun hpermitted ↦ ?_⟩, fun _ ↦ ?_⟩⟩
    · rintro ⟨other, hother, -⟩
      cases hother
    · obtain ⟨hsum, hbound⟩ := hbalanced.committed_eq hpinned hcommitted
      have hallowed := (hterms.evaluate_iff hbound).2 hpermitted
      rw [hsum, repr_natCast] at hrefused
      cases hallowed.symm.trans hrefused
    · refine ⟨row, leaves_of_written .denied hexisting hrow hwritten, ?_⟩
      rw [hrow, written_reasonCodes]
      exact evaluate_refused hrefused
  | reserved row =>
    obtain ⟨existing, hexisting, -, ⟨pinned, middle, grant, reserved, consumed, amount, maxTotal, hpinned, hcommitted,
      hallowed, -, -, -, -, -, hrow, hwritten⟩⟩ := heffect
    obtain ⟨hsum, hbound⟩ := hbalanced.committed_eq hpinned hcommitted
    rw [hsum, repr_natCast] at hallowed
    have hpermitted := (hterms.evaluate_iff hbound).1 hallowed
    refine ⟨fun other hother ↦ absurd hother hpinned.not_conflicting, fun _ ↦ ⟨⟨fun _ ↦ hpermitted, fun _ ↦ ?_⟩,
      fun hnot ↦ absurd hpermitted hnot⟩⟩
    exact ⟨row, leaves_of_written .reserved hexisting hrow hwritten⟩

end

/-- A purchase that is granted and offered, as its reservation shows. -/
theorem decision_characterized_reserved :
    Granted Sample.auth 2600 0 ∧
      Offered Sample.platform Sample.options Sample.auth (.challenge Sample.challenge) := by
  have hterms : DecidedOn Sample.platform Sample.options Sample.auth 2600 (.challenge Sample.challenge)
      Sample.terms := .inr ⟨_, _, Sample.decided, Sample.terms_eq.symm⟩
  have hunbound (grant : GrantRecord) :
      ¬ Conflicting Db.empty (reserveInput Sample.auth 2600 Sample.terms).grant grant :=
    fun h ↦ nomatch h.found
  refine ((decision_characterized (authenticate_ok Sample.authenticated)
    (Tallied.empty : Balanced (fun _ _ ↦ ("", "")) Db.empty) (fun row hrow ↦ nomatch hrow)
    hterms Sample.reserves.symm).2
      hunbound).1.1 ⟨Sample.reserved, rfl, rfl, rfl⟩

namespace Sample

/-- A provider that settles on another profile than the one of the permit's network. -/
def otherProvider : AuthorityServiceOptions :=
  { options with paymentProvider := ⟨{ Evidence.Sample.profile with name := "other" }, Payments.Sample.wallet⟩ }

theorem otherProvider_authenticated : Authenticated platform otherProvider 2500 auth :=
  have h := authenticate_ok authenticated
  { permit_verified := h.permit_verified, issuer_eq := h.issuer_eq, network_mem := h.network_mem,
    request_valid := h.request_valid, signed := h.signed, audience_eq := h.audience_eq, grantId_eq := h.grantId_eq,
    permitDigest_eq := h.permitDigest_eq, not_stale := h.not_stale, not_future := h.not_future,
    operationDigest_eq := h.operationDigest_eq, fingerprint_eq := h.fingerprint_eq }

def unavailable : ChallengeTerms := ⟨some paidRequest, none, none, [.SETTLEMENT_PROFILE_UNAVAILABLE]⟩

theorem otherProvider_decided : DecidedOn platform otherProvider auth 2600 (.challenge challenge) unavailable := by
  have hallowed : requestAllowed auth 2600 = true := by decide
  have houtbound : outboundRequest platform otherProvider auth.request = some paidRequest := outbound
  have hprofile : (otherProvider.settlementProfiles auth.permit.network).filter (fun found ↦
      found.name = otherProvider.paymentProvider.settlementProfile) = none := by
    rfl
  refine .inl ?_
  simp only [Authority.decide, hallowed, houtbound, hprofile, if_true]
  rfl

/-- The grant of the permit, pinned to the digest of another permit. -/
def otherGrant : GrantRecord := { grant "0" "0" 2700 with permitDigest := "other" }

def otherPermit : Db := ⟨⟨[otherGrant], by simp⟩, .empty, []⟩

theorem otherPermit_balanced : Balanced (fun _ _ ↦ ("", "")) otherPermit where
  row _ _ h := nomatch h
  grant key found h := by
    obtain rfl : found = otherGrant := List.mem_singleton.1 (Table.mem_of_find? h)
    have hempty (weight : InvocationRecord → ℕ) : otherPermit.invocations.sum weight = 0 := rfl
    refine ⟨⟨20, by decide, by decide, Nat.zero_le _⟩, ?_, ?_⟩
    · rw [hempty]
      decide
    · rw [hempty]
      decide

theorem otherPermit_conflicts : otherPermit.access (some 2700) (reserve (reserveInput auth 2600 terms)
    (evaluate auth 2600 terms)) = (.ok (.grant_conflict otherGrant), otherPermit) := by
  rfl

end Sample

/-- A grant that is pinned to another permit is not decided upon, and a profile that is not the one of the
payment provider does not count. -/
theorem decision_characterized_bounds :
    (¬ ∀ (platform : Platform) (options : AuthorityServiceOptions) (auth : AuthenticatedRequest)
      (now decidedAt clock : ℤ) (keyOf : String → String → GrantKey) (db : Db) (result : ChallengeResult)
      (terms : ChallengeTerms), Authenticated platform options now auth → Balanced keyOf db →
        db.invocations.find? auth.request.invocationId = none →
        DecidedOn platform options auth decidedAt result terms → ∃ row,
          Leaves (db.access (some clock) (reserve (reserveInput auth decidedAt terms) (evaluate auth decidedAt terms)))
            auth.request.invocationId .reserved .RESERVED row ∨
          Leaves (db.access (some clock) (reserve (reserveInput auth decidedAt terms) (evaluate auth decidedAt terms)))
            auth.request.invocationId .denied .DENIED row) ∧
    ¬ ∀ (platform : Platform) (options : AuthorityServiceOptions) (auth : AuthenticatedRequest)
      (now decidedAt clock : ℤ) (keyOf : String → String → GrantKey) (db : Db) (terms : ChallengeTerms)
      (profile : SettlementProfile) (paidRequest : PaidRequest) (challenge : PaymentChallenge)
      (requirement : PaymentRequirement), Authenticated platform options now auth → Balanced keyOf db →
        db.invocations.find? auth.request.invocationId = none →
        DecidedOn platform options auth decidedAt (.challenge challenge) terms →
        Granted auth decidedAt (db.committed (auth.permit.issuer, auth.permit.grantId)) →
        options.settlementProfiles auth.permit.network = some profile →
        outboundRequest platform options auth.request = some paidRequest →
        challenge.requirements = [requirement] →
        RequirementAccepted profile paidRequest auth.request options.paymentProvider.payerAddress challenge
          requirement → ∃ row,
          Leaves (db.access (some clock) (reserve (reserveInput auth decidedAt terms) (evaluate auth decidedAt terms)))
            auth.request.invocationId .reserved .RESERVED row := by
  constructor
  · intro h
    obtain ⟨row, hrow⟩ := h _ _ _ _ _ 2700 _ _ (.challenge Sample.challenge) _ (authenticate_ok Sample.authenticated)
      Sample.otherPermit_balanced rfl (.inr ⟨_, _, Sample.decided, Sample.terms_eq.symm⟩)
    rw [Sample.otherPermit_conflicts] at hrow
    rcases hrow with ⟨hresult, -, -⟩ | ⟨hresult, -, -⟩
    · cases hresult
    · cases hresult
  · intro h
    have hgranted : Granted Sample.auth 2600 0 := granted_of_requestCodes (by decide)
    obtain ⟨challenge, requirement, before, after, hchallenge, hsplit, -, haccepted⟩ :=
      selectAndValidateChallenge_offered_iff.1 (congrArg ChallengeTerms.challengeCodes Sample.terms_eq)
    obtain rfl := ChallengeResult.challenge.inj hchallenge
    obtain ⟨rfl, hrequirement, rfl⟩ : before = [] ∧ Sample.requirement = requirement ∧ after = [] := by
      cases before with
      | nil => simpa [Sample.challenge, eq_comm] using hsplit
      | cons earlier rest => simp [Sample.challenge] at hsplit
    obtain ⟨row, hresult, -⟩ := h _ _ _ _ _ 2700 _ Db.empty _ _ _ _ _ Sample.otherProvider_authenticated
      (Tallied.empty : Balanced (fun _ _ ↦ ("", "")) Db.empty) rfl Sample.otherProvider_decided
      hgranted rfl Sample.outbound
      hsplit haccepted
    obtain ⟨db', hreserved⟩ : ∃ db', reserve (reserveInput Sample.auth 2600 Sample.unavailable)
        (evaluate Sample.auth 2600 Sample.unavailable) 2700 Db.empty = .ok (.reserved row, db') := by
      rcases Transaction.run_eq (Prod.ext hresult rfl) with ⟨_, hok, h⟩ | ⟨_, hfailed, -⟩
      · cases hok
        exact ⟨_, h⟩
      · cases hfailed
    obtain ⟨_, _, _, ⟨_, _, _, _, _, _, _, _, _, hallowed, _⟩⟩ := reserve_ok hreserved
    cases (evaluate_allowed hallowed).2.1

end VirtualHaibin.Authority
