import VirtualHaibin.Authority.Alone
import VirtualHaibin.Authority.Export
import VirtualHaibin.Evidence.Verify

/-!
# The policy, decided and verified

The authority evaluates the policy at its own clock and with the budget of the grant; the verifier
evaluates it again at the signing time of the request, without the budget, and also asks that the permit
was issued by then.  The two agree on a row exactly if the request was signed inside the permit's
validity, or after it while the decision came later still.
-/

namespace VirtualHaibin.Authority

open Foundation Foundation.Checked Mandate Payments Policy Evidence

theorem mem_denyIf {violated : Bool} {reasonCode code : ReasonCode} {message : String} :
    code ∈ (denyIf violated reasonCode message).map Denial.reasonCode ↔ violated = true ∧ code = reasonCode := by
  cases violated <;> simp [denyIf]

section

variable {permit : UnsignedPurchasePermitV2} {request : PurchaseRequestV1} {code : ReasonCode}

theorem mem_reasonCodes : code ∈ (evaluatePurchasePermit permit request).reasonCodes ↔
    code ∈ (termDenials permit request).map Denial.reasonCode ∨
      code ∈ (amountDenials permit request).map Denial.reasonCode := by
  simp [Decision.reasonCodes, evaluatePurchasePermit]

theorem mem_termDenials : code ∈ (termDenials permit request).map Denial.reasonCode ↔
    (permit.expiresAt < request.now ∧ code = .PERMIT_EXPIRED) ∨
    (request.service ≠ permit.service ∧ code = .SERVICE_MISMATCH) ∨
    (request.capability ≠ permit.capability ∧ code = .CAPABILITY_MISMATCH) ∨
    (request.network ≠ permit.network ∧ code = .NETWORK_MISMATCH) ∨
    (request.mint ≠ permit.mint ∧ code = .MINT_MISMATCH) ∨
    (request.recipient ≠ permit.recipient ∧ code = .RECIPIENT_MISMATCH) := by
  simp only [termDenials, List.map_append, List.mem_append, mem_denyIf, decide_eq_true_eq, or_assoc]

/-- With a well-formed budget only the total depends on it. -/
theorem mem_amountDenials (hspent : isCanonicalAtomicAmount request.alreadySpentAtomic = true)
    (htotal : code ≠ .TOTAL_BUDGET_EXCEEDED) :
    code ∈ (amountDenials permit request).map Denial.reasonCode ↔
      (code = .INVALID_AMOUNT ∧ (isCanonicalAtomicAmount request.amountAtomic = false ∨
        Decimal.amount request.amountAtomic = 0)) ∨
      (code = .PER_CALL_LIMIT_EXCEEDED ∧ isCanonicalAtomicAmount request.amountAtomic = true ∧
        Decimal.amount request.amountAtomic ≠ 0 ∧
        Decimal.amount permit.maxPerCallAtomic < Decimal.amount request.amountAtomic) := by
  unfold amountDenials
  cases hcanonical : isCanonicalAtomicAmount request.amountAtomic with
  | false => simp
  | true =>
    simp only [hspent, Bool.not_true, Bool.or_self, Bool.false_eq_true, if_false]
    split
    · rename_i hzero
      simp [hzero]
    · rename_i hpositive
      simp [mem_denyIf, htotal, hpositive, and_comm]

theorem amountDenials_not_expired : ReasonCode.PERMIT_EXPIRED ∉
    (amountDenials permit request).map Denial.reasonCode := by
  unfold amountDenials
  split
  · simp
  · split
    · simp
    · simp [mem_denyIf]

theorem mem_expired : ReasonCode.PERMIT_EXPIRED ∈ (evaluatePurchasePermit permit request).reasonCodes ↔
    permit.expiresAt < request.now := by
  rw [mem_reasonCodes, mem_termDenials, or_iff_left amountDenials_not_expired]
  simp

/-- Apart from the expiry and the total, a violation does not depend on the time or the budget. -/
theorem mem_reasonCodes_at {now : ℤ} {spent : String}
    (hspent : isCanonicalAtomicAmount request.alreadySpentAtomic = true)
    (hspent' : isCanonicalAtomicAmount spent = true) (hexpired : code ≠ .PERMIT_EXPIRED)
    (htotal : code ≠ .TOTAL_BUDGET_EXCEEDED) :
    code ∈ (evaluatePurchasePermit permit { request with alreadySpentAtomic := spent, now }).reasonCodes ↔
      code ∈ (evaluatePurchasePermit permit request).reasonCodes := by
  simp only [mem_reasonCodes, mem_termDenials, mem_amountDenials hspent htotal,
    @mem_amountDenials permit { request with alreadySpentAtomic := spent, now } code hspent' htotal, hexpired,
    and_false, false_or]

end

/-- The verifier has no objection to the decision of a bundle: an `ALLOW` violates nothing it recomputes,
and a `DENY` names every violation it recomputes. -/
structure PolicyAgrees (bundle : EvidenceBundle) : Prop where
  allowed : bundle.allowed = true → ∀ claim ∈ policyClaims bundle, claim.status = .VERIFIED
  denied : bundle.allowed = false → ∀ code ∈ staticCodes bundle, code ∈ bundle.manifest.reasonCodes
  valid : ∀ claim ∈ policyClaims bundle, claim.status ≠ .INVALID

/-- The policy part of the static codes. -/
def staticPurchase (bundle : EvidenceBundle) : PurchaseRequestV1 where
  service := bundle.request.service
  capability := bundle.request.capability
  network := bundle.request.network
  mint := bundle.request.mint
  recipient := bundle.request.recipient
  amountAtomic := bundle.request.amountAtomic
  alreadySpentAtomic := "0"
  now := bundle.request.issuedAt

def staticReasonCodes (bundle : EvidenceBundle) : List ReasonCode :=
  (evaluateExactOperation bundle.purchasePermit.operation bundle.request.operation).reasonCodes ++
    (evaluatePurchasePermit bundle.purchasePermit.toUnsignedPurchasePermitV2
      (staticPurchase bundle)).reasonCodes.filter fun code ↦ code ≠ .TOTAL_BUDGET_EXCEEDED

theorem mem_staticCodes {bundle : EvidenceBundle} {name : String} : name ∈ staticCodes bundle ↔
    (∃ code ∈ staticReasonCodes bundle, code.name = name) ∨
      (bundle.request.issuedAt < bundle.purchasePermit.issuedAt ∧ name = "PERMIT_NOT_YET_VALID") := by
  have hearly : name ∈ (if bundle.request.issuedAt < bundle.purchasePermit.issuedAt then
      ["PERMIT_NOT_YET_VALID"] else []) ↔
      bundle.request.issuedAt < bundle.purchasePermit.issuedAt ∧ name = "PERMIT_NOT_YET_VALID" := by
    split
    · rename_i hbefore
      simp [hbefore]
    · rename_i hfrom
      simp [hfrom]
  have hcodes : name ∈ (staticReasonCodes bundle).map ReasonCode.name ↔
      ∃ code ∈ staticReasonCodes bundle, code.name = name := List.mem_map
  unfold staticCodes
  dsimp only
  rw [List.mem_eraseDups, List.mem_append, ← List.map_append, hearly]
  exact or_congr_left hcodes

/-- The lower bound of the validity is no code of the authority. -/
theorem not_yet_valid_ne (code : ReasonCode) : code.name ≠ "PERMIT_NOT_YET_VALID" := by
  cases code <;> decide

theorem staticCodes_eq_nil {bundle : EvidenceBundle} : staticCodes bundle = [] ↔
    staticReasonCodes bundle = [] ∧ bundle.purchasePermit.issuedAt ≤ bundle.request.issuedAt := by
  simp only [List.eq_nil_iff_forall_not_mem, mem_staticCodes, not_or, forall_and, not_exists, not_and]
  constructor
  · rintro ⟨hcodes, hearly⟩
    exact ⟨fun code hmem ↦ hcodes _ code hmem rfl, not_lt.1 fun hbefore ↦ hearly _ hbefore rfl⟩
  · rintro ⟨hcodes, hfrom⟩
    exact ⟨fun _ code hmem ↦ absurd hmem (hcodes code), fun _ hbefore ↦ absurd hfrom (not_le.2 hbefore)⟩

/-- What the claims of the verifier say, in terms of the codes. -/
theorem policyAgrees_iff {bundle : EvidenceBundle} : PolicyAgrees bundle ↔
    (bundle.allowed = true → staticCodes bundle = []) ∧
      (bundle.allowed = false → ∀ code ∈ staticCodes bundle, code ∈ bundle.manifest.reasonCodes) := by
  have hdecision : decisionClaim bundle ∈ policyClaims bundle := by simp [policyClaims]
  constructor
  · intro h
    refine ⟨fun hallowed ↦ ?_, h.denied⟩
    have hverified := h.allowed hallowed _ hdecision
    rw [decisionClaim, if_pos hallowed, demand_verified, problemIf_eq_nil] at hverified
    simpa using hverified
  · rintro ⟨hallowed, hdenied⟩
    have hentries : ∀ claim ∈ policyClaims bundle, claim = decisionClaim bundle ∨ ∃ entry ∈ POLICY_CLAIMS,
        claim = check entry.1 .STATIC_POLICY ((staticCodes bundle).filter entry.2.1.contains) bundle.allowed
          (if bundle.allowed then .INVALID else .NOT_SATISFIED) (some entry.2.2) := by
      intro claim hclaim
      rw [policyClaims, List.mem_append, List.mem_map, List.mem_singleton] at hclaim
      rcases hclaim with ⟨entry, hentry, rfl⟩ | rfl
      · exact .inr ⟨entry, hentry, rfl⟩
      · exact .inl rfl
    cases hstate : bundle.allowed with
    | true =>
      have hnil := hallowed hstate
      have hverified : ∀ claim ∈ policyClaims bundle, claim.status = .VERIFIED := by
        intro claim hclaim
        rcases hentries claim hclaim with rfl | ⟨entry, -, rfl⟩
        · rw [decisionClaim, if_pos hstate, demand_verified, problemIf_eq_nil, hnil]
          rfl
        · rw [hnil]
          rfl
      refine ⟨fun _ ↦ hverified, fun hfalse ↦ ?_, fun claim hclaim hinvalid ↦ ?_⟩
      · rw [hstate] at hfalse
        cases hfalse
      · rw [hverified claim hclaim] at hinvalid
        cases hinvalid
    | false =>
      refine ⟨fun htrue ↦ ?_, fun _ ↦ hdenied hstate, fun claim hclaim ↦ ?_⟩
      · rw [hstate] at htrue
        cases htrue
      · rcases hentries claim hclaim with rfl | ⟨entry, -, rfl⟩
        · rw [decisionClaim, if_neg (by simp [hstate])]
          split
          · simp
          · have hnone : ((staticCodes bundle).filter fun code ↦
                !bundle.manifest.reasonCodes.contains code) = [] := by
              rw [List.filter_eq_nil_iff]
              intro code hcode
              simpa using hdenied hstate code hcode
            rw [hnone]
            simp
        · rw [check, hstate]
          dsimp only
          split <;> simp

/-! ## Counters -/

/-- The counters of a grant are amounts within its total. -/
def GrantRecord.Covered (grant : GrantRecord) : Prop :=
  ∃ reserved consumed maxTotal : ℕ, reserved + consumed ≤ maxTotal ∧ maxTotal < 10 ^ 20 ∧
    grant.reservedAtomic = reserved.repr ∧ grant.consumedAtomic = consumed.repr ∧
    grant.maxTotalAtomic = maxTotal.repr

def Db.Covered (db : Db) : Prop := ∀ key grant, db.grants.find? key = some grant → grant.Covered

section

variable {db db' : Db}

/-- The budget an evaluator is given is a canonical amount. -/
theorem GrantRecord.Covered.committed {grant : GrantRecord} (h : grant.Covered) {reserved consumed : ℤ}
    (hcommitted : Committed grant reserved consumed) :
    isCanonicalAtomicAmount (reserved + consumed).repr = true := by
  obtain ⟨reservedNat, consumedNat, maxTotal, hle, hlt, hreserved, hconsumed, -⟩ := h
  have hreservedEq := hcommitted.reserved_eq
  have hconsumedEq := hcommitted.consumed_eq
  rw [hreserved, Decimal.bigInt_repr, Option.some.injEq] at hreservedEq
  rw [hconsumed, Decimal.bigInt_repr, Option.some.injEq] at hconsumedEq
  rw [← hreservedEq, ← hconsumedEq, ← Nat.cast_add, repr_natCast, isCanonicalAtomicAmount_iff]
  exact ⟨reservedNat + consumedNat, by omega, rfl⟩

theorem Db.Covered.of_grants (h : db.Covered) (hgrants : db'.grants = db.grants) : db'.Covered :=
  fun key grant hfind ↦ h key grant (hgrants ▸ hfind)

theorem Db.Covered.pinned (h : db.Covered) {pinned : Db} {terms : GrantTerms} {grant : GrantRecord} {now : ℤ}
    (hpinned : Pinned db pinned terms grant now) : pinned.Covered := by
  rcases hpinned.origin with rfl | ⟨hcanonical, rfl, hwrote⟩
  · exact h
  · intro key found hfind
    rw [hwrote.find] at hfind
    split at hfind
    · cases hfind
      obtain ⟨maxTotal, hlt, hrepr⟩ := isCanonicalAtomicAmount_iff.1 hcanonical
      exact ⟨0, 0, maxTotal, Nat.zero_le _, hlt, rfl, rfl, hrepr⟩
    · exact h key found hfind

/-- New counters whose sum stays within the total. -/
theorem Db.Covered.posted (h : db.Covered) {key : GrantKey} {grant : GrantRecord} {reserved consumed : ℕ}
    {now : ℤ} (hposted : Posted db db' key grant reserved.repr consumed.repr now)
    (hle : ∀ maxTotal : ℕ, grant.maxTotalAtomic = maxTotal.repr → reserved + consumed ≤ maxTotal) :
    db'.Covered := by
  intro other found hfind
  rw [hposted.wrote.find] at hfind
  split at hfind
  · cases hfind
    obtain ⟨-, -, maxTotal, -, hlt, -, -, hmaxTotal⟩ := h key grant hposted.found
    exact ⟨reserved, consumed, maxTotal, hle maxTotal hmaxTotal, hlt, rfl, rfl, hmaxTotal⟩
  · exact h other found hfind

/-- The amount of a row that was written over one of the same amount. -/
theorem amount_of_written {row new : InvocationRecord} {old : Option InvocationRecord} {entry : TransitionRecord}
    (hwritten : RowWritten db db' old new entry) (hamount : new.amountAtomic = row.amountAtomic) {amount : ℤ}
    (hbig : Decimal.bigInt row.amountAtomic = some amount) :
    amount = (Decimal.amount row.amountAtomic : ℕ) := by
  have hchecks := hwritten.checks
  rw [InvocationRecord.satisfiesChecks, Bool.and_eq_true, hamount] at hchecks
  exact bigInt_canonical hchecks.1 hbig

theorem Db.Covered.released (h : db.Covered) {row new : InvocationRecord} {entry : TransitionRecord} {now : ℤ}
    (hreleased : Released db db' row new entry now) (hamount : new.amountAtomic = row.amountAtomic) :
    db'.Covered := by
  obtain ⟨grant, amount, reserved, middle, hbig, hreserved, hle, hposted, hwritten⟩ := hreleased.money
  obtain rfl := amount_of_written hwritten hamount hbig
  obtain ⟨reservedNat, consumedNat, maxTotal, hwithin, -, hreservedEq, hconsumedEq, hmaxTotal⟩ :=
    h _ _ hposted.found
  rw [hreservedEq, Decimal.bigInt_repr, Option.some.injEq] at hreserved
  subst hreserved
  have hrepr : ((reservedNat : ℤ) - (Decimal.amount row.amountAtomic : ℕ)).repr =
      (reservedNat - Decimal.amount row.amountAtomic).repr := by
    rw [← Nat.cast_sub (by omega), repr_natCast]
  rw [hrepr, hconsumedEq] at hposted
  refine Db.Covered.of_grants (h.posted hposted fun total htotal ↦ ?_) hwritten.grants
  obtain rfl := Decimal.repr_injective (hmaxTotal.symm.trans htotal)
  omega

theorem Db.Covered.consumed (h : db.Covered) {row new : InvocationRecord} {entry : TransitionRecord} {now : ℤ}
    (hconsumed : Consumed db db' row new entry now) (hamount : new.amountAtomic = row.amountAtomic) :
    db'.Covered := by
  obtain ⟨grant, amount, reserved, consumed, middle, hbig, hreserved, hspent, hle, hposted, hwritten⟩ :=
    hconsumed.money
  obtain rfl := amount_of_written hwritten hamount hbig
  obtain ⟨reservedNat, consumedNat, maxTotal, hwithin, -, hreservedEq, hconsumedEq, hmaxTotal⟩ :=
    h _ _ hposted.found
  rw [hreservedEq, Decimal.bigInt_repr, Option.some.injEq] at hreserved
  rw [hconsumedEq, Decimal.bigInt_repr, Option.some.injEq] at hspent
  subst hreserved hspent
  have hrepr : ((reservedNat : ℤ) - (Decimal.amount row.amountAtomic : ℕ)).repr =
      (reservedNat - Decimal.amount row.amountAtomic).repr := by
    rw [← Nat.cast_sub (by omega), repr_natCast]
  rw [hrepr, ← Nat.cast_add, repr_natCast] at hposted
  refine Db.Covered.of_grants (h.posted hposted fun total htotal ↦ ?_) hwritten.grants
  obtain rfl := Decimal.repr_injective (hmaxTotal.symm.trans htotal)
  omega

theorem Db.Covered.reserve (h : db.Covered) {input : ReserveInput} {evaluate : BudgetEvaluator} {now : ℤ}
    {result : ReserveResult} (heffect : ReserveEffect db db' input evaluate now result) : db'.Covered := by
  cases result with
  | existing row => exact heffect.1 ▸ h
  | grant_conflict grant => exact heffect.1 ▸ h
  | denied new =>
    obtain ⟨existing, -, -, hdenied⟩ := heffect
    obtain ⟨pinned, grant, reserved, consumed, reasonCodes, hpinned, -, -, -, hwritten⟩ := hdenied.effect
    exact (h.pinned hpinned).of_grants hwritten.grants
  | reserved new =>
    obtain ⟨existing, -, -, hreserved⟩ := heffect
    obtain ⟨pinned, middle, grant, reserved, consumed, amount, maxTotal, hpinned, hcommitted, -, hamount,
      hmaxTotal, hpositive, hwithin, hposted, -, hwritten⟩ := hreserved.effect
    have hcovered := h.pinned hpinned
    obtain ⟨reservedNat, consumedNat, totalNat, hle, -, hreservedEq, hconsumedEq, htotalEq⟩ :=
      hcovered _ _ hposted.found
    have hreservedBig := hcommitted.reserved_eq
    have hconsumedBig := hcommitted.consumed_eq
    rw [hreservedEq, Decimal.bigInt_repr, Option.some.injEq] at hreservedBig
    rw [hconsumedEq, Decimal.bigInt_repr, Option.some.injEq] at hconsumedBig
    rw [htotalEq, Decimal.bigInt_repr, Option.some.injEq] at hmaxTotal
    subst hreservedBig hconsumedBig hmaxTotal
    obtain ⟨amountNat, rfl⟩ := Int.eq_ofNat_of_zero_le hpositive.le
    have hrepr : ((reservedNat : ℤ) + (amountNat : ℕ)).repr = (reservedNat + amountNat).repr := by
      rw [← Nat.cast_add, repr_natCast]
    rw [hrepr, hconsumedEq] at hposted
    refine Db.Covered.of_grants (hcovered.posted hposted fun total htotal ↦ ?_) hwritten.grants
    obtain rfl := Decimal.repr_injective (htotalEq.symm.trans htotal)
    omega

theorem Db.Covered.recovered {reason : String} {now : ℤ} {rows : List InvocationRecord} (h : db.Covered)
    (hrecovered : RecoveredRows reason now db db' rows) : db'.Covered := by
  induction hrecovered with
  | nil db => exact h
  | cons found first rest ih =>
    refine ih ?_
    cases first with
    | kept hattempt written => exact h.of_grants written.grants
    | released hattempt released => exact h.released released (recoveredRow_keeps _ _ _).2.2

variable {platform : Platform} {options : ℕ → AuthorityServiceOptions} {sys sys' : System} {action : Action}

theorem Progress.covered {processOptions : AuthorityServiceOptions} {auth : AuthenticatedRequest}
    {stage stage' : Stage} {event : CallEvent}
    (h : Progress platform processOptions db auth stage event db' stage') (hdb : db.Covered) : db'.Covered := by
  cases h with
  | reserved effect => exact hdb.reserve effect
  | released found released => exact hdb.released released rfl
  | recorded found unarmed written => exact hdb.of_grants written.grants
  | marked marking found written => exact hdb.of_grants written.grants
  | confirmed found consumed => exact hdb.consumed consumed rfl
  | attached signed find stores wrote grants transitions => exact hdb.of_grants grants
  | _ => exact hdb

/-- No step lets the counters of a grant pass its total. -/
theorem System.step_covered (h : sys.step platform options action = some sys') (hdb : sys.db.Covered) :
    sys'.db.Covered := by
  have hstep := System.step_db h
  generalize sys'.db = after at hstep ⊢
  cases hstep with
  | kept action => exact hdb
  | called call progress => exact progress.covered hdb
  | recovered starting recover => exact hdb.recovered (recoverInterruptedInvocations_ok recover)
  | reconciled serving progress =>
    generalize sys.runs _ = run at progress
    cases progress with
    | @resolved lookup outcome rest now row db' found reconciled =>
      cases outcome with
      | confirmed settlement => exact Db.Covered.consumed hdb reconciled rfl
      | failed reason => exact Db.Covered.released hdb reconciled rfl
    | attached signed find stores wrote grants transitions => exact hdb.of_grants grants
    | _ => exact hdb

end

/-- The objections to a challenge say nothing of the time. -/
def ChallengeTerms.Timeless (terms : ChallengeTerms) : Prop := ReasonCode.PERMIT_EXPIRED ∉ terms.challengeCodes

def StageTimeless : Stage → Prop
  | .reserving _ terms => terms.Timeless
  | _ => True

/-- The decision a row carries: what was asked, when, with which terms and budget, and the codes of it. -/
structure AdjudicatedBy (row : InvocationRecord) (auth : AuthenticatedRequest) (terms : ChallengeTerms)
    (committed : String) : Prop where
  request_eq : row.request = auth.request
  authorization_eq : row.authorization = some ⟨auth.permit, auth.agentSignature⟩
  timeless : terms.Timeless
  canonical : isCanonicalAtomicAmount committed = true
  reasonCodes_eq : row.reasonCodes = (decisionCodes auth row.decidedAt terms committed).map ReasonCode.name
  denied_iff : row.state = .DENIED ↔ decisionCodes auth row.decidedAt terms committed ≠ []

def InvocationRecord.Adjudicated (row : InvocationRecord) : Prop :=
  ∃ auth terms committed, AdjudicatedBy row auth terms committed

def Db.Adjudicated (db : Db) : Prop :=
  ∀ invocationId row, db.invocations.find? invocationId = some row → row.Adjudicated

section

variable {db db' : Db} {auth : AuthenticatedRequest} {decidedAt now : ℤ} {terms : ChallengeTerms}

theorem InvocationRecord.Adjudicated.kept {row row' : InvocationRecord} (h : row.Adjudicated)
    (hterms : SameTerms row row') (hstate : row'.state = .DENIED ↔ row.state = .DENIED) : row'.Adjudicated := by
  obtain ⟨auth, terms, committed, h⟩ := h
  refine ⟨auth, terms, committed, ?_⟩
  exact {
    request_eq := hterms.request.trans h.request_eq
    authorization_eq := hterms.authorization.trans h.authorization_eq
    timeless := h.timeless
    canonical := h.canonical
    reasonCodes_eq := by rw [hterms.reasonCodes, hterms.decidedAt, h.reasonCodes_eq]
    denied_iff := by rw [hstate, hterms.decidedAt, h.denied_iff] }

/-- The decision of a reservation, over a fresh row or a failed one. -/
theorem adjudicated_written (existing : Option InvocationRecord) {state : InvocationState} {committed : String}
    (htimeless : terms.Timeless) (hcanonical : isCanonicalAtomicAmount committed = true)
    (hstate : state = .DENIED ↔ decisionCodes auth decidedAt terms committed ≠ []) :
    ((reserveInput auth decidedAt terms).written existing state
      ((decisionCodes auth decidedAt terms committed).map ReasonCode.name) now).Adjudicated := by
  refine ⟨auth, terms, committed, ?_⟩
  cases existing with
  | none => exact ⟨rfl, rfl, htimeless, hcanonical, rfl, hstate⟩
  | some row => exact ⟨rfl, rfl, htimeless, hcanonical, rfl, hstate⟩

theorem evaluate_eq {committed : String} {decision : BudgetDecision}
    (h : evaluate auth decidedAt terms committed = some decision) :
    (decision = .allowed ∧ decisionCodes auth decidedAt terms committed = []) ∨
      (decision = .refused ((decisionCodes auth decidedAt terms committed).map ReasonCode.name) ∧
        decisionCodes auth decidedAt terms committed ≠ []) := by
  simp only [evaluate, Option.some.injEq] at h
  split at h
  · rename_i hcodes
    exact .inl ⟨h.symm, hcodes⟩
  · rename_i hcodes
    exact .inr ⟨h.symm, hcodes⟩

theorem Db.Adjudicated.wrote (h : db.Adjudicated) {old : Option InvocationRecord} {new : InvocationRecord}
    (hwrote : Table.Wrote db.invocations db'.invocations old new) (hnew : new.Adjudicated) : db'.Adjudicated := by
  intro invocationId row hfind
  rw [hwrote.find] at hfind
  split at hfind
  · cases hfind
    exact hnew
  · exact h invocationId row hfind

/-- An open row keeps its decision when it moves on. -/
theorem Db.Adjudicated.moved (h : db.Adjudicated) {invocationId : String} {state : InvocationState}
    {row new : InvocationRecord} (hfound : Found db invocationId state row)
    (hwrote : Table.Wrote db.invocations db'.invocations (some row) new) (hterms : SameTerms row new)
    (hstate : state ≠ .DENIED) (hnew : new.state ≠ .DENIED) : db'.Adjudicated := by
  refine h.wrote hwrote ((h _ _ hfound.find).kept hterms ?_)
  rw [hfound.state_eq]
  exact iff_of_false hnew hstate

theorem Db.Adjudicated.attached (h : db.Adjudicated) {invocationId : String} {row : InvocationRecord}
    {receipt : SignedAuthorizationReceipt} (hfind : db.invocations.find? invocationId = some row)
    (hwrote : Table.Wrote db.invocations db'.invocations (some row) (attachedRow receipt now row)) :
    db'.Adjudicated := by
  have hstate : (attachedRow receipt now row).state = row.state := by
    unfold attachedRow
    split <;> rfl
  exact h.wrote hwrote ((h _ _ hfind).kept (sameTerms_attached _ _ _) (by rw [hstate]))

theorem Db.Adjudicated.reserve (h : db.Adjudicated) (hcovered : db.Covered) (htimeless : terms.Timeless)
    {result : ReserveResult} (heffect : ReserveEffect db db' (reserveInput auth decidedAt terms)
      (evaluate auth decidedAt terms) now result) : db'.Adjudicated := by
  cases result with
  | existing row => exact heffect.1 ▸ h
  | grant_conflict grant => exact heffect.1 ▸ h
  | denied new =>
    obtain ⟨existing, -, -, hdenied⟩ := heffect
    obtain ⟨pinned, grant, reserved, consumed, reasonCodes, hpinned, hcommitted, hrefused, rfl, hwritten⟩ :=
      hdenied.effect
    have hwrote := hwritten.wrote
    rw [hpinned.invocations] at hwrote
    have hcanonical := (hcovered.pinned hpinned _ _ hpinned.found).committed hcommitted
    rcases evaluate_eq hrefused with ⟨hallowed, -⟩ | ⟨hcodes, hne⟩
    · cases hallowed
    · cases hcodes
      exact h.wrote hwrote (adjudicated_written existing htimeless hcanonical (by simpa using hne))
  | reserved new =>
    obtain ⟨existing, -, -, hreserved⟩ := heffect
    obtain ⟨pinned, middle, grant, reserved, consumed, amount, maxTotal, hpinned, hcommitted, hallowed, -, -, -, -,
      hposted, rfl, hwritten⟩ := hreserved.effect
    have hwrote := hwritten.wrote
    rw [hposted.invocations, hpinned.invocations] at hwrote
    have hcanonical := (hcovered.pinned hpinned _ _ hpinned.found).committed hcommitted
    rcases evaluate_eq hallowed with ⟨-, hcodes⟩ | ⟨hrefused, -⟩
    · have hnew : ((reserveInput auth decidedAt terms).written existing .RESERVED
          ((decisionCodes auth decidedAt terms _).map ReasonCode.name) now).Adjudicated :=
        adjudicated_written existing htimeless hcanonical (by simp [hcodes])
      rw [hcodes] at hnew
      exact h.wrote hwrote hnew
    · cases hrefused

variable {platform : Platform} {options : ℕ → AuthorityServiceOptions} {sys sys' : System} {action : Action}

theorem Progress.adjudicated {processOptions : AuthorityServiceOptions} {stage stage' : Stage} {event : CallEvent}
    (h : Progress platform processOptions db auth stage event db' stage') (hstage : StageTimeless stage)
    (hcovered : db.Covered) (hdb : db.Adjudicated) : db'.Adjudicated := by
  cases h with
  | reserved effect => exact hdb.reserve hcovered hstage effect
  | released found released =>
    exact hdb.moved found released.wrote ⟨rfl, rfl, rfl, rfl, rfl, rfl, rfl, rfl, rfl, rfl, rfl⟩ (by decide)
      (by simp [failedRow])
  | recorded found unarmed written =>
    exact hdb.moved found written.wrote ⟨rfl, rfl, rfl, rfl, rfl, rfl, rfl, rfl, rfl, rfl, rfl⟩ (by decide)
      (by simp [attemptedRow, found.state_eq])
  | marked marking found written =>
    exact hdb.moved found written.wrote ⟨rfl, rfl, rfl, rfl, rfl, rfl, rfl, rfl, rfl, rfl, rfl⟩ (by decide)
      (by simp [unresolvedRow])
  | confirmed found consumed =>
    exact hdb.moved found consumed.wrote ⟨rfl, rfl, rfl, rfl, rfl, rfl, rfl, rfl, rfl, rfl, rfl⟩ (by decide)
      (by simp [confirmedRow])
  | attached signed find stores wrote grants transitions => exact hdb.attached find wrote
  | _ => exact hdb

theorem System.step_adjudicated (h : sys.step platform options action = some sys')
    (hcalls : ∀ id call, sys.calls id = some call → StageTimeless call.stage) (hcovered : sys.db.Covered)
    (hdb : sys.db.Adjudicated) : sys'.db.Adjudicated := by
  have hstep := System.step_db h
  generalize sys'.db = after at hstep ⊢
  cases hstep with
  | kept action => exact hdb
  | called call progress => exact progress.adjudicated (hcalls _ _ call) hcovered hdb
  | recovered starting recover =>
    intro invocationId row hfind
    rw [recoverInterruptedInvocations_find recover, Option.map_eq_some_iff] at hfind
    obtain ⟨before, hbefore, rfl⟩ := hfind
    split
    · rename_i hreserved
      refine (hdb invocationId before hbefore).kept (sameTerms_recovered _ _ _) ?_
      rw [hreserved]
      unfold recoveredRow
      split <;> simp
    · exact hdb invocationId before hbefore
  | reconciled serving progress =>
    generalize sys.runs _ = run at progress
    cases progress with
    | @resolved lookup outcome rest now row db' found reconciled =>
      exact hdb.moved found (reconciled_wrote reconciled) (sameTerms_reconciled _ _ _) (by decide)
        (by cases outcome <;> simp [reconciledRow])
    | attached signed find stores wrote grants transitions => exact hdb.attached find wrote
    | _ => exact hdb

theorem rejectionCode_ne_expired (code : ChallengeRejectionCode) : rejectionCode code ≠ .PERMIT_EXPIRED := by
  cases code <;> decide

/-- A challenge is never refused for the expiry of the permit. -/
theorem selection_timeless (result : ChallengeResult) (profile : SettlementProfile) (paidRequest : PaidRequest)
    (request : AuthorizationRequestV2) (payerAddress : String) : ReasonCode.PERMIT_EXPIRED ∉
      (selectAndValidateChallenge result profile paidRequest request payerAddress).reasonCodes := by
  unfold selectAndValidateChallenge
  split
  · rename_i code message
    simpa using (rejectionCode_ne_expired code).symm
  · dsimp only
    split
    · split <;> simp
    · simp only [requirementCodes, codeIf, List.mem_append, not_or]
      refine ⟨⟨⟨⟨?_, ?_⟩, ?_⟩, ?_⟩, ?_⟩ <;> split <;> simp

theorem decide_timeless (processOptions : AuthorityServiceOptions) :
    StageTimeless (decide platform processOptions auth decidedAt) := by
  unfold decide
  dsimp only
  repeat' split
  all_goals simp [StageTimeless, ChallengeTerms.Timeless]

theorem resolveExisting_timeless (processOptions : AuthorityServiceOptions) (row : InvocationRecord)
    (fingerprint : String) : StageTimeless (resolveExisting processOptions row fingerprint) := by
  unfold resolveExisting ensureReceipt
  repeat' split
  all_goals trivial

theorem ensureReceipt_timeless (processOptions : AuthorityServiceOptions) (row : InvocationRecord)
    (replay : Bool) : StageTimeless (ensureReceipt processOptions row replay) := by
  unfold ensureReceipt
  repeat' split
  all_goals trivial

theorem afterReserve_timeless (processOptions : AuthorityServiceOptions) (result : Except StoreError ReserveResult) :
    StageTimeless (afterReserve platform processOptions auth terms result) := by
  unfold afterReserve startPayment
  repeat' split
  all_goals first
    | exact resolveExisting_timeless _ _ _
    | exact ensureReceipt_timeless _ _ _
    | trivial

theorem Progress.timeless {processOptions : AuthorityServiceOptions} {stage stage' : Stage} {event : CallEvent}
    (h : Progress platform processOptions db auth stage event db' stage') : StageTimeless stage' := by
  cases h with
  | resolved known => exact resolveExisting_timeless _ _ _
  | decided now retry => exact decide_timeless _
  | challenged result => exact selection_timeless _ _ _ _ _
  | reserved effect => exact afterReserve_timeless _ _
  | confirmed found consumed => exact ensureReceipt_timeless _ _ _
  | _ => trivial

/-- Every row carries its decision, every grant covers its counters, in every reachable state. -/
structure Ruled (sys : System) : Prop where
  rows : sys.db.Adjudicated
  grants : sys.db.Covered
  calls : ∀ id call, sys.calls id = some call → StageTimeless call.stage

theorem ruled_initial : Ruled .initial where
  rows _ _ h := nomatch h
  grants _ _ h := nomatch h
  calls _ _ h := nomatch h

theorem admitted_timeless (access : Option ℤ) (pending : Option Pending) :
    StageTimeless (admitted db access pending auth) := by
  unfold admitted earlyLookup
  repeat' split
  all_goals trivial

theorem Ruled.step (h : Ruled sys) (hstep : sys.step platform options action = some sys') : Ruled sys' where
  rows := System.step_adjudicated hstep h.calls h.grants h.rows
  grants := System.step_covered hstep h.grants
  calls id call hcall := by
    have horigin := System.step_call hstep hcall
    generalize sys'.db = after at horigin
    cases horigin with
    | kept found => exact h.calls id call found
    | admitted serving authenticated => exact admitted_timeless _ _
    | progressed found progress => exact progress.timeless
    | transmitted found => trivial
    | delivered found leaderDone => trivial

theorem Ruled.of_run {allowed : System → Action → Prop} {labels : List Action}
    (hrun : Run (System.step platform options) allowed .initial labels sys) : Ruled sys :=
  hrun.invariant ruled_initial fun _ _ _ hruled _ hstep ↦ hruled.step hstep

end

/-! ## The agreement -/

/-- The request was signed while the permit was valid, or after that and decided after that too. -/
def SignedInTime (permit : SignedPurchasePermitV2) (request : AuthorizationRequestV2) (decidedAt : ℤ) : Prop :=
  permit.issuedAt ≤ request.issuedAt ∧ (request.issuedAt ≤ permit.expiresAt ∨ permit.expiresAt < decidedAt)

section

variable {auth : AuthenticatedRequest} {decidedAt : ℤ} {terms : ChallengeTerms} {committed : String}

theorem mem_decisionCodes_of_request {code : ReasonCode} (h : code ∈ requestCodes auth decidedAt committed) :
    code ∈ decisionCodes auth decidedAt terms committed :=
  mem_decisionCodes (List.mem_append_left _ h)

theorem operationCodes_not_expired (permitted requested : ExactOperationV1) :
    ReasonCode.PERMIT_EXPIRED ∉ (evaluateExactOperation permitted requested).reasonCodes := by
  simp [evaluateExactOperation, Decision.reasonCodes, mem_denyIf, -List.mem_map]

theorem expired_of_policyCodes {mint recipient amountAtomic : String}
    (h : ReasonCode.PERMIT_EXPIRED ∈ policyCodes auth decidedAt mint recipient amountAtomic committed) :
    auth.permit.expiresAt < decidedAt := by
  rw [policyCodes, List.mem_append, or_iff_right (operationCodes_not_expired _ _)] at h
  exact mem_expired.1 h

/-- A decision names the expiry only when the permit has expired by then. -/
theorem expired_of_decisionCodes (htimeless : terms.Timeless)
    (h : ReasonCode.PERMIT_EXPIRED ∈ decisionCodes auth decidedAt terms committed) :
    auth.permit.expiresAt < decidedAt := by
  have hcodes (hmem : ReasonCode.PERMIT_EXPIRED ∈
      (requestCodes auth decidedAt committed ++ terms.challengeCodes).eraseDups) :
      auth.permit.expiresAt < decidedAt := by
    rw [List.mem_eraseDups, List.mem_append, or_iff_left htimeless] at hmem
    exact expired_of_policyCodes hmem
  unfold decisionCodes at h
  dsimp only at h
  split at h
  · rw [List.mem_eraseDups, List.mem_append] at h
    rcases h with h | h
    · exact hcodes h
    · exact expired_of_policyCodes h
  · split at h
    · simp at h
    · exact hcodes h

/-- What a bundle shows of the request that was decided. -/
structure Shows (bundle : EvidenceBundle) (auth : AuthenticatedRequest) : Prop where
  permit_eq : bundle.purchasePermit = auth.permit
  request_eq : bundle.request = auth.request

variable {bundle : EvidenceBundle}

theorem Shows.mem_requestCodes (h : Shows bundle auth) {code : ReasonCode} :
    code ∈ requestCodes auth decidedAt committed ↔
      code ∈ (evaluateExactOperation bundle.purchasePermit.operation bundle.request.operation).reasonCodes ∨
      code ∈ (evaluatePurchasePermit bundle.purchasePermit.toUnsignedPurchasePermitV2
        { staticPurchase bundle with alreadySpentAtomic := committed, now := decidedAt }).reasonCodes := by
  rw [h.permit_eq, staticPurchase, h.request_eq]
  exact List.mem_append

/-- Apart from the expiry, what the verifier recomputes the authority found as well. -/
theorem Shows.requestCodes_of_static (h : Shows bundle auth)
    (hcanonical : isCanonicalAtomicAmount committed = true) {code : ReasonCode}
    (hmem : code ∈ staticReasonCodes bundle) (hexpired : code ≠ .PERMIT_EXPIRED) :
    code ∈ requestCodes auth decidedAt committed := by
  rw [h.mem_requestCodes]
  rw [staticReasonCodes, List.mem_append, List.mem_filter, decide_eq_true_eq] at hmem
  rcases hmem with hoperation | ⟨hpurchase, htotal⟩
  · exact .inl hoperation
  · have hzero : isCanonicalAtomicAmount (staticPurchase bundle).alreadySpentAtomic = true :=
      show isCanonicalAtomicAmount "0" = true by decide
    exact .inr ((mem_reasonCodes_at hzero hcanonical hexpired htotal).2 hpurchase)

theorem mem_static_expired : ReasonCode.PERMIT_EXPIRED ∈ staticReasonCodes bundle ↔
    bundle.purchasePermit.expiresAt < bundle.request.issuedAt := by
  rw [staticReasonCodes, List.mem_append, List.mem_filter, or_iff_right (operationCodes_not_expired _ _),
    and_iff_left (by decide), mem_expired]
  rfl

/-- The codes of an allowed decision are the expiry at most, when they are recomputed. -/
theorem Shows.static_of_allowed (h : Shows bundle auth) (hcanonical : isCanonicalAtomicAmount committed = true)
    (hcodes : decisionCodes auth decidedAt terms committed = []) {code : ReasonCode}
    (hmem : code ∈ staticReasonCodes bundle) : code = .PERMIT_EXPIRED := by
  by_contra hexpired
  have hfound : code ∈ decisionCodes auth decidedAt terms committed :=
    mem_decisionCodes_of_request (h.requestCodes_of_static hcanonical hmem hexpired)
  rw [hcodes] at hfound
  cases hfound

theorem Shows.not_expired_of_allowed (h : Shows bundle auth)
    (hcodes : decisionCodes auth decidedAt terms committed = []) : decidedAt ≤ bundle.purchasePermit.expiresAt := by
  by_contra hexpired
  have hfound : ReasonCode.PERMIT_EXPIRED ∈ decisionCodes auth decidedAt terms committed := by
    refine mem_decisionCodes_of_request (h.mem_requestCodes.2 (.inr ?_))
    exact mem_expired.2 (not_le.1 hexpired)
  rw [hcodes] at hfound
  cases hfound

/-- An `ALLOW` violates nothing the verifier recomputes exactly if the request was signed in time. -/
theorem Shows.allowed_iff (h : Shows bundle auth) (hcanonical : isCanonicalAtomicAmount committed = true)
    (hcodes : decisionCodes auth decidedAt terms committed = []) :
    staticCodes bundle = [] ↔ SignedInTime bundle.purchasePermit bundle.request decidedAt := by
  have hnot_expired := h.not_expired_of_allowed hcodes
  have hstatic : staticReasonCodes bundle = [] ↔ bundle.request.issuedAt ≤ bundle.purchasePermit.expiresAt := by
    rw [List.eq_nil_iff_forall_not_mem]
    constructor
    · intro hnone
      exact not_lt.1 fun hexpired ↦ hnone _ (mem_static_expired.2 hexpired)
    · intro hle code hmem
      obtain rfl := h.static_of_allowed hcanonical hcodes hmem
      exact absurd hle (not_le.2 (mem_static_expired.1 hmem))
  rw [staticCodes_eq_nil, hstatic, and_comm, SignedInTime, or_iff_left (not_lt.2 hnot_expired)]

/-- A `DENY` names every violation the verifier recomputes exactly if the request was signed in time. -/
theorem Shows.denied_iff (h : Shows bundle auth) (hcanonical : isCanonicalAtomicAmount committed = true)
    (htimeless : terms.Timeless) :
    (∀ code ∈ staticCodes bundle,
      code ∈ (decisionCodes auth decidedAt terms committed).map ReasonCode.name) ↔
      SignedInTime bundle.purchasePermit bundle.request decidedAt := by
  have hnamed (code : ReasonCode) : code.name ∈ (decisionCodes auth decidedAt terms committed).map
      ReasonCode.name ↔ code ∈ decisionCodes auth decidedAt terms committed :=
    List.mem_map_of_injective ReasonCode.name_injective
  constructor
  · intro hall
    have hfrom : bundle.purchasePermit.issuedAt ≤ bundle.request.issuedAt := by
      by_contra hbefore
      have hmem := hall _ (mem_staticCodes.2 (.inr ⟨not_le.1 hbefore, rfl⟩))
      obtain ⟨code, -, hname⟩ := List.mem_map.1 hmem
      exact not_yet_valid_ne code hname
    refine ⟨hfrom, or_iff_not_imp_left.2 fun hexpired ↦ ?_⟩
    have hmem := hall _ (mem_staticCodes.2 (.inl ⟨_, mem_static_expired.2 (not_le.1 hexpired), rfl⟩))
    rw [h.permit_eq]
    exact expired_of_decisionCodes htimeless ((hnamed _).1 hmem)
  · rintro ⟨hfrom, hexpired⟩ name hname
    rcases mem_staticCodes.1 hname with ⟨code, hmem, rfl⟩ | ⟨hbefore, -⟩
    · refine (hnamed code).2 (mem_decisionCodes_of_request ?_)
      by_cases hcode : code = .PERMIT_EXPIRED
      · subst hcode
        have hlate := hexpired.resolve_left (not_le.2 (mem_static_expired.1 hmem))
        exact h.mem_requestCodes.2 (.inr (mem_expired.2 hlate))
      · exact h.requestCodes_of_static hcanonical hmem hcode
    · exact absurd hfrom (not_le.2 hbefore)

variable {platform : Platform} {input : ExportInput}

theorem Exported.shows {row : InvocationRecord} (h : Exported platform input bundle) (hrow : input.invocation = row)
    (hadjudicated : AdjudicatedBy row auth terms committed) : Shows bundle auth := by
  subst hrow
  obtain ⟨authorization, result, service, hauthorization, -, -, hartifacts⟩ := h.artifacts
  rw [hadjudicated.authorization_eq] at hauthorization
  cases hauthorization
  constructor
  · rw [hartifacts]
    rfl
  · rw [hartifacts, ← hadjudicated.request_eq]
    rfl

theorem Exported.allowed_iff (h : Exported platform input bundle) :
    bundle.allowed = true ↔ input.invocation.state ≠ .DENIED := by
  have hstate : bundle.state = input.invocation.state.name := by
    change bundle.manifest.toUnsignedEvidenceManifest.purchaseState = _
    rw [h.manifest]
    rfl
  have hfinal := h.final
  rw [EvidenceBundle.allowed, hstate, decide_eq_true_eq]
  cases hrow : input.invocation.state with
  | RESERVED => exact absurd hrow hfinal
  | _ => simp [InvocationState.name, ALLOW_STATES]

theorem Exported.reasonCodes_eq (h : Exported platform input bundle) :
    bundle.manifest.reasonCodes = input.invocation.reasonCodes := by
  rw [h.manifest]
  rfl

/-- The verifier agrees with an exported decision exactly if the request was signed in time. -/
theorem AdjudicatedBy.policyAgrees_iff (h : AdjudicatedBy input.invocation auth terms committed)
    (hexported : Exported platform input bundle) : PolicyAgrees bundle ↔
      SignedInTime bundle.purchasePermit bundle.request input.invocation.decidedAt := by
  have hshows := hexported.shows rfl h
  rw [Authority.policyAgrees_iff]
  by_cases hdenied : input.invocation.state = .DENIED
  · have hallowed : bundle.allowed = false := by
      rw [Bool.eq_false_iff]
      exact fun hallowed ↦ hexported.allowed_iff.1 hallowed hdenied
    rw [hallowed, hexported.reasonCodes_eq, h.reasonCodes_eq]
    simpa using hshows.denied_iff h.canonical h.timeless
  · have hallowed := hexported.allowed_iff.2 hdenied
    have hcodes : decisionCodes auth input.invocation.decidedAt terms committed = [] := by
      by_contra hne
      exact hdenied (h.denied_iff.2 hne)
    rw [hallowed]
    simpa using hshows.allowed_iff h.canonical hcodes

end

/-- In every run, an exported decision is one the verifier agrees with exactly if the request was signed in
time. -/
theorem policyAgrees_iff_signedInTime {platform : Platform} {options : ℕ → AuthorityServiceOptions}
    {allowed : System → Action → Prop} {labels : List Action} {sys : System} {invocationId : String}
    {input : ExportInput} {bundle : EvidenceBundle}
    (hrun : Run (System.step platform options) allowed .initial labels sys)
    (hfind : sys.db.invocations.find? invocationId = some input.invocation)
    (hbundle : buildEvidenceBundle platform input = .ok bundle) :
    PolicyAgrees bundle ↔
      SignedInTime bundle.purchasePermit bundle.request input.invocation.decidedAt := by
  obtain ⟨auth, terms, committed, hadjudicated⟩ := (Ruled.of_run hrun).rows invocationId _ hfind
  exact hadjudicated.policyAgrees_iff (buildEvidenceBundle_ok hbundle)

/-! ## A request signed before its permit -/

namespace Backdated

open Evidence.Sample (issuer agent authority operation permitDigest operationDigest paidDigest url request
  agentSignature profile)
open Authority.Sample (options fingerprint requirement challenge body terms payment id db grant)

def unsignedPermit : UnsignedPurchasePermitV2 := { Evidence.Sample.unsignedPermit with issuedAt := 2500 }

/-- The permit was issued half a second after the request was signed. -/
def permit : SignedPurchasePermitV2 := { unsignedPermit with signature := Evidence.Sample.permit.signature }

def input : AuthorizeRequestInput := { Sample.input with permit := permit.toJson }

def auth : AuthenticatedRequest := { Sample.auth with permit := permit }

def hashed : List (Message × String) :=
  [(.permitDigestV2 permit, permitDigest), (.operation operation, operationDigest),
    (.fingerprint (fingerprintInput permit request operationDigest), fingerprint),
    (.paidRequest url body, paidDigest)]

def signed : List ((String × Message) × String) :=
  [((issuer, .unsignedPermitV2 unsignedPermit), permit.signature),
    ((agent, .requestV2 request), agentSignature.signature)]

theorem hashed_hex : ∀ entry ∈ hashed, Text.isDigest entry.2 = true := by
  intro entry hentry
  simp only [hashed, List.mem_cons, List.not_mem_nil, or_false] at hentry
  rcases hentry with rfl | rfl | rfl | rfl <;> exact Text.inClass_ofList rfl

theorem signed_base58 : ∀ entry ∈ signed, Field 128 BASE58 entry.2 := by
  intro entry hentry
  simp only [signed, List.mem_cons, List.not_mem_nil, or_false] at hentry
  rcases hentry with rfl | rfl <;> exact base58_fits (Text.inClass_ofList rfl)

def recording : Recording where
  base := Sample.recording.base
  addresses := Sample.recording.addresses
  digests := recordDigests hashed (by simp [hashed])
  signatures := recordSignatures signed (by simp [signed])
  digests_hex := hashed_hex
  signatures_base58 := signed_base58

def platform : Platform := recording.platform

theorem recorded_hashed : recording.digests.rows = hashed := rfl

theorem recorded_signed : recording.signatures.rows = signed := rfl

theorem hash_recorded (entry : Message × String) (h : entry ∈ hashed) :
    platform.sha256Hex (entry.1.text platform) = entry.2 :=
  Recording.sha256Hex_of_mem (show entry ∈ recording.digests.rows from recorded_hashed ▸ h)

theorem signed_recorded {key : String} (message : Message) {signature : String}
    (hkey : key ∈ recording.addresses) (h : ((key, message), signature) ∈ signed) :
    platform.verifySignature key signature (message.text platform) = true :=
  Recording.verifySignature_of_mem message hkey (recorded_signed ▸ h)

/-- A valid permit with another beginning, on a platform that knows its keys. -/
theorem reissued_valid {known platform : Platform} {permit : UnsignedPurchasePermitV2} {issuedAt : ℤ}
    (h : permit.Valid known) (hkeys : ∀ key ∈ [permit.issuer, permit.authorizedAgent, permit.mint, permit.recipient],
      isBase58PublicKey platform key = true) (hsafe : isSafeTimestamp issuedAt = true)
    (hlt : issuedAt < permit.expiresAt) : { permit with issuedAt }.Valid platform :=
  { h with
    issuer_key := hkeys _ (by simp), agent_key := hkeys _ (by simp), mint_key := hkeys _ (by simp)
    recipient_key := hkeys _ (by simp), issuedAt_safe := hsafe, issuedAt_lt := hlt }

theorem permit_verified : SignedPurchasePermitV2.Verified platform permit where
  valid := reissued_valid Sample.permit_verified.valid (by decide) (by decide) (by decide)
  isSignature := Recording.isSignature_of_mem (((issuer, .unsignedPermitV2 unsignedPermit), permit.signature))
    (by simp [recorded_signed, signed])
  importsKey := by decide
  signed := signed_recorded (.unsignedPermitV2 unsignedPermit) (by decide)
    (show ((issuer, .unsignedPermitV2 unsignedPermit), permit.signature) ∈ signed by simp [signed])

theorem request_verified : verifyAuthorizationRequestSignature platform request agentSignature.toJson agent = true :=
  verifyAuthorizationRequestSignature_toJson.2 ⟨Recording.isSignature_of_mem
    (((agent, .requestV2 request), agentSignature.signature)) (by simp [recorded_signed, signed]),
    by decide, by decide, signed_recorded (.requestV2 request) (by decide) (by simp [signed])⟩

theorem permit_hashed : computePermitDigest platform permit = permitDigest :=
  hash_recorded (.permitDigestV2 permit, permitDigest) (by simp [hashed])

theorem operation_hashed : computeOperationDigest platform operation = operationDigest :=
  hash_recorded (.operation operation, operationDigest) (by simp [hashed])

theorem fingerprint_hashed : computeRequestFingerprint platform permit request operationDigest = fingerprint :=
  hash_recorded (.fingerprint (fingerprintInput permit request operationDigest), fingerprint) (by simp [hashed])

theorem paidRequest_hashed : computePaidRequestDigest platform url body = paidDigest :=
  hash_recorded (.paidRequest url body, paidDigest) (by simp [hashed])

theorem authenticated : authenticate platform options input 2550 = .ok auth := by
  have hpermit : verifyPurchasePermitV2 platform input.permit = .ok permit :=
    verifyPurchasePermitV2_toJson permit_verified
  have hsignature : normalizedSignature input.agentSignature = agentSignature.signature := by
    simp [normalizedSignature, input, Sample.input, AgentRequestSignature.toJson, signatureJson, object?, text,
      Json.member]
  unfold authenticate
  simp only [guardThat_bind_eq_ok, mapError_bind_eq_ok]
  refine ⟨by simp [input, Sample.input, isNullish, AgentRequestSignature.toJson, signatureJson], permit, hpermit,
    by decide, request_verified, by decide, by decide, ?_, by decide, ?_⟩
  · rw [permit_hashed]
    rfl
  · have hoperation : computeOperationDigest platform input.authorizationRequest.operation = operationDigest :=
      operation_hashed
    have hfingerprint : computeRequestFingerprint platform permit input.authorizationRequest operationDigest =
        fingerprint := fingerprint_hashed
    simp only [hsignature, hoperation, hfingerprint]
    rfl

theorem outbound : outboundRequest platform options request = some Authority.Sample.paidRequest := by
  have hregistered : options.paidServices (paidServiceKey request.service request.capability) =
      some ⟨"reports", "summarize", url⟩ := rfl
  rw [outboundRequest, hregistered, Option.bind_some, buildPaidRequest_eq_some]
  refine ⟨rfl, by decide, ?_⟩
  have hbody : operationRequestBody platform request.operation = body := by decide +kernel
  simp only [createPaidRequest, hbody, paidRequest_hashed]
  rfl

theorem decided : decide platform options auth 2600 = .fetching 2600 profile Authority.Sample.paidRequest := by
  have houtbound : outboundRequest platform options auth.request = some Authority.Sample.paidRequest := outbound
  have hprofile : (options.settlementProfiles auth.permit.network).filter (fun found ↦
      found.name = options.paymentProvider.settlementProfile) = some profile := by
    rfl
  have hallowed : requestAllowed auth 2600 = true := by decide
  simp only [Authority.decide, hallowed, houtbound, hprofile, if_true]

def reserved : InvocationRecord := (reserveInput auth 2600 terms).row .RESERVED [] 2700

def reservedDb : Db := db (grant "5" "0" 2700) reserved [⟨"invocation", none, .RESERVED, none, 2700⟩]

theorem reserves : Db.empty.access (some 2700) (reserve (reserveInput auth 2600 terms) (evaluate auth 2600 terms)) =
    (.ok (.reserved reserved), reservedDb) := by
  rfl

/-- What the next process makes of the reservation. -/
def failed : InvocationRecord := recoveredRow "authority restarted while payment was in progress" 3000 reserved

def exporting : ExportInput where
  invocation := failed
  paidServices := options.paidServices
  authorityAddress := authority
  signer := authority
  issuedAt := 3100
  bundleVersion := .v2

def failedDb : Db := db (grant "0" "0" 3000) failed (reservedDb.transitions ++
  [⟨"invocation", some .RESERVED, .FAILED, some ("authority restarted while payment was in progress; " ++
    "no payment attempt recorded, credential never transmitted"), 3000⟩])

theorem failedDb_reached : ∃ labels sys,
    Run (System.step platform fun _ ↦ options) (fun _ _ ↦ True) .initial labels sys ∧ sys.db = failedDb := by
  have hstarted : Run (System.step platform fun _ ↦ options) (fun _ _ ↦ True) .initial
      [.start 0, .recover 0 (some 1000)] Sample.started :=
    (Run.start.next trivial rfl).next trivial rfl
  have harrived := hstarted.next trivial (show Sample.started.step platform (fun _ ↦ options)
    (.arrive id input 2550 (some 2550)) = some (Sample.pending.withCall id auth .empty (.known none)) from
      System.withCall_arrive rfl rfl authenticated rfl)
  have hresuming : callStep platform options .empty auth (.known none) (.resume 2600) =
      some (.empty, .fetching 2600 profile Authority.Sample.paidRequest) :=
    congrArg (fun stage ↦ some (Db.empty, stage)) decided
  have hfetching : callStep platform options .empty auth (.fetching 2600 profile Authority.Sample.paidRequest)
      (.challenge (.challenge challenge)) = some (.empty, .reserving 2600 terms) := by
    rfl
  have hreserving : callStep platform options .empty auth (.reserving 2600 terms) (.store (some 2700)) =
      some (reservedDb, afterReserve platform options auth terms (.ok (.reserved reserved))) := by
    simp only [callStep, reserves]
  have hreserved := run_call (run_call (run_call harrived trivial hresuming) trivial hfetching) trivial hreserving
  have hcrashed : Run (System.step platform fun _ ↦ options) (fun _ _ ↦ True) .initial (_ ++ [.crash 0]) _ :=
    hreserved.next trivial rfl
  have hrestarted : Run (System.step platform fun _ ↦ options) (fun _ _ ↦ True) .initial (_ ++ [.start 1]) _ :=
    hcrashed.next trivial rfl
  have hrecovered : Run (System.step platform fun _ ↦ options) (fun _ _ ↦ True) .initial
      (_ ++ [.recover 1 (some 3000)]) _ :=
    hrestarted.next trivial rfl
  exact ⟨_, _, hrecovered, rfl⟩

theorem failed_exported : ∃ bundle, buildEvidenceBundle platform exporting = .ok bundle :=
  ⟨_, rfl⟩

/-- The exported decision of the restarted process, held against the times of the permit and the request. -/
theorem policyAgrees_iff_signedInTime_backdated : ∃ bundle, buildEvidenceBundle platform exporting = .ok bundle ∧
    (PolicyAgrees bundle ↔
      SignedInTime bundle.purchasePermit bundle.request exporting.invocation.decidedAt) := by
  obtain ⟨labels, sys, hrun, hdb⟩ := failedDb_reached
  obtain ⟨bundle, hbundle⟩ := failed_exported
  have hfind : sys.db.invocations.find? "invocation" = some exporting.invocation := by
    rw [hdb]
    rfl
  exact ⟨bundle, hbundle, policyAgrees_iff_signedInTime hrun hfind hbundle⟩

/-- The authority allows a request signed before its permit was issued; its evidence is invalid. -/
theorem allowed_not_yet_valid : ∃ labels sys bundle,
    Run (System.step platform fun _ ↦ options) (fun _ _ ↦ True) .initial labels sys ∧
      sys.db.invocations.find? "invocation" = some exporting.invocation ∧
      buildEvidenceBundle platform exporting = .ok bundle ∧ bundle.manifest.decision = "ALLOW" ∧
      ¬ PolicyAgrees bundle := by
  obtain ⟨labels, sys, hrun, hdb⟩ := failedDb_reached
  obtain ⟨bundle, hbundle⟩ := failed_exported
  have hexported := buildEvidenceBundle_ok hbundle
  refine ⟨labels, sys, bundle, hrun, by rw [hdb]; rfl, hbundle, ?_, fun hagrees ↦ ?_⟩
  · rw [hexported.manifest]
    rfl
  · have hallowed := hexported.allowed_iff.2 (show exporting.invocation.state ≠ .DENIED by decide)
    have hnone := (policyAgrees_iff.1 hagrees).1 hallowed
    have hfrom := (staticCodes_eq_nil.1 hnone).2
    obtain ⟨authorization, result, service, hauthorization, -, -, hartifacts⟩ := hexported.artifacts
    cases hauthorization
    rw [hartifacts] at hfrom
    exact absurd hfrom (show ¬ (2500 : ℤ) ≤ 2000 by decide)

end Backdated

end VirtualHaibin.Authority
