import VirtualHaibin.Evidence.Attempts

/-!
# Stricter verification

Observing the settlement and pinning a service key only add demands.  The claims of two reports on one
input differ in the settlement or in what the service signed, and a claim that is not made is a note,
which nothing can fail.
-/

namespace VirtualHaibin.Evidence

open Foundation Payments

/-- A claim that keeps no report from being valid. -/
def Claim.Passes (claim : Claim) : Prop :=
  claim.status ≠ .INVALID ∧ (claim.required = true → claim.status = .VERIFIED)

theorem note_passes {id : String} {category : ClaimCategory} {status : ClaimStatus} {detail : String}
    (hstatus : status ≠ .INVALID) : (note id category status detail).Passes := by
  constructor
  · exact hstatus
  · intro hrequired
    rw [note_required] at hrequired
    contradiction

/-- One required claim that is undecided, beside claims that pass, leaves the whole undecided. -/
theorem overallOf_eq_indeterminate {claims : List Claim} {claim : Claim} (hpass : ∀ other ∈ claims, other.Passes)
    (hrequired : claim.required = true) (hstatus : claim.status = .INDETERMINATE) :
    overallOf (claims ++ [claim]) = .INDETERMINATE := by
  have hvalid : ((claims ++ [claim]).any fun other ↦ other.status = .INVALID) = false := by
    rw [List.any_eq_false]
    intro other hmem
    rw [decide_eq_true_eq]
    rcases List.mem_append.1 hmem with hmem | hmem
    · exact (hpass other hmem).1
    · rw [List.mem_singleton.1 hmem, hstatus]
      decide
  have hmet : (claims.filter fun other ↦ other.required && other.status ≠ .VERIFIED) = [] := by
    rw [List.filter_eq_nil_iff]
    intro other hmem hunmet
    simp only [Bool.and_eq_true, decide_eq_true_eq] at hunmet
    exact hunmet.2 ((hpass other hmem).2 hunmet.1)
  have hunmet : ([claim].filter fun other ↦ other.required && other.status ≠ .VERIFIED) = [claim] := by
    simp [hrequired, hstatus]
  unfold overallOf
  rw [hvalid, List.filter_append, hmet, hunmet]
  simp [hstatus]

section

variable {platform : Platform} {bundle : EvidenceBundle} {trust : VerifierTrust} {rpc : OnlineSettlementSource}

/-- The claims that the mode does not enter. -/
def modelessClaims (platform : Platform) (bundle : EvidenceBundle) (trust : VerifierTrust) : List Claim :=
  formatClaim bundle :: (trustClaims bundle trust ++ integrityClaims platform bundle trust ++
    authorizationClaims platform bundle trust ++ policyClaims bundle ++ paymentClaims platform bundle trust ++
    resultClaims platform bundle ++ budgetClaims bundle ++ serviceClaims platform bundle trust)

theorem claims_eq (options : VerifyOptions) :
    formatClaim bundle :: verifyParsed platform bundle trust options =
      modelessClaims platform bundle trust ++ [settlementClaim platform bundle trust options] := by
  rw [verifyParsed, modelessClaims, List.cons_append]

theorem overallOf_claims {options : VerifyOptions} :
    overallOf (formatClaim bundle :: verifyParsed platform bundle trust options) = .VALID ↔
      (∀ claim ∈ modelessClaims platform bundle trust, claim.Passes) ∧
        (settlementClaim platform bundle trust options).Passes := by
  rw [overallOf_eq_valid, claims_eq, List.forall_mem_append, List.forall_mem_singleton]
  rfl

theorem settlementClaim_category (options : VerifyOptions) :
    (settlementClaim platform bundle trust options).category = .SETTLEMENT := by
  unfold settlementClaim
  split
  · split
    · rfl
    · split <;> rfl
  · rfl

/-- Without an observation the settlement is a note. -/
theorem settlementClaim_offline_passes : (settlementClaim platform bundle trust .offline).Passes := by
  unfold settlementClaim
  split
  · exact note_passes (by decide)
  · apply note_passes
    split <;> decide

/-- The RPC does not answer, or does not show the transaction. -/
def OnlineSettlementSource.Hides (rpc : OnlineSettlementSource) (transactionId : String) : Prop :=
  (∃ message, rpc.getVersion = .error message) ∨ (∃ message, rpc.getTransaction transactionId = .error message) ∨
    rpc.getTransaction transactionId = .ok none

theorem observeSettlement_hidden {settlement : ConfirmedSettlement} {attempt : PaymentAttempt}
    (hhidden : rpc.Hides settlement.transactionId) :
    (∃ message, observeSettlement platform bundle trust rpc settlement attempt = .error message) ∨
      ∃ detail, observeSettlement platform bundle trust rpc settlement attempt = .ok (.INDETERMINATE, detail) := by
  unfold observeSettlement
  cases hversion : rpc.getVersion with
  | error message => exact .inl ⟨message, rfl⟩
  | ok version =>
    rw [Checked.ok_bind]
    split
    · exact .inr ⟨_, rfl⟩
    · rcases hhidden with ⟨message, herror⟩ | ⟨message, herror⟩ | hnone
      · cases hversion.symm.trans herror
      · rw [herror]
        exact .inl ⟨message, rfl⟩
      · rw [hnone]
        exact .inr ⟨_, rfl⟩

/-- A confirmed settlement that the RPC does not show is required and undecided. -/
theorem settlementClaim_hidden (hconfirmed : bundle.confirmed = true) {settlement : ConfirmedSettlement}
    (hsettlement : bundle.settlement = some settlement) (hattempt : bundle.paymentAttempt.isSome = true)
    (hhidden : rpc.Hides settlement.transactionId) :
    (settlementClaim platform bundle trust (.online rpc)).required = true ∧
      (settlementClaim platform bundle trust (.online rpc)).status = .INDETERMINATE := by
  obtain ⟨attempt, hattempt⟩ := Option.isSome_iff_exists.1 hattempt
  unfold settlementClaim
  rw [hconfirmed, hsettlement, hattempt]
  rcases @observeSettlement_hidden platform bundle trust rpc settlement attempt hhidden with
    ⟨message, herror⟩ | ⟨detail, hundecided⟩
  · simp only [herror, and_self]
  · simp only [hundecided, and_self]

/-- A valid bundle of a confirmed purchase has its attempt and its settlement. -/
theorem settled_of_confirmed (hconfirmed : bundle.confirmed = true) (hstate : stateProblems bundle = []) :
    bundle.paymentAttempt.isSome = true ∧ bundle.settlement.isSome = true := by
  simp only [stateProblems, hconfirmed, if_true, List.append_eq_nil_iff, problemIf_eq_nil] at hstate
  obtain ⟨⟨⟨⟨-, ⟨⟨⟨-, hattempt⟩, hsettlement⟩, -⟩⟩, -⟩, -⟩, -⟩ := hstate
  constructor
  · rwa [← Option.not_isNone, Bool.not_eq_true']
  · rwa [← Option.not_isNone, Bool.not_eq_true']

/-- The same trust without the pinned service key. -/
def VerifierTrust.unpinned (trust : VerifierTrust) : VerifierTrust := { trust with service := none }

theorem serviceClaims_unpinned (hpass : ∀ claim ∈ serviceClaims platform bundle trust, claim.Passes) :
    ∀ claim ∈ serviceClaims platform bundle trust.unpinned, claim.Passes := by
  unfold serviceClaims at hpass ⊢
  cases hservice : bundle.service with
  | none =>
    rw [hservice] at hpass
    exact hpass
  | some service =>
    rw [hservice] at hpass
    rw [List.forall_mem_cons, List.forall_mem_append] at hpass ⊢
    refine ⟨hpass.1, ?_, hpass.2.2⟩
    simp only [acknowledgementClaims, VerifierTrust.unpinned, List.forall_mem_cons, List.not_mem_nil,
      false_imp_iff, implies_true, and_true]
    exact ⟨note_passes (by decide), note_passes (by decide), note_passes (by decide)⟩

theorem modelessClaims_unpinned (hpass : ∀ claim ∈ modelessClaims platform bundle trust, claim.Passes) :
    ∀ claim ∈ modelessClaims platform bundle trust.unpinned, claim.Passes := by
  unfold modelessClaims at hpass ⊢
  rw [List.forall_mem_cons, List.forall_mem_append] at hpass ⊢
  obtain ⟨hformat, hfront, hservice⟩ := hpass
  exact ⟨hformat, hfront, serviceClaims_unpinned hservice⟩

end

/-! ## Reports -/

/-- Whatever the input, the trust configuration and the RPC: an online report that is valid is valid offline,
one under a service key is valid without it, the mode enters the settlement alone, and a confirmed purchase
that is valid offline is undecided while its transaction is not shown. -/
theorem stricter_never_accepts (platform : Platform) (input : BundleInput) (trust : VerifierTrust)
    (rpc : OnlineSettlementSource) :
    ((verifyEvidenceBundle platform input trust (.online rpc)).overall = .VALID →
      (verifyEvidenceBundle platform input trust .offline).overall = .VALID) ∧
    (∀ options, (verifyEvidenceBundle platform input trust options).overall = .VALID →
      (verifyEvidenceBundle platform input trust.unpinned options).overall = .VALID) ∧
    ((verifyEvidenceBundle platform input trust (.online rpc)).claims.filter fun claim ↦
        claim.category ≠ .SETTLEMENT) =
      ((verifyEvidenceBundle platform input trust .offline).claims.filter fun claim ↦
        claim.category ≠ .SETTLEMENT) ∧
    ∀ bundle, parseEvidenceBundle platform input = .ok bundle → bundle.state = "CONFIRMED" →
      (verifyEvidenceBundle platform input trust .offline).overall = .VALID →
      (∀ settlement ∈ bundle.settlement, rpc.Hides settlement.transactionId) →
      (verifyEvidenceBundle platform input trust (.online rpc)).overall = .INDETERMINATE := by
  unfold verifyEvidenceBundle
  cases hparsed : parseEvidenceBundle platform input with
  | error failure => simp
  | ok bundle =>
    simp only [overallOf_claims]
    refine ⟨fun hvalid ↦ ⟨hvalid.1, settlementClaim_offline_passes⟩,
      fun options hvalid ↦ ⟨modelessClaims_unpinned hvalid.1, hvalid.2⟩, ?_, ?_⟩
    · have hsettlement (options : VerifyOptions) : ([settlementClaim platform bundle trust options].filter fun claim ↦
          claim.category ≠ .SETTLEMENT) = [] := by
        simp [settlementClaim_category]
      rw [claims_eq, claims_eq, List.filter_append, List.filter_append, hsettlement, hsettlement]
    · intro found hfound hstate hvalid hhidden
      obtain rfl := Except.ok.inj hfound
      have hconfirmed : bundle.confirmed = true := decide_eq_true hstate
      have hproblems : stateProblems bundle = [] := by
        apply @stateProblems_of_not_invalid platform bundle trust .offline
        intro claim hmem
        exact (overallOf_eq_valid.1 (overallOf_claims.2 hvalid) claim (List.mem_cons_of_mem _ hmem)).1
      obtain ⟨hattempt, hsettled⟩ := settled_of_confirmed hconfirmed hproblems
      obtain ⟨settlement, hsettlement⟩ := Option.isSome_iff_exists.1 hsettled
      obtain ⟨hrequired, hundecided⟩ := @settlementClaim_hidden platform bundle trust rpc hconfirmed settlement
        hsettlement hattempt (hhidden settlement hsettlement)
      rw [claims_eq]
      exact overallOf_eq_indeterminate hvalid.1 hrequired hundecided

end VirtualHaibin.Evidence
