import VirtualHaibin.Authority.BudgetRuns
import VirtualHaibin.Authority.Progress

/-!
# What a call is bound to

The facts a call carries from stage to stage: the permit and the request behind it, the terms of the
challenge it selected, and the payment those two allow.  The rows of the store are bound to the
content their fingerprint stands for.
-/

namespace VirtualHaibin.Authority

open Foundation Mandate Payments Policy Evidence

/-- What the digests met in a run stand for. -/
structure Digests where
  contentOf : String → FingerprintInput
  permitOf : String → SignedPurchasePermitV2
  operationOf : String → ExactOperationV1

/-- The digests of a request stand for its own content. -/
structure Digests.Agree (digests : Digests) (auth : AuthenticatedRequest) : Prop where
  content : digests.contentOf auth.fingerprint = fingerprintInput auth.permit auth.request auth.operationDigest
  permit : digests.permitOf auth.request.permitDigest = auth.permit
  operation : digests.operationOf auth.operationDigest = auth.request.operation

/-- No two requests that arrive share a digest of different contents. -/
def CollisionFree (platform : Platform) (options : ℕ → AuthorityServiceOptions) (digests : Digests) :
    Action → Prop
  | .arrive id input now _ => ∀ auth, authenticate platform (options id.process) input now = .ok auth →
      digests.Agree auth
  | _ => True

/-- The grant a fingerprint names. -/
def Digests.grantOf (digests : Digests) (fingerprint : String) : GrantKey :=
  ((digests.permitOf (digests.contentOf fingerprint).permitDigest).issuer,
    (digests.contentOf fingerprint).grantId)

/-- A row carries the content of its fingerprint. -/
structure RowContent (digests : Digests) (row : InvocationRecord) : Prop where
  amount_eq : row.amountAtomic = (digests.contentOf row.fingerprint).amountAtomic
  grantKey_eq : row.grantKey = digests.grantOf row.fingerprint

theorem Digests.Agree.amount {digests : Digests} {auth : AuthenticatedRequest} (h : digests.Agree auth) :
    (digests.contentOf auth.fingerprint).amountAtomic = auth.request.amountAtomic := by
  rw [h.content]
  rfl

theorem Digests.Agree.grantOf_eq {digests : Digests} {auth : AuthenticatedRequest} (h : digests.Agree auth) :
    digests.grantOf auth.fingerprint = (auth.permit.issuer, auth.permit.grantId) := by
  have hpermit : (digests.contentOf auth.fingerprint).permitDigest = auth.request.permitDigest := by
    rw [h.content]
    rfl
  have hgrantId : (digests.contentOf auth.fingerprint).grantId = auth.permit.grantId := by
    rw [h.content]
    rfl
  rw [Digests.grantOf, hpermit, hgrantId, h.permit]

/-- The reservation of an authenticated request is sound for the accounting. -/
theorem Digests.Agree.inputSound {digests : Digests} {auth : AuthenticatedRequest} {platform : Platform}
    (h : digests.Agree auth) (hverified : auth.permit.Verified platform) (decidedAt : ℤ)
    (terms : ChallengeTerms) :
    InputSound (fun _ fingerprint ↦ digests.grantOf fingerprint) (reserveInput auth decidedAt terms) := by
  refine ⟨h.grantOf_eq, Decimal.amount auth.permit.maxTotalAtomic, ?_, ?_⟩
  · have hrange := hverified.valid.maxTotal_range
    simp only [isPositiveU64, Bool.and_eq_true, decide_eq_true_eq] at hrange
    exact hrange.2
  · exact (repr_amount hverified.valid.maxTotal_canonical).symm

/-! ## Rows -/

/-- The fields of a row that only a decision writes. -/
structure SameTerms (row row' : InvocationRecord) : Prop where
  invocationId : row'.invocationId = row.invocationId
  fingerprint : row'.fingerprint = row.fingerprint
  issuer : row'.issuer = row.issuer
  grantId : row'.grantId = row.grantId
  agent : row'.agent = row.agent
  request : row'.request = row.request
  amountAtomic : row'.amountAtomic = row.amountAtomic
  reasonCodes : row'.reasonCodes = row.reasonCodes
  paymentRequirement : row'.paymentRequirement = row.paymentRequirement
  authorization : row'.authorization = row.authorization
  decidedAt : row'.decidedAt = row.decidedAt

theorem SameTerms.refl (row : InvocationRecord) : SameTerms row row :=
  ⟨rfl, rfl, rfl, rfl, rfl, rfl, rfl, rfl, rfl, rfl, rfl⟩

theorem sameTerms_attached (receipt : SignedAuthorizationReceipt) (now : ℤ) (row : InvocationRecord) :
    SameTerms row (attachedRow receipt now row) := by
  unfold attachedRow
  split <;> exact ⟨rfl, rfl, rfl, rfl, rfl, rfl, rfl, rfl, rfl, rfl, rfl⟩

theorem sameTerms_recovered (reason : String) (now : ℤ) (row : InvocationRecord) :
    SameTerms row (recoveredRow reason now row) := by
  unfold recoveredRow
  split <;> exact ⟨rfl, rfl, rfl, rfl, rfl, rfl, rfl, rfl, rfl, rfl, rfl⟩

theorem sameTerms_reconciled (row : InvocationRecord) (outcome : ReconciliationOutcome) (now : ℤ) :
    SameTerms row (reconciledRow row outcome now) := by
  cases outcome <;> exact ⟨rfl, rfl, rfl, rfl, rfl, rfl, rfl, rfl, rfl, rfl, rfl⟩

/-- A process is about to store the receipt it signs for `row`. -/
def System.Signing (sys : System) (process : ℕ) (row : InvocationRecord) : Prop :=
  (∃ id auth replay, id.process = process ∧ sys.calls id = some ⟨auth, .signing row replay⟩) ∨
    ∃ rest, sys.runs process = some (.receipting row rest)

/-- How a step changes a row without deciding it: an open row moves, or a receipt is stored. -/
inductive RowChange (platform : Platform) (options : ℕ → AuthorityServiceOptions) (sys : System)
    (row row' : InvocationRecord) : Prop
  | moved (isOpen : row.isOpen = true) (receipt : row'.receipt = row.receipt)
  | filed {process : ℕ} {snapshot : InvocationRecord} {receipt : SignedAuthorizationReceipt} {now : ℤ}
      (signing : sys.Signing process snapshot) (same : snapshot.invocationId = row.invocationId)
      (signed : signReceipt platform (options process) snapshot = some receipt)
      (new_eq : row' = attachedRow receipt now row)

/-- What a step makes of the row of one invocation. -/
inductive RowStep (platform : Platform) (options : ℕ → AuthorityServiceOptions) (sys : System)
    (invocationId : String) : Option InvocationRecord → Option InvocationRecord → Prop
  | same (row : Option InvocationRecord) : RowStep platform options sys invocationId row row
  | updated {row row' : InvocationRecord} (terms : SameTerms row row')
      (change : RowChange platform options sys row row') :
      RowStep platform options sys invocationId (some row) (some row')
  | decided {id : CallId} {auth : AuthenticatedRequest} {decidedAt : ℤ} {terms : ChallengeTerms}
      {existing : Option InvocationRecord} {state : InvocationState} {reasonCodes : List String} {now : ℤ}
      (call : sys.calls id = some ⟨auth, .reserving decidedAt terms⟩)
      (invocationId_eq : auth.request.invocationId = invocationId)
      (retry : ∀ row, existing = some row → retryingFailed (reserveInput auth decidedAt terms) row = true) :
      RowStep platform options sys invocationId existing
        (some ((reserveInput auth decidedAt terms).written existing state reasonCodes now))

section RowStep

variable {platform : Platform} {options : ℕ → AuthorityServiceOptions} {sys : System} {db db' : Db}

theorem RowStep.of_wrote {row row' : InvocationRecord}
    (hwrote : Table.Wrote db.invocations db'.invocations (some row) row') (hterms : SameTerms row row')
    (hchange : RowChange platform options sys row row') (invocationId : String) :
    RowStep platform options sys invocationId (db.invocations.find? invocationId)
      (db'.invocations.find? invocationId) := by
  rw [hwrote.find]
  split
  · rename_i hid
    rw [← hid, hwrote.old_eq]
    exact .updated hterms hchange
  · exact .same _

/-- A write over an open row that keeps its terms and its receipt. -/
theorem RowStep.of_open {row row' : InvocationRecord} {id : String} {state : InvocationState}
    (hwrote : Table.Wrote db.invocations db'.invocations (some row) row') (hterms : SameTerms row row')
    (hfound : Found db id state row) (hstate : state = .RESERVED ∨ state = .RECONCILIATION_REQUIRED)
    (hreceipt : row'.receipt = row.receipt) (invocationId : String) :
    RowStep platform options sys invocationId (db.invocations.find? invocationId)
      (db'.invocations.find? invocationId) := by
  refine .of_wrote hwrote hterms (.moved ?_ hreceipt) invocationId
  rcases hstate with rfl | rfl <;> simp [InvocationRecord.isOpen, hfound.state_eq]

end RowStep

variable {platform : Platform} {options : AuthorityServiceOptions} {db db' : Db}
  {auth : AuthenticatedRequest} {stage stage' : Stage} {event : CallEvent}

theorem reserve_row {processes : ℕ → AuthorityServiceOptions} {sys : System} {id : CallId} {decidedAt : ℤ}
    {terms : ChallengeTerms} {now : ℤ} {result : ReserveResult}
    (hcall : sys.calls id = some ⟨auth, .reserving decidedAt terms⟩)
    (h : ReserveEffect db db' (reserveInput auth decidedAt terms) (evaluate auth decidedAt terms) now result)
    (invocationId : String) :
    RowStep platform processes sys invocationId (db.invocations.find? invocationId)
      (db'.invocations.find? invocationId) := by
  have hwritten : ∀ {existing : Option InvocationRecord} {state : InvocationState} {reasonCodes : List String},
      db.invocations.find? auth.request.invocationId = existing →
      (∀ row, existing = some row → retryingFailed (reserveInput auth decidedAt terms) row = true) →
      Table.Wrote db.invocations db'.invocations existing
        ((reserveInput auth decidedAt terms).written existing state reasonCodes now) →
      RowStep platform processes sys invocationId (db.invocations.find? invocationId)
        (db'.invocations.find? invocationId) := by
    intro existing state reasonCodes hexisting hretry hwrote
    have hid : ((reserveInput auth decidedAt terms).written existing state reasonCodes now).invocationId =
        auth.request.invocationId :=
      ReserveInput.written_invocationId fun row hrow ↦ Table.key_of_find? (hexisting.trans hrow)
    rw [hwrote.find]
    split
    · rename_i hsame
      rw [hid] at hsame
      rw [← hsame, hexisting]
      exact .decided hcall rfl hretry
    · exact .same _
  cases result with
  | existing row =>
    obtain ⟨rfl, -⟩ := h
    exact .same _
  | grant_conflict grant =>
    obtain ⟨rfl, -⟩ := h
    exact .same _
  | denied new =>
    obtain ⟨existing, hexisting, hretry, hdenied⟩ := h
    obtain ⟨pinned, grant, reserved, consumed, reasonCodes, hpinned, -, -, rfl, hrow⟩ := hdenied.effect
    have hwrote := hrow.wrote
    rw [hpinned.invocations] at hwrote
    exact hwritten hexisting hretry hwrote
  | reserved new =>
    obtain ⟨existing, hexisting, hretry, hreserved⟩ := h
    obtain ⟨pinned, middle, grant, reserved, consumed, amount, maxTotal, hpinned, -, -, -, -, -, -,
      hposted, rfl, hrow⟩ := hreserved.effect
    have hwrote := hrow.wrote
    rw [hposted.invocations, hpinned.invocations] at hwrote
    exact hwritten hexisting hretry hwrote

/-- Every step of a call leaves, updates or decides each row. -/
theorem Progress.row {processes : ℕ → AuthorityServiceOptions} {sys : System} {id : CallId}
    (hcall : sys.calls id = some ⟨auth, stage⟩)
    (h : Progress platform (processes id.process) db auth stage event db' stage') (invocationId : String) :
    RowStep platform processes sys invocationId (db.invocations.find? invocationId)
      (db'.invocations.find? invocationId) := by
  cases h with
  | reserved effect => exact reserve_row hcall effect invocationId
  | released found released =>
    exact .of_open released.wrote ⟨rfl, rfl, rfl, rfl, rfl, rfl, rfl, rfl, rfl, rfl, rfl⟩ found (.inl rfl)
      rfl invocationId
  | recorded found unarmed written =>
    exact .of_open written.wrote ⟨rfl, rfl, rfl, rfl, rfl, rfl, rfl, rfl, rfl, rfl, rfl⟩ found (.inl rfl)
      rfl invocationId
  | marked marking found written =>
    exact .of_open written.wrote ⟨rfl, rfl, rfl, rfl, rfl, rfl, rfl, rfl, rfl, rfl, rfl⟩ found (.inl rfl)
      rfl invocationId
  | confirmed found consumed =>
    exact .of_open consumed.wrote ⟨rfl, rfl, rfl, rfl, rfl, rfl, rfl, rfl, rfl, rfl, rfl⟩ found (.inl rfl)
      rfl invocationId
  | attached signed find stores wrote grants transitions =>
    exact .of_wrote wrote (sameTerms_attached _ _ _)
      (.filed (.inl ⟨id, auth, _, rfl, hcall⟩) (Table.key_of_find? find).symm signed rfl) invocationId
  | _ => exact .same _

variable {sys sys' : System} {processes : ℕ → AuthorityServiceOptions} {action : Action}

theorem reconciledRow_receipt (row : InvocationRecord) (outcome : ReconciliationOutcome) (now : ℤ) :
    (reconciledRow row outcome now).receipt = row.receipt := by
  cases outcome <;> rfl

theorem recoveredRow_receipt (reason : String) (now : ℤ) (row : InvocationRecord) :
    (recoveredRow reason now row).receipt = row.receipt := by
  unfold recoveredRow
  split <;> rfl

theorem System.step_row (h : sys.step platform processes action = some sys') (invocationId : String) :
    RowStep platform processes sys invocationId (sys.db.invocations.find? invocationId)
      (sys'.db.invocations.find? invocationId) := by
  have hdb := System.step_db h
  generalize sys'.db = db' at hdb ⊢
  cases hdb with
  | kept action => exact .same _
  | called call progress => exact progress.row call invocationId
  | recovered starting recover =>
    rw [recoverInterruptedInvocations_find recover]
    cases sys.db.invocations.find? invocationId with
    | none => exact .same _
    | some row =>
      rw [Option.map_some]
      split
      · rename_i hreserved
        exact .updated (sameTerms_recovered _ _ _)
          (.moved (by simp [InvocationRecord.isOpen, hreserved]) (recoveredRow_receipt _ _ _))
      · exact .same _
  | @reconciled process event run db' serving progress =>
    generalize hrun : sys.runs process = before at progress
    cases progress with
    | resolved found reconciled =>
      exact .of_open (reconciled_wrote reconciled) (sameTerms_reconciled _ _ _) found (.inr rfl)
        (reconciledRow_receipt _ _ _) invocationId
    | attached signed find stores wrote grants transitions =>
      exact .of_wrote wrote (sameTerms_attached _ _ _)
        (.filed (.inr ⟨_, hrun⟩) (Table.key_of_find? find).symm signed rfl) invocationId
    | _ => exact .same _

theorem Balanced.attached {keyOf : String → String → GrantKey} (h : Balanced keyOf db) {id : String}
    {row : InvocationRecord} {receipt : SignedAuthorizationReceipt} {now : ℤ}
    (hfind : db.invocations.find? id = some row)
    (hwrote : Table.Wrote db.invocations db'.invocations (some row) (attachedRow receipt now row))
    (hgrants : db'.grants = db.grants) : Balanced keyOf db' := by
  obtain rfl : row.invocationId = id := Table.key_of_find? hfind
  refine h.rewriteRow hwrote hgrants hfind (attachedRow_invocationId _ _ _) ?_ ?_ ?_ ?_ ?_ <;>
    (unfold attachedRow; split <;> rfl)

theorem Progress.balanced {keyOf : String → String → GrantKey}
    (h : Progress platform options db auth stage event db' stage') (hbalanced : Balanced keyOf db)
    (hinput : ∀ decidedAt terms, InputSound keyOf (reserveInput auth decidedAt terms)) :
    Balanced keyOf db' := by
  cases h with
  | reserved effect => exact hbalanced.reserve (hinput _ _) effect
  | released found released =>
    have hfind := found.id_eq ▸ found.find
    exact hbalanced.released released (by simp [InvocationRecord.isOpen, found.state_eq]) hfind rfl rfl rfl rfl
  | recorded found unarmed written =>
    have hfind := found.id_eq ▸ found.find
    exact hbalanced.rewriteRow written.wrote written.grants hfind rfl rfl rfl rfl rfl rfl
  | marked marking found written =>
    have hfind := found.id_eq ▸ found.find
    refine hbalanced.rewriteRow written.wrote written.grants hfind rfl rfl rfl rfl ?_ ?_
    · simp [InvocationRecord.isOpen, found.state_eq, unresolvedRow]
    · simp [InvocationRecord.isSettled, found.state_eq, unresolvedRow]
  | confirmed found consumed =>
    have hfind := found.id_eq ▸ found.find
    exact hbalanced.consumed consumed (by simp [InvocationRecord.isOpen, found.state_eq]) hfind
      rfl rfl rfl rfl rfl
  | attached signed find stores wrote grants transitions => exact hbalanced.attached find wrote grants
  | _ => exact hbalanced

theorem ReconcileProgress.balanced {keyOf : String → String → GrantKey} {run run' : Option ReconcileRun}
    {reconcileEvent : ReconcileEvent}
    (h : ReconcileProgress platform options db run reconcileEvent db' run') (hbalanced : Balanced keyOf db) :
    Balanced keyOf db' := by
  cases h with
  | @resolved lookup outcome rest now row db' found reconciled =>
    have hfind := found.id_eq ▸ found.find
    have hopen : row.isOpen = true := by simp [InvocationRecord.isOpen, found.state_eq]
    cases outcome with
    | confirmed settlement => exact hbalanced.consumed reconciled hopen hfind rfl rfl rfl rfl rfl
    | failed reason => exact hbalanced.released reconciled hopen hfind rfl rfl rfl rfl
  | attached signed find stores wrote grants transitions => exact hbalanced.attached find wrote grants
  | _ => exact hbalanced

theorem System.step_balanced {keyOf : String → String → GrantKey}
    (h : sys.step platform processes action = some sys') (hbalanced : Balanced keyOf sys.db)
    (hinput : ∀ id call, sys.calls id = some call → ∀ decidedAt terms,
      InputSound keyOf (reserveInput call.auth decidedAt terms)) : Balanced keyOf sys'.db := by
  have hdb := System.step_db h
  generalize sys'.db = db' at hdb ⊢
  cases hdb with
  | kept action => exact hbalanced
  | called call progress => exact progress.balanced hbalanced (hinput _ _ call)
  | recovered starting recover =>
    exact hbalanced.recoveredRows _ _ (recoverInterruptedInvocations_ok recover)
  | reconciled serving progress => exact progress.balanced hbalanced

theorem Released.pinsKept {row new : InvocationRecord} {entry : TransitionRecord} {now : ℤ}
    (h : Released db db' row new entry now) : PinsKept db db' := by
  obtain ⟨_, _, _, middle, -, -, -, hposted, hwritten⟩ := h.money
  exact hposted.pinsKept.trans (.of_eq hwritten.grants)

theorem Consumed.pinsKept {row new : InvocationRecord} {entry : TransitionRecord} {now : ℤ}
    (h : Consumed db db' row new entry now) : PinsKept db db' := by
  obtain ⟨_, _, _, _, middle, -, -, -, -, hposted, hwritten⟩ := h.money
  exact hposted.pinsKept.trans (.of_eq hwritten.grants)

theorem System.step_pinsKept (h : sys.step platform processes action = some sys') :
    PinsKept sys.db sys'.db := by
  have hdb := System.step_db h
  generalize sys'.db = db' at hdb ⊢
  cases hdb with
  | kept action => exact .of_eq rfl
  | called call progress =>
    cases progress with
    | reserved effect => exact effect.moves.pinsKept
    | released found released => exact released.pinsKept
    | recorded found unarmed written => exact .of_eq written.grants
    | marked marking found written => exact .of_eq written.grants
    | confirmed found consumed => exact consumed.pinsKept
    | attached signed find stores wrote grants transitions => exact .of_eq grants
    | _ => exact .of_eq rfl
  | recovered starting recover => exact (recoverInterruptedInvocations_ok recover).moves.pinsKept
  | reconciled serving progress =>
    generalize sys.runs _ = before at progress
    cases progress with
    | @resolved lookup outcome rest now row db' found reconciled =>
      cases outcome with
      | confirmed settlement => exact Consumed.pinsKept reconciled
      | failed reason => exact Released.pinsKept reconciled
    | attached signed find stores wrote grants transitions => exact .of_eq grants
    | _ => exact .of_eq rfl

/-! ## Payments -/

/-- The profile and the request of a challenge about to be fetched. -/
structure FetchBound (platform : Platform) (options : AuthorityServiceOptions) (auth : AuthenticatedRequest)
    (profile : SettlementProfile) (paidRequest : PaidRequest) : Prop where
  paidRequest_eq : outboundRequest platform options auth.request = some paidRequest
  profile_eq : options.settlementProfiles auth.permit.network = some profile
  name_eq : profile.name = options.paymentProvider.settlementProfile

/-- A requirement without objections is one the profile admits for exactly the request. -/
def TermsBound (platform : Platform) (options : AuthorityServiceOptions) (auth : AuthenticatedRequest)
    (terms : ChallengeTerms) : Prop :=
  ∀ requirement, terms.requirement = some requirement →
    ∃ profile paidRequest challenge, FetchBound platform options auth profile paidRequest ∧
      terms.paidRequest = some paidRequest ∧ terms.challenge = some challenge ∧
      (terms.challengeCodes = [] → RequirementAccepted profile paidRequest auth.request
        options.paymentProvider.payerAddress challenge requirement)

/-- A payment the signed request, the permit and the challenge allow. -/
structure PaymentBound (platform : Platform) (options : AuthorityServiceOptions) (auth : AuthenticatedRequest)
    (payment : Payment) : Prop where
  accepted : ∃ profile, FetchBound platform options auth profile payment.paidRequest ∧
    RequirementAccepted profile payment.paidRequest auth.request options.paymentProvider.payerAddress
      payment.challenge payment.requirement
  reserved : ∃ existing decidedAt terms committed now,
    payment.invocation = (reserveInput auth decidedAt terms).written existing .RESERVED [] now ∧
    (∀ row, existing = some row →
      retryingFailed (reserveInput auth decidedAt terms) row = true ∧ row.invocationId = auth.request.invocationId) ∧
    terms.requirement = some payment.requirement ∧ requestCodes auth decidedAt committed = []

/-- A service authorization the authority signed for a payment. -/
def AuthorizationBound (platform : Platform) (options : AuthorityServiceOptions) (auth : AuthenticatedRequest)
    (payment : Payment) (serviceAuthorization : SignedServiceAuthorizationV1) : Prop :=
  ∃ now, signServiceAuthorization platform
    (unsignedServiceAuthorization platform options auth.permit payment now) options.authoritySigner =
      some serviceAuthorization

/-- What a call knows at each stage. -/
def StageBound (platform : Platform) (options : AuthorityServiceOptions) (auth : AuthenticatedRequest) :
    Stage → Prop
  | .fetching _ profile paidRequest => FetchBound platform options auth profile paidRequest
  | .reserving _ terms => TermsBound platform options auth terms
  | .budgeting payment | .authorizing payment | .rejected payment =>
    PaymentBound platform options auth payment
  | .building payment serviceAuthorization =>
    PaymentBound platform options auth payment ∧
      AuthorizationBound platform options auth payment serviceAuthorization
  | .recorded payment serviceAuthorization attempt | .transmitted payment serviceAuthorization attempt =>
    PaymentBound platform options auth payment ∧
      AuthorizationBound platform options auth payment serviceAuthorization ∧
      Prepared platform options.paymentProvider payment.paidRequest payment.challenge payment.requirement attempt
  | _ => True

/-- The attempt a provider submits is the one it prepared for the payment it was given. -/
def Prepares (platform : Platform) (options : ℕ → AuthorityServiceOptions) (sys : System) : Action → Prop
  | .call id (.submit attempt _) => ∀ auth payment serviceAuthorization,
      sys.calls id = some ⟨auth, .building payment serviceAuthorization⟩ →
      ∃ answers, prepareAttempt platform (options id.process).paymentProvider payment.paidRequest
        payment.challenge payment.requirement answers = .ok attempt
  | _ => True

theorem termsBound_of_none {terms : ChallengeTerms} (h : terms.requirement = none) :
    TermsBound platform options auth terms := by
  intro requirement hsome
  rw [h] at hsome
  cases hsome

theorem decide_bound (decidedAt : ℤ) :
    StageBound platform options auth (decide platform options auth decidedAt) := by
  unfold decide
  split
  · split
    · exact termsBound_of_none rfl
    · rename_i profile hprofile
      rw [Checked.filter_eq_some, decide_eq_true_eq] at hprofile
      dsimp only
      split
      · exact termsBound_of_none rfl
      · rename_i paidRequest hpaidRequest
        exact ⟨hpaidRequest, hprofile.1, hprofile.2⟩
  · exact termsBound_of_none rfl

theorem FetchBound.challengeTerms {profile : SettlementProfile} {paidRequest : PaidRequest}
    (h : FetchBound platform options auth profile paidRequest) (result : ChallengeResult) :
    TermsBound platform options auth (challengeTerms options auth profile paidRequest result) := by
  intro requirement hrequirement
  obtain ⟨challenge, rfl, -, -, -, -⟩ := selectAndValidateChallenge_selected hrequirement
  refine ⟨profile, paidRequest, challenge, h, rfl, rfl, fun hcodes ↦ ?_⟩
  obtain ⟨other, heq, haccepted⟩ := selectAndValidateChallenge_accepted hrequirement hcodes
  cases heq
  exact haccepted

theorem ensureReceipt_bound (row : InvocationRecord) (replay : Bool) :
    StageBound platform options auth (ensureReceipt options row replay) := by
  unfold ensureReceipt
  split
  · trivial
  · split <;> trivial

theorem resolveExisting_bound (row : InvocationRecord) (fingerprint : String) :
    StageBound platform options auth (resolveExisting options row fingerprint) := by
  unfold resolveExisting
  split
  · trivial
  · split <;> first | exact ensureReceipt_bound _ _ | trivial

/-- A committed reservation pays what its terms allow. -/
theorem TermsBound.afterReserve {decidedAt : ℤ} {terms : ChallengeTerms} {now : ℤ} {result : ReserveResult}
    (h : TermsBound platform options auth terms)
    (heffect : ReserveEffect db db' (reserveInput auth decidedAt terms) (evaluate auth decidedAt terms) now
      result) :
    StageBound platform options auth (afterReserve platform options auth terms (.ok result)) := by
  cases result with
  | existing row => exact resolveExisting_bound row auth.fingerprint
  | grant_conflict grant => trivial
  | denied new => exact ensureReceipt_bound new false
  | reserved new =>
    obtain ⟨existing, hexisting, hretry, hreserved⟩ := heffect
    obtain ⟨pinned, middle, grant, reserved, consumed, amount, maxTotal, -, -, hallowed, -, -, -, -, -,
      rfl, -⟩ := hreserved.effect
    obtain ⟨hrequest, hcodes, requirement, hrequirement, -⟩ := evaluate_allowed hallowed
    obtain ⟨profile, paidRequest, challenge, hfetch, hpaid, hchallenge, haccepted⟩ := h requirement hrequirement
    simp only [Authority.afterReserve, hchallenge, hrequirement, hpaid]
    unfold startPayment
    split
    · exact ⟨⟨profile, hfetch, haccepted hcodes⟩, existing, decidedAt, terms, _, now, rfl,
        fun row hrow ↦ ⟨hretry row hrow, Table.key_of_find? (hexisting.trans hrow)⟩, hrequirement, hrequest⟩
    · trivial

theorem Progress.bound (h : Progress platform options db auth stage event db' stage')
    (hbound : StageBound platform options auth stage)
    (hprepares : ∀ payment serviceAuthorization attempt access,
      stage = .building payment serviceAuthorization → event = .submit attempt access →
      ∃ answers, prepareAttempt platform options.paymentProvider payment.paidRequest payment.challenge
        payment.requirement answers = .ok attempt) : StageBound platform options auth stage' := by
  cases h with
  | resolved known => exact resolveExisting_bound _ _
  | decided now retry => exact decide_bound now
  | challenged result => exact FetchBound.challengeTerms hbound result
  | failed failure => trivial
  | reserved effect => exact TermsBound.afterReserve hbound effect
  | released found released => trivial
  | givenUp reason failure tolerant unsent => trivial
  | budgeted => exact hbound
  | authorized signed => exact ⟨hbound, _, signed⟩
  | recorded found unarmed written =>
    obtain ⟨answers, hanswers⟩ := hprepares _ _ _ _ rfl rfl
    exact ⟨hbound.1, hbound.2, prepareAttempt_ok hanswers⟩
  | rejected => exact hbound.1
  | interrupted message executing => trivial
  | executed settlement result executing => trivial
  | marked marking found written => trivial
  | confirmed found consumed => exact ensureReceipt_bound _ _
  | unrecorded reason => trivial
  | attached signed find stores wrote grants transitions => trivial

end VirtualHaibin.Authority
