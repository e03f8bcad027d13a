import VirtualHaibin.Authority.Receipts
import VirtualHaibin.Authority.Verdict

/-!
# Denials

A denied row has its reasons and nothing of a payment, from its decision on.  A denial that is returned
is built from such a row, whichever process returns it and however often, since the receipt that is
stored for a row states what the row states.
-/

namespace VirtualHaibin.Authority

open Foundation Mandate Payments Evidence Policy

/-- Terms that were read from a challenge, which is fetched only for a request that stands on its own. -/
structure ChallengeTerms.Fetched (terms : ChallengeTerms) (auth : AuthenticatedRequest) (decidedAt : ℤ) :
    Prop where
  allowed : requestAllowed auth decidedAt = true
  read : ∃ options profile paidRequest result, terms = challengeTerms options auth profile paidRequest result

/-- The codes with which fetched terms were refused. -/
def RefusesTerms (reasonCodes : List String) : Prop :=
  ∃ auth decidedAt terms committed, ChallengeTerms.Fetched terms auth decidedAt ∧
    evaluate auth decidedAt terms committed = some (.refused reasonCodes)

/-- The budget can only be objected to in its amounts. -/
theorem requestCodes_of_allowed {auth : AuthenticatedRequest} {decidedAt : ℤ}
    (hallowed : requestAllowed auth decidedAt = true) {committed : String} {code : ReasonCode}
    (hcode : code ∈ requestCodes auth decidedAt committed) :
    code ∈ [.INVALID_AMOUNT, .PER_CALL_LIMIT_EXCEEDED, ReasonCode.TOTAL_BUDGET_EXCEEDED] := by
  rw [requestAllowed, decide_eq_true_eq] at hallowed
  simp only [requestCodes, policyCodes, List.append_eq_nil_iff, reasonCodes_eq_nil] at hallowed
  obtain ⟨hoperation, hpermit⟩ := hallowed
  rw [evaluatePurchasePermit, List.append_eq_nil_iff] at hpermit
  -- neither the operation nor the terms of the permit read what was committed
  have hterms : ∀ request : PurchaseRequestV1, termDenials auth.permit.toUnsignedPurchasePermitV2 request = [] →
      termDenials auth.permit.toUnsignedPurchasePermitV2 { request with alreadySpentAtomic := committed } = [] :=
    fun _ h ↦ h
  simp only [requestCodes, policyCodes, Decision.reasonCodes, hoperation, evaluatePurchasePermit,
    hterms _ hpermit.1, List.map_nil, List.nil_append, List.mem_map] at hcode
  obtain ⟨denial, hdenial, rfl⟩ := hcode
  exact amountDenials_codes denial hdenial

/-- Whoever refuses fetched terms objects to the challenge or to the amounts. -/
theorem RefusesTerms.objection {reasonCodes : List String} (h : RefusesTerms reasonCodes) :
    ∃ code : ReasonCode, code.name ∈ reasonCodes ∧
      (code ∈ [.INVALID_AMOUNT, .PER_CALL_LIMIT_EXCEEDED, ReasonCode.TOTAL_BUDGET_EXCEEDED] ∨
        ∃ result profile paidRequest request payerAddress,
          code ∈ (selectAndValidateChallenge result profile paidRequest request payerAddress).reasonCodes) := by
  obtain ⟨auth, decidedAt, terms, committed, ⟨hallowed, options, profile, paidRequest, result, hread⟩, hrefused⟩ := h
  have hcodes : reasonCodes = (decisionCodes auth decidedAt terms committed).map ReasonCode.name :=
    reasonCodes_of_refused hrefused
  have hmem : ∀ code ∈ requestCodes auth decidedAt committed ++ terms.challengeCodes, code.name ∈ reasonCodes :=
    fun code hcode ↦ hcodes ▸ List.mem_map_of_mem (mem_decisionCodes hcode)
  cases hchallenge : terms.challengeCodes with
  | cons code rest =>
    have hcode : code ∈ terms.challengeCodes := hchallenge ▸ List.mem_cons_self
    refine ⟨code, hmem code (List.mem_append_right _ hcode), .inr ⟨result, profile, paidRequest, auth.request,
      options.paymentProvider.payerAddress, ?_⟩⟩
    rw [hread] at hcode
    exact hcode
  | nil =>
    cases hrequest : requestCodes auth decidedAt committed with
    | cons code rest =>
      have hcode : code ∈ requestCodes auth decidedAt committed := hrequest ▸ List.mem_cons_self
      exact ⟨code, hmem code (List.mem_append_left _ hcode), .inl (requestCodes_of_allowed hallowed hcode)⟩
    | nil =>
      -- accepted terms repeat the signed ones, so nothing is left to object to
      have hselected : (selectAndValidateChallenge result profile paidRequest auth.request
          options.paymentProvider.payerAddress).reasonCodes = [] := by
        rw [hread] at hchallenge
        exact hchallenge
      obtain ⟨challenge, requirement, -, -, -, hrequirement, -⟩ := selectAndValidateChallenge_first hselected
      obtain ⟨_, -, haccepted⟩ := selectAndValidateChallenge_accepted hrequirement hselected
      have hempty : decisionCodes auth decidedAt terms committed = [] := by
        have hterms : terms.requirement = some requirement := by
          rw [hread]
          exact hrequirement
        have hpolicy : policyCodes auth decidedAt requirement.asset requirement.payTo requirement.amountAtomic
            committed = [] := by
          rw [haccepted.asset_eq, haccepted.payTo_eq, haccepted.amount_eq]
          exact hrequest
        simp [decisionCodes, hterms, hrequest, hchallenge, hpolicy]
      rw [hempty, List.map_nil] at hcodes
      exact absurd hcodes (evaluate_refused hrefused).1

/-- A denial: it has its reasons, nothing was paid, and terms that were obtained are among the reasons. -/
structure InvocationRecord.Refusal (row : InvocationRecord) : Prop where
  state_eq : row.state = .DENIED
  reasonCodes_ne : row.reasonCodes ≠ []
  refuses : row.paymentRequirement.isSome = true → RefusesTerms row.reasonCodes
  paymentTransactionId_eq : row.paymentTransactionId = none
  settlement_eq : row.settlement = none
  result_eq : row.result = none

/-- A row that is denied is a denial. -/
def InvocationRecord.RefusesUnpaid (row : InvocationRecord) : Prop := row.state = .DENIED → row.Refusal

theorem refusesUnpaid_of_state {row : InvocationRecord} {state : InvocationState} (hstate : row.state = state)
    (hne : state ≠ .DENIED) : row.RefusesUnpaid :=
  fun hdenied ↦ absurd (hstate.symm.trans hdenied) hne

theorem InvocationRecord.RefusesUnpaid.attached {row : InvocationRecord} (h : row.RefusesUnpaid)
    (receipt : SignedAuthorizationReceipt) (now : ℤ) : (attachedRow receipt now row).RefusesUnpaid := by
  unfold attachedRow
  split
  · intro hdenied
    obtain ⟨hstate, hcodes, hrefuses, htransaction, hsettlement, hresult⟩ := h hdenied
    exact ⟨hstate, hcodes, hrefuses, htransaction, hsettlement, hresult⟩
  · exact h

theorem recoveredRow_refusesUnpaid (reason : String) (now : ℤ) (row : InvocationRecord) :
    (recoveredRow reason now row).RefusesUnpaid := by
  unfold recoveredRow
  split
  · exact refusesUnpaid_of_state rfl nofun
  · exact refusesUnpaid_of_state rfl nofun

theorem reconciledRow_refusesUnpaid (row : InvocationRecord) (outcome : ReconciliationOutcome) (now : ℤ) :
    (reconciledRow row outcome now).RefusesUnpaid := by
  cases outcome with
  | confirmed settlement => exact refusesUnpaid_of_state rfl nofun
  | failed reason => exact refusesUnpaid_of_state rfl nofun

/-- What a refused decision writes, also over a failed row. -/
theorem written_refusal (input : ReserveInput) (existing : Option InvocationRecord) {reasonCodes : List String}
    (hcodes : reasonCodes ≠ []) (hrefuses : input.paymentRequirement.isSome = true → RefusesTerms reasonCodes)
    (now : ℤ) : (input.written existing .DENIED reasonCodes now).Refusal := by
  have hstored : (input.paymentRequirement.map PaymentRequirement.stored).isSome = true → RefusesTerms reasonCodes :=
    fun hsome ↦ hrefuses (Option.isSome_map.symm.trans hsome)
  cases existing with
  | none => exact ⟨rfl, hcodes, hstored, rfl, rfl, rfl⟩
  | some row => exact ⟨rfl, hcodes, hstored, rfl, rfl, rfl⟩

/-! ## Rows -/

def Db.RefusesUnpaid (db : Db) : Prop :=
  ∀ invocationId row, db.invocations.find? invocationId = some row → row.RefusesUnpaid

variable {platform : Platform} {db db' : Db}

theorem Db.RefusesUnpaid.wrote (h : db.RefusesUnpaid) {old : Option InvocationRecord} {new : InvocationRecord}
    (hwrote : Table.Wrote db.invocations db'.invocations old new) (hnew : new.RefusesUnpaid) :
    db'.RefusesUnpaid := by
  intro invocationId row hfind
  rw [hwrote.find] at hfind
  split at hfind
  · cases hfind
    exact hnew
  · exact h invocationId row hfind

theorem Db.RefusesUnpaid.reserve (h : db.RefusesUnpaid) {auth : AuthenticatedRequest} {decidedAt now : ℤ}
    {terms : ChallengeTerms} {result : ReserveResult}
    (hterms : terms.requirement.isSome = true → terms.Fetched auth decidedAt)
    (heffect : ReserveEffect db db' (reserveInput auth decidedAt terms) (evaluate auth decidedAt terms) now result) :
    db'.RefusesUnpaid := by
  cases result with
  | existing row =>
    obtain ⟨rfl, -⟩ := heffect
    exact h
  | grant_conflict grant =>
    obtain ⟨rfl, -⟩ := heffect
    exact h
  | denied new =>
    obtain ⟨existing, -, -, hdenied⟩ := heffect
    obtain ⟨pinned, grant, reserved, consumed, reasonCodes, hpinned, -, hrefused, rfl, hrow⟩ := hdenied.effect
    have hwrote := hrow.wrote
    rw [hpinned.invocations] at hwrote
    exact h.wrote hwrote fun _ ↦ written_refusal _ existing (evaluate_refused hrefused).1
      (fun hsome ↦ ⟨auth, decidedAt, terms, _, hterms hsome, hrefused⟩) now
  | reserved new =>
    obtain ⟨existing, -, -, hreserved⟩ := heffect
    obtain ⟨pinned, middle, grant, reserved, consumed, amount, maxTotal, hpinned, -, -, -, -, -, -,
      hposted, rfl, hrow⟩ := hreserved.effect
    have hwrote := hrow.wrote
    rw [hposted.invocations, hpinned.invocations] at hwrote
    exact h.wrote hwrote (refusesUnpaid_of_state written_state nofun)

/-- What a call that has not reserved yet knows of the terms. -/
def StageTerms (auth : AuthenticatedRequest) : Stage → Prop
  | .fetching decidedAt _ _ => requestAllowed auth decidedAt = true
  | .reserving decidedAt terms => terms.requirement.isSome = true → terms.Fetched auth decidedAt
  | _ => True

theorem Progress.refusesUnpaid {processOptions : AuthorityServiceOptions} {auth : AuthenticatedRequest}
    {stage stage' : Stage} {event : CallEvent}
    (h : Progress platform processOptions db auth stage event db' stage') (hstage : StageTerms auth stage)
    (hdb : db.RefusesUnpaid) : db'.RefusesUnpaid := by
  cases h with
  | reserved effect => exact hdb.reserve hstage effect
  | released found released => exact hdb.wrote released.wrote (refusesUnpaid_of_state rfl nofun)
  | recorded found unarmed written =>
    exact hdb.wrote written.wrote (refusesUnpaid_of_state found.state_eq nofun)
  | marked marking found written => exact hdb.wrote written.wrote (refusesUnpaid_of_state rfl nofun)
  | confirmed found consumed => exact hdb.wrote consumed.wrote (refusesUnpaid_of_state rfl nofun)
  | attached signed find stores wrote grants transitions =>
    exact hdb.wrote wrote ((hdb _ _ find).attached _ _)
  | _ => exact hdb

variable {options : ℕ → AuthorityServiceOptions} {sys sys' : System} {action : Action}

theorem System.step_refusesUnpaid (h : sys.step platform options action = some sys')
    (hcalls : ∀ id call, sys.calls id = some call → StageTerms call.auth call.stage)
    (hdb : sys.db.RefusesUnpaid) : sys'.db.RefusesUnpaid := by
  have hstep := System.step_db h
  generalize sys'.db = after at hstep ⊢
  cases hstep with
  | kept action => exact hdb
  | called call progress => exact progress.refusesUnpaid (hcalls _ _ call) hdb
  | recovered starting recover =>
    intro invocationId row hfind
    rw [recoverInterruptedInvocations_find recover, Option.map_eq_some_iff] at hfind
    obtain ⟨before, hbefore, rfl⟩ := hfind
    split
    · exact recoveredRow_refusesUnpaid _ _ before
    · exact hdb invocationId before hbefore
  | reconciled serving progress =>
    generalize sys.runs _ = run at progress
    cases progress with
    | resolved found reconciled =>
      exact hdb.wrote (reconciled_wrote reconciled) (reconciledRow_refusesUnpaid _ _ _)
    | attached signed find stores wrote grants transitions =>
      exact hdb.wrote wrote ((hdb _ _ find).attached _ _)
    | _ => exact hdb

/-! ## Returned results -/

/-- A returned result and the decided row it was built from. -/
structure BuiltFrom (platform : Platform) (options : AuthorityServiceOptions) (row : InvocationRecord)
    (result : AuthorizeResult) : Prop where
  decided : row.isDecided = true
  refuses : row.RefusesUnpaid
  truthful : Truthful platform row result.receipt
  result_eq : result = resultOf options row result.receipt result.replay

/-- What a call knows of the row it answers from. -/
def StageBuilt (platform : Platform) (options : AuthorityServiceOptions) : Stage → Prop
  | .known (some row) | .signing row _ => row.RefusesUnpaid
  | .done (.returned result) => ∃ row, BuiltFrom platform options row result
  | _ => True

theorem ensureReceipt_terms (options : AuthorityServiceOptions) (auth : AuthenticatedRequest) (row : InvocationRecord)
    (replay : Bool) : StageTerms auth (ensureReceipt options row replay) := by
  unfold ensureReceipt
  split
  · trivial
  · split <;> trivial

theorem resolveExisting_terms (options : AuthorityServiceOptions) (auth : AuthenticatedRequest) (row : InvocationRecord)
    (fingerprint : String) : StageTerms auth (resolveExisting options row fingerprint) := by
  unfold resolveExisting
  split
  · trivial
  · split
    all_goals first
      | exact ensureReceipt_terms options auth row true
      | trivial

/-- A decision without a challenge has no requirement. -/
theorem decide_terms (options : AuthorityServiceOptions) (auth : AuthenticatedRequest) (decidedAt : ℤ) :
    StageTerms auth (decide platform options auth decidedAt) := by
  unfold decide
  split
  · rename_i hallowed
    dsimp only
    split
    · exact nofun
    · split
      · exact nofun
      · exact hallowed
  · exact nofun

theorem afterReserve_terms (options : AuthorityServiceOptions) (auth : AuthenticatedRequest) (terms : ChallengeTerms)
    (result : ReserveResult) : StageTerms auth (afterReserve platform options auth terms (.ok result)) := by
  cases result with
  | existing row => exact resolveExisting_terms options auth row _
  | grant_conflict grant => trivial
  | denied row => exact ensureReceipt_terms options auth row _
  | reserved row =>
    unfold afterReserve startPayment
    dsimp only
    repeat' split
    all_goals trivial

theorem Progress.terms {processOptions : AuthorityServiceOptions} {auth : AuthenticatedRequest}
    {stage stage' : Stage} {event : CallEvent} (h : Progress platform processOptions db auth stage event db' stage')
    (hstage : StageTerms auth stage) : StageTerms auth stage' := by
  cases h with
  | resolved known => exact resolveExisting_terms processOptions auth _ _
  | decided now retry => exact decide_terms processOptions auth now
  | challenged result => exact fun _ ↦ ⟨hstage, processOptions, _, _, result, rfl⟩
  | reserved effect => exact afterReserve_terms processOptions auth _ _
  | confirmed found consumed => exact ensureReceipt_terms processOptions auth _ _
  | _ => trivial

/-- Every stored receipt was signed for its row. -/
def Db.ReceiptsSigned (platform : Platform) (options : ℕ → AuthorityServiceOptions) (db : Db) : Prop :=
  ∀ invocationId row receipt, db.invocations.find? invocationId = some row → row.receipt = some receipt →
    ∃ process, signReceipt platform (options process) row = some receipt

/-- A stored receipt is truthful of the row as it was read earlier. -/
theorem Db.ReceiptsSigned.truthful (h : db.ReceiptsSigned platform options) {invocationId : String}
    {row row' : InvocationRecord} {receipt : SignedAuthorizationReceipt}
    (hfind : db.invocations.find? invocationId = some row') (hkept : row.Kept row')
    (hreceipt : row'.receipt = some receipt) : Truthful platform row receipt := by
  obtain ⟨process, hsigned⟩ := h invocationId row' receipt hfind hreceipt
  rw [hkept.signReceipt_eq] at hsigned
  exact signReceipt_truthful hsigned

theorem ensureReceipt_built (hsigned : db.ReceiptsSigned platform options) {row : InvocationRecord}
    (hsnapshot : db.Snapshot row) (hrow : row.RefusesUnpaid) (processOptions : AuthorityServiceOptions)
    (replay : Bool) : StageBuilt platform processOptions (ensureReceipt processOptions row replay) := by
  unfold ensureReceipt
  split
  · rename_i receipt hreceipt
    have hdecided := hsnapshot.decided receipt hreceipt
    obtain ⟨row', hfind, hkept⟩ := hsnapshot.kept hdecided
    exact ⟨row, hdecided, hrow, hsigned.truthful hfind hkept (hkept.receipt receipt hreceipt), rfl⟩
  · split
    · exact hrow
    · trivial

theorem resolveExisting_built (hsigned : db.ReceiptsSigned platform options) {row : InvocationRecord}
    (hsnapshot : db.Snapshot row) (hrow : row.RefusesUnpaid) (processOptions : AuthorityServiceOptions)
    (fingerprint : String) :
    StageBuilt platform processOptions (resolveExisting processOptions row fingerprint) := by
  unfold resolveExisting
  split
  · trivial
  · split
    all_goals first
      | exact ensureReceipt_built hsigned hsnapshot hrow processOptions true
      | trivial

theorem decide_built (processOptions : AuthorityServiceOptions) (auth : AuthenticatedRequest) (decidedAt : ℤ) :
    StageBuilt platform processOptions (decide platform processOptions auth decidedAt) := by
  unfold decide
  dsimp only
  repeat' split
  all_goals trivial

theorem afterReserve_built (hsigned : db'.ReceiptsSigned platform options) (hdecided : db'.ReceiptsDecided)
    (hrefuses : db'.RefusesUnpaid) {processOptions : AuthorityServiceOptions} {auth : AuthenticatedRequest}
    {decidedAt now : ℤ} {terms : ChallengeTerms} {evaluate : BudgetEvaluator} {result : ReserveResult}
    (heffect : ReserveEffect db db' (reserveInput auth decidedAt terms) evaluate now result) :
    StageBuilt platform processOptions (afterReserve platform processOptions auth terms (.ok result)) := by
  cases result with
  | existing row =>
    obtain ⟨rfl, hfind, -⟩ := heffect
    exact resolveExisting_built hsigned (Db.snapshot_of_find hdecided hfind) (hrefuses _ _ hfind) _ _
  | grant_conflict grant => trivial
  | denied new =>
    obtain ⟨existing, hexisting, hretry, hdenied⟩ := heffect
    obtain ⟨pinned, grant, reserved, consumed, reasonCodes, hpinned, -, -, rfl, hwritten⟩ := hdenied.effect
    have hfind := hwritten.wrote.find_self
    exact ensureReceipt_built hsigned (Db.snapshot_of_find hdecided hfind) (hrefuses _ _ hfind) _ _
  | reserved new =>
    unfold afterReserve startPayment
    dsimp only
    repeat' split
    all_goals trivial

theorem Progress.built {processOptions : AuthorityServiceOptions} {auth : AuthenticatedRequest}
    {stage stage' : Stage} {event : CallEvent}
    (h : Progress platform processOptions db auth stage event db' stage')
    (hreceipted : StageReceipted db auth.request.invocationId stage)
    (hstage : StageBuilt platform processOptions stage) (hsigned : db'.ReceiptsSigned platform options)
    (hdecided : db'.ReceiptsDecided) (hrefuses : db'.RefusesUnpaid) :
    StageBuilt platform processOptions stage' := by
  cases h with
  | resolved known => exact resolveExisting_built hsigned hreceipted.2 hstage _ _
  | decided now retry => exact decide_built _ _ _
  | reserved effect => exact afterReserve_built hsigned hdecided hrefuses effect
  | confirmed found consumed =>
    have hfind := consumed.wrote.find_self
    exact ensureReceipt_built hsigned (Db.snapshot_of_find hdecided hfind) (hrefuses _ _ hfind) _ _
  | @attached row found replay receipt stored now db' signed find stores wrote grants transitions =>
    obtain ⟨-, hrowDecided, hsnapshot⟩ := hreceipted
    obtain ⟨row', hfind, hkept⟩ := hsnapshot.kept hrowDecided
    rw [find] at hfind
    cases hfind
    exact ⟨row, hrowDecided, hstage,
      hsigned.truthful wrote.find_self (hkept.trans (.attached receipt now found)) stores, rfl⟩
  | _ => trivial

structure Built (platform : Platform) (options : ℕ → AuthorityServiceOptions) (sys : System) : Prop where
  rows : sys.db.RefusesUnpaid
  terms : ∀ id call, sys.calls id = some call → StageTerms call.auth call.stage
  calls : ∀ id call, sys.calls id = some call → StageBuilt platform (options id.process) call.stage

theorem built_initial : Built platform options .initial where
  rows _ _ h := nomatch h
  terms _ _ h := nomatch h
  calls _ _ h := nomatch h

theorem admitted_terms (db : Db) (access : Option ℤ) (pending : Option Pending) (auth : AuthenticatedRequest) :
    StageTerms auth (admitted db access pending auth) := by
  unfold admitted
  split
  · unfold earlyLookup
    split <;> trivial
  · split <;> trivial

theorem System.step_terms (hstep : sys.step platform options action = some sys')
    (hcalls : ∀ id call, sys.calls id = some call → StageTerms call.auth call.stage) :
    ∀ id call, sys'.calls id = some call → StageTerms call.auth call.stage := by
  intro id call hcall
  have horigin := System.step_call hstep hcall
  generalize sys'.db = after at horigin
  cases horigin with
  | kept found => exact hcalls id _ found
  | admitted serving authenticated => exact admitted_terms _ _ _ _
  | progressed found progress => exact progress.terms (hcalls id _ found)
  | transmitted found => trivial
  | delivered found leaderDone => trivial

theorem admitted_built (hrefuses : db.RefusesUnpaid) (access : Option ℤ) (pending : Option Pending)
    (auth : AuthenticatedRequest) (processOptions : AuthorityServiceOptions) :
    StageBuilt platform processOptions (admitted db access pending auth) := by
  unfold admitted
  split
  · unfold earlyLookup
    split
    · rename_i row hlookup
      cases access with
      | none => cases hlookup
      | some now =>
        cases hlookup
        cases hfind : db.invocations.find? auth.request.invocationId with
        | none => trivial
        | some found => exact hrefuses _ found hfind
    · trivial
  · split <;> trivial

theorem Built.step (h : Built platform options sys) (hreceipted : Receipted platform options sys)
    (hreceipted' : Receipted platform options sys') (hstep : sys.step platform options action = some sys') :
    Built platform options sys' := by
  have hrows := System.step_refusesUnpaid hstep h.terms h.rows
  have hsigned : sys'.db.ReceiptsSigned platform options :=
    fun invocationId row receipt hfind hreceipt ↦ (hreceipted'.rows invocationId row receipt hfind hreceipt).2
  have hdecided : sys'.db.ReceiptsDecided :=
    fun invocationId row receipt hfind hreceipt ↦ (hreceipted'.rows invocationId row receipt hfind hreceipt).1
  refine ⟨hrows, System.step_terms hstep h.terms, fun id call hcall ↦ ?_⟩
  have horigin := System.step_call hstep hcall
  generalize sys'.db = after at horigin hrows hsigned hdecided
  cases horigin with
  | kept found => exact h.calls id _ found
  | admitted serving authenticated => exact admitted_built h.rows _ _ _ _
  | progressed found progress =>
    exact progress.built (hreceipted.calls id _ found) (h.calls id _ found) hsigned hdecided hrows
  | transmitted found => trivial
  | @delivered auth leaderAuth leader outcome found leaderDone =>
    have hleader := h.calls _ _ leaderDone
    cases outcome with
    | failed failure => trivial
    | returned result =>
      obtain ⟨row, hbuilt⟩ := hleader
      exact ⟨row, hbuilt.decided, hbuilt.refuses, hbuilt.truthful,
        congrArg (fun result ↦ { result with replay := true }) hbuilt.result_eq⟩

theorem Built.of_run {allowed : System → Action → Prop} {labels : List Action}
    (hrun : Run (System.step platform options) allowed .initial labels sys) : Built platform options sys := by
  induction hrun with
  | start => exact built_initial
  | next hbefore hallowed hstep ih =>
    exact ih.step (Receipted.of_run hbefore) (Receipted.of_run (hbefore.next hallowed hstep)) hstep

/-- A denial as it is returned. -/
structure AuthorizeResult.Denied (result : AuthorizeResult) : Prop where
  decision_eq : result.receipt.decision = "DENY"
  reasonCodes_ne : result.receipt.reasonCodes ≠ []
  refuses : result.payment.isSome = true → RefusesTerms result.receipt.reasonCodes
  transactionId_eq : ∀ payment ∈ result.payment, payment.transactionId = none
  result_eq : result.result = .null

/-- What is built from a denial. -/
theorem BuiltFrom.denied {processOptions : AuthorityServiceOptions} {row : InvocationRecord}
    {result : AuthorizeResult} (h : BuiltFrom platform processOptions row result)
    (hdeny : result.receipt.decision = "DENY") : result.Denied := by
  have hstate : row.state = .DENIED := by
    have hallow : row.state ≠ .CONFIRMED := by
      rw [ne_eq, ← h.truthful.allow_iff, hdeny]
      decide
    simpa [InvocationRecord.isDecided, hallow] using h.decided
  obtain ⟨-, hcodes, hrefuses, htransaction, hsettlement, hresult⟩ := h.refuses hstate
  refine ⟨hdeny, h.truthful.reasonCodes ▸ hcodes, fun hpayment ↦ ?_, fun payment hpayment ↦ ?_, ?_⟩
  · rw [h.result_eq] at hpayment
    exact h.truthful.reasonCodes ▸ hrefuses (Option.isSome_map.symm.trans hpayment)
  · rw [h.result_eq] at hpayment
    obtain ⟨requirement, -, rfl⟩ := Option.map_eq_some_iff.1 hpayment
    rw [hsettlement, htransaction]
    rfl
  · rw [h.result_eq]
    change Json.orNull PaidResult.json row.result = .null
    rw [hresult]
    rfl

/-- Over every run, a denial that a call returned names its reasons and carries nothing of a payment. -/
theorem denied_of_run {allowed : System → Action → Prop} {labels : List Action}
    (hrun : Run (System.step platform options) allowed .initial labels sys) {id : CallId}
    {auth : AuthenticatedRequest} {result : AuthorizeResult}
    (hcall : sys.calls id = some ⟨auth, .done (.returned result)⟩)
    (hdeny : result.receipt.decision = "DENY") : result.Denied := by
  obtain ⟨row, hbuilt⟩ := (Built.of_run hrun).calls id _ hcall
  exact hbuilt.denied hdeny

end VirtualHaibin.Authority
