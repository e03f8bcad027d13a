import VirtualHaibin.Authority.Denials
import VirtualHaibin.Authority.Refusals
import VirtualHaibin.Authority.Soundness

/-!
# Answers and replays

A caller gets an answer only for the request it sent, and the answer is a function of the stored row.
Once one caller has it, no later call for the invocation can write, sign, pay or answer anything else:
it repeats the answer or fails.  A process without a pending call repeats it at once.
-/

namespace VirtualHaibin.Authority

open Foundation Mandate Payments Evidence

/-- The answer is what the stored row of the caller's own request says. -/
def Db.Answers (db : Db) (options : AuthorityServiceOptions) (auth : AuthenticatedRequest)
    (result : AuthorizeResult) : Prop :=
  ∃ row, db.invocations.find? auth.request.invocationId = some row ∧ row.fingerprint = auth.fingerprint ∧
    row.receipt = some result.receipt ∧ result = resultOf options row result.receipt result.replay

/-- A row is stored for this request. -/
def Db.Recognizes (db : Db) (auth : AuthenticatedRequest) : Prop :=
  ∃ row, db.invocations.find? auth.request.invocationId = some row ∧ row.fingerprint = auth.fingerprint

/-- A stage that only a call with a stored row for its request enters. -/
def Stage.isReserved : Stage → Bool
  | .releasing _ _ _ | .budgeting _ | .authorizing _ | .building _ _ | .rejected _ | .recorded _ _ _
  | .transmitted _ _ _ | .marking _ | .confirming _ _ | .unrecorded _ => true
  | _ => false

/-- What a call knows of the row it answers from. -/
def StageAnswered (options : AuthorityServiceOptions) (db : Db) (auth : AuthenticatedRequest) : Stage → Prop
  | .signing row _ => row.fingerprint = auth.fingerprint
  | .done (.returned result) => db.Answers options auth result
  | stage => stage.isReserved = true → db.Recognizes auth

/-- The same answer, whichever process gives it.  Only the name of a settlement profile that no attempt
recorded is the process's own. -/
structure AuthorizeResult.Repeats (options' options : AuthorityServiceOptions)
    (result' result : AuthorizeResult) : Prop where
  receipt_eq : result'.receipt = result.receipt
  result_eq : result'.result = result.result
  payment_eq : options'.paymentProvider.settlementProfile = options.paymentProvider.settlementProfile →
    result'.payment = result.payment

namespace InvocationRecord.Kept

variable {row row' : InvocationRecord}

theorem fingerprint_eq (h : Kept row row') : row'.fingerprint = row.fingerprint := by
  rw [h.same]

/-- What is answered from a row does not depend on its receipt. -/
theorem resultOf_eq (h : Kept row row') (options : AuthorityServiceOptions)
    (receipt : SignedAuthorizationReceipt) (replay : Bool) :
    resultOf options row' receipt replay = resultOf options row receipt replay := by
  rw [h.same]
  rfl

end InvocationRecord.Kept

section

variable {platform : Platform} {options : ℕ → AuthorityServiceOptions} {processOptions : AuthorityServiceOptions}
  {sys sys' : System} {action : Action} {db db' : Db} {auth : AuthenticatedRequest}

theorem resultOf_repeats (options' options : AuthorityServiceOptions) (row : InvocationRecord)
    (receipt : SignedAuthorizationReceipt) (replay' replay : Bool) :
    (resultOf options' row receipt replay').Repeats options' options (resultOf options row receipt replay) where
  receipt_eq := rfl
  result_eq := rfl
  payment_eq hprofile := by
    change paymentEvidence options' row = paymentEvidence options row
    unfold paymentEvidence
    rw [hprofile]

theorem Db.Answers.later {result : AuthorizeResult} (h : db.Answers processOptions auth result)
    (hdecided : db.ReceiptsDecided) (hkeeps : db.Keeps db') : db'.Answers processOptions auth result := by
  obtain ⟨row, hfind, hfingerprint, hreceipt, hresult⟩ := h
  obtain ⟨row', hfind', hkept⟩ := hkeeps _ row hfind (hdecided _ _ _ hfind hreceipt)
  refine ⟨row', hfind', hkept.fingerprint_eq.trans hfingerprint, hkept.receipt _ hreceipt, ?_⟩
  rw [hkept.resultOf_eq]
  exact hresult

theorem Db.Recognizes.step (h : sys.db.Recognizes auth) (hstep : sys.step platform options action = some sys') :
    sys'.db.Recognizes auth := by
  obtain ⟨row, hfind, hfingerprint⟩ := h
  have hrow := System.step_row hstep auth.request.invocationId
  rw [hfind] at hrow
  obtain ⟨row', hfind', hkept⟩ := hrow.kept
  exact ⟨row', hfind', hkept.trans hfingerprint⟩

theorem StageAnswered.later {stage : Stage} (h : StageAnswered processOptions sys.db auth stage)
    (hdecided : sys.db.ReceiptsDecided) (hstep : sys.step platform options action = some sys') :
    StageAnswered processOptions sys'.db auth stage := by
  cases stage with
  | signing row replay => exact h
  | done outcome =>
    cases outcome with
    | failed failure => exact fun hreserved ↦ by cases hreserved
    | returned result => exact Db.Answers.later h hdecided (System.step_keeps hstep)
  | _ => exact fun hreserved ↦ (h hreserved).step hstep

/-! ## What a call answers from -/

/-- A row read earlier that is for this request is answered from. -/
theorem ensureReceipt_answered {row : InvocationRecord} (hid : row.invocationId = auth.request.invocationId)
    (hsnapshot : db.Snapshot row) (hfingerprint : row.fingerprint = auth.fingerprint) (replay : Bool) :
    StageAnswered processOptions db auth (ensureReceipt processOptions row replay) := by
  unfold ensureReceipt
  split
  · rename_i receipt hreceipt
    obtain ⟨row', hfind, hkept⟩ := hsnapshot.kept (hsnapshot.decided receipt hreceipt)
    refine ⟨row', hid ▸ hfind, hkept.fingerprint_eq.trans hfingerprint, hkept.receipt receipt hreceipt, ?_⟩
    rw [hkept.resultOf_eq]
    rfl
  · split
    · exact hfingerprint
    · exact fun hreserved ↦ by cases hreserved

theorem resolveExisting_answered {row : InvocationRecord} (hid : row.invocationId = auth.request.invocationId)
    (hsnapshot : db.Snapshot row) :
    StageAnswered processOptions db auth (resolveExisting processOptions row auth.fingerprint) := by
  unfold resolveExisting
  split
  · exact fun hreserved ↦ by cases hreserved
  · rename_i hsame
    have hfingerprint : row.fingerprint = auth.fingerprint := not_not.1 hsame
    split
    all_goals first
      | exact ensureReceipt_answered hid hsnapshot hfingerprint true
      | exact fun hreserved ↦ by cases hreserved

theorem decide_answered (decidedAt : ℤ) :
    StageAnswered processOptions db auth (decide platform processOptions auth decidedAt) := by
  unfold decide
  dsimp only
  repeat' split
  all_goals exact fun hreserved ↦ by cases hreserved

theorem afterReserve_answered {decidedAt now : ℤ} {terms : ChallengeTerms} {evaluate : BudgetEvaluator}
    {result : ReserveResult}
    (heffect : ReserveEffect db db' (reserveInput auth decidedAt terms) evaluate now result)
    (hdecided : db'.ReceiptsDecided) :
    StageAnswered processOptions db' auth (afterReserve platform processOptions auth terms (.ok result)) := by
  cases result with
  | existing row =>
    obtain ⟨rfl, hfind, -⟩ := heffect
    exact resolveExisting_answered (Table.key_of_find? hfind) (Db.snapshot_of_find hdecided hfind)
  | grant_conflict grant => exact fun hreserved ↦ by cases hreserved
  | denied new =>
    obtain ⟨existing, hexisting, hretry, hdenied⟩ := heffect
    obtain ⟨pinned, grant, reserved, consumed, reasonCodes, hpinned, -, -, rfl, hwritten⟩ := hdenied.effect
    refine ensureReceipt_answered ?_ (Db.snapshot_of_find hdecided hwritten.wrote.find_self)
      (ReserveInput.written_fingerprint hretry) false
    exact ReserveInput.written_invocationId fun row hrow ↦ Table.key_of_find? (hexisting.trans hrow)
  | reserved new =>
    have hrecognized : db'.Recognizes auth := (reserve_stands heffect).row
    unfold afterReserve startPayment
    dsimp only
    repeat' split
    all_goals exact fun _ ↦ hrecognized

theorem Progress.answered {stage stage' : Stage} {event : CallEvent}
    (h : Progress platform processOptions sys.db auth stage event db' stage')
    (hreceipted : StageReceipted sys.db auth.request.invocationId stage)
    (hstage : StageAnswered processOptions sys.db auth stage) (hdecided : db'.ReceiptsDecided)
    (hrecognizes : sys.db.Recognizes auth → db'.Recognizes auth) :
    StageAnswered processOptions db' auth stage' := by
  cases h with
  | resolved known => exact resolveExisting_answered hreceipted.1 hreceipted.2
  | decided now retry => exact decide_answered _
  | reserved effect => exact afterReserve_answered effect hdecided
  | givenUp reason failure tolerant unsent =>
    refine fun _ ↦ hrecognizes ?_
    cases stage with
    | known row => cases unsent
    | _ => first | exact hstage rfl | cases unsent
  | budgeted => exact fun _ ↦ hrecognizes (hstage rfl)
  | authorized signed => exact fun _ ↦ hrecognizes (hstage rfl)
  | recorded found unarmed written => exact fun _ ↦ hrecognizes (hstage rfl)
  | rejected => exact fun _ ↦ hrecognizes (hstage rfl)
  | interrupted message executing =>
    refine fun _ ↦ hrecognizes ?_
    cases stage with
    | known row => cases executing
    | _ => first | exact hstage rfl | cases executing
  | executed settlement result executing =>
    refine fun _ ↦ hrecognizes ?_
    cases stage with
    | known row => cases executing
    | _ => first | exact hstage rfl | cases executing
  | @confirmed settlement result now row db' entry found consumed =>
    obtain ⟨stored, hstored, hfingerprint⟩ := hstage rfl
    rw [found.find] at hstored
    cases hstored
    have hsnapshot := Db.snapshot_of_find hdecided consumed.wrote.find_self
    refine ensureReceipt_answered ?_ hsnapshot hfingerprint false
    exact found.id_eq
  | unrecorded reason => exact fun _ ↦ hrecognizes (hstage rfl)
  | @attached row found replay receipt stored now db' signed find stores wrote grants transitions =>
    obtain ⟨hid, hrowDecided, hsnapshot⟩ := hreceipted
    obtain ⟨row', hfind, hkept⟩ := hsnapshot.kept hrowDecided
    rw [find] at hfind
    cases hfind
    have hafter := hkept.trans (.attached receipt now found)
    refine ⟨attachedRow receipt now found, ?_, hafter.fingerprint_eq.trans hstage, stores, ?_⟩
    · rw [← hid, ← Table.key_of_find? find, ← attachedRow_invocationId receipt now found]
      exact wrote.find_self
    · rw [hafter.resultOf_eq]
      rfl
  | _ => exact fun hreserved ↦ by cases hreserved

/-- What every call knows of the row it answers from. -/
def Answered (options : ℕ → AuthorityServiceOptions) (sys : System) : Prop :=
  ∀ id call, sys.calls id = some call → StageAnswered (options id.process) sys.db call.auth call.stage

theorem answered_initial : Answered options .initial :=
  fun _ _ h ↦ by cases h

theorem admitted_answered (access : Option ℤ) (pending : Option Pending) :
    StageAnswered processOptions db auth (admitted db access pending auth) := by
  unfold admitted earlyLookup
  repeat' split
  all_goals exact fun hreserved ↦ by cases hreserved

theorem Answered.step (h : Answered options sys) (hreceipted : Receipted platform options sys)
    (hreceipted' : Receipted platform options sys') (hjoined : Joined sys)
    (hstep : sys.step platform options action = some sys') : Answered options sys' := by
  have hbefore : sys.db.ReceiptsDecided :=
    fun _ _ _ hfind hreceipt ↦ (hreceipted.rows _ _ _ hfind hreceipt).1
  have hafter : sys'.db.ReceiptsDecided :=
    fun _ _ _ hfind hreceipt ↦ (hreceipted'.rows _ _ _ hfind hreceipt).1
  intro id call hcall
  have horigin := System.step_call hstep hcall
  generalize hdb : sys'.db = db' at horigin hafter ⊢
  cases horigin with
  | kept found => exact hdb ▸ (h id _ found).later hbefore hstep
  | admitted serving authenticated => exact admitted_answered _ _
  | progressed found progress =>
    exact progress.answered (hreceipted.calls id _ found) (h id _ found) hafter
      fun hrecognized ↦ hdb ▸ hrecognized.step hstep
  | transmitted found => exact fun _ ↦ h id _ found rfl
  | @delivered auth leaderAuth leader outcome found leaderDone =>
    cases outcome with
    | failed failure => exact fun hreserved ↦ by cases hreserved
    | returned result =>
      -- a joined call sent the same request as the call it waits for
      obtain ⟨leading, hleading, hid, hfingerprint⟩ := hjoined.waiting id auth leader found
      rw [leaderDone] at hleading
      cases hleading
      obtain ⟨row, hfind, hrow, hreceipt, hresult⟩ := h _ _ leaderDone
      exact ⟨row, hid ▸ hfind, hrow.trans hfingerprint, hreceipt,
        congrArg (fun result ↦ { result with replay := true }) hresult⟩

theorem Answered.of_run {allowed : System → Action → Prop} {labels : List Action}
    (hrun : Run (System.step platform options) allowed .initial labels sys) : Answered options sys := by
  induction hrun with
  | start => exact answered_initial
  | next hbefore hallowed hstep ih =>
    exact ih.step (Receipted.of_run hbefore) (Receipted.of_run (hbefore.next hallowed hstep))
      (Joined.of_run hbefore) hstep

/-- Two answers from one row. -/
theorem Db.Answers.repeats {options' : AuthorityServiceOptions} {auth' : AuthenticatedRequest}
    {result result' : AuthorizeResult} (h : db.Answers processOptions auth result)
    (h' : db.Answers options' auth' result') (hid : auth'.request.invocationId = auth.request.invocationId) :
    auth'.fingerprint = auth.fingerprint ∧ result'.Repeats options' processOptions result := by
  obtain ⟨row, hfind, hfingerprint, hreceipt, hresult⟩ := h
  obtain ⟨row', hfind', hfingerprint', hreceipt', hresult'⟩ := h'
  rw [hid, hfind] at hfind'
  cases hfind'
  have hsame : result'.receipt = result.receipt := Option.some.inj (hreceipt'.symm.trans hreceipt)
  refine ⟨hfingerprint'.symm.trans hfingerprint, ?_⟩
  rw [hresult', hresult, hsame]
  exact resultOf_repeats _ _ _ _ _ _

/-! ## After the first answer -/

/-- A stage from which a call only repeats the receipt or fails. -/
def Stage.Repeating (receipt : SignedAuthorizationReceipt) : Stage → Prop
  | .known (some row) => row.receipt = some receipt
  | .waiting _ | .done (.failed _) => True
  | .done (.returned result) => result.replay = true
  | _ => False

theorem ensureReceipt_of_receipt {row : InvocationRecord} {receipt : SignedAuthorizationReceipt}
    (h : row.receipt = some receipt) (replay : Bool) : ensureReceipt processOptions row replay =
      .done (.returned (resultOf processOptions row receipt replay)) := by
  rw [ensureReceipt, h]

theorem resolveExisting_repeating {row : InvocationRecord} {receipt : SignedAuthorizationReceipt}
    {fingerprint : String} (h : row.receipt = some receipt) :
    (resolveExisting processOptions row fingerprint).Repeating receipt := by
  unfold resolveExisting
  rw [ensureReceipt_of_receipt h]
  repeat' split
  all_goals first
    | exact trivial
    | rfl

/-- What is answered from a decided row. -/
theorem resolveExisting_decided {row : InvocationRecord} {receipt : SignedAuthorizationReceipt} {fingerprint : String}
    (hdecided : row.isDecided = true) (hreceipt : row.receipt = some receipt) :
    resolveExisting processOptions row fingerprint =
      if row.fingerprint = fingerprint then .done (.returned (resultOf processOptions row receipt true))
      else .refused (invocationConflictError row.invocationId) := by
  unfold resolveExisting
  rw [ensureReceipt_of_receipt hreceipt]
  cases hstate : row.state <;> simp [InvocationRecord.isDecided, hstate] at hdecided ⊢

/-- A call that read a decided row answers in one step. -/
theorem callStep_decided {row : InvocationRecord} {receipt : SignedAuthorizationReceipt} (now : ℤ)
    (hdecided : row.isDecided = true) (hreceipt : row.receipt = some receipt) :
    callStep platform processOptions db auth (.known (some row)) (.resume now) =
      some (db, if row.fingerprint = auth.fingerprint then .done (.returned (resultOf processOptions row receipt true))
        else .refused (invocationConflictError row.invocationId)) := by
  have hfilter : (some row).filter (fun row ↦ !(row.state = .FAILED && row.fingerprint = auth.fingerprint)) =
      some row := by
    cases hstate : row.state <;> simp [InvocationRecord.isDecided, hstate] at hdecided ⊢
  simp only [callStep]
  rw [hfilter]
  exact congrArg (fun stage ↦ some (db, stage)) (resolveExisting_decided hdecided hreceipt)

/-- A call that only repeats writes nothing and goes on repeating. -/
theorem Progress.repeating {stage stage' : Stage} {event : CallEvent} {receipt : SignedAuthorizationReceipt}
    (h : Progress platform processOptions db auth stage event db' stage')
    (hreceipted : StageReceipted db auth.request.invocationId stage) (hrepeating : stage.Repeating receipt) :
    db' = db ∧ stage'.Repeating receipt := by
  cases h with
  | @resolved row event known =>
    exact ⟨rfl, resolveExisting_repeating hrepeating⟩
  | @decided row now retry =>
    cases row with
    | none => cases hrepeating
    | some found =>
      have hdecided := hreceipted.2.decided receipt hrepeating
      simp [InvocationRecord.isDecided, (retry found rfl).1] at hdecided
  | failed failure => exact ⟨rfl, trivial⟩
  | givenUp reason failure tolerant unsent => cases stage <;> first | exact False.elim hrepeating | cases unsent
  | interrupted message executing => cases stage <;> first | exact False.elim hrepeating | cases executing
  | executed settlement result executing => cases stage <;> first | exact False.elim hrepeating | cases executing
  | marked marking found written => cases stage <;> first | exact False.elim hrepeating | cases marking
  | _ => cases hrepeating

/-- A call that arrives for an answered invocation. -/
theorem admitted_repeating {receipt : SignedAuthorizationReceipt} (access : Option ℤ) (pending : Option Pending)
    (h : db.HasReceipt auth.request.invocationId receipt) :
    (admitted db access pending auth).Repeating receipt := by
  obtain ⟨row, hfind, hreceipt⟩ := h
  cases pending with
  | none =>
    cases access with
    | none => trivial
    | some now =>
      have hlookup : earlyLookup db (some now) auth.request.invocationId = .known (some row) := by
        rw [← hfind]
        rfl
      change (earlyLookup db (some now) auth.request.invocationId).Repeating receipt
      rw [hlookup]
      exact hreceipt
  | some entry =>
    change (ite _ _ _ : Stage).Repeating receipt
    split <;> trivial

/-- The calls that arrived after `sys` for the invocation only repeat. -/
def System.Repeating (sys : System) (invocationId : String) (receipt : SignedAuthorizationReceipt)
    (sys' : System) : Prop :=
  ∀ id call, sys.calls id = none → sys'.calls id = some call →
    call.auth.request.invocationId = invocationId → call.stage.Repeating receipt

theorem Db.HasReceipt.step {invocationId : String} {receipt : SignedAuthorizationReceipt}
    (h : sys.db.HasReceipt invocationId receipt) (hdecided : sys.db.ReceiptsDecided)
    (hstep : sys.step platform options action = some sys') : sys'.db.HasReceipt invocationId receipt := by
  obtain ⟨row, hfind, hreceipt⟩ := h
  obtain ⟨row', hfind', hkept⟩ := System.step_keeps hstep invocationId row hfind (hdecided _ _ _ hfind hreceipt)
  exact ⟨row', hfind', hkept.receipt receipt hreceipt⟩

theorem System.Repeating.step {sys'' : System} {invocationId : String} {receipt : SignedAuthorizationReceipt}
    (h : sys.Repeating invocationId receipt sys') (hreceipted : Receipted platform options sys')
    (hreceipt : sys'.db.HasReceipt invocationId receipt)
    (hstep : sys'.step platform options action = some sys'') : sys.Repeating invocationId receipt sys'' := by
  intro id call hunused hcall hid
  have horigin := System.step_call hstep hcall
  generalize sys''.db = db' at horigin
  cases horigin with
  | kept found => exact h id call hunused found hid
  | admitted serving authenticated =>
    subst hid
    exact admitted_repeating _ _ hreceipt
  | progressed found progress =>
    exact (progress.repeating (hreceipted.calls id _ found) (h id _ hunused found hid)).2
  | transmitted found => exact False.elim (h id _ hunused found hid)
  | @delivered auth leaderAuth leader outcome found leaderDone =>
    cases outcome with
    | failed failure => trivial
    | returned result => rfl

/-- From the first answer on, the receipt stays and later calls only repeat. -/
theorem repeating_of_run {allowed : System → Action → Prop} {labels more : List Action} {invocationId : String}
    {receipt : SignedAuthorizationReceipt}
    (hrun : Run (System.step platform options) allowed .initial labels sys)
    (hreceipt : sys.db.HasReceipt invocationId receipt)
    (hmore : Run (System.step platform options) allowed sys more sys') :
    sys'.db.HasReceipt invocationId receipt ∧ sys.Repeating invocationId receipt sys' := by
  induction hmore with
  | start =>
    refine ⟨hreceipt, fun id call hunused hcall ↦ ?_⟩
    rw [hunused] at hcall
    cases hcall
  | next hbefore hallowed hstep ih =>
    obtain ⟨hhas, hrepeating⟩ := ih
    have hreceipted := Receipted.of_run (hrun.append hbefore)
    exact ⟨hhas.step (fun _ _ _ hfind hrow ↦ (hreceipted.rows _ _ _ hfind hrow).1) hstep,
      hrepeating.step hreceipted hhas hstep⟩

/-- Two requests for one payment: they may differ in when and for which audience they were signed. -/
structure AuthenticatedRequest.SamePayment (auth' auth : AuthenticatedRequest) : Prop where
  permit_eq : auth'.permit = auth.permit
  request_eq : auth'.request =
    { auth.request with audience := auth'.request.audience, issuedAt := auth'.request.issuedAt }

/-- Without collisions, equal fingerprints are requests for one payment. -/
theorem Digests.Agree.samePayment {digests : Digests} {auth' : AuthenticatedRequest}
    {options' : AuthorityServiceOptions}
    {now now' : ℤ} (h : digests.Agree auth) (h' : digests.Agree auth')
    (hauth : Authenticated platform processOptions now auth) (hauth' : Authenticated platform options' now' auth')
    (hfingerprint : auth'.fingerprint = auth.fingerprint) : auth'.SamePayment auth := by
  have hcontent : fingerprintInput auth'.permit auth'.request auth'.operationDigest =
      fingerprintInput auth.permit auth.request auth.operationDigest := by
    rw [← h'.content, hfingerprint, h.content]
  simp only [fingerprintInput, FingerprintInput.mk.injEq] at hcontent
  obtain ⟨hpermit, hgrant, hagent, hinvocation, hservice, hcapability, hnetwork, hmint, hrecipient, hamount,
    hoperation⟩ := hcontent
  have hprotocol : auth'.request.protocol = auth.request.protocol :=
    hauth'.request_valid.protocol_eq.trans hauth.request_valid.protocol_eq.symm
  have hgrantId : auth'.request.grantId = auth.request.grantId := by
    rw [hauth'.grantId_eq, hgrant, hauth.grantId_eq]
  have hoperation' : auth'.request.operation = auth.request.operation := by
    rw [← h'.operation, hoperation, h.operation]
  refine ⟨by rw [← h'.permit, hpermit, h.permit], ?_⟩
  exact AuthorizationRequestV2.ext hprotocol rfl hgrantId hpermit hinvocation hservice hcapability hnetwork hmint
    hrecipient hamount rfl hoperation'

/-- An answer is what the stored row of the caller's own request says, and every two answers for one
invocation, from whatever processes and at whatever times, are one answer to requests for one payment. -/
theorem answers_one_payment {digests : Digests} {labels more : List Action}
    (hrun : Run (System.step platform options) (fun _ action ↦ CollisionFree platform options digests action)
      .initial labels sys)
    (hmore : Run (System.step platform options) (fun _ action ↦ CollisionFree platform options digests action)
      sys more sys') {id id' : CallId} {auth auth' : AuthenticatedRequest} {result result' : AuthorizeResult}
    (hcall : sys.calls id = some ⟨auth, .done (.returned result)⟩)
    (hcall' : sys'.calls id' = some ⟨auth', .done (.returned result')⟩)
    (hinvocation : auth'.request.invocationId = auth.request.invocationId) :
    sys'.db.Answers (options id.process) auth result ∧ sys'.db.Answers (options id'.process) auth' result' ∧
      auth'.SamePayment auth ∧ result'.Repeats (options id'.process) (options id.process) result := by
  have hanswer : sys.db.Answers (options id.process) auth result := Answered.of_run hrun id _ hcall
  have hanswer' : sys'.db.Answers (options id'.process) auth' result' :=
    Answered.of_run (hrun.append hmore) id' _ hcall'
  have hreceipted := Receipted.of_run hrun
  have hlater : sys'.db.Answers (options id.process) auth result :=
    hanswer.later (fun _ _ _ hfind hrow ↦ (hreceipted.rows _ _ _ hfind hrow).1) (run_keeps hmore)
  obtain ⟨⟨now, hauth⟩, hagree⟩ := (Accounted.of_run hrun).calls id _ hcall
  obtain ⟨⟨now', hauth'⟩, hagree'⟩ := (Accounted.of_run (hrun.append hmore)).calls id' _ hcall'
  obtain ⟨hfingerprint, hrepeats⟩ := hlater.repeats hanswer' hinvocation
  exact ⟨hlater, hanswer', hagree.samePayment hagree' hauth hauth' hfingerprint, hrepeats⟩

end

namespace Sample

/-- The paid purchase, answered. -/
def answered : System := (pending.sent credential).withCall id auth receiptedDb
  (.done (.returned (resultOf options confirmed receipt false)))

/-- Its call has left the pending map. -/
def idle : System := answered.setPending 0 "invocation" none

/-- A second call for the invocation. -/
def again : CallId := ⟨0, 1⟩

/-- The second call has answered. -/
def repeated : System := (idle.setPending 0 "invocation" (some ⟨fingerprint, 1⟩)).withCall again auth receiptedDb
  (.done (.returned (resultOf options receipted receipt true)))

theorem arrives_again {now : ℤ} (hfrom : 2500 ≤ now) (hto : now ≤ 300000) :
    idle.step platform (fun _ ↦ options) (.arrive again input now (some 5000)) =
      some ((idle.setPending 0 "invocation" (some ⟨fingerprint, 1⟩)).withCall again auth receiptedDb
        (.known (some receipted))) :=
  System.withCall_arrive rfl rfl (authenticated_at hfrom hto) rfl

theorem finishing_step : answered.step platform (fun _ ↦ options) (.finish id) = some idle := by
  rfl

theorem repeated_run : Run (System.step platform fun _ ↦ options)
    (fun _ action ↦ CollisionFree platform (fun _ ↦ options) digests action) answered
    ([.finish id, .arrive again input 4900 (some 5000)] ++ [.call again (.resume 5100)]) repeated := by
  have hhonest : CollisionFree platform (fun _ ↦ options) digests (.arrive again input 4900 (some 5000)) := by
    intro other hother
    rw [authenticated_at (by decide) (by decide)] at hother
    cases hother
    exact ⟨rfl, rfl, rfl⟩
  have hfinished : Run (System.step platform fun _ ↦ options)
      (fun _ action ↦ CollisionFree platform (fun _ ↦ options) digests action) answered [.finish id] idle :=
    Run.start.next trivial finishing_step
  have harrived := hfinished.next hhonest (arrives_again (by decide) (by decide))
  exact run_call harrived trivial (callStep_decided 5100 rfl rfl)

theorem answers_one_payment_repeated : receiptedDb.Answers options auth (resultOf options confirmed receipt false) ∧
    (resultOf options receipted receipt true).Repeats options options (resultOf options confirmed receipt false) := by
  obtain ⟨hanswers, -, -, hrepeats⟩ := answers_one_payment (returned_run.weaken fun _ _ h ↦ h.1) repeated_run
    (System.withCall_calls : answered.calls id = _) System.withCall_calls rfl
  exact ⟨hanswers, hrepeats⟩

end Sample

/-! ## Replays -/

section

variable {platform : Platform} {options : ℕ → AuthorityServiceOptions} {processOptions : AuthorityServiceOptions}
  {sys sys' : System} {action : Action} {db db' : Db} {auth : AuthenticatedRequest}

/-- A step of a call that only repeats leaves the database alone. -/
theorem System.Repeating.step_db {id : CallId} {stage : Stage} {event : CallEvent} {sys'' : System}
    {receipt : SignedAuthorizationReceipt} (hreceipted : Receipted platform options sys')
    (hcall : sys'.calls id = some ⟨auth, stage⟩) (hrepeating : stage.Repeating receipt)
    (hstep : sys'.step platform options (.call id event) = some sys'') : sys''.db = sys'.db := by
  have hdb := System.step_db hstep
  generalize sys''.db = db' at hdb ⊢
  generalize haction : Action.call id event = action at hdb
  cases hdb with
  | kept action => rfl
  | called call progress =>
    cases haction
    rw [hcall] at call
    cases call
    exact (progress.repeating (hreceipted.calls id _ hcall) hrepeating).1
  | recovered starting recover => cases haction
  | reconciled serving progress => cases haction

theorem System.Repeating.step_transmit {id : CallId} {stage : Stage} {receipt : SignedAuthorizationReceipt}
    (hcall : sys'.calls id = some ⟨auth, stage⟩) (hrepeating : stage.Repeating receipt) :
    sys'.step platform options (.transmit id) = none := by
  cases stage with
  | recorded payment serviceAuthorization attempt => exact False.elim hrepeating
  | _ => simp only [System.step, hcall]

/-- Once a call returned an answer, a call that arrives later for the invocation, at whatever process,
writes nothing and transmits nothing, and every answer it returns is the first one marked as a replay,
to the same request. -/
theorem repeated_after_answer {labels more : List Action}
    (hrun : Run (System.step platform options) (fun _ _ ↦ True) .initial labels sys)
    (hmore : Run (System.step platform options) (fun _ _ ↦ True) sys more sys') {id id' : CallId}
    {auth auth' : AuthenticatedRequest} {result : AuthorizeResult} {stage : Stage}
    (hcall : sys.calls id = some ⟨auth, .done (.returned result)⟩) (hunused : sys.calls id' = none)
    (hcall' : sys'.calls id' = some ⟨auth', stage⟩)
    (hinvocation : auth'.request.invocationId = auth.request.invocationId) :
    (∀ event sys'', sys'.step platform options (.call id' event) = some sys'' → sys''.db = sys'.db) ∧
      sys'.step platform options (.transmit id') = none ∧
      ∀ result', stage = .done (.returned result') → result'.replay = true ∧
        auth'.fingerprint = auth.fingerprint ∧
        result'.Repeats (options id'.process) (options id.process) result := by
  have hreceipted := Receipted.of_run hrun
  have hreceipted' := Receipted.of_run (hrun.append hmore)
  have hrepeating : stage.Repeating result.receipt :=
    (repeating_of_run hrun (hreceipted.returned hcall) hmore).2 id' _ hunused hcall' hinvocation
  refine ⟨fun event sys'' hstep ↦ System.Repeating.step_db hreceipted' hcall' hrepeating hstep,
    System.Repeating.step_transmit hcall' hrepeating, fun result' hstage ↦ ?_⟩
  subst hstage
  have hanswer : sys.db.Answers (options id.process) auth result := Answered.of_run hrun id _ hcall
  have hanswer' : sys'.db.Answers (options id'.process) auth' result' :=
    Answered.of_run (hrun.append hmore) id' _ hcall'
  have hlater : sys'.db.Answers (options id.process) auth result :=
    hanswer.later (fun _ _ _ hfind hrow ↦ (hreceipted.rows _ _ _ hfind hrow).1) (run_keeps hmore)
  exact ⟨hrepeating, hlater.repeats hanswer' hinvocation⟩

theorem Sample.repeated_after_answer_paid : Sample.repeated.step Sample.platform (fun _ ↦ Sample.options)
      (.transmit Sample.again) = none ∧
    (resultOf Sample.options Sample.receipted Sample.receipt true).Repeats Sample.options Sample.options
      (resultOf Sample.options Sample.confirmed Sample.receipt false) := by
  obtain ⟨-, htransmit, hanswers⟩ := repeated_after_answer
    (Sample.returned_run.weaken fun _ _ _ ↦ trivial) (Sample.repeated_run.weaken fun _ _ _ ↦ trivial)
    (System.withCall_calls : Sample.answered.calls Sample.id = _) rfl System.withCall_calls rfl
  exact ⟨htransmit, (hanswers _ rfl).2.2⟩

/-- After the first answer, a process that serves and has no call for the invocation answers the next one
from the store alone: the same request gets the first answer again, any other a conflict. -/
theorem replayed_at_once {labels more : List Action}
    (hrun : Run (System.step platform options) (fun _ _ ↦ True) .initial labels sys)
    (hmore : Run (System.step platform options) (fun _ _ ↦ True) sys more sys') {id id' : CallId}
    {auth auth' : AuthenticatedRequest} {result : AuthorizeResult} {input : AuthorizeRequestInput}
    {now opened resumed : ℤ} (hcall : sys.calls id = some ⟨auth, .done (.returned result)⟩)
    (hserving : sys'.processes id'.process = .serving) (hunused : sys'.calls id' = none)
    (hidle : sys'.pending id'.process auth.request.invocationId = none)
    (hauth : authenticate platform (options id'.process) input now = .ok auth')
    (hinvocation : auth'.request.invocationId = auth.request.invocationId) :
    ∃ sys'' outcome, Run (System.step platform options) (fun _ _ ↦ True) sys'
        [.arrive id' input now (some opened), .call id' (.resume resumed)] sys'' ∧
      sys''.db = sys'.db ∧ sys''.credentials = sys'.credentials ∧
      sys''.calls id' = some ⟨auth', .done outcome⟩ ∧
      (auth'.fingerprint = auth.fingerprint → ∃ result', outcome = .returned result' ∧ result'.replay = true ∧
        result'.Repeats (options id'.process) (options id.process) result) ∧
      (auth'.fingerprint ≠ auth.fingerprint →
        outcome = .failed (.refused (invocationConflictError auth.request.invocationId))) := by
  have hreceipted := Receipted.of_run hrun
  have hanswer : sys.db.Answers (options id.process) auth result := Answered.of_run hrun id _ hcall
  obtain ⟨row, hfind, hfingerprint, hreceipt, hresult⟩ :=
    hanswer.later (fun _ _ _ hfind hrow ↦ (hreceipted.rows _ _ _ hfind hrow).1) (run_keeps hmore)
  have hdecided := ((Receipted.of_run (hrun.append hmore)).rows _ _ _ hfind hreceipt).1
  have hid : row.invocationId = auth.request.invocationId := Table.key_of_find? hfind
  have hlookup : earlyLookup sys'.db (some opened) auth'.request.invocationId = .known (some row) := by
    rw [hinvocation, ← hfind]
    rfl
  have harrived := @System.withCall_arrive platform options sys' id' auth' input now (some opened) hserving hunused
    hauth (hinvocation ▸ hidle)
  rw [hlookup] at harrived
  have hanswered : Run (System.step platform options) (fun _ _ ↦ True) sys'
      [.arrive id' input now (some opened), .call id' (.resume resumed)] _ :=
    run_call (Run.start.next trivial harrived) trivial (callStep_decided resumed hdecided hreceipt)
  by_cases hsame : row.fingerprint = auth'.fingerprint
  · rw [if_pos hsame] at hanswered
    refine ⟨_, _, hanswered, rfl, rfl, System.withCall_calls, fun _ ↦ ⟨_, rfl, rfl, ?_⟩,
      fun hother ↦ absurd (hsame.symm.trans hfingerprint) hother⟩
    rw [hresult]
    exact resultOf_repeats _ _ _ _ _ _
  · rw [if_neg hsame] at hanswered
    refine ⟨_, _, hanswered, rfl, rfl, System.withCall_calls,
      fun hequal ↦ absurd (hfingerprint.trans hequal.symm) hsame, fun _ ↦ ?_⟩
    rw [hid]

end

theorem Sample.replayed_at_once_paid : ∃ (sys'' : System) (result' : AuthorizeResult),
    sys''.db = Sample.receiptedDb ∧
    sys''.calls Sample.again = some ⟨Sample.auth, .done (.returned result')⟩ ∧ result'.replay = true := by
  have hidle : Sample.idle.pending Sample.again.process Sample.auth.request.invocationId = none := rfl
  obtain ⟨sys'', outcome, -, hdb, -, hcall, hsame, -⟩ := @replayed_at_once _ _ _ _ _ _
    (Sample.returned_run.weaken fun _ _ _ ↦ trivial) (Run.start.next trivial Sample.finishing_step) Sample.id
    Sample.again Sample.auth Sample.auth _ Sample.input 4900 5000 5100 System.withCall_calls rfl rfl hidle
    (Sample.authenticated_at (by decide) (by decide)) rfl
  obtain ⟨result', rfl, hreplay, -⟩ := hsame rfl
  exact ⟨sys'', result', hdb, hcall, hreplay⟩

end VirtualHaibin.Authority
