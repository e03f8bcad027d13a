import VirtualHaibin.Authority.Alone

/-!
# Payment authorization

Every credential that leaves pays for what a human signed and an agent asked for, from the outbound
request of the trusted registry, after its attempt was recorded on a reservation of that amount.
The result holds for any number of processes over one database, in any order of their steps.
-/

namespace VirtualHaibin.Authority

open Foundation Mandate Payments Policy Evidence

/-- What must hold of a payment under a permit and a signed request. -/
structure PaymentAllowed (platform : Platform) (options : AuthorityServiceOptions)
    (permit : SignedPurchasePermitV2) (request : AuthorizationRequestV2) (signature : AgentRequestSignature)
    (paidRequest : PaidRequest) (requirement : PaymentRequirement) : Prop where
  permit_verifies : verifyPurchasePermitV2 platform permit.toJson = .ok permit
  issuer_entitled : permit.issuer = options.issuerEntitlement.issuer
  network_entitled : permit.network ∈ options.issuerEntitlement.settlementProfiles
  request_signed : verifyAuthorizationRequestSignature platform request signature.toJson
    permit.authorizedAgent = true
  audience_eq : request.audience = options.audience
  grantId_eq : request.grantId = permit.grantId
  permitDigest_eq : request.permitDigest = computePermitDigest platform permit
  operation_eq : request.operation = permit.operation
  service_eq : request.service = permit.service
  capability_eq : request.capability = permit.capability
  network_eq : request.network = permit.network
  mint_eq : request.mint = permit.mint
  recipient_eq : request.recipient = permit.recipient
  amount_pos : 0 < Decimal.amount request.amountAtomic
  amount_le : Decimal.amount request.amountAtomic ≤ Decimal.amount permit.maxPerCallAtomic
  asset_paid : requirement.asset = permit.mint
  payTo_paid : requirement.payTo = permit.recipient
  amount_paid : requirement.amountAtomic = request.amountAtomic
  request_paid : ∃ resource, options.paidServices (paidServiceKey permit.service permit.capability) = some resource ∧
    platform.pathname resource.url = some permit.operation.resource ∧
    paidRequest = createPaidRequest platform resource.url (operationRequestBody platform permit.operation)

section

variable {platform : Platform} {options : AuthorityServiceOptions} {permit : SignedPurchasePermitV2}
  {request : AuthorizationRequestV2} {signature : AgentRequestSignature} {paidRequest : PaidRequest}
  {requirement : PaymentRequirement}

/-- The body that is paid for is the one of the permit's operation. -/
theorem PaymentAllowed.body_eq
    (h : PaymentAllowed platform options permit request signature paidRequest requirement) :
    paidRequest.body = operationRequestBody platform permit.operation := by
  obtain ⟨resource, -, -, hpaid⟩ := h.request_paid
  rw [hpaid]
  rfl

/-- So is the resource. -/
theorem PaymentAllowed.path_eq
    (h : PaymentAllowed platform options permit request signature paidRequest requirement) :
    platform.pathname paidRequest.url = some permit.operation.resource := by
  obtain ⟨resource, -, hpath, hpaid⟩ := h.request_paid
  rw [hpaid, ← hpath]
  rfl

theorem PaymentAllowed.sha256_eq
    (h : PaymentAllowed platform options permit request signature paidRequest requirement) :
    paidRequest.sha256 = computePaidRequestDigest platform paidRequest.url paidRequest.body := by
  obtain ⟨resource, -, -, hpaid⟩ := h.request_paid
  rw [hpaid]
  rfl

end

/-- A request without objections asks for what its permit allows. -/
theorem requestCodes_eq_nil {auth : AuthenticatedRequest} {decidedAt : ℤ} {committed : String}
    (h : requestCodes auth decidedAt committed = []) :
    auth.request.operation = auth.permit.operation ∧ auth.request.service = auth.permit.service ∧
      auth.request.capability = auth.permit.capability ∧ auth.request.network = auth.permit.network ∧
      auth.request.mint = auth.permit.mint ∧ auth.request.recipient = auth.permit.recipient ∧
      0 < Decimal.amount auth.request.amountAtomic ∧
      Decimal.amount auth.request.amountAtomic ≤ Decimal.amount auth.permit.maxPerCallAtomic := by
  simp only [requestCodes, policyCodes, List.append_eq_nil_iff, reasonCodes_eq_nil,
    evaluateExactOperation_eq_nil, evaluatePurchasePermit_eq_nil] at h
  obtain ⟨hoperation, -, hservice, hcapability, hnetwork, hmint, hrecipient, -, -, hpos, hle, -⟩ := h
  exact ⟨hoperation, hservice, hcapability, hnetwork, hmint, hrecipient, hpos, hle⟩

/-- The outbound request is the registry's, for the operation of the request. -/
theorem outboundRequest_eq_some {platform : Platform} {options : AuthorityServiceOptions}
    {request : AuthorizationRequestV2} {paidRequest : PaidRequest}
    (h : outboundRequest platform options request = some paidRequest) :
    ∃ resource, options.paidServices (paidServiceKey request.service request.capability) = some resource ∧
      platform.pathname resource.url = some request.operation.resource ∧
      paidRequest = createPaidRequest platform resource.url
        (operationRequestBody platform request.operation) := by
  obtain ⟨resource, hresource, hbuilt⟩ := Option.bind_eq_some_iff.1 h
  obtain ⟨-, hpath, heq⟩ := buildPaidRequest_eq_some.1 hbuilt
  exact ⟨resource, hresource, hpath, heq⟩

theorem PaymentBound.allowed {platform : Platform} {options : AuthorityServiceOptions}
    {auth : AuthenticatedRequest} {payment : Payment} {now : ℤ}
    (hauth : Authenticated platform options now auth) (h : PaymentBound platform options auth payment) :
    PaymentAllowed platform options auth.permit auth.request auth.agentSignature payment.paidRequest
      payment.requirement := by
  obtain ⟨profile, hfetch, haccepted⟩ := h.accepted
  obtain ⟨existing, decidedAt, terms, committed, reservedAt, -, -, -, hcodes⟩ := h.reserved
  obtain ⟨hoperation, hservice, hcapability, hnetwork, hmint, hrecipient, hpos, hle⟩ :=
    requestCodes_eq_nil hcodes
  obtain ⟨resource, hresource, hpath, hpaid⟩ := outboundRequest_eq_some hfetch.paidRequest_eq
  rw [hservice, hcapability] at hresource
  rw [hoperation] at hpath hpaid
  exact {
    permit_verifies := verifyPurchasePermitV2_toJson hauth.permit_verified
    issuer_entitled := hauth.issuer_eq
    network_entitled := hauth.network_mem
    request_signed := hauth.signed
    audience_eq := hauth.audience_eq
    grantId_eq := hauth.grantId_eq
    permitDigest_eq := hauth.permitDigest_eq
    operation_eq := hoperation
    service_eq := hservice
    capability_eq := hcapability
    network_eq := hnetwork
    mint_eq := hmint
    recipient_eq := hrecipient
    amount_pos := hpos
    amount_le := hle
    asset_paid := haccepted.asset_eq.trans hmint
    payTo_paid := haccepted.payTo_eq.trans hrecipient
    amount_paid := haccepted.amount_eq
    request_paid := ⟨resource, hresource, hpath, hpaid⟩ }

variable {platform : Platform} {options : ℕ → AuthorityServiceOptions} {digests : Digests}
  {sys sys' : System} {action : Action}

/-- The row and the grant of a request are there and stand for it. -/
structure Db.Stands (db : Db) (auth : AuthenticatedRequest) : Prop where
  row : ∃ row, db.invocations.find? auth.request.invocationId = some row ∧ row.fingerprint = auth.fingerprint
  grant : ∃ grant, db.grants.find? (auth.permit.issuer, auth.permit.grantId) = some grant ∧
    grant.permitDigest = auth.request.permitDigest ∧ grant.maxTotalAtomic = auth.permit.maxTotalAtomic

theorem RowStep.kept {invocationId : String} {row : InvocationRecord} {new : Option InvocationRecord}
    (h : RowStep platform options sys invocationId (some row) new) :
    ∃ row', new = some row' ∧ row'.fingerprint = row.fingerprint := by
  generalize hold : some row = old at h
  cases h with
  | same => exact ⟨row, hold.symm, rfl⟩
  | updated terms change =>
    cases hold
    exact ⟨_, rfl, terms.fingerprint⟩
  | decided =>
    cases hold
    exact ⟨_, rfl, rfl⟩

/-- Rows and grants stay, and stay bound to their request. -/
theorem Db.Stands.step {auth : AuthenticatedRequest} (h : sys.db.Stands auth)
    (hstep : sys.step platform options action = some sys') : sys'.db.Stands auth := by
  obtain ⟨row, hfind, hfingerprint⟩ := h.row
  obtain ⟨grant, hgrant, hdigest, hmaxTotal⟩ := h.grant
  have hrow := System.step_row hstep auth.request.invocationId
  rw [hfind] at hrow
  obtain ⟨row', hfind', hkept⟩ := hrow.kept
  obtain ⟨grant', hgrant', hdigest', hmaxTotal'⟩ := System.step_pinsKept hstep _ _ hgrant
  exact ⟨⟨row', hfind', hkept.trans hfingerprint⟩,
    ⟨grant', hgrant', hdigest'.trans hdigest, hmaxTotal'.trans hmaxTotal⟩⟩

theorem RowContent.of_sameTerms {row row' : InvocationRecord} (h : RowContent digests row)
    (hterms : SameTerms row row') : RowContent digests row' := by
  have hkey : row'.grantKey = row.grantKey := by
    rw [InvocationRecord.grantKey, hterms.issuer, hterms.grantId, InvocationRecord.grantKey]
  exact ⟨by rw [hterms.amountAtomic, hterms.fingerprint, h.amount_eq],
    by rw [hkey, hterms.fingerprint, h.grantKey_eq]⟩

/-- A decision writes the content of its request, also over a failed row. -/
theorem RowContent.written {auth : AuthenticatedRequest} {existing : Option InvocationRecord}
    {decidedAt : ℤ} {terms : ChallengeTerms} {state : InvocationState} {reasonCodes : List String} {now : ℤ}
    (hagree : digests.Agree auth)
    (hretry : ∀ row, existing = some row → retryingFailed (reserveInput auth decidedAt terms) row = true)
    (hexisting : ∀ row, existing = some row → RowContent digests row) :
    RowContent digests ((reserveInput auth decidedAt terms).written existing state reasonCodes now) := by
  cases existing with
  | none => exact ⟨hagree.amount.symm, hagree.grantOf_eq.symm⟩
  | some row =>
    have hfingerprint : row.fingerprint = auth.fingerprint := (retryingFailed_iff.1 (hretry row rfl)).2
    refine ⟨?_, (hexisting row rfl).grantKey_eq⟩
    change auth.request.amountAtomic = (digests.contentOf row.fingerprint).amountAtomic
    rw [hfingerprint, hagree.amount]

/-- Every row carries the content of its fingerprint. -/
def RowsBound (digests : Digests) (db : Db) : Prop :=
  ∀ invocationId row, db.invocations.find? invocationId = some row → RowContent digests row

theorem RowsBound.step (h : RowsBound digests sys.db)
    (hagree : ∀ id call, sys.calls id = some call → digests.Agree call.auth)
    (hstep : sys.step platform options action = some sys') : RowsBound digests sys'.db := by
  intro invocationId row hfind
  have hrow := System.step_row hstep invocationId
  rw [hfind] at hrow
  generalize hold : sys.db.invocations.find? invocationId = old at hrow
  generalize hnew : some row = new at hrow
  cases hrow with
  | same =>
    subst hnew
    exact h invocationId row hold
  | updated terms change =>
    cases hnew
    exact (h invocationId _ hold).of_sameTerms terms
  | decided call invocationId_eq retry =>
    cases hnew
    exact RowContent.written (hagree _ _ call) retry fun row hrow ↦ h invocationId row (hold.trans hrow)

/-! ## Calls -/

/-- Requests arrive without digest collisions, and providers submit what they prepared. -/
def Honoured (platform : Platform) (options : ℕ → AuthorityServiceOptions) (digests : Digests)
    (sys : System) (action : Action) : Prop :=
  CollisionFree platform options digests action ∧ Prepares platform options sys action

/-- What is known of a live call. -/
structure CallBound (platform : Platform) (options : AuthorityServiceOptions) (digests : Digests) (db : Db)
    (call : Call) : Prop where
  authenticated : ∃ now, Authenticated platform options now call.auth
  agree : digests.Agree call.auth
  stage : StageBound platform options call.auth call.stage
  stands : call.stage.isUnsent = true → db.Stands call.auth

theorem resolveExisting_isUnsent (options : AuthorityServiceOptions) (row : InvocationRecord)
    (fingerprint : String) : (resolveExisting options row fingerprint).isUnsent = false := by
  unfold resolveExisting ensureReceipt
  repeat' split
  all_goals rfl

theorem ensureReceipt_isUnsent (options : AuthorityServiceOptions) (row : InvocationRecord) (replay : Bool) :
    (ensureReceipt options row replay).isUnsent = false := by
  unfold ensureReceipt
  repeat' split
  all_goals rfl

theorem decide_isUnsent (options : AuthorityServiceOptions) (auth : AuthenticatedRequest) (decidedAt : ℤ) :
    (decide platform options auth decidedAt).isUnsent = false := by
  unfold decide
  dsimp only
  repeat' split
  all_goals rfl

/-- A committed reservation stands for its request. -/
theorem reserve_stands {db db' : Db} {auth : AuthenticatedRequest} {decidedAt : ℤ} {terms : ChallengeTerms}
    {evaluate : BudgetEvaluator} {now : ℤ} {new : InvocationRecord}
    (h : ReserveEffect db db' (reserveInput auth decidedAt terms) evaluate now (.reserved new)) :
    db'.Stands auth := by
  obtain ⟨existing, hexisting, hretry, hreserved⟩ := h
  obtain ⟨pinned, middle, grant, reserved, consumed, amount, maxTotal, hpinned, -, -, -, -, -, -, hposted,
    rfl, hwritten⟩ := hreserved.effect
  have hid : ((reserveInput auth decidedAt terms).written existing .RESERVED [] now).invocationId =
      auth.request.invocationId :=
    ReserveInput.written_invocationId fun row hrow ↦ Table.key_of_find? (hexisting.trans hrow)
  obtain ⟨grant', hgrant', hdigest, hmaxTotal⟩ :=
    (hposted.pinsKept.trans (.of_eq hwritten.grants)) _ _ hpinned.found
  exact ⟨⟨_, hid ▸ hwritten.wrote.find_self, ReserveInput.written_fingerprint hretry⟩,
    ⟨grant', hgrant', hdigest.trans hpinned.terms_eq.1, hmaxTotal.trans hpinned.terms_eq.2⟩⟩

/-- A call comes to hold a reservation when one commits. -/
theorem Progress.stands {db db' : Db} {options : AuthorityServiceOptions} {auth : AuthenticatedRequest}
    {stage stage' : Stage} {event : CallEvent} (h : Progress platform options db auth stage event db' stage')
    (hunsent : stage'.isUnsent = true) :
    stage.isUnsent = true ∨ db'.Stands auth := by
  cases h with
  | resolved known => simp [resolveExisting_isUnsent] at hunsent
  | decided now retry => simp [decide_isUnsent] at hunsent
  | @reserved decidedAt terms now result db' effect =>
    cases result with
    | existing row => simp [afterReserve, resolveExisting_isUnsent] at hunsent
    | grant_conflict grant => cases hunsent
    | denied row => simp [afterReserve, ensureReceipt_isUnsent] at hunsent
    | reserved row => exact .inr (reserve_stands effect)
  | givenUp reason failure tolerant unsent => exact .inl unsent
  | budgeted => exact .inl rfl
  | authorized signed => exact .inl rfl
  | recorded found unarmed written => exact .inl rfl
  | rejected => exact .inl rfl
  | confirmed found consumed => simp [ensureReceipt_isUnsent] at hunsent
  | _ => cases hunsent

theorem admitted_bound (options : AuthorityServiceOptions) (db : Db) (access : Option ℤ)
    (pending : Option Pending) (auth : AuthenticatedRequest) :
    StageBound platform options auth (admitted db access pending auth) := by
  unfold admitted earlyLookup
  repeat' split
  all_goals trivial

theorem admitted_isUnsent (db : Db) (access : Option ℤ) (pending : Option Pending)
    (auth : AuthenticatedRequest) : (admitted db access pending auth).isUnsent = false := by
  unfold admitted earlyLookup
  repeat' split
  all_goals rfl

/-- What is known of a call outlives the steps of others. -/
theorem CallBound.kept {processOptions : AuthorityServiceOptions} {call : Call}
    (h : CallBound platform processOptions digests sys.db call)
    (hstep : sys.step platform options action = some sys') :
    CallBound platform processOptions digests sys'.db call :=
  ⟨h.authenticated, h.agree, h.stage, fun hunsent ↦ (h.stands hunsent).step hstep⟩

theorem CallBound.origin {id : CallId} {call : Call}
    (hbefore : ∀ call, sys.calls id = some call → CallBound platform (options id.process) digests sys.db call)
    (hallowed : Honoured platform options digests sys action)
    (hstep : sys.step platform options action = some sys')
    (h : CallOrigin platform options sys id action sys'.db call) :
    CallBound platform (options id.process) digests sys'.db call := by
  generalize hdb : sys'.db = db' at h
  cases h with
  | kept found => exact hdb ▸ (hbefore call found).kept hstep
  | admitted serving authenticated =>
    refine ⟨⟨_, authenticate_ok authenticated⟩, hallowed.1 _ authenticated, admitted_bound _ _ _ _ _,
      fun hunsent ↦ ?_⟩
    rw [admitted_isUnsent] at hunsent
    cases hunsent
  | progressed found progress =>
    have hcall := hbefore _ found
    refine ⟨hcall.authenticated, hcall.agree, progress.bound hcall.stage ?_, fun hunsent ↦ ?_⟩
    · rintro payment serviceAuthorization attempt access rfl rfl
      exact hallowed.2 _ _ _ found
    · rcases progress.stands hunsent with hbegan | hstands
      · exact hdb ▸ (hcall.stands hbegan).step hstep
      · exact hstands
  | transmitted found =>
    have hcall := hbefore _ found
    exact ⟨hcall.authenticated, hcall.agree, hcall.stage, fun hunsent ↦ nomatch hunsent⟩
  | delivered found leaderDone =>
    have hcall := hbefore _ found
    exact ⟨hcall.authenticated, hcall.agree, trivial, fun hunsent ↦ nomatch hunsent⟩

/-- The call a credential left, as it was when it left. -/
def Credential.sender (credential : Credential) : Call :=
  ⟨credential.auth, .recorded credential.payment credential.serviceAuthorization credential.attempt⟩

/-- The invariant of a run without collisions. -/
structure Bound (platform : Platform) (options : ℕ → AuthorityServiceOptions) (digests : Digests)
    (sys : System) : Prop where
  calls : ∀ id call, sys.calls id = some call →
    CallBound platform (options id.process) digests sys.db call
  rows : RowsBound digests sys.db
  credentials : ∀ credential ∈ sys.credentials,
    CallBound platform (options credential.call.process) digests sys.db credential.sender

theorem bound_initial : Bound platform options digests .initial where
  calls _ _ h := nomatch h
  rows _ _ h := nomatch h
  credentials _ h := nomatch h

theorem Bound.step (h : Bound platform options digests sys)
    (hallowed : Honoured platform options digests sys action)
    (hstep : sys.step platform options action = some sys') : Bound platform options digests sys' where
  calls id _ hcall := .origin (h.calls id) hallowed hstep (System.step_call hstep hcall)
  rows := h.rows.step (fun id call hcall ↦ (h.calls id call hcall).agree) hstep
  credentials credential hmem := by
    rcases System.step_credentials hstep with heq | ⟨id, auth, payment, serviceAuthorization, attempt, -, hcall, heq⟩
    · rw [heq] at hmem
      exact (h.credentials credential hmem).kept hstep
    · rw [heq, List.mem_append, List.mem_singleton] at hmem
      rcases hmem with hmem | rfl
      · exact (h.credentials credential hmem).kept hstep
      · exact (h.calls id _ hcall).kept hstep

theorem Bound.of_run {labels : List Action}
    (hrun : Run (System.step platform options) (Honoured platform options digests) .initial labels sys) :
    Bound platform options digests sys :=
  hrun.invariant bound_initial fun _ _ _ hbound hallowed hstep ↦ hbound.step hallowed hstep

/-! ## Recorded attempts -/

/-- The invocation is reserved for exactly the requested amount under the permit's grant, with this
attempt on record. -/
def RecordedFor (auth : AuthenticatedRequest) (attempt : PaymentAttempt) (sys : System) : Prop :=
  ∃ row, sys.db.invocations.find? auth.request.invocationId = some row ∧ row.state = .RESERVED ∧
    row.amountAtomic = auth.request.amountAtomic ∧ row.grantKey = (auth.permit.issuer, auth.permit.grantId) ∧
    row.paymentAttempt = some attempt

/-- The run passed a state in which the attempt was on record. -/
def WasRecorded (platform : Platform) (options : ℕ → AuthorityServiceOptions) (digests : Digests)
    (labels : List Action) (auth : AuthenticatedRequest) (attempt : PaymentAttempt) : Prop :=
  Run.Passed (System.step platform options) (Honoured platform options digests) .initial labels
    (RecordedFor auth attempt)

/-- A call that may transmit was on record, and so was every credential before it left. -/
structure OnRecord (platform : Platform) (options : ℕ → AuthorityServiceOptions) (digests : Digests)
    (labels : List Action) (sys : System) : Prop where
  calls : ∀ id auth payment serviceAuthorization attempt,
    sys.calls id = some ⟨auth, .recorded payment serviceAuthorization attempt⟩ →
      WasRecorded platform options digests labels auth attempt
  credentials : ∀ credential ∈ sys.credentials, ∃ before after,
    labels = before ++ .transmit credential.call :: after ∧
      WasRecorded platform options digests before credential.auth credential.attempt

theorem onRecord_initial : OnRecord platform options digests [] .initial where
  calls _ _ _ _ _ h := nomatch h
  credentials _ h := nomatch h

/-- The stages from which a call can enter `recorded`. -/
theorem Progress.enters_recorded {db db' : Db} {options : AuthorityServiceOptions}
    {auth : AuthenticatedRequest} {stage : Stage} {event : CallEvent} {payment : Payment}
    {serviceAuthorization : SignedServiceAuthorizationV1} {attempt : PaymentAttempt}
    (h : Progress platform options db auth stage event db' (.recorded payment serviceAuthorization attempt)) :
    ∃ row now entry, stage = .building payment serviceAuthorization ∧
      Found db auth.request.invocationId .RESERVED row ∧
      RowWritten db db' (some row) (attemptedRow attempt serviceAuthorization now row) entry := by
  generalize hstage : Stage.recorded payment serviceAuthorization attempt = stage' at h
  cases h with
  | recorded found unarmed written =>
    cases hstage
    exact ⟨_, _, _, rfl, found, written⟩
  | resolved known =>
    unfold resolveExisting ensureReceipt at hstage
    repeat' split at hstage
    all_goals cases hstage
  | decided now retry =>
    unfold decide at hstage
    dsimp only at hstage
    repeat' split at hstage
    all_goals cases hstage
  | reserved effect =>
    unfold afterReserve resolveExisting ensureReceipt startPayment at hstage
    repeat' split at hstage
    all_goals cases hstage
  | confirmed found consumed =>
    unfold ensureReceipt at hstage
    repeat' split at hstage
    all_goals cases hstage
  | _ => cases hstage

theorem recordedFor_of_written {auth : AuthenticatedRequest} {attempt : PaymentAttempt}
    {serviceAuthorization : SignedServiceAuthorizationV1} {row : InvocationRecord} {now : ℤ}
    {entry : TransitionRecord} (hfound : Found sys.db auth.request.invocationId .RESERVED row)
    (hwritten : RowWritten sys.db sys'.db (some row) (attemptedRow attempt serviceAuthorization now row) entry)
    (hcontent : RowContent digests row) (hagree : digests.Agree auth)
    (hfingerprint : row.fingerprint = auth.fingerprint) : RecordedFor auth attempt sys' := by
  have hkey : (attemptedRow attempt serviceAuthorization now row).invocationId = auth.request.invocationId :=
    hfound.id_eq
  refine ⟨attemptedRow attempt serviceAuthorization now row, hkey ▸ hwritten.wrote.find_self,
    hfound.state_eq, ?_, ?_, rfl⟩
  · exact hcontent.amount_eq.trans (by rw [hfingerprint, hagree.amount])
  · exact hcontent.grantKey_eq.trans (by rw [hfingerprint, hagree.grantOf_eq])

theorem OnRecord.step {labels : List Action} (h : OnRecord platform options digests labels sys)
    (hrun : Run (System.step platform options) (Honoured platform options digests) .initial labels sys)
    (hallowed : Honoured platform options digests sys action)
    (hstep : sys.step platform options action = some sys') :
    OnRecord platform options digests (labels ++ [action]) sys' := by
  have hbound := Bound.of_run hrun
  constructor
  · intro id auth payment serviceAuthorization attempt hcall
    have horigin := System.step_call hstep hcall
    generalize hdb : sys'.db = db' at horigin
    generalize hafter : (⟨auth, .recorded payment serviceAuthorization attempt⟩ : Call) = after at horigin
    have hunsent : after.stage.isUnsent = true := by rw [← hafter]; rfl
    cases horigin with
    | kept found =>
      subst hafter
      exact (h.calls _ _ _ _ _ found).later [action]
    | progressed found progress =>
      cases hafter
      obtain ⟨row, now, entry, rfl, hfound, hwritten⟩ := progress.enters_recorded
      have hcallBound := hbound.calls _ _ found
      obtain ⟨row', hfind, hfingerprint⟩ := (hcallBound.stands rfl).row
      rw [hfound.find, Option.some.injEq] at hfind
      subst hfind
      exact Run.passed_here (hrun.next hallowed hstep) (recordedFor_of_written hfound (hdb ▸ hwritten)
        (hbound.rows _ _ hfound.find) hcallBound.agree hfingerprint)
    | admitted serving authenticated =>
      rw [admitted_isUnsent] at hunsent
      cases hunsent
    | transmitted found => cases hafter
    | delivered found leaderDone => cases hafter
  · intro credential hmem
    rcases System.step_credentials hstep with heq | ⟨id, auth, payment, serviceAuthorization, attempt, rfl, hcall, heq⟩
    · rw [heq] at hmem
      obtain ⟨before, after, rfl, hrecorded⟩ := h.credentials credential hmem
      exact ⟨before, after ++ [action], by simp, hrecorded⟩
    · rw [heq, List.mem_append, List.mem_singleton] at hmem
      rcases hmem with hmem | rfl
      · obtain ⟨before, after, rfl, hrecorded⟩ := h.credentials credential hmem
        exact ⟨before, after ++ [.transmit id], by simp, hrecorded⟩
      · exact ⟨labels, [], rfl, h.calls _ _ _ _ _ hcall⟩

/-- Every transmitted credential pays what a verified permit and a signed request allow, and its
attempt was recorded on a reservation of exactly that amount before it left. -/
theorem authorized_of_transmitted {labels : List Action}
    (hrun : Run (System.step platform options) (Honoured platform options digests) .initial labels sys)
    (credential : Credential) (hmem : credential ∈ sys.credentials) :
    ∃ permit request signature, request.invocationId = credential.invocationId ∧
      PaymentAllowed platform (options credential.call.process) permit request signature
        credential.payment.paidRequest credential.payment.requirement ∧
      Prepared platform (options credential.call.process).paymentProvider credential.payment.paidRequest
        credential.payment.challenge credential.payment.requirement credential.attempt ∧
      ∃ before after, labels = before ++ .transmit credential.call :: after ∧
        Run.Passed (System.step platform options) (Honoured platform options digests) .initial before fun earlier ↦
          ∃ row, earlier.db.invocations.find? credential.invocationId = some row ∧ row.state = .RESERVED ∧
            row.amountAtomic = request.amountAtomic ∧ row.grantKey = (permit.issuer, permit.grantId) ∧
            row.paymentAttempt = some credential.attempt := by
  have honRecord : OnRecord platform options digests labels sys :=
    hrun.invariant_run onRecord_initial fun _ _ _ _ hbefore honRecord hallowed hstep ↦
      honRecord.step hbefore hallowed hstep
  obtain ⟨before, after, hlabels, hrecorded⟩ := honRecord.credentials credential hmem
  have hsender := (Bound.of_run hrun).credentials credential hmem
  obtain ⟨now, hauth⟩ := hsender.authenticated
  obtain ⟨hpayment, -, hprepared⟩ := hsender.stage
  exact ⟨credential.auth.permit, credential.auth.request, credential.auth.agentSignature, rfl,
    hpayment.allowed hauth, hprepared, before, after, hlabels, hrecorded⟩

theorem authorized_of_transmitted_sample :
    ∃ permit request signature, request.invocationId = "invocation" ∧
      PaymentAllowed Sample.platform Sample.options permit request signature Sample.paidRequest
        Sample.requirement ∧
      Prepared Sample.platform Sample.options.paymentProvider Sample.paidRequest Sample.challenge
        Sample.requirement Sample.attempt := by
  obtain ⟨permit, request, signature, hinvocation, hallowed, hprepared, -⟩ :=
    authorized_of_transmitted Sample.transmitted_run Sample.credential (by simp [System.withCall,
      System.setCall, System.sent])
  exact ⟨permit, request, signature, hinvocation, hallowed, hprepared⟩

end VirtualHaibin.Authority
