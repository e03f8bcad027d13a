import VirtualHaibin.Authority.Issuing
import VirtualHaibin.Service.Honest

/-!
# Authorities and the service

The authority processes and the paid service, in any interleaving of their steps, with a log of the
service authorizations signed so far.  A signature that verifies under the pinned key pins an entry of
the log; everything else about a request is the sender's choice.
-/

namespace VirtualHaibin.Service

open Foundation Foundation.Checked Foundation.Schema Mandate Payments Evidence
open Authority (AuthenticatedRequest AuthorityServiceOptions Digests Honoured Issued IssuedBound Payment PaymentAllowed
  PaymentBound WasReserved issuedBy)

structure Exchange where
  authority : Authority.System
  issued : List Issued
  service : ServiceApp

def Exchange.initial : Exchange := ⟨.initial, [], .initial⟩

inductive ExchangeAction where
  | authority (action : Authority.Action)
  | service (event : Event)

/-- The actions of the authorities. -/
def ExchangeAction.authority? : ExchangeAction → Option Authority.Action
  | .authority action => some action
  | .service _ => none

def Exchange.step (platform : Platform) (options : ℕ → AuthorityServiceOptions) (parser : BodyParser)
    (serviceOptions : ServiceAppOptions) (exchange : Exchange) (action : ExchangeAction) : Option Exchange :=
  match action with
  | .authority action =>
    (exchange.authority.step platform options action).map fun authority ↦
      { exchange with authority, issued := exchange.issued ++ issuedBy action authority }
  | .service event =>
    (exchange.service.step platform parser serviceOptions event).map fun service ↦ { exchange with service }

/-- A header that verifies under the pinned key carries an authorization of the log, and what was
received under its URL has its digest only if it is the request it was signed for. -/
structure Unforged (platform : Platform) (pinned : String) (issued : List Issued) (request : HttpRequest) :
    Prop where
  signed : ∀ header authorization, request.header SERVICE_AUTHORIZATION_HEADER = some header →
    decodeServiceAuthorizationHeader platform header = .ok authorization →
    verifyServiceAuthorizationSignature platform authorization pinned = true →
    ∃ entry ∈ issued, entry.authorization.toUnsignedServiceAuthorizationV1 =
      authorization.toUnsignedServiceAuthorizationV1
  hashed : ∀ entry ∈ issued, ∀ body, TextDecoder.encode body = request.rawBody →
    computePaidRequestDigest platform entry.payment.paidRequest.url body =
      computePaidRequestDigest platform entry.payment.paidRequest.url entry.payment.paidRequest.body →
    body = entry.payment.paidRequest.body

/-- The authorities run without collisions, and the service reads one pinned key. -/
def Pinned (platform : Platform) (options : ℕ → AuthorityServiceOptions) (digests : Digests) (pinned : String)
    (exchange : Exchange) : ExchangeAction → Prop
  | .authority action => Honoured platform options digests exchange.authority action
  | .service (.post _ request key _) =>
    (∀ other, key = some other → other = pinned) ∧ Unforged platform pinned exchange.issued request
  | .service _ => True

/-- The request arrived at this reading of the clock. -/
def ArrivedAt (labels : List ExchangeAction) (id : ℕ) (request : HttpRequest) (now : ℤ) : Prop :=
  ∃ key, ExchangeAction.service (.post id request key now) ∈ labels

/-- A paid request that was let through, with the entry of the log it was let through for. -/
structure Admission (platform : Platform) (parser : BodyParser) (serviceOptions : ServiceAppOptions) (pinned : String)
    (labels : List ExchangeAction) (issued : List Issued) (id : ℕ) (request : HttpRequest) (report : ReportRequest)
    (check : ServiceAuthorizationCheck) : Prop where
  parsed : ∃ body, parser request = .ok body ∧ parseReportRequest body = some report
  checked : ∃ now, ArrivedAt labels id request now ∧
    (authorizationContext serviceOptions request pinned now).Admits platform check
  entered : ∃ entry ∈ issued, entry.authorization.toUnsignedServiceAuthorizationV1 =
    check.authorization.toUnsignedServiceAuthorizationV1 ∧
    ∀ body, TextDecoder.encode body = request.rawBody →
      computePaidRequestDigest platform entry.payment.paidRequest.url body =
        computePaidRequestDigest platform entry.payment.paidRequest.url entry.payment.paidRequest.body →
      body = entry.payment.paidRequest.body

/-- Before and inside the gate, a paid request was let through. -/
def StageAdmitted (platform : Platform) (parser : BodyParser) (serviceOptions : ServiceAppOptions) (pinned : String)
    (labels : List ExchangeAction) (issued : List Issued) (id : ℕ) (request : HttpRequest) : Stage → Prop
  | .checked report check => Admission platform parser serviceOptions pinned labels issued id request report check
  | .gated _ report check => request.isPaid = true → ∃ checked, check = some checked ∧
    Admission platform parser serviceOptions pinned labels issued id request report checked
  | _ => True

section

variable {platform : Platform} {options : ℕ → AuthorityServiceOptions} {digests : Digests} {parser : BodyParser}
  {serviceOptions : ServiceAppOptions} {pinned : String} {issued more : List Issued} {id : ℕ} {request : HttpRequest}
  {exchange exchange' : Exchange} {action : ExchangeAction} {labels : List ExchangeAction}

theorem StageAdmitted.later {stage : Stage}
    (h : StageAdmitted platform parser serviceOptions pinned labels issued id request stage)
    (moreLabels : List ExchangeAction) :
    StageAdmitted platform parser serviceOptions pinned (labels ++ moreLabels) (issued ++ more) id request stage := by
  have hlater : ∀ {report check},
      Admission platform parser serviceOptions pinned labels issued id request report check →
      Admission platform parser serviceOptions pinned (labels ++ moreLabels) (issued ++ more) id request
        report check := by
    intro report check hadmission
    obtain ⟨entry, hmem, hentry⟩ := hadmission.entered
    obtain ⟨now, ⟨key, harrived⟩, hadmits⟩ := hadmission.checked
    exact ⟨hadmission.parsed, ⟨now, ⟨key, List.mem_append_left _ harrived⟩, hadmits⟩, entry,
      List.mem_append_left more hmem, hentry⟩
  cases stage with
  | checked report check => exact hlater h
  | gated scenario report check =>
    intro hpaid
    obtain ⟨checked, hcheck, hadmission⟩ := h hpaid
    exact ⟨checked, hcheck, hlater hadmission⟩
  | _ => trivial

theorem enterGate_admitted {scenarios : OrderedMap String Scenario} {report : ReportRequest}
    {check : Option ServiceAuthorizationCheck}
    (h : request.isPaid = true → ∃ checked, check = some checked ∧
      Admission platform parser serviceOptions pinned labels issued id request report checked) :
    StageAdmitted platform parser serviceOptions pinned labels issued id request
      (enterGate scenarios request report check) := by
  unfold enterGate
  dsimp only
  split
  · trivial
  · exact h

/-- A request is let through only with an authorization of the log. -/
theorem receive_admitted {scenarios : OrderedMap String Scenario} {key : Option String} {now : ℤ}
    (hkey : ∀ other, key = some other → other = pinned) (hunforged : Unforged platform pinned issued request)
    (harrived : ArrivedAt labels id request now) :
    StageAdmitted platform parser serviceOptions pinned labels issued id request
      (receive platform parser serviceOptions scenarios request key now) := by
  unfold receive
  split
  · trivial
  · rename_i body hbody
    split
    · trivial
    · rename_i report hreport
      split
      · cases key with
        | none => trivial
        | some other =>
          obtain rfl := hkey other rfl
          dsimp only
          split
          · trivial
          · rename_i check hcheck
            have hadmits := checkServiceAuthorization_eq_ok.1 hcheck
            obtain ⟨header, hheader, -, hdecoded⟩ := hadmits.header
            obtain ⟨entry, hmem, hsame⟩ := hunforged.signed header check.authorization hheader hdecoded hadmits.signed
            exact ⟨⟨body, hbody, hreport⟩, ⟨now, harrived, hadmits⟩, entry, hmem, hsame, hunforged.hashed entry hmem⟩
      · rename_i hunpaid
        exact enterGate_admitted fun hpaid ↦ absurd hpaid hunpaid

theorem fulfil_admitted {report : ReportRequest} {check : Option ServiceAuthorizationCheck}
    {payment : Option GatePayment} {now : ℤ} :
    StageAdmitted platform parser serviceOptions pinned labels issued id request
      (fulfil platform serviceOptions request report check payment now) := by
  unfold fulfil
  dsimp only
  repeat' split
  all_goals trivial

/-- Every request before and inside the gate was let through. -/
def ServiceApp.Guarded (platform : Platform) (parser : BodyParser) (serviceOptions : ServiceAppOptions)
    (pinned : String) (labels : List ExchangeAction) (issued : List Issued) (app : ServiceApp) : Prop :=
  ∀ id request stage, app.requests id = some (request, stage) →
    StageAdmitted platform parser serviceOptions pinned labels issued id request stage

/-- A request that is new or moves on keeps the others. -/
theorem ServiceApp.Guarded.setRequest {app : ServiceApp}
    (h : app.Guarded platform parser serviceOptions pinned labels issued) {stage : Stage}
    (hstage : StageAdmitted platform parser serviceOptions pinned labels issued id request stage) :
    (app.setRequest id request stage).Guarded platform parser serviceOptions pinned labels issued := by
  intro other found stage' hfound
  simp only [ServiceApp.setRequest, Function.update_apply] at hfound
  split at hfound
  · rename_i hsame
    cases hfound
    exact hsame ▸ hstage
  · exact h other found stage' hfound

theorem ServiceApp.Guarded.later {app : ServiceApp}
    (h : app.Guarded platform parser serviceOptions pinned labels issued) (moreLabels : List ExchangeAction)
    (more : List Issued) :
    app.Guarded platform parser serviceOptions pinned (labels ++ moreLabels) (issued ++ more) :=
  fun id request stage hrequest ↦ (h id request stage hrequest).later moreLabels

/-- A step of the service lets a request through or moves one on. -/
theorem ServiceApp.Guarded.step {app app' : ServiceApp} {event : Event}
    (h : app.Guarded platform parser serviceOptions pinned labels issued)
    (hallowed : ∀ id request key now, event = .post id request key now →
      (∀ other, key = some other → other = pinned) ∧ Unforged platform pinned issued request ∧
        ArrivedAt labels id request now)
    (hstep : app.step platform parser serviceOptions event = some app') :
    app'.Guarded platform parser serviceOptions pinned labels issued := by
  cases event with
  | scenario body =>
    cases hstep
    exact h
  | post id request key now =>
    obtain ⟨hkey, hunforged, harrived⟩ := hallowed id request key now rfl
    simp only [ServiceApp.step] at hstep
    split at hstep
    · cases hstep
    · cases hstep
      exact h.setRequest (receive_admitted hkey hunforged harrived)
  | resume id =>
    simp only [ServiceApp.step] at hstep
    split at hstep
    · rename_i request report check hrequest
      cases hstep
      exact h.setRequest (enterGate_admitted fun _ ↦ ⟨check, rfl, h id _ _ hrequest⟩)
    · cases hstep
  | answer id =>
    simp only [ServiceApp.step] at hstep
    split at hstep
    · cases hstep
      exact h.setRequest trivial
    · cases hstep
  | next id payment now =>
    simp only [ServiceApp.step] at hstep
    split at hstep
    · split at hstep
      · cases hstep
        exact h.setRequest trivial
      · cases hstep
        exact h.setRequest fulfil_admitted
    · cases hstep

/-- What holds of every exchange. -/
structure Sound (platform : Platform) (options : ℕ → AuthorityServiceOptions) (digests : Digests)
    (parser : BodyParser) (serviceOptions : ServiceAppOptions) (pinned : String) (labels : List ExchangeAction)
    (exchange : Exchange) : Prop where
  run : Run (Authority.System.step platform options) (Honoured platform options digests) .initial
    (labels.filterMap ExchangeAction.authority?) exchange.authority
  issued : ∀ entry ∈ exchange.issued,
    IssuedBound platform options digests (labels.filterMap ExchangeAction.authority?) entry
  requests : exchange.service.Guarded platform parser serviceOptions pinned labels exchange.issued

theorem sound_initial : Sound platform options digests parser serviceOptions pinned [] .initial where
  run := .start
  issued _ h := by cases h
  requests _ _ _ h := by cases h

theorem Sound.step (h : Sound platform options digests parser serviceOptions pinned labels exchange)
    (hallowed : Pinned platform options digests pinned exchange action)
    (hstep : exchange.step platform options parser serviceOptions action = some exchange') :
    Sound platform options digests parser serviceOptions pinned (labels ++ [action]) exchange' := by
  cases action with
  | authority action =>
    obtain ⟨sys', hsys, rfl⟩ := Option.map_eq_some_iff.1 hstep
    have hrun : Run (Authority.System.step platform options) (Honoured platform options digests) .initial
        ((labels ++ [ExchangeAction.authority action]).filterMap ExchangeAction.authority?) sys' := by
      rw [List.filterMap_append]
      exact h.run.next hallowed hsys
    refine ⟨hrun, fun entry hmem ↦ ?_, h.requests.later _ _⟩
    rcases List.mem_append.1 hmem with hold | hnew
    · rw [List.filterMap_append]
      exact (h.issued entry hold).later _
    · exact Authority.issuedBy_bound hrun hnew
  | service event =>
    obtain ⟨service, hservice, rfl⟩ := Option.map_eq_some_iff.1 hstep
    have hlabels : (labels ++ [ExchangeAction.service event]).filterMap ExchangeAction.authority? =
        labels.filterMap ExchangeAction.authority? := by
      rw [List.filterMap_append]
      exact List.append_nil _
    refine ⟨hlabels ▸ h.run, fun entry hmem ↦ hlabels ▸ h.issued entry hmem, ?_⟩
    have hbefore := h.requests.later [ExchangeAction.service event] []
    rw [List.append_nil] at hbefore
    refine hbefore.step (fun id request key now hevent ↦ ?_) hservice
    subst hevent
    exact ⟨hallowed.1, hallowed.2, key, List.mem_append_right _ (List.mem_singleton_self _)⟩

theorem Sound.of_run
    (hrun : Run (Exchange.step platform options parser serviceOptions) (Pinned platform options digests pinned)
      .initial labels exchange) :
    Sound platform options digests parser serviceOptions pinned labels exchange := by
  induction hrun with
  | start => exact sound_initial
  | next _ hallowed hstep ih => exact ih.step hallowed hstep

end

/-! ## What the service performs -/

/-- The entry of the log is for exactly this request: a human and an agent allowed the operation and its
payment, the amount is reserved, and the price of the service is what they allowed. -/
structure Approved (platform : Platform) (options : ℕ → AuthorityServiceOptions) (digests : Digests)
    (serviceOptions : ServiceAppOptions) (labels : List ExchangeAction) (id : ℕ) (request : HttpRequest)
    (report : ReportRequest) (entry : Issued) : Prop where
  allowed : PaymentAllowed platform (options entry.process) entry.auth.permit entry.auth.request
    entry.auth.agentSignature entry.payment.paidRequest entry.payment.requirement
  reserved : WasReserved platform options digests (labels.filterMap ExchangeAction.authority?) entry.auth
  method_eq : request.method = entry.auth.permit.operation.method
  path_eq : request.path = entry.auth.permit.operation.resource
  body_eq : request.rawBody = TextDecoder.encode (operationRequestBody platform entry.auth.permit.operation)
  invocation_eq : request.header "x-vh-invocation-id" = some entry.auth.request.invocationId
  asset_eq : serviceOptions.price.asset = entry.auth.permit.mint
  payTo_eq : serviceOptions.price.payTo = entry.auth.permit.recipient
  amount_eq : serviceOptions.price.amountAtomic = entry.auth.request.amountAtomic
  fresh : ∃ now, ArrivedAt labels id request now ∧ entry.authorization.issuedAt - 30000 ≤ now ∧
    now ≤ entry.authorization.issuedAt + SERVICE_AUTHORIZATION_TTL_MS
  performed : request.header "content-type" = some "application/json" →
    report.operation.name = entry.auth.permit.operation.operation ∧
      report.datasetId = entry.auth.permit.operation.datasetId

section

variable {platform : Platform} {options : ℕ → AuthorityServiceOptions} {digests : Digests} {parser : BodyParser}
  {serviceOptions : ServiceAppOptions} {pinned : String} {issued : List Issued} {id : ℕ} {request : HttpRequest}
  {report : ReportRequest} {check : ServiceAuthorizationCheck} {labels : List ExchangeAction} {entry : Issued}

/-- What was let through was approved, down to its bytes. -/
theorem Admission.approved (hback : platform.ReadsBack) (hreads : BodyParser.ReadsJson platform parser)
    (h : Admission platform parser serviceOptions pinned labels issued id request report check)
    (hissued : ∀ entry ∈ issued,
      IssuedBound platform options digests (labels.filterMap ExchangeAction.authority?) entry) :
    ∃ entry ∈ issued, Approved platform options digests serviceOptions labels id request report entry := by
  obtain ⟨now, harrived, hadmits⟩ := h.checked
  obtain ⟨entry, hmem, hsame, hhashed⟩ := h.entered
  have hbound := hissued entry hmem
  obtain ⟨authenticatedAt, hauthenticated⟩ := hbound.authenticated
  have hallowed := hbound.payment.allowed hauthenticated
  obtain ⟨signedAt, hunsigned, -⟩ := hbound.signed.unsigned
  have hterms := hsame.symm.trans hunsigned
  -- the digest the service recomputed is the one that was signed, so the bytes are those of the payment
  have hdigest : computePaidRequestDigest platform entry.payment.paidRequest.url
      (TextDecoder.decode request.rawBody) =
      computePaidRequestDigest platform entry.payment.paidRequest.url entry.payment.paidRequest.body := by
    have hurl : check.authorization.url = entry.payment.paidRequest.url := congrArg (·.url) hterms
    have hsha256 : check.authorization.requestSha256 = entry.payment.paidRequest.sha256 :=
      congrArg (·.requestSha256) hterms
    calc computePaidRequestDigest platform entry.payment.paidRequest.url (TextDecoder.decode request.rawBody)
        = check.requestSha256 := by rw [← hurl]; exact hadmits.requestSha256_eq.symm
      _ = entry.payment.paidRequest.sha256 := by rw [← hadmits.authorized_sha256, hsha256]
      _ = _ := hallowed.sha256_eq
  have htext : TextDecoder.decode request.rawBody = operationRequestBody platform entry.auth.permit.operation :=
    (hhashed _ hadmits.body hdigest).trans hallowed.body_eq
  have hmethod : request.method = entry.auth.permit.operation.method := by
    have hvalid := (verifyPurchasePermitV2_verified hallowed.permit_verifies).valid.operation_valid.method_mem
    rw [OPERATION_METHODS, List.mem_singleton] at hvalid
    exact hadmits.method_eq.trans hvalid.symm
  have hrequestPath : request.path = entry.auth.permit.operation.resource := by
    have hurl : check.authorization.url = entry.payment.paidRequest.url := congrArg (·.url) hterms
    have hboth := hadmits.path_eq
    rw [hurl, hallowed.path_eq] at hboth
    exact (Option.some.inj hboth).symm
  refine ⟨entry, hmem, {
    allowed := hallowed
    reserved := hbound.reserved
    method_eq := hmethod
    path_eq := hrequestPath
    body_eq := by rw [← htext]; exact hadmits.body.symm
    invocation_eq := ?_
    asset_eq := ?_
    payTo_eq := ?_
    amount_eq := ?_
    fresh := ⟨now, harrived, ?_, ?_⟩
    performed := fun hcontentType ↦ ?_ }⟩
  · have hinvocation : check.authorization.invocationId = entry.payment.invocation.invocationId :=
      congrArg (·.invocationId) hterms
    rw [← hbound.payment.invocation_eq.1, ← hinvocation]
    exact hadmits.invocationId_eq
  · have hasset : check.authorization.payment.asset = entry.payment.requirement.asset :=
      congrArg (·.payment.asset) hterms
    exact hadmits.asset_eq.symm.trans (hasset.trans hallowed.asset_paid)
  · have hpayTo : check.authorization.payment.payTo = entry.payment.requirement.payTo :=
      congrArg (·.payment.payTo) hterms
    exact hadmits.payTo_eq.symm.trans (hpayTo.trans hallowed.payTo_paid)
  · have hamount : check.authorization.payment.amountAtomic = entry.payment.requirement.amountAtomic :=
      congrArg (·.payment.amountAtomic) hterms
    exact hadmits.amount_eq.symm.trans (hamount.trans hallowed.amount_paid)
  · rw [congrArg (·.issuedAt) hsame]
    exact hadmits.not_early
  · have hexpires : check.authorization.expiresAt = entry.authorization.issuedAt + SERVICE_AUTHORIZATION_TTL_MS := by
      rw [show entry.authorization.issuedAt = signedAt from congrArg (·.issuedAt) hunsigned]
      exact congrArg (·.expiresAt) hterms
    rw [← hexpires]
    exact hadmits.not_late
  · obtain ⟨body, hparsed, hbodyReport⟩ := h.parsed
    obtain ⟨record, rfl, -⟩ := parseReportRequest_eq_some.1 hbodyReport
    have hnonempty : request.rawBody ≠ [] := by
      intro hempty
      rw [hempty] at htext
      exact operationRequestBody_ne_empty hback _ htext.symm
    have hvalue := hreads.reads request _ hcontentType hnonempty hadmits.body hparsed
    rw [htext] at hvalue
    obtain ⟨hoperation, hdataset, -⟩ := (parseReportRequest_operation hback hvalue).1 hbodyReport
    exact ⟨hoperation, hdataset⟩

end

namespace Sample

def issued : Issued := ⟨0, auth, payment reserved, serviceAuthorization⟩

/-- The authority signed the authorization, and the service waits. -/
def authorized : Exchange where
  authority := pending.withCall id auth reservedDb (.building (payment reserved) serviceAuthorization)
  issued := [issued]
  service := .initial

theorem isPaid : request.isPaid = true := by
  obtain ⟨-, -, -, credential, hcredential, hsent⟩ :=
    @header_executeInput platform (payment reserved) serviceAuthorization _ credentialHeader
  rw [HttpRequest.isPaid, delivered.header_eq _ _ hsent]
  simpa using hcredential

/-- The service with the request of the authority at this stage. -/
noncomputable def serving (stage : Stage) : ServiceApp := ServiceApp.initial.setRequest 0 request stage

end Sample

end VirtualHaibin.Service
