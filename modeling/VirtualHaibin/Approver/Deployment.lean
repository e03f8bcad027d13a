import VirtualHaibin.Approver.Server
import VirtualHaibin.Authority.Solo
import VirtualHaibin.Authority.Timely
import VirtualHaibin.Foundation.Parts
import VirtualHaibin.Service.Exchange

/-!
# From the approval to the payment

The approval boundary, the authorities and the paid service, in any interleaving.  The issuer key signs only in the
approval boundary, so what verifies under it carries a text that was signed there; everything else about a request
is the sender's choice.
-/

namespace VirtualHaibin.Approver

open Foundation Mandate Payments
open Authority (AuthenticatedRequest AuthorityServiceOptions Credential Digests Honoured Issued Payment PaymentAllowed
  Solo issuedBy)
open Service (BodyParser Exchange ExchangeAction ServiceAppOptions)

structure Deployment where
  /-- The permits issued so far. -/
  permits : List SignedPurchasePermitV2
  exchange : Exchange

def Deployment.initial : Deployment := ⟨[], .initial⟩

inductive DeploymentAction where
  /-- A request to the approval boundary, with the clock and the grant ID it would use. -/
  | approver (request : IncomingMessage) (now : ℤ) (grantId : String)
  | exchange (action : ExchangeAction)

def DeploymentAction.exchange? : DeploymentAction → Option ExchangeAction
  | .approver _ _ _ => none
  | .exchange action => some action

def Deployment.step (platform : Platform) (approver : ApproverServerOptions) (options : ℕ → AuthorityServiceOptions)
    (parser : BodyParser) (serviceOptions : ServiceAppOptions) (deployment : Deployment) (action : DeploymentAction) :
    Option Deployment :=
  match action with
  | .approver request now grantId =>
    some { deployment with
      permits := deployment.permits ++ (serve platform approver request now grantId).issued.toList }
  | .exchange action =>
    (deployment.exchange.step platform options parser serviceOptions action).map fun exchange ↦
      { deployment with exchange }

/-- A permit that verifies under the issuer key carries a text that the approval boundary signed. -/
def GenuinePermits (platform : Platform) (issuer : String) (permits : List SignedPurchasePermitV2) :
    ExchangeAction → Prop
  | .authority (.arrive _ input _ _) => ∀ permit, verifyPurchasePermitV2 platform input.permit = .ok permit →
      permit.issuer = issuer → ∃ signed ∈ permits,
        canonicalizeUnsignedPurchasePermit platform signed.toUnsignedPurchasePermitV2 =
          canonicalizeUnsignedPurchasePermit platform permit.toUnsignedPurchasePermitV2
  | _ => True

/-- The exchange runs without collisions and forgeries. -/
def Trusted (platform : Platform) (options : ℕ → AuthorityServiceOptions) (digests : Digests) (pinned issuer : String)
    (deployment : Deployment) : DeploymentAction → Prop
  | .approver _ _ _ => True
  | .exchange action => Service.Pinned platform options digests pinned deployment.exchange action ∧
      GenuinePermits platform issuer deployment.permits action

/-- The authorities run one process at a time. -/
def Alone (deployment : Deployment) : DeploymentAction → Prop
  | .exchange (.authority action) => Solo deployment.exchange.authority action
  | _ => True

/-- A request that presents the approval code. -/
def DeploymentAction.presentsCode (approver : ApproverServerOptions) : DeploymentAction → Bool
  | .approver request _ _ => presentsApprovalCode approver request
  | .exchange _ => false

/-- The permit is one that the approval boundary issued. -/
def Covers (permits : List SignedPurchasePermitV2) (auth : AuthenticatedRequest) : Prop :=
  ∃ signed ∈ permits, signed.toUnsignedPurchasePermitV2 = auth.permit.toUnsignedPurchasePermitV2

/-- Whatever the authorities hold or sent is under an issued permit. -/
structure Covered (permits : List SignedPurchasePermitV2) (exchange : Exchange) : Prop where
  calls : ∀ id call, exchange.authority.calls id = some call → Covers permits call.auth
  credentials : ∀ credential ∈ exchange.authority.credentials, Covers permits credential.auth
  issued : ∀ entry ∈ exchange.issued, Covers permits entry.auth

/-- A request in the run was approved with this permit. -/
def ApprovedIn (platform : Platform) (approver : ApproverServerOptions) (labels : List DeploymentAction)
    (permit : SignedPurchasePermitV2) : Prop :=
  ∃ request now grantId approval, DeploymentAction.approver request now grantId ∈ labels ∧
    Approves platform approver request now grantId approval permit

section

variable {platform : Platform} {approver : ApproverServerOptions} {options : ℕ → AuthorityServiceOptions}
  {digests : Digests} {parser : BodyParser} {serviceOptions : ServiceAppOptions} {pinned : String}
  {permits : List SignedPurchasePermitV2} {exchange exchange' : Exchange} {deployment deployment' : Deployment}
  {labels : List DeploymentAction} {action : DeploymentAction}

theorem Covers.later {auth : AuthenticatedRequest} (h : Covers permits auth) (more : List SignedPurchasePermitV2) :
    Covers (permits ++ more) auth := by
  obtain ⟨signed, hmem, heq⟩ := h
  exact ⟨signed, List.mem_append_left more hmem, heq⟩

theorem Covered.later (h : Covered permits exchange) (more : List SignedPurchasePermitV2) :
    Covered (permits ++ more) exchange where
  calls id call hcall := (h.calls id call hcall).later more
  credentials credential hmem := (h.credentials credential hmem).later more
  issued entry hmem := (h.issued entry hmem).later more

theorem authenticate_permit {processOptions : AuthorityServiceOptions} {input : Authority.AuthorizeRequestInput}
    {now : ℤ} {auth : AuthenticatedRequest} (h : Authority.authenticate platform processOptions input now = .ok auth) :
    verifyPurchasePermitV2 platform input.permit = .ok auth.permit := by
  unfold Authority.authenticate at h
  simp only [Checked.guardThat_bind_eq_ok, mapError_bind_eq_ok] at h
  obtain ⟨-, permit, hpermit, -, -, -, -, -, -, h⟩ := h
  cases h
  exact hpermit

/-- Signing texts pins the permit behind them. -/
theorem canonicalizeUnsignedPurchasePermit_inj (hcanonical : platform.CanonicalizeInjective)
    {permit other : UnsignedPurchasePermitV2}
    (h : canonicalizeUnsignedPurchasePermit platform permit = canonicalizeUnsignedPurchasePermit platform other) :
    permit = other := by
  rw [canonicalizeUnsignedPurchasePermit, canonicalizeUnsignedPurchasePermit, String.append_right_inj] at h
  exact UnsignedPurchasePermitV2.faithful.iff.1 (hcanonical h)

/-- A call that is admitted is under an issued permit, and no step changes its request. -/
theorem Covered.call {sys : Authority.System} {authorityAction : Authority.Action}
    (hcanonical : platform.CanonicalizeInjective)
    (hissuer : ∀ process, (options process).issuerEntitlement.issuer = approver.issuer)
    (h : Covered permits exchange)
    (hgenuine : GenuinePermits platform approver.issuer permits (.authority authorityAction))
    (hstep : exchange.authority.step platform options authorityAction = some sys) (id : Authority.CallId)
    (call : Authority.Call) (hcall : sys.calls id = some call) : Covers permits call.auth := by
  have horigin := Authority.System.step_call hstep hcall
  generalize sys.db = db at horigin
  cases horigin with
  | kept found => exact h.calls id call found
  | admitted serving authenticated =>
    have hentitled := (Authority.authenticate_ok authenticated).issuer_eq.trans (hissuer id.process)
    obtain ⟨signed, hmem, htext⟩ := hgenuine _ (authenticate_permit authenticated) hentitled
    exact ⟨signed, hmem, canonicalizeUnsignedPurchasePermit_inj hcanonical htext⟩
  | progressed found progress =>
    have hcovers := h.calls id _ found
    exact hcovers
  | transmitted found =>
    have hcovers := h.calls id _ found
    exact hcovers
  | delivered found leaderDone =>
    have hcovers := h.calls id _ found
    exact hcovers

theorem Covered.step {exchangeAction : ExchangeAction} (hcanonical : platform.CanonicalizeInjective)
    (hissuer : ∀ process, (options process).issuerEntitlement.issuer = approver.issuer)
    (h : Covered permits exchange) (hgenuine : GenuinePermits platform approver.issuer permits exchangeAction)
    (hstep : exchange.step platform options parser serviceOptions exchangeAction = some exchange') :
    Covered permits exchange' := by
  cases exchangeAction with
  | authority authorityAction =>
    obtain ⟨sys, hsys, rfl⟩ := Option.map_eq_some_iff.1 hstep
    have hcalls := h.call hcanonical hissuer hgenuine hsys
    refine ⟨hcalls, fun credential hmem ↦ ?_, fun entry hmem ↦ ?_⟩
    · rcases Authority.System.step_credentials hsys with
        heq | ⟨id, auth, payment, serviceAuthorization, attempt, -, hcall, heq⟩
      · exact h.credentials credential (heq ▸ hmem)
      · have hnew : credential ∈ exchange.authority.credentials ++
            [⟨id, auth, payment, serviceAuthorization, attempt⟩] := heq ▸ hmem
        rcases List.mem_append.1 hnew with hold | hsent
        · exact h.credentials credential hold
        · rw [List.mem_singleton.1 hsent]
          exact h.calls id _ hcall
    · rcases List.mem_append.1 hmem with hold | hnew
      · exact h.issued entry hold
      · unfold issuedBy at hnew
        split at hnew
        · split at hnew
          · rename_i hcall
            rw [List.mem_singleton.1 hnew]
            exact hcalls _ _ hcall
          · cases hnew
        · cases hnew
  | service event =>
    obtain ⟨service, -, rfl⟩ := Option.map_eq_some_iff.1 hstep
    exact ⟨h.calls, h.credentials, h.issued⟩

/-- What holds of every deployment. -/
structure Grounded (platform : Platform) (approver : ApproverServerOptions) (labels : List DeploymentAction)
    (deployment : Deployment) : Prop where
  approved : ∀ permit ∈ deployment.permits, ApprovedIn platform approver labels permit
  counted : deployment.permits.length ≤ labels.countP (DeploymentAction.presentsCode approver)
  covered : Covered deployment.permits deployment.exchange

theorem grounded_initial : Grounded platform approver [] .initial where
  approved _ h := by cases h
  counted := le_rfl
  covered := {
    calls := fun _ _ h ↦ by cases h
    credentials := fun _ h ↦ by cases h
    issued := fun _ h ↦ by cases h }

theorem ApprovedIn.later {permit : SignedPurchasePermitV2} (h : ApprovedIn platform approver labels permit)
    (more : List DeploymentAction) : ApprovedIn platform approver (labels ++ more) permit := by
  obtain ⟨request, now, grantId, approval, hmem, happroves⟩ := h
  exact ⟨request, now, grantId, approval, List.mem_append_left more hmem, happroves⟩

theorem Grounded.step (hcanonical : platform.CanonicalizeInjective)
    (hissuer : ∀ process, (options process).issuerEntitlement.issuer = approver.issuer)
    (h : Grounded platform approver labels deployment)
    (hallowed : Trusted platform options digests pinned approver.issuer deployment action)
    (hstep : deployment.step platform approver options parser serviceOptions action = some deployment') :
    Grounded platform approver (labels ++ [action]) deployment' := by
  cases action with
  | approver request now grantId =>
    obtain rfl := Option.some.inj hstep
    refine ⟨fun permit hmem ↦ ?_, ?_, h.covered.later _⟩
    · rcases List.mem_append.1 hmem with hold | hnew
      · exact (h.approved permit hold).later _
      · obtain ⟨approval, happroves⟩ := serve_issued.1 (Option.mem_toList.1 hnew)
        exact ⟨request, now, grantId, approval, List.mem_append_right _ (List.mem_singleton_self _), happroves⟩
    · rw [List.length_append, List.countP_append]
      apply Nat.add_le_add h.counted
      cases hissued : (serve platform approver request now grantId).issued with
      | none => exact Nat.zero_le _
      | some permit =>
        obtain ⟨approval, happroves⟩ := serve_issued.1 hissued
        have hcode : DeploymentAction.presentsCode approver (.approver request now grantId) = true := happroves.code
        rw [List.countP_singleton, hcode]
        rfl
  | exchange exchangeAction =>
    obtain ⟨exchange, hexchange, rfl⟩ := Option.map_eq_some_iff.1 hstep
    refine ⟨fun permit hmem ↦ (h.approved permit hmem).later _, ?_,
      h.covered.step hcanonical hissuer hallowed.2 hexchange⟩
    rw [List.countP_append]
    exact h.counted.trans (Nat.le_add_right _ _)

theorem Grounded.of_run (hcanonical : platform.CanonicalizeInjective)
    (hissuer : ∀ process, (options process).issuerEntitlement.issuer = approver.issuer)
    (hrun : Run (Deployment.step platform approver options parser serviceOptions)
      (Trusted platform options digests pinned approver.issuer) .initial labels deployment) :
    Grounded platform approver labels deployment :=
  hrun.invariant_run grounded_initial fun _ _ _ _ _ h hallowed hstep ↦ h.step hcanonical hissuer hallowed hstep

/-- The exchange of a deployment runs on its own. -/
theorem Deployment.run_exchange
    (hrun : Run (Deployment.step platform approver options parser serviceOptions)
      (Trusted platform options digests pinned approver.issuer) .initial labels deployment) :
    Run (Exchange.step platform options parser serviceOptions) (Service.Pinned platform options digests pinned)
      .initial (labels.filterMap DeploymentAction.exchange?) deployment.exchange := by
  refine hrun.project Deployment.exchange DeploymentAction.exchange? (fun state label state' hstep hlabel ↦ ?_)
    fun state label state' own hallowed hstep hlabel ↦ ?_
  · cases label with
    | approver request now grantId =>
      obtain rfl := Option.some.inj hstep
      rfl
    | exchange action => cases hlabel
  · cases label with
    | approver request now grantId => cases hlabel
    | exchange action =>
      obtain rfl := Option.some.inj hlabel
      obtain ⟨exchange, hexchange, rfl⟩ := Option.map_eq_some_iff.1 hstep
      exact ⟨hallowed.1, hexchange⟩

/-- So do its authorities. -/
theorem Deployment.run_authorities
    (hrun : Run (Deployment.step platform approver options parser serviceOptions) (fun deployment action ↦
      Trusted platform options digests pinned approver.issuer deployment action ∧ Alone deployment action)
      .initial labels deployment) :
    Run (Authority.System.step platform options) (fun sys action ↦ Honoured platform options digests sys action ∧
      Solo sys action) .initial
      (labels.filterMap fun action ↦ action.exchange?.bind ExchangeAction.authority?)
      deployment.exchange.authority := by
  refine hrun.project (fun deployment ↦ deployment.exchange.authority) _ (fun state label state' hstep hlabel ↦ ?_)
    fun state label state' own hallowed hstep hlabel ↦ ?_
  · cases label with
    | approver request now grantId =>
      obtain rfl := Option.some.inj hstep
      rfl
    | exchange action =>
      obtain ⟨exchange, hexchange, rfl⟩ := Option.map_eq_some_iff.1 hstep
      cases action with
      | authority action => cases hlabel
      | service event =>
        obtain ⟨service, -, rfl⟩ := Option.map_eq_some_iff.1 hexchange
        rfl
  · cases label with
    | approver request now grantId => cases hlabel
    | exchange action =>
      obtain ⟨exchange, hexchange, rfl⟩ := Option.map_eq_some_iff.1 hstep
      cases action with
      | service event => cases hlabel
      | authority action =>
        obtain rfl := Option.some.inj hlabel
        obtain ⟨sys, hsys, rfl⟩ := Option.map_eq_some_iff.1 hexchange
        exact ⟨⟨hallowed.1.1, hallowed.2⟩, hsys⟩

/-- An action of the authorities is one of the deployment. -/
theorem mem_labels_of_authority {authorityAction : Authority.Action}
    (h : authorityAction ∈ (labels.filterMap DeploymentAction.exchange?).filterMap ExchangeAction.authority?) :
    DeploymentAction.exchange (.authority authorityAction) ∈ labels := by
  simp only [List.mem_filterMap] at h
  obtain ⟨exchangeAction, ⟨action, haction, hexchange⟩, hauthority⟩ := h
  cases action with
  | approver request now grantId => cases hexchange
  | exchange other =>
    obtain rfl := Option.some.inj hexchange
    cases other with
    | service event => cases hauthority
    | authority inner =>
      obtain rfl := Option.some.inj hauthority
      exact haction

/-- The authorities may run under the permits issued so far while the service idles. -/
theorem Deployment.run_of_authorities {before : List DeploymentAction} {authorities : List Authority.Action}
    {sys : Authority.System}
    (hissued : Run (Deployment.step platform approver options parser serviceOptions) (fun deployment action ↦
      Trusted platform options digests pinned approver.issuer deployment action ∧ Alone deployment action)
      .initial before ⟨permits, .initial⟩)
    (hgenuine : ∀ action ∈ authorities, GenuinePermits platform approver.issuer permits (.authority action))
    (hrun : Run (Authority.System.step platform options)
      (fun sys action ↦ Honoured platform options digests sys action ∧
      Solo sys action) .initial authorities sys) :
    ∃ issued, Run (Deployment.step platform approver options parser serviceOptions) (fun deployment action ↦
      Trusted platform options digests pinned approver.issuer deployment action ∧ Alone deployment action)
      .initial (before ++ authorities.map fun action ↦ .exchange (.authority action))
      ⟨permits, sys, issued, .initial⟩ := by
  induction hrun with
  | start =>
    rw [List.map_nil, List.append_nil]
    exact ⟨[], hissued⟩
  | @next labels sys sys' action hbefore hallowed hstep ih =>
    obtain ⟨issued, hrun⟩ := ih fun other hmem ↦ hgenuine other (List.mem_append_left _ hmem)
    have hnew := hgenuine action (List.mem_append_right _ (List.mem_singleton_self _))
    refine ⟨issued ++ issuedBy action sys', ?_⟩
    rw [List.map_append, ← List.append_assoc]
    refine hrun.next ⟨⟨hallowed.1, hnew⟩, hallowed.2⟩ ?_
    simp only [Deployment.step, Exchange.step, hstep, Option.map_some]

end

/-! ## What a human approved -/

/-- A request with the approval code named the agent that asks, the operation and the dataset that are paid for, and
the terms fix the rest: the payee, the asset, the limit and the time. -/
structure HumanApproved (platform : Platform) (approver : ApproverServerOptions) (labels : List DeploymentAction)
    (credential : Credential) (request : IncomingMessage) (now : ℤ) (grantId : String) (approval : ApprovalRequest) :
    Prop where
  asked : DeploymentAction.approver request now grantId ∈ labels
  code : presentsApprovalCode approver request = true
  named : ∃ record, platform.parseJson (utf8Text request.body) = some (.obj record) ∧ CarriesApproval record approval
  signed : verifyAuthorizationRequestSignature platform credential.auth.request credential.auth.agentSignature.toJson
    approval.agent = true
  operation_eq : credential.auth.request.operation = approval.exactOperation approver.terms
  body_eq : credential.payment.paidRequest.body =
    operationRequestBody platform (approval.exactOperation approver.terms)
  path_eq : platform.pathname credential.payment.paidRequest.url = some approver.terms.resource
  asset_eq : credential.payment.requirement.asset = approver.terms.mint
  payTo_eq : credential.payment.requirement.payTo = approver.terms.recipient
  amount_le : Decimal.amount credential.attempt.amountAtomic ≤ Decimal.amount approver.terms.maxPerCallAtomic
  in_time : ∃ decidedAt, DeploymentAction.exchange (.authority (.call credential.call (.resume decidedAt))) ∈ labels ∧
    decidedAt ≤ now + approver.terms.ttlMs

section

variable {platform : Platform} {approver : ApproverServerOptions} {options : ℕ → AuthorityServiceOptions}
  {digests : Digests} {parser : BodyParser} {serviceOptions : ServiceAppOptions} {pinned : String}
  {deployment : Deployment} {labels : List DeploymentAction}

/-- Every credential that ever leaves pays for what a human approved with the approval code. -/
theorem credentials_human_approved (hcanonical : platform.CanonicalizeInjective)
    (hissuer : ∀ process, (options process).issuerEntitlement.issuer = approver.issuer)
    (hrun : Run (Deployment.step platform approver options parser serviceOptions)
      (Trusted platform options digests pinned approver.issuer) .initial labels deployment) :
    ∀ credential ∈ deployment.exchange.authority.credentials, ∃ request now grantId approval,
      HumanApproved platform approver labels credential request now grantId approval := by
  intro credential hmem
  have hgrounded := Grounded.of_run hcanonical hissuer hrun
  have hsound := Service.Sound.of_run (Deployment.run_exchange hrun)
  have hsender := (Authority.Bound.of_run hsound.run).credentials credential hmem
  obtain ⟨decidedAt, hresumed, hle⟩ := (Authority.Timely.of_run hsound.run).credentials credential hmem
  obtain ⟨signed, hsigned, hunsigned⟩ := hgrounded.covered.credentials credential hmem
  obtain ⟨request, now, grantId, approval, hasked, happroves⟩ := hgrounded.approved signed hsigned
  have hpermit : credential.auth.permit.toUnsignedPurchasePermitV2 =
      approvedPermit approval approver.terms approver.issuer now grantId :=
    hunsigned.symm.trans happroves.unsigned_eq
  obtain ⟨authenticatedAt, hauthenticated⟩ := hsender.authenticated
  obtain ⟨hpayment, -, -⟩ := hsender.stage
  have hallowed : PaymentAllowed platform _ _ _ _ _ _ := hpayment.allowed hauthenticated
  have hoperation : credential.auth.permit.operation = approval.exactOperation approver.terms :=
    congrArg (·.operation) hpermit
  refine ⟨request, now, grantId, approval, {
    asked := hasked
    code := happroves.code
    named := happroves.named
    signed := ?_
    operation_eq := hallowed.operation_eq.trans hoperation
    body_eq := hallowed.body_eq.trans (congrArg (operationRequestBody platform) hoperation)
    path_eq := hallowed.path_eq.trans (congrArg (fun operation ↦ some operation.resource) hoperation)
    asset_eq := hallowed.asset_paid.trans (congrArg (·.mint) hpermit)
    payTo_eq := hallowed.payTo_paid.trans (congrArg (·.recipient) hpermit)
    amount_le := ?_
    in_time := ⟨decidedAt, mem_labels_of_authority hresumed, ?_⟩ }⟩
  · have hagent : credential.auth.permit.authorizedAgent = approval.agent := congrArg (·.authorizedAgent) hpermit
    rw [← hagent]
    exact hallowed.request_signed
  · have hlimit : credential.auth.permit.maxPerCallAtomic = approver.terms.maxPerCallAtomic :=
      congrArg (·.maxPerCallAtomic) hpermit
    have hamount : Decimal.amount credential.attempt.amountAtomic =
        Decimal.amount credential.auth.request.amountAtomic :=
      hsender.amount_eq
    rw [hamount, ← hlimit]
    exact hallowed.amount_le
  · have hexpires : credential.auth.permit.expiresAt = now + approver.terms.ttlMs := congrArg (·.expiresAt) hpermit
    exact hexpires ▸ hle

/-- While one authority process runs at a time, everything that has settled or still can sums to no more than the
total limit of the terms for each request that presented the approval code. -/
theorem spending_within_approvals (hcanonical : platform.CanonicalizeInjective)
    (hissuer : ∀ process, (options process).issuerEntitlement.issuer = approver.issuer)
    (hrun : Run (Deployment.step platform approver options parser serviceOptions) (fun deployment action ↦
      Trusted platform options digests pinned approver.issuer deployment action ∧ Alone deployment action)
      .initial labels deployment) :
    (deployment.exchange.authority.live.map Credential.amount).sum ≤
      labels.countP (DeploymentAction.presentsCode approver) * Decimal.amount approver.terms.maxTotalAtomic := by
  have hgrounded := Grounded.of_run hcanonical hissuer (hrun.weaken fun _ _ hallowed ↦ hallowed.1)
  have hauthorities := Deployment.run_authorities hrun
  have hcovers : ∀ credential ∈ deployment.exchange.authority.live,
      ∃ signed ∈ deployment.permits, (signed.issuer, signed.grantId) = credential.auth.grantKey ∧
        credential.auth.permit.maxTotalAtomic = approver.terms.maxTotalAtomic := by
    intro credential hmem
    obtain ⟨signed, hsigned, hunsigned⟩ := hgrounded.covered.credentials credential (List.mem_filter.1 hmem).1
    obtain ⟨request, now, grantId, approval, -, happroves⟩ := hgrounded.approved signed hsigned
    refine ⟨signed, hsigned, ?_, ?_⟩
    · exact Prod.ext (congrArg (·.issuer) hunsigned) (congrArg (·.grantId) hunsigned)
    · exact (congrArg (·.maxTotalAtomic) hunsigned).symm.trans (congrArg (·.maxTotalAtomic) happroves.unsigned_eq)
  have hclasses : (deployment.exchange.authority.live.map Credential.amount).sum ≤
      (deployment.permits.map fun signed ↦ (signed.issuer, signed.grantId)).length *
        Decimal.amount approver.terms.maxTotalAtomic := by
    apply @sum_map_le_of_classes _ _ _ fun credential : Credential ↦ credential.auth.grantKey
    · intro credential hmem
      obtain ⟨signed, hsigned, hkey, -⟩ := hcovers credential hmem
      exact List.mem_map.2 ⟨signed, hsigned, hkey⟩
    · intro key _
      apply Authority.live_class_le hauthorities
      intro credential hmem hkey
      obtain ⟨-, -, -, hlimit⟩ := hcovers credential hmem
      rw [hlimit]
  rw [List.length_map] at hclasses
  exact hclasses.trans (Nat.mul_le_mul_right _ hgrounded.counted)

end

/-! ## An approved report -/

namespace Sample

def approver : ApproverServerOptions where
  issuer := Service.Sample.issuer
  approvalCode := "approval code"
  terms := {
    service := Service.SERVICE_ID
    capability := Service.CAPABILITY
    network := "devnet"
    mint := Payments.Sample.mint
    recipient := Payments.Sample.merchant
    maxPerCallAtomic := "5"
    maxTotalAtomic := "20"
    ttlMs := 99000
    method := "POST"
    resource := Service.REPORT_RESOURCE }
  allowedOrigin := "https://approve.example"

def approval : ApprovalRequest := ⟨Service.Sample.agent, "summarize", "dataset-a"⟩

def approvalJson : Json :=
  .obj [("agent", .str approval.agent), ("operation", .str approval.operation), ("datasetId", .str approval.datasetId)]

def body : String :=
  "\x7b\"agent\":\"FHKAx15ZgUH1KrMmBPk59btP2yFajJUYKmbZt3zKc3RG\"," ++
    "\"datasetId\":\"dataset-a\",\"operation\":\"summarize\"\x7d"

def request : IncomingMessage where
  method := "POST"
  url := "/approvals"
  header := fun name ↦ if name = "authorization" then some "Bearer approval code" else none
  body := TextDecoder.encode body

theorem body_eq : Service.Sample.platform.canonicalize approvalJson = body := by
  decide +kernel

/-- The approval is read from the body. -/
theorem approval_read : ∃ record, Service.Sample.platform.parseJson (utf8Text request.body) = some (.obj record) ∧
    CarriesApproval record approval := by
  obtain ⟨value, hvalue, hsame⟩ := Service.Sample.readsBack.canonical approvalJson
    (Json.distinct_obj.2 ⟨by simp, by simp [Json.Distinct]⟩)
    (by simp [approvalJson, Json.Exact, Json.numbers, Json.numbersMembers])
  have htext : utf8Text request.body = body := by
    rw [utf8Text, request, TextDecoder.encode_eq, TextDecoder.decodeFrom_flatMap, String.ofList_toList]
  rw [body_eq, ← htext] at hvalue
  cases hsame with
  | @obj record _ hmembers =>
    have hmember (name text : String)
        (hother : Json.member [("agent", .str approval.agent), ("operation", .str approval.operation),
          ("datasetId", .str approval.datasetId)] name = some (.str text)) :
        Json.member record name = some (.str text) := by
      obtain ⟨found, hfound, hsame⟩ := Json.Same.value_of_member' hmembers hother
      cases hsame
      exact hfound
    refine ⟨record, hvalue, fun name hname ↦ ?_, hmember _ _ rfl, hmember _ _ rfl, hmember _ _ rfl⟩
    rw [Json.Same.mem_names hmembers] at hname
    exact hname

/-- The permit that the request is issued. -/
theorem issues : (serve Service.Sample.platform approver request 1000 "grant").issued =
    some Service.Sample.permit := by
  refine serve_issued.2 ⟨approval, {
    asked := ⟨rfl, rfl⟩
    code := by decide +kernel
    small := by decide +kernel
    named := approval_read
    agent_key := (Service.Sample.known Service.Sample.agent (by simp)).isAddress
    unsigned_eq := rfl
    valid := Service.Sample.permit_verified.valid
    signature_eq := ?_ }⟩
  have hsigned : Service.Sample.platform.signBytes Service.Sample.issuer
      ((Message.unsignedPermitV2 Service.Sample.unsignedPermit).text Service.Sample.platform) =
        Service.Sample.permit.signature :=
    Recording.sign_of_mem (Service.Sample.recorded_signed ▸ by simp [Service.Sample.signed])
  exact hsigned.symm

/-- The permit is issued before the authorities start. -/
def purchase : List Authority.Action :=
  Service.Sample.budgeted ++ [.call Service.Sample.id (.signed 3000)] ++
    [.call Service.Sample.id (.submit Service.Sample.attempt (some 3200))] ++ [.transmit Service.Sample.id]

def labels : List DeploymentAction :=
  [.approver request 1000 "grant"] ++ purchase.map fun action ↦ .exchange (.authority action)

def authorities : Authority.System :=
  (Service.Sample.pending.sent Service.Sample.credential).withCall Service.Sample.id Service.Sample.auth
    Service.Sample.attemptedDb (.transmitted (Service.Sample.payment Service.Sample.reserved)
      Service.Sample.serviceAuthorization Service.Sample.attempt)

theorem purchase_solo : Run (Authority.System.step Service.Sample.platform fun _ ↦ Service.Sample.options)
    (fun sys action ↦ Honoured Service.Sample.platform (fun _ ↦ Service.Sample.options) Service.Sample.digests sys
      action ∧ Solo sys action) .initial purchase authorities := by
  refine Run.strengthen (fun before label after middle heq hbefore ↦ ?_) Service.Sample.transmitted_run
  cases before with
  | nil =>
    obtain rfl : Authority.Action.start 0 = label := (List.cons.inj heq).1
    obtain rfl := hbefore.of_nil rfl
    refine ⟨fun process halive ↦ ?_, trivial⟩
    rcases halive with hup | hup <;> cases hup
  | cons first before =>
    have hrest : List.tail purchase = before ++ label :: after := congrArg List.tail heq
    have hmem : label ∈ List.tail purchase := hrest ▸ List.mem_append_right _ List.mem_cons_self
    simp only [purchase, Service.Sample.budgeted, List.cons_append, List.nil_append, List.tail_cons, List.mem_cons,
      List.not_mem_nil, or_false] at hmem
    rcases hmem with rfl | rfl | rfl | rfl | rfl | rfl | rfl | rfl | rfl <;> exact ⟨trivial, trivial⟩

/-- Only the arrival brings a permit, and it is the one that was issued. -/
theorem purchase_genuine : ∀ action ∈ purchase, GenuinePermits Service.Sample.platform approver.issuer
    [Service.Sample.permit] (.authority action) := by
  have harrived : GenuinePermits Service.Sample.platform approver.issuer [Service.Sample.permit]
      (.authority (.arrive Service.Sample.id Service.Sample.input 2500 (some 2500))) := by
    intro permit hverified _
    have hown : verifyPurchasePermitV2 Service.Sample.platform Service.Sample.input.permit =
        .ok Service.Sample.permit := verifyPurchasePermitV2_toJson Service.Sample.permit_verified
    obtain rfl := Except.ok.inj (hown.symm.trans hverified)
    exact ⟨_, List.mem_singleton_self _, rfl⟩
  intro action hmem
  simp only [purchase, Service.Sample.budgeted, List.mem_append, List.mem_cons, List.not_mem_nil, or_false] at hmem
  rcases hmem with (((((((rfl | rfl | rfl) | rfl) | rfl) | rfl) | rfl) | rfl) | rfl) | rfl
  all_goals first | exact harrived | exact trivial

theorem approved_run : ∃ issued, Run (Deployment.step Service.Sample.platform approver
    (fun _ ↦ Service.Sample.options) Service.Sample.parser Service.Sample.serviceOptions) (fun deployment action ↦
      Trusted Service.Sample.platform (fun _ ↦ Service.Sample.options) Service.Sample.digests Service.Sample.authority
        approver.issuer deployment action ∧ Alone deployment action)
    .initial labels ⟨[Service.Sample.permit], authorities, issued, .initial⟩ := by
  refine Deployment.run_of_authorities (Run.start.next ⟨trivial, trivial⟩ ?_) purchase_genuine purchase_solo
  simp only [Deployment.step, issues]
  rfl

end Sample

/-- The report was approved. -/
theorem credentials_human_approved_report : ∃ request now grantId approval,
    HumanApproved Service.Sample.platform Sample.approver Sample.labels Service.Sample.credential request now grantId
      approval := by
  obtain ⟨issued, hrun⟩ := Sample.approved_run
  exact credentials_human_approved (Recording.canonicalizeInjective Service.Sample.recording) (fun _ ↦ rfl)
    (hrun.weaken fun _ _ hallowed ↦ hallowed.1) Service.Sample.credential (List.mem_singleton_self _)

/-- One approval allows for its own total. -/
theorem spending_within_approvals_report :
    (Sample.authorities.live.map Credential.amount).sum ≤
      Sample.labels.countP (DeploymentAction.presentsCode Sample.approver) *
        Decimal.amount Sample.approver.terms.maxTotalAtomic := by
  obtain ⟨issued, hrun⟩ := Sample.approved_run
  exact spending_within_approvals (Recording.canonicalizeInjective Service.Sample.recording) (fun _ ↦ rfl) hrun

end VirtualHaibin.Approver
