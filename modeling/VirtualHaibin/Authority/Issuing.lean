import VirtualHaibin.Authority.Soundness

/-!
# Issued service authorizations

A service authorization is signed before its payment is recorded, and leaves with the credential.  What
stands behind one: a payment a human and an agent allowed, and a reservation of its amount that was
committed before it was signed.
-/

namespace VirtualHaibin.Authority

open Foundation Mandate Payments Evidence

/-- A service authorization, with the call and the process that signed it. -/
structure Issued where
  process : ℕ
  auth : AuthenticatedRequest
  payment : Payment
  authorization : SignedServiceAuthorizationV1

/-- What an action of the system issues. -/
def issuedBy (action : Action) (sys' : System) : List Issued :=
  match action with
  | .call id (.signed _) =>
    match sys'.calls id with
    | some ⟨auth, .building payment authorization⟩ => [⟨id.process, auth, payment, authorization⟩]
    | _ => []
  | _ => []

/-- The invocation is reserved for exactly the requested amount under the permit's grant. -/
def ReservedFor (auth : AuthenticatedRequest) (sys : System) : Prop :=
  ∃ row, sys.db.invocations.find? auth.request.invocationId = some row ∧ row.state = .RESERVED ∧
    row.fingerprint = auth.fingerprint ∧ row.amountAtomic = auth.request.amountAtomic ∧
    row.grantKey = (auth.permit.issuer, auth.permit.grantId)

/-- The run passed a state in which the amount was reserved. -/
def WasReserved (platform : Platform) (options : ℕ → AuthorityServiceOptions) (digests : Digests)
    (labels : List Action) (auth : AuthenticatedRequest) : Prop :=
  Run.Passed (System.step platform options) (Honoured platform options digests) .initial labels (ReservedFor auth)

/-- What stands behind an issued authorization. -/
structure IssuedBound (platform : Platform) (options : ℕ → AuthorityServiceOptions) (digests : Digests)
    (labels : List Action) (entry : Issued) : Prop where
  authenticated : ∃ now, Authenticated platform (options entry.process) now entry.auth
  payment : PaymentBound platform (options entry.process) entry.auth entry.payment
  signed : AuthorizationBound platform (options entry.process) entry.auth entry.payment entry.authorization
  reserved : WasReserved platform options digests labels entry.auth

variable {platform : Platform} {options : ℕ → AuthorityServiceOptions} {digests : Digests}
  {sys sys' : System} {action : Action} {labels : List Action}

/-- A committed reservation is a reserved row of the request. -/
theorem reserve_reserved {db db' : Db} {auth : AuthenticatedRequest} {decidedAt : ℤ} {terms : ChallengeTerms}
    {evaluate : BudgetEvaluator} {now : ℤ} {new : InvocationRecord}
    (h : ReserveEffect db db' (reserveInput auth decidedAt terms) evaluate now (.reserved new)) :
    ∃ row, db'.invocations.find? auth.request.invocationId = some row ∧ row.state = .RESERVED ∧
      row.fingerprint = auth.fingerprint := by
  obtain ⟨existing, hexisting, hretry, hreserved⟩ := h
  obtain ⟨pinned, middle, grant, reserved, consumed, amount, maxTotal, hpinned, -, -, -, -, -, -, hposted,
    rfl, hwritten⟩ := hreserved.effect
  have hid : ((reserveInput auth decidedAt terms).written existing .RESERVED [] now).invocationId =
      auth.request.invocationId :=
    ReserveInput.written_invocationId fun row hrow ↦ Table.key_of_find? (hexisting.trans hrow)
  exact ⟨_, hid ▸ hwritten.wrote.find_self, written_state, ReserveInput.written_fingerprint hretry⟩

/-- A call comes to hold a reservation when one commits. -/
theorem Progress.holds {db db' : Db} {processOptions : AuthorityServiceOptions} {auth : AuthenticatedRequest}
    {stage stage' : Stage} {event : CallEvent} (h : Progress platform processOptions db auth stage event db' stage')
    (hunsent : stage'.isUnsent = true) :
    stage.isUnsent = true ∨ ∃ row, db'.invocations.find? auth.request.invocationId = some row ∧
      row.state = .RESERVED ∧ row.fingerprint = auth.fingerprint := by
  cases h with
  | resolved known => simp [resolveExisting_isUnsent] at hunsent
  | decided now retry => simp [decide_isUnsent] at hunsent
  | @reserved decidedAt terms now result db' effect =>
    cases result with
    | existing row => simp [afterReserve, resolveExisting_isUnsent] at hunsent
    | grant_conflict grant => cases hunsent
    | denied row => simp [afterReserve, ensureReceipt_isUnsent] at hunsent
    | reserved row => exact .inr (reserve_reserved effect)
  | givenUp reason failure tolerant unsent => exact .inl unsent
  | budgeted => exact .inl rfl
  | authorized signed => exact .inl rfl
  | recorded found unarmed written => exact .inl rfl
  | rejected => exact .inl rfl
  | confirmed found consumed => simp [ensureReceipt_isUnsent] at hunsent
  | _ => cases hunsent

/-- Every call between its reservation and its credential made the reservation. -/
def Holds (platform : Platform) (options : ℕ → AuthorityServiceOptions) (digests : Digests)
    (labels : List Action) (sys : System) : Prop :=
  ∀ id call, sys.calls id = some call → call.stage.isUnsent = true →
    WasReserved platform options digests labels call.auth

theorem Holds.step (h : Holds platform options digests labels sys)
    (hrun : Run (System.step platform options) (Honoured platform options digests) .initial labels sys)
    (hallowed : Honoured platform options digests sys action)
    (hstep : sys.step platform options action = some sys') :
    Holds platform options digests (labels ++ [action]) sys' := by
  have hbound' := Bound.of_run (hrun.next hallowed hstep)
  intro id call hcall hunsent
  have horigin := System.step_call hstep hcall
  generalize hdb : sys'.db = db' at horigin
  cases horigin with
  | kept found => exact (h id call found hunsent).later [action]
  | admitted serving authenticated =>
    rw [admitted_isUnsent] at hunsent
    cases hunsent
  | @progressed event auth stage stage' db' found progress =>
    rcases progress.holds hunsent with hbefore | ⟨row, hfind, hstate, hfingerprint⟩
    · exact (h id _ found hbefore).later _
    · rw [← hdb] at hfind
      have hcontent := hbound'.rows _ row hfind
      have hagree := (hbound'.calls id _ hcall).agree
      refine Run.passed_here (hrun.next hallowed hstep) ⟨row, hfind, hstate, hfingerprint, ?_, ?_⟩
      · exact hcontent.amount_eq.trans (by rw [hfingerprint, hagree.amount])
      · exact hcontent.grantKey_eq.trans (by rw [hfingerprint, hagree.grantOf_eq])
  | transmitted found => cases hunsent
  | delivered found leaderDone => cases hunsent

theorem Holds.of_run
    (hrun : Run (System.step platform options) (Honoured platform options digests) .initial labels sys) :
    Holds platform options digests labels sys := by
  induction hrun with
  | start => exact fun _ _ h ↦ by cases h
  | next hbefore hallowed hstep ih => exact ih.step hbefore hallowed hstep

theorem IssuedBound.later {entry : Issued} (h : IssuedBound platform options digests labels entry)
    (more : List Action) : IssuedBound platform options digests (labels ++ more) entry :=
  ⟨h.authenticated, h.payment, h.signed, h.reserved.later more⟩

/-- The statement that was signed states its payment, and the authority signed it with its own key. -/
theorem AuthorizationBound.unsigned {processOptions : AuthorityServiceOptions} {auth : AuthenticatedRequest}
    {payment : Payment} {authorization : SignedServiceAuthorizationV1}
    (h : AuthorizationBound platform processOptions auth payment authorization) : ∃ now,
    authorization.toUnsignedServiceAuthorizationV1 =
        unsignedServiceAuthorization platform processOptions auth.permit payment now ∧
      authorization.signature = platform.signBytes processOptions.authorityAddress
        (statementText platform SERVICE_AUTHORIZATION_DOMAIN
          authorization.toUnsignedServiceAuthorizationV1.members) := by
  obtain ⟨now, hsigned⟩ := h
  rw [signServiceAuthorization] at hsigned
  split at hsigned
  · rename_i hsigner
    refine ⟨now, ?_⟩
    rw [← Option.some.inj hsigned, hsigner]
    exact ⟨rfl, rfl⟩
  · cases hsigned

theorem PaymentBound.invocation_eq {processOptions : AuthorityServiceOptions} {auth : AuthenticatedRequest}
    {payment : Payment} (h : PaymentBound platform processOptions auth payment) :
    payment.invocation.invocationId = auth.request.invocationId ∧ payment.invocation.request = auth.request := by
  obtain ⟨existing, decidedAt, terms, committed, now, hinvocation, hexisting, -, -⟩ := h.reserved
  rw [hinvocation]
  refine ⟨ReserveInput.written_invocationId fun row hrow ↦ (hexisting row hrow).2, ?_⟩
  cases existing <;> rfl

/-- What a run issues with its last step. -/
theorem issuedBy_bound
    (hrun : Run (System.step platform options) (Honoured platform options digests) .initial labels sys)
    {entry : Issued} (hmem : entry ∈ issuedBy action sys) : IssuedBound platform options digests labels entry := by
  unfold issuedBy at hmem
  split at hmem
  · rename_i id now
    split at hmem
    · rename_i auth payment authorization hcall
      rw [List.mem_singleton] at hmem
      subst hmem
      have hbound := (Bound.of_run hrun).calls id _ hcall
      obtain ⟨hpayment, hsigned⟩ := hbound.stage
      exact ⟨hbound.authenticated, hpayment, hsigned, Holds.of_run hrun id _ hcall rfl⟩
    · cases hmem
  · cases hmem

end VirtualHaibin.Authority
