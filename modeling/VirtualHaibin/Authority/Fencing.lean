import VirtualHaibin.Authority.Progress
import VirtualHaibin.Foundation.Lease

/-!
# Reservations as leases

For each invocation the running system is a lease: the row is the record, the calls are its
workers, a reservation is a claim, a recorded attempt arms it, a credential is the action, and the
reconciliation runs are the inspectors.  The history of each invocation is read off from consecutive
states and is not part of the system.
-/

namespace VirtualHaibin.Authority

open Foundation Payments Evidence

def rowStatus : Option InvocationRecord → Status PaymentAttempt
  | none => .free
  | some row =>
    match row.state with
    | .RESERVED => .claimed row.paymentAttempt
    | .RECONCILIATION_REQUIRED => .suspended row.paymentAttempt
    | .CONFIRMED => .settled
    | .FAILED => .free
    | .DENIED => .refused

def Db.status (db : Db) (invocationId : String) : Status PaymentAttempt :=
  rowStatus (db.invocations.find? invocationId)

def Stage.phase : Stage → Phase PaymentAttempt
  | .known _ | .fetching _ _ _ | .reserving _ _ => .asking
  | .budgeting _ | .authorizing _ | .building _ _ => .early
  | .recorded _ _ attempt => .armed attempt
  | .releasing _ _ _ | .rejected _ => .releasing
  | .transmitted _ _ _ | .marking _ | .confirming _ _ | .unrecorded _ => .late
  | .waiting _ | .signing _ _ | .done _ => .finished

/-- Where a call stands with an invocation.  An unused name of a live process may still ask. -/
def System.phase (sys : System) (invocationId : String) (id : CallId) : Phase PaymentAttempt :=
  match sys.calls id with
  | some call => if call.auth.request.invocationId = invocationId then call.stage.phase else .finished
  | none => if sys.processes id.process = .dead then .finished else .asking

/-- The attempts of an invocation that some reconciliation run has not resolved. -/
def System.observed (sys : System) (invocationId : String) : Set PaymentAttempt :=
  {attempt | ∃ process run, sys.runs process = some run ∧ ⟨invocationId, attempt⟩ ∈ run.lookups}

/-! ## The history -/

abbrev History := String → Trail CallId PaymentAttempt

/-- A call moved the status of an invocation. -/
def callTrail (trail : Trail CallId PaymentAttempt) (id : CallId) (before after : Status PaymentAttempt) :
    Trail CallId PaymentAttempt :=
  match before, after with
  | .free, .claimed _ => { trail with holder := some id }
  | .claimed none, .claimed (some _) => { trail with armings := trail.armings ++ [(id, trail.holder)] }
  | .claimed _, .free => { trail with released := trail.released ++ [trail.holder] }
  | _, _ => trail

/-- A startup recovery moved it. -/
def recoveryTrail (trail : Trail CallId PaymentAttempt) (before after : Status PaymentAttempt) :
    Trail CallId PaymentAttempt :=
  match before, after with
  | .claimed _, .free => { trail with released := trail.released ++ [trail.holder] }
  | _, _ => trail

/-- A reconciliation run that looked up `inspected` moved it. -/
def verdictTrail (trail : Trail CallId PaymentAttempt) (inspected : PaymentAttempt)
    (before after : Status PaymentAttempt) : Trail CallId PaymentAttempt :=
  match before, after with
  | .suspended recorded, .free => { trail with verdicts := trail.verdicts ++ [⟨inspected, recorded, true⟩] }
  | .suspended recorded, .settled =>
    { trail with verdicts := trail.verdicts ++ [⟨inspected, recorded, false⟩] }
  | _, _ => trail

/-- The history of one invocation after an action that led from `sys` to `next`. -/
def nextTrail (sys : System) (action : Action) (next : System) (invocationId : String)
    (trail : Trail CallId PaymentAttempt) : Trail CallId PaymentAttempt :=
  match action with
  | .call id _ => callTrail trail id (sys.db.status invocationId) (next.db.status invocationId)
  | .recover _ _ => recoveryTrail trail (sys.db.status invocationId) (next.db.status invocationId)
  | .transmit id =>
    match sys.calls id with
    | some ⟨auth, .recorded _ _ attempt⟩ =>
      if auth.request.invocationId = invocationId then
        { trail with sent := trail.sent ++ [⟨id, trail.holder, attempt⟩] }
      else trail
    | _ => trail
  | .reconcile process _ =>
    match sys.runs process with
    | some (.resolving lookup _ _) =>
      if lookup.invocationId = invocationId then
        verdictTrail trail lookup.attempt (sys.db.status invocationId) (next.db.status invocationId)
      else trail
    | _ => trail
  | _ => trail

/-- A system with the history of its run. -/
structure Traced where
  system : System
  history : History

namespace Traced

def initial : Traced := ⟨.initial, fun _ ↦ .empty⟩

def step (platform : Platform) (options : ℕ → AuthorityServiceOptions) (traced : Traced) (action : Action) :
    Option Traced :=
  (traced.system.step platform options action).map fun next ↦
    ⟨next, fun invocationId ↦ nextTrail traced.system action next invocationId
      (traced.history invocationId)⟩

def lease (traced : Traced) (invocationId : String) : Lease CallId PaymentAttempt where
  toTrail := traced.history invocationId
  status := traced.system.db.status invocationId
  phase := traced.system.phase invocationId
  observed := traced.system.observed invocationId

end Traced

/-- An action commits a reservation of an invocation. -/
def Reserves (platform : Platform) (options : ℕ → AuthorityServiceOptions) (traced : Traced)
    (action : Action) (invocationId : String) : Prop :=
  ∃ next, traced.step platform options action = some next ∧
    traced.system.db.status invocationId = .free ∧ next.system.db.status invocationId = .claimed none

/-- Every reservation an action commits meets a fence. -/
def Fenced (platform : Platform) (options : ℕ → AuthorityServiceOptions)
    (fence : Lease CallId PaymentAttempt → Prop) (traced : Traced) (action : Action) : Prop :=
  ∀ invocationId, Reserves platform options traced action invocationId → fence (traced.lease invocationId)

/-! ## Simulation -/

variable {platform : Platform} {options : ℕ → AuthorityServiceOptions}
  {fence : Lease CallId PaymentAttempt → Prop}

theorem callTrail_self (trail : Trail CallId PaymentAttempt) (id : CallId) (status : Status PaymentAttempt) :
    callTrail trail id status status = trail := by
  rcases status with - | (- | effect) | effect | - | - <;> rfl

theorem recoveryTrail_self (trail : Trail CallId PaymentAttempt) (status : Status PaymentAttempt) :
    recoveryTrail trail status status = trail := by
  cases status <;> rfl

theorem verdictTrail_self (trail : Trail CallId PaymentAttempt) (inspected : PaymentAttempt)
    (status : Status PaymentAttempt) : verdictTrail trail inspected status status = trail := by
  cases status <;> rfl

theorem lease_refl (lease : Lease CallId PaymentAttempt) : lease.Step fence lease :=
  .quiet lease.phase lease.observed (fun _ ↦ .refl _) fun _ hmem ↦ .inl hmem

/-- At most one invocation changed its status. -/
structure StatusMoved (db db' : Db) (invocationId : String) (before after : Status PaymentAttempt) :
    Prop where
  before_eq : db.status invocationId = before
  after_eq : db'.status invocationId = after
  others : ∀ other, other ≠ invocationId → db'.status other = db.status other

theorem StatusMoved.refl (db : Db) (invocationId : String) :
    StatusMoved db db invocationId (db.status invocationId) (db.status invocationId) :=
  ⟨rfl, rfl, fun _ _ ↦ rfl⟩

theorem StatusMoved.of_wrote {db db' : Db} {invocationId : String} {old : Option InvocationRecord}
    {new : InvocationRecord} (hwrote : Table.Wrote db.invocations db'.invocations old new)
    (hid : new.invocationId = invocationId) {before after : Status PaymentAttempt}
    (hbefore : rowStatus old = before) (hafter : rowStatus (some new) = after) :
    StatusMoved db db' invocationId before after := by
  subst hid
  refine ⟨?_, ?_, fun other hne ↦ ?_⟩
  · rw [Db.status, hwrote.old_eq, hbefore]
  · rw [Db.status, hwrote.find_self, hafter]
  · rw [Db.status, hwrote.find_ne hne.symm, Db.status]

/-- A write that keeps the status of its row keeps every status. -/
theorem StatusMoved.of_kept {db db' : Db} (invocationId : String) {old new : InvocationRecord}
    (hwrote : Table.Wrote db.invocations db'.invocations (some old) new)
    (hstatus : rowStatus (some new) = rowStatus (some old)) :
    StatusMoved db db' invocationId (db.status invocationId) (db.status invocationId) := by
  have hkept : ∀ other, db'.status other = db.status other := by
    intro other
    simp only [Db.status, hwrote.find]
    split
    · rename_i hid
      rw [← hid, hwrote.old_eq, hstatus]
    · rfl
  exact ⟨rfl, hkept invocationId, fun other _ ↦ hkept other⟩

/-- The status and phase changes of a call's steps. -/
inductive CallMove : Status PaymentAttempt → Status PaymentAttempt → Phase PaymentAttempt →
    Phase PaymentAttempt → Prop
  | quiet {status : Status PaymentAttempt} {p q : Phase PaymentAttempt} (drops : p.Drops q) :
      CallMove status status p q
  | reserve {q : Phase PaymentAttempt} (unsent : q = .early ∨ q = .releasing) :
      CallMove .free (.claimed none) .asking q
  | deny : CallMove .free .refused .asking .finished
  | record (attempt : PaymentAttempt) :
      CallMove (.claimed none) (.claimed (some attempt)) .early (.armed attempt)
  | release (attempt : Option PaymentAttempt) : CallMove (.claimed attempt) .free .releasing .finished
  | suspend (attempt : Option PaymentAttempt) :
      CallMove (.claimed attempt) (.suspended attempt) .late .finished
  | confirm (attempt : Option PaymentAttempt) : CallMove (.claimed attempt) .settled .late .finished

theorem ensureReceipt_phase (options : AuthorityServiceOptions) (row : InvocationRecord) (replay : Bool) :
    (ensureReceipt options row replay).phase = .finished := by
  unfold ensureReceipt
  split
  · rfl
  · split <;> rfl

theorem resolveExisting_phase (options : AuthorityServiceOptions) (row : InvocationRecord)
    (fingerprint : String) : (resolveExisting options row fingerprint).phase = .finished := by
  unfold resolveExisting
  split
  · rfl
  · split <;> first | exact ensureReceipt_phase _ _ _ | rfl

theorem decide_phase (platform : Platform) (options : AuthorityServiceOptions) (auth : AuthenticatedRequest)
    (decidedAt : ℤ) : (decide platform options auth decidedAt).phase = .asking := by
  unfold decide
  split
  · split
    · rfl
    · dsimp only
      split <;> rfl
  · rfl

/-- A committed reservation goes on to the payment or to its release. -/
theorem afterReserve_reserved_phase (platform : Platform) (options : AuthorityServiceOptions)
    (auth : AuthenticatedRequest) (terms : ChallengeTerms) (row : InvocationRecord) :
    (afterReserve platform options auth terms (.ok (.reserved row))).phase = .early ∨
      (afterReserve platform options auth terms (.ok (.reserved row))).phase = .releasing := by
  unfold afterReserve
  split <;> try exact .inr rfl
  all_goals rename_i heq; cases heq
  split
  · unfold startPayment
    split
    · exact .inl rfl
    · exact .inr rfl
  · exact .inr rfl

theorem unsent_phase {stage : Stage} (h : stage.isUnsent = true) : stage.phase.unsent := by
  cases stage <;> first | exact trivial | cases h

theorem execution_phase {stage : Stage} {execution : Payment × SignedServiceAuthorizationV1}
    (h : stage.execution = some execution) : stage.phase.Drops .late := by
  cases stage with
  | building payment serviceAuthorization => exact .overrun trivial
  | recorded payment serviceAuthorization attempt => exact .overrun trivial
  | transmitted payment serviceAuthorization attempt => exact .refl _
  | _ => cases h

theorem marking_phase {stage : Stage} (h : stage.isMarking = true) : stage.phase = .late := by
  cases stage <;> first | rfl | cases h

theorem rowStatus_retry {input : ReserveInput} {existing : Option InvocationRecord}
    (hretry : ∀ row, existing = some row → retryingFailed input row = true) : rowStatus existing = .free := by
  cases existing with
  | none => rfl
  | some row =>
    have hrow := retryingFailed_iff.1 (hretry row rfl)
    simp [rowStatus, hrow.1]

theorem rowStatus_reserved {row : InvocationRecord} (h : row.state = .RESERVED) :
    rowStatus (some row) = .claimed row.paymentAttempt := by
  simp [rowStatus, h]

theorem rowStatus_written {input : ReserveInput} {existing : Option InvocationRecord}
    {reasonCodes : List String} {now : ℤ} :
    rowStatus (some (input.written existing .RESERVED reasonCodes now)) = .claimed none ∧
      rowStatus (some (input.written existing .DENIED reasonCodes now)) = .refused := by
  cases existing <;> exact ⟨rfl, rfl⟩

theorem rowStatus_attached (receipt : SignedAuthorizationReceipt) (now : ℤ) (row : InvocationRecord) :
    rowStatus (some (attachedRow receipt now row)) = rowStatus (some row) := by
  unfold attachedRow
  split <;> rfl

variable {db db' : Db} {auth : AuthenticatedRequest} {stage stage' : Stage} {event : CallEvent}
  {processOptions : AuthorityServiceOptions}

theorem reserve_move {decidedAt : ℤ} {terms : ChallengeTerms} {now : ℤ} {result : ReserveResult}
    (h : ReserveEffect db db' (reserveInput auth decidedAt terms) (evaluate auth decidedAt terms) now
      result) :
    ∃ before after, StatusMoved db db' auth.request.invocationId before after ∧
      CallMove before after .asking (afterReserve platform processOptions auth terms (.ok result)).phase := by
  cases result with
  | existing row =>
    obtain ⟨rfl, -, -⟩ := h
    refine ⟨_, _, .refl _ _, .quiet ?_⟩
    change Phase.Drops _ (resolveExisting processOptions row auth.fingerprint).phase
    rw [resolveExisting_phase]
    exact .finish _
  | grant_conflict grant =>
    obtain ⟨rfl, -⟩ := h
    exact ⟨_, _, .refl _ _, .quiet (.finish _)⟩
  | denied new =>
    obtain ⟨existing, hexisting, hretry, hdenied⟩ := h
    obtain ⟨pinned, grant, reserved, consumed, reasonCodes, hpinned, -, -, rfl, hwritten⟩ := hdenied.effect
    have hwrote := hwritten.wrote
    rw [hpinned.invocations] at hwrote
    have hid : ((reserveInput auth decidedAt terms).written existing .DENIED reasonCodes now).invocationId =
        auth.request.invocationId :=
      ReserveInput.written_invocationId fun row hrow ↦ Table.key_of_find? (hexisting.trans hrow)
    refine ⟨_, _, .of_wrote hwrote hid (rowStatus_retry hretry) rowStatus_written.2, ?_⟩
    change CallMove _ _ _ (ensureReceipt processOptions _ false).phase
    rw [ensureReceipt_phase]
    exact .deny
  | reserved new =>
    obtain ⟨existing, hexisting, hretry, hreserved⟩ := h
    obtain ⟨pinned, middle, grant, reserved, consumed, amount, maxTotal, hpinned, -, -, -, -, -, -,
      hposted, rfl, hwritten⟩ := hreserved.effect
    have hwrote := hwritten.wrote
    rw [hposted.invocations, hpinned.invocations] at hwrote
    have hid : ((reserveInput auth decidedAt terms).written existing .RESERVED [] now).invocationId =
        auth.request.invocationId :=
      ReserveInput.written_invocationId fun row hrow ↦ Table.key_of_find? (hexisting.trans hrow)
    exact ⟨_, _, .of_wrote hwrote hid (rowStatus_retry hretry) rowStatus_written.1,
      .reserve (afterReserve_reserved_phase platform processOptions auth terms _)⟩

/-- Every step of a call moves the status of its own invocation only. -/
theorem Progress.move (h : Progress platform processOptions db auth stage event db' stage') :
    ∃ before after, StatusMoved db db' auth.request.invocationId before after ∧
      CallMove before after stage.phase stage'.phase := by
  cases h with
  | resolved known =>
    rw [resolveExisting_phase]
    exact ⟨_, _, .refl _ _, .quiet (.finish _)⟩
  | decided now retry =>
    rw [decide_phase]
    exact ⟨_, _, .refl _ _, .quiet (.refl _)⟩
  | challenged result => exact ⟨_, _, .refl _ _, .quiet (.refl _)⟩
  | failed failure => exact ⟨_, _, .refl _ _, .quiet (.finish _)⟩
  | reserved effect => exact reserve_move effect
  | released found released =>
    exact ⟨_, _, .of_wrote released.wrote found.id_eq (rowStatus_reserved found.state_eq) rfl,
      .release _⟩
  | givenUp reason failure tolerant unsent => exact ⟨_, _, .refl _ _, .quiet (.giveUp (unsent_phase unsent))⟩
  | budgeted => exact ⟨_, _, .refl _ _, .quiet (.refl _)⟩
  | authorized signed => exact ⟨_, _, .refl _ _, .quiet (.refl _)⟩
  | @recorded payment serviceAuthorization attempt now row db' entry found unarmed written =>
    have hunarmed : rowStatus (some row) = .claimed none := by
      rw [rowStatus_reserved found.state_eq, unarmed]
    exact ⟨_, _, .of_wrote written.wrote found.id_eq hunarmed (rowStatus_reserved found.state_eq), .record _⟩
  | rejected => exact ⟨_, _, .refl _ _, .quiet (.giveUp trivial)⟩
  | interrupted message executing => exact ⟨_, _, .refl _ _, .quiet (execution_phase executing)⟩
  | executed settlement result executing => exact ⟨_, _, .refl _ _, .quiet (execution_phase executing)⟩
  | marked marking found written =>
    rw [marking_phase marking]
    exact ⟨_, _, .of_wrote written.wrote found.id_eq (rowStatus_reserved found.state_eq) rfl,
      .suspend _⟩
  | confirmed found consumed =>
    rw [ensureReceipt_phase]
    exact ⟨_, _, .of_wrote consumed.wrote found.id_eq (rowStatus_reserved found.state_eq) rfl,
      .confirm _⟩
  | unrecorded reason => exact ⟨_, _, .refl _ _, .quiet (.refl _)⟩
  | attached signed find stores wrote grants transitions =>
    exact ⟨_, _, .of_kept _ wrote (rowStatus_attached _ _ _), .quiet (.refl _)⟩

theorem phase_setCall (sys : System) (id : CallId) (call : Call) (invocationId : String) :
    (sys.setCall id call).phase invocationId = Function.update (sys.phase invocationId) id
      (if call.auth.request.invocationId = invocationId then call.stage.phase else .finished) := by
  funext other
  by_cases hid : other = id
  · subst hid
    simp [System.phase, System.setCall]
  · simp only [System.phase, System.setCall, Function.update_of_ne hid]
    rfl

theorem phase_of_call {sys : System} {id : CallId} {call : Call} (h : sys.calls id = some call)
    (invocationId : String) : sys.phase invocationId id =
      if call.auth.request.invocationId = invocationId then call.stage.phase else .finished := by
  simp [System.phase, h]

/-- A call's move of its invocation is a step of the lease. -/
theorem CallMove.step {lease : Lease CallId PaymentAttempt} {id : CallId}
    {before after : Status PaymentAttempt} {q : Phase PaymentAttempt}
    (h : CallMove before after (lease.phase id) q) (hstatus : lease.status = before)
    (hfence : before = .free → after = .claimed none → fence lease) :
    lease.Step fence {
      toTrail := callTrail lease.toTrail id before after, status := after,
      phase := Function.update lease.phase id q, observed := lease.observed } := by
  obtain ⟨trail, status, phase, observed⟩ := lease
  dsimp only at h hstatus ⊢
  subst hstatus
  have hdrops : ∀ new, (phase id).Drops new → ∀ k, (phase k).Drops (Function.update phase id new k) :=
    fun _ hnew ↦ Lease.drops_update hnew
  generalize hp : phase id = p at h
  cases h with
  | quiet drops =>
    rw [callTrail_self]
    refine .quiet _ _ (hdrops q ?_) fun _ hmem ↦ .inl hmem
    rw [hp]
    exact drops
  | reserve unsent => exact .claim id q (hfence rfl rfl) rfl hp unsent
  | deny => exact .refuse _ rfl (hdrops _ (.finish _))
  | record attempt => exact .arm id attempt rfl hp
  | release attempt =>
    have hstep := @Lease.Step.release _ _ _ fence ⟨trail, .claimed attempt, phase, observed⟩ id attempt rfl hp
    cases attempt <;> exact hstep
  | suspend attempt =>
    have hstep := @Lease.Step.suspend _ _ _ fence ⟨trail, .claimed attempt, phase, observed⟩ id attempt rfl hp
    cases attempt <;> exact hstep
  | confirm attempt =>
    have hstep := @Lease.Step.settle _ _ _ fence ⟨trail, .claimed attempt, phase, observed⟩ id attempt rfl hp
    cases attempt <;> exact hstep

theorem call_step {sys : System} {history : History} {id : CallId} {invocationId : String}
    (hcall : sys.calls id = some ⟨auth, stage⟩)
    (h : Progress platform (options id.process) sys.db auth stage event db' stage')
    (hfence : sys.db.status invocationId = .free → db'.status invocationId = .claimed none →
      fence (Traced.lease ⟨sys, history⟩ invocationId)) :
    (Traced.lease ⟨sys, history⟩ invocationId).Step fence {
      toTrail := callTrail (history invocationId) id (sys.db.status invocationId) (db'.status invocationId)
      status := db'.status invocationId
      phase := System.phase ({ sys with db := db' }.setCall id ⟨auth, stage'⟩) invocationId
      observed := sys.observed invocationId } := by
  obtain ⟨before, after, hmoved, hmove⟩ := h.move
  have hphase := phase_of_call hcall invocationId
  rw [phase_setCall]
  by_cases hid : auth.request.invocationId = invocationId
  · subst hid
    rw [hmoved.before_eq, hmoved.after_eq] at *
    rw [if_pos rfl] at hphase ⊢
    have hleaseMove : CallMove before after ((Traced.lease ⟨sys, history⟩ auth.request.invocationId).phase id)
        stage'.phase := by
      change CallMove before after (sys.phase auth.request.invocationId id) stage'.phase
      rw [hphase]
      exact hmove
    exact hleaseMove.step hmoved.before_eq hfence
  · rw [hmoved.others invocationId (Ne.symm hid), callTrail_self, if_neg hid]
    rw [if_neg hid] at hphase
    exact .quiet _ _ (Lease.drops_update (hphase ▸ .refl _)) fun _ hmem ↦ .inl hmem

/-- Recovery frees the claims without an attempt and suspends the others. -/
theorem recover_step {lease : Lease CallId PaymentAttempt} {result : RecoveryResult} {reason : String}
    {now : ℤ} {invocationId : String} (h : recoverInterruptedInvocations reason now db = .ok (result, db'))
    (hstatus : lease.status = db.status invocationId) :
    lease.Step fence {
      toTrail := recoveryTrail lease.toTrail (db.status invocationId) (db'.status invocationId)
      status := db'.status invocationId, phase := lease.phase, observed := lease.observed } := by
  obtain ⟨trail, status, phase, observed⟩ := lease
  dsimp only at hstatus ⊢
  have hfind := recoverInterruptedInvocations_find h invocationId
  have hkept : db'.status invocationId = db.status invocationId →
      Lease.Step fence ⟨trail, status, phase, observed⟩
        ⟨recoveryTrail trail (db.status invocationId) (db'.status invocationId), db'.status invocationId,
          phase, observed⟩ := by
    intro hsame
    rw [hsame, recoveryTrail_self, ← hstatus]
    exact lease_refl _
  cases hrow : db.invocations.find? invocationId with
  | none =>
    rw [hrow] at hfind
    apply hkept
    rw [Db.status, Db.status, hrow, hfind]
    rfl
  | some row =>
    rw [hrow, Option.map_some] at hfind
    by_cases hreserved : row.state = .RESERVED
    · rw [if_pos hreserved] at hfind
      have hbefore : db.status invocationId = .claimed row.paymentAttempt := by
        rw [Db.status, hrow, rowStatus_reserved hreserved]
      rw [hbefore] at hstatus ⊢
      subst hstatus
      cases hattempt : row.paymentAttempt with
      | none =>
        have hafter : db'.status invocationId = .free := by
          simp [Db.status, hfind, recoveredRow, hattempt, rowStatus]
        rw [hafter]
        exact .recoverUnarmed rfl
      | some attempt =>
        have hafter : db'.status invocationId = .suspended (some attempt) := by
          simp [Db.status, hfind, recoveredRow, hattempt, rowStatus]
        rw [hafter]
        exact .recoverArmed attempt rfl
    · rw [if_neg hreserved] at hfind
      apply hkept
      rw [Db.status, Db.status, hrow, hfind]

theorem mem_lookups {invocationId : String} {attempt : PaymentAttempt}
    (h : ⟨invocationId, attempt⟩ ∈ db.lookups) : db.status invocationId = .suspended (some attempt) := by
  obtain ⟨row, hmem, hattempt⟩ := List.mem_filterMap.1 h
  obtain ⟨other, hother, heq⟩ := Option.map_eq_some_iff.1 hattempt
  cases heq
  obtain ⟨hfind, hstate⟩ := mem_selectByState.1 hmem
  simp [Db.status, hfind, rowStatus, hstate, hother]

/-- The attempts held after one run moved are those of the others and its own. -/
theorem observed_update {sys : System} {process : ℕ} {run : Option ReconcileRun} {sys' : System}
    (hruns : sys'.runs = Function.update sys.runs process run) {invocationId : String}
    {attempt : PaymentAttempt} (h : attempt ∈ sys'.observed invocationId) :
    attempt ∈ sys.observed invocationId ∨ ⟨invocationId, attempt⟩ ∈ unresolvedLookups run := by
  obtain ⟨other, found, hfound, hmem⟩ := h
  rw [hruns] at hfound
  by_cases hother : other = process
  · subst hother
    rw [Function.update_self] at hfound
    subst hfound
    exact .inr hmem
  · rw [Function.update_of_ne hother] at hfound
    exact .inl ⟨other, found, hfound, hmem⟩

theorem reconcile_step {sys sys' : System} {history : History} {process : ℕ} {run : Option ReconcileRun}
    {reconcileEvent : ReconcileEvent} {invocationId : String}
    (h : ReconcileProgress platform processOptions sys.db (sys.runs process) reconcileEvent sys'.db run)
    (hruns : sys'.runs = Function.update sys.runs process run)
    (hphase : sys'.phase invocationId = sys.phase invocationId) :
    (Traced.lease ⟨sys, history⟩ invocationId).Step fence
      (Traced.lease ⟨sys', fun other ↦ nextTrail sys (.reconcile process reconcileEvent) sys' other
        (history other)⟩ invocationId) := by
  have hobserved : ∀ attempt ∈ sys'.observed invocationId, attempt ∈ sys.observed invocationId ∨
      ⟨invocationId, attempt⟩ ∈ unresolvedLookups run := fun attempt ↦ observed_update hruns
  have hkept : unresolvedLookups run ⊆ unresolvedLookups (sys.runs process) →
      sys'.observed invocationId ⊆ sys.observed invocationId := by
    intro hsubset attempt hmem
    rcases hobserved attempt hmem with hold | hnew
    · exact hold
    · cases hbefore : sys.runs process with
      | none =>
        rw [hbefore] at hsubset
        cases hsubset hnew
      | some before =>
        rw [hbefore] at hsubset
        exact ⟨process, before, hbefore, hsubset hnew⟩
  -- A step that moves no status changes at most what the runs hold.
  have hquiet : (∀ other, sys'.db.status other = sys.db.status other) →
      (∀ attempt ∈ sys'.observed invocationId, attempt ∈ sys.observed invocationId ∨
        sys.db.status invocationId = .suspended (some attempt)) →
      (Traced.lease ⟨sys, history⟩ invocationId).Step fence
        (Traced.lease ⟨sys', fun other ↦ nextTrail sys (.reconcile process reconcileEvent) sys' other
          (history other)⟩ invocationId) := by
    intro hstatus hseen
    have htrail : nextTrail sys (.reconcile process reconcileEvent) sys' invocationId (history invocationId) =
        history invocationId := by
      simp only [nextTrail, hstatus, verdictTrail_self, ite_self]
      split <;> rfl
    simp only [Traced.lease, htrail, hstatus, hphase]
    exact .quiet _ _ (fun _ ↦ .refl _) hseen
  generalize hbefore : sys.runs process = before at h hkept
  generalize hafter : sys'.db = db' at h
  cases h with
  | listed =>
    apply hquiet fun other ↦ by rw [hafter]
    intro attempt hmem
    rcases hobserved attempt hmem with hold | hnew
    · exact .inl hold
    · rw [unresolvedLookups_nextLookup] at hnew
      exact .inr (mem_lookups hnew)
  | decided decides =>
    exact hquiet (fun other ↦ by rw [hafter]) fun attempt hmem ↦ .inl (hkept (List.Subset.refl _) hmem)
  | skipped rest unresolved =>
    refine hquiet (fun other ↦ by rw [hafter]) fun attempt hmem ↦ .inl (hkept ?_ hmem)
    rw [unresolvedLookups_nextLookup]
    exact unresolved.subset
  | @attached row found rest receipt stored now db' signed find stores wrote grants transitions =>
    refine hquiet (fun other ↦ ?_) fun attempt hmem ↦ .inl (hkept ?_ hmem)
    · rw [hafter]
      have hmoved := StatusMoved.of_kept other wrote (rowStatus_attached _ _ _)
      exact hmoved.after_eq
    · rw [unresolvedLookups_nextLookup]
      exact List.Subset.refl _
  | @resolved lookup outcome rest now row db' found reconciled =>
    rw [unresolvedLookups_afterResolve] at hkept
    have hsubset := hkept (List.subset_cons_self _ _)
    have hid : (reconciledRow row outcome now).invocationId = lookup.invocationId := by
      cases outcome <;> exact found.id_eq
    have hmoved : StatusMoved sys.db db' lookup.invocationId (.suspended row.paymentAttempt)
        (rowStatus (some (reconciledRow row outcome now))) := by
      refine .of_wrote (reconciled_wrote reconciled) hid ?_ rfl
      simp [rowStatus, found.state_eq]
    subst hafter
    by_cases hsame : lookup.invocationId = invocationId
    · subst hsame
      have hmem : lookup.attempt ∈ sys.observed lookup.invocationId :=
        ⟨process, _, hbefore, List.mem_cons_self⟩
      have hsuspended : (Traced.lease ⟨sys, history⟩ lookup.invocationId).status =
          .suspended row.paymentAttempt := hmoved.before_eq
      have htrail : nextTrail sys (.reconcile process (.store (some now))) sys' lookup.invocationId
          (history lookup.invocationId) = verdictTrail (history lookup.invocationId) lookup.attempt
            (.suspended row.paymentAttempt) (rowStatus (some (reconciledRow row outcome now))) := by
        simp only [nextTrail, hbefore, if_true, hmoved.before_eq, hmoved.after_eq]
      simp only [Traced.lease, htrail, hmoved.after_eq, hphase]
      cases outcome with
      | confirmed settlement =>
        exact .judge ⟨lookup.attempt, row.paymentAttempt, false⟩ _ hmem hsubset hsuspended
      | failed reason =>
        exact .judge ⟨lookup.attempt, row.paymentAttempt, true⟩ _ hmem hsubset hsuspended
    · have htrail : nextTrail sys (.reconcile process (.store (some now))) sys' invocationId
          (history invocationId) = history invocationId := by
        simp only [nextTrail, hbefore, if_neg hsame]
      simp only [Traced.lease, htrail, hmoved.others invocationId (Ne.symm hsame), hphase]
      exact .quiet _ _ (fun _ ↦ .refl _) fun attempt hmem ↦ .inl (hsubset hmem)

theorem phase_setPending (sys : System) (process : ℕ) (pendingId : String) (entry : Option Pending)
    (invocationId : String) : (sys.setPending process pendingId entry).phase invocationId = sys.phase invocationId :=
  rfl

/-- Renaming the state of a process that stays alive moves no call. -/
theorem phase_setProcess {sys : System} {process : ℕ} {state : ProcessState}
    (hbefore : sys.processes process ≠ .dead) (hafter : state ≠ .dead) (invocationId : String) :
    System.phase { sys with processes := Function.update sys.processes process state } invocationId =
      sys.phase invocationId := by
  funext id
  simp only [System.phase]
  split
  · rfl
  · by_cases hid : id.process = process
    · subst hid
      simp [hafter, hbefore]
    · simp [Function.update_of_ne hid]

theorem admitted_phase (access : Option ℤ) (entry : Option Pending) :
    (admitted db access entry auth).phase = .asking ∨ (admitted db access entry auth).phase = .finished := by
  unfold admitted
  split
  · unfold earlyLookup
    split
    · exact .inl rfl
    · exact .inr rfl
  · split <;> exact .inr rfl

theorem admit_phase {sys : System} {id : CallId} (hserving : sys.processes id.process = .serving)
    (hunused : sys.calls id = none) (access : Option ℤ) (invocationId : String) (k : CallId) :
    (sys.phase invocationId k).Drops ((sys.accept id auth access).phase invocationId k) := by
  have hasking : sys.phase invocationId id = .asking := by
    simp [System.phase, hunused, hserving]
  have hjoined : (sys.accept id auth access).phase invocationId = Function.update (sys.phase invocationId) id
      (if auth.request.invocationId = invocationId then
        (admitted sys.db access (sys.pending id.process auth.request.invocationId) auth).phase
      else .finished) := by
    unfold System.accept
    dsimp only
    split
    · rw [phase_setCall]
    · rw [phase_setPending, phase_setCall]
  rw [hjoined]
  apply Lease.drops_update
  rw [hasking]
  split
  · rcases admitted_phase access (sys.pending id.process auth.request.invocationId) with heq | heq
    · rw [heq]
      exact .refl _
    · rw [heq]
      exact .finish _
  · exact .finish _

theorem crash_phase (sys : System) (process : ℕ) (invocationId : String) (k : CallId) :
    (sys.phase invocationId k).Drops (System.phase { sys with
      processes := Function.update sys.processes process .dead
      calls := fun id ↦ if id.process = process then none else sys.calls id
      pending := Function.update sys.pending process fun _ ↦ none
      runs := Function.update sys.runs process none } invocationId k) := by
  simp only [System.phase]
  by_cases hk : k.process = process
  · subst hk
    simp only [if_true, Function.update_self]
    exact .finish _
  · simp only [if_neg hk, Function.update_of_ne hk]
    exact .refl _

/-- An action that moves no status and takes no action only lets calls and runs go. -/
theorem quiet_step {sys sys' : System} {history : History} {trail : Trail CallId PaymentAttempt}
    {invocationId : String} (htrail : trail = history invocationId) (hdb : sys'.db = sys.db)
    (hphase : ∀ k, (sys.phase invocationId k).Drops (sys'.phase invocationId k))
    (hruns : ∀ process run, sys'.runs process = some run → sys.runs process = some run) :
    (Traced.lease ⟨sys, history⟩ invocationId).Step fence {
      toTrail := trail, status := sys'.db.status invocationId, phase := sys'.phase invocationId,
      observed := sys'.observed invocationId } := by
  subst htrail
  rw [hdb]
  refine .quiet _ _ hphase fun attempt hmem ↦ .inl ?_
  obtain ⟨process, run, hrun, hlookup⟩ := hmem
  exact ⟨process, run, hruns process run hrun, hlookup⟩

theorem deliver_phase {sys : System} {id : CallId} {leader : ℕ} {outcome : Outcome}
    (hcall : sys.calls id = some ⟨auth, .waiting leader⟩) (invocationId : String) (k : CallId) :
    (sys.phase invocationId k).Drops ((sys.setCall id ⟨auth, .done outcome⟩).phase invocationId k) := by
  rw [phase_setCall]
  apply Lease.drops_update
  rw [phase_of_call hcall]
  split <;> exact .refl _

theorem transmit_step {sys : System} {history : History} {id : CallId} {payment : Payment}
    {serviceAuthorization : SignedServiceAuthorizationV1} {attempt : PaymentAttempt}
    {credentials : List Credential} (invocationId : String)
    (hcall : sys.calls id = some ⟨auth, .recorded payment serviceAuthorization attempt⟩) :
    (Traced.lease ⟨sys, history⟩ invocationId).Step fence
      (Traced.lease ⟨{ sys.setCall id ⟨auth, .transmitted payment serviceAuthorization attempt⟩ with
        credentials := credentials }, fun other ↦ nextTrail sys (.transmit id)
          { sys.setCall id ⟨auth, .transmitted payment serviceAuthorization attempt⟩ with
            credentials := credentials } other (history other)⟩ invocationId) := by
  have hphase := phase_of_call hcall invocationId
  have hnew := phase_setCall sys id ⟨auth, .transmitted payment serviceAuthorization attempt⟩ invocationId
  simp only [Traced.lease, nextTrail, hcall]
  change Lease.Step fence _ ⟨_, _, (sys.setCall id
    ⟨auth, .transmitted payment serviceAuthorization attempt⟩).phase invocationId, _⟩
  rw [hnew]
  by_cases hid : auth.request.invocationId = invocationId
  · simp only [if_pos hid] at hphase ⊢
    exact .send id attempt hphase
  · simp only [if_neg hid] at hphase ⊢
    refine .quiet _ _ (Lease.drops_update ?_) fun _ hmem ↦ .inl hmem
    change (sys.phase invocationId id).Drops _
    rw [hphase]
    exact .refl _

/-- The running system simulates the lease of every invocation. -/
theorem Traced.step_lease {traced next : Traced} {action : Action}
    (hstep : traced.step platform options action = some next)
    (hfenced : Fenced platform options fence traced action) (invocationId : String) :
    (traced.lease invocationId).Step fence (next.lease invocationId) := by
  have hreserves : traced.system.db.status invocationId = .free →
      next.system.db.status invocationId = .claimed none → fence (traced.lease invocationId) :=
    fun hfree hclaimed ↦ hfenced invocationId ⟨next, hstep, hfree, hclaimed⟩
  obtain ⟨sys, history⟩ := traced
  obtain ⟨sys', hsys, rfl⟩ := Option.map_eq_some_iff.1 hstep
  dsimp only at hsys hreserves ⊢
  cases System.step_cases hsys with
  | @started process unstarted =>
    refine quiet_step rfl rfl (fun k ↦ ?_) fun _ _ hrun ↦ hrun
    rw [phase_setProcess (by rw [unstarted]; decide) (by decide)]
    exact .refl _
  | @recovered process now result db' starting recover =>
    have hphase : System.phase { sys with processes := Function.update sys.processes process .serving }
        invocationId = sys.phase invocationId :=
      phase_setProcess (by rw [starting]; decide) (by decide) invocationId
    have hsimulated : (Traced.lease ⟨sys, history⟩ invocationId).Step fence _ := recover_step recover rfl
    rw [Traced.lease] at hsimulated ⊢
    dsimp only at hsimulated ⊢
    rw [← hphase] at hsimulated
    rw [← hphase]
    exact hsimulated
  | unrecovered => exact quiet_step (recoveryTrail_self _ _) rfl (fun _ ↦ .refl _) fun _ _ hrun ↦ hrun
  | crashed process =>
    refine quiet_step rfl rfl (crash_phase sys process invocationId) fun other run hrun ↦ ?_
    dsimp only at hrun
    by_cases hother : other = process
    · subst hother
      rw [Function.update_self] at hrun
      cases hrun
    · rwa [Function.update_of_ne hother] at hrun
  | admitted serving unused authenticated =>
    refine quiet_step rfl System.accept_kept.db (admit_phase serving unused _ invocationId) fun process run hrun ↦ ?_
    rwa [System.accept_kept.runs] at hrun
  | unauthenticated => exact quiet_step rfl rfl (fun _ ↦ .refl _) fun _ _ hrun ↦ hrun
  | called call progress => exact call_step call progress hreserves
  | transmitted call => exact transmit_step invocationId call
  | delivered call leaderDone =>
    exact quiet_step rfl rfl (deliver_phase call invocationId) fun _ _ hrun ↦ hrun
  | finished call pending leader => exact quiet_step rfl rfl (fun _ ↦ .refl _) fun _ _ hrun ↦ hrun
  | reconciled serving progress => exact reconcile_step progress rfl rfl
  | settled attempt => exact quiet_step rfl rfl (fun _ ↦ .refl _) fun _ _ hrun ↦ hrun
  | perished attempt => exact quiet_step rfl rfl (fun _ ↦ .refl _) fun _ _ hrun ↦ hrun

end VirtualHaibin.Authority
