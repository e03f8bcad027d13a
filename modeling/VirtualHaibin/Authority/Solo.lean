import VirtualHaibin.Authority.Fences
import VirtualHaibin.Authority.Joining
import VirtualHaibin.Authority.Refusals
import VirtualHaibin.Authority.Soundness

/-!
# One process at a time

Runs in which a process starts only after every earlier one is dead, and in which lookups answer
what the chain shows.  Both fences then hold at every reservation: the pending map keeps other calls
of the process out, and the rows that a reconciliation run holds stay blocked until it resolves
them.  So a second credential leaves only after every earlier one is known never to settle, and the
credentials that settled or still can fit into the counters of their grant.
-/

namespace VirtualHaibin.Authority

open Foundation Payments Evidence

section

variable {platform : Platform} {options : ℕ → AuthorityServiceOptions} {digests : Digests}
  {sys sys' : System} {action : Action}

def System.Alive (sys : System) (process : ℕ) : Prop :=
  sys.processes process = .starting ∨ sys.processes process = .serving

/-- A process starts only when no other is alive. -/
def StartsAlone (sys : System) : Action → Prop
  | .start _ => ∀ process, ¬ sys.Alive process
  | _ => True

/-- What the chain shows of an attempt bears out the outcome of its lookup. -/
def System.BearsOut (sys : System) (attempt : PaymentAttempt) : ReconciliationOutcome → Prop
  | .confirmed _ => attempt ∈ sys.settled
  | .failed _ => attempt ∈ sys.perished

/-- A lookup decides only what the chain shows, and no attempt both settles and perishes. -/
def AnswersTruly (sys : System) : Action → Prop
  | .reconcile process (.answer answer) => ∀ lookup rest outcome,
      sys.runs process = some (.looking lookup rest) → lookupOutcome answer = some outcome →
        sys.BearsOut lookup.attempt outcome
  | .settle attempt => attempt ∉ sys.perished
  | .perish attempt => attempt ∉ sys.settled
  | _ => True

/-- The steps of one process at a time, with a provider that tells the truth about the chain. -/
structure Solo (sys : System) (action : Action) : Prop where
  alone : StartsAlone sys action
  truthful : AnswersTruly sys action

/-- A call never moves a blocked invocation. -/
theorem CallMove.suspended {recorded : Option PaymentAttempt} {after : Status PaymentAttempt}
    {p q : Phase PaymentAttempt} (h : CallMove (.suspended recorded) after p q) : after = .suspended recorded := by
  cases h
  rfl

theorem Progress.suspended {processOptions : AuthorityServiceOptions} {db db' : Db} {auth : AuthenticatedRequest}
    {stage stage' : Stage} {event : CallEvent} {invocationId : String} {recorded : Option PaymentAttempt}
    (h : Progress platform processOptions db auth stage event db' stage')
    (hsuspended : db.status invocationId = .suspended recorded) : db'.status invocationId = .suspended recorded := by
  obtain ⟨before, after, hmoved, hmove⟩ := h.move
  by_cases hid : invocationId = auth.request.invocationId
  · subst hid
    rw [hmoved.before_eq] at hsuspended
    subst hsuspended
    rw [hmoved.after_eq, hmove.suspended]
  · rw [hmoved.others invocationId hid, hsuspended]

theorem recoverInterruptedInvocations_suspended {reason : String} {now : ℤ} {result : RecoveryResult} {db db' : Db}
    {invocationId : String} {recorded : Option PaymentAttempt}
    (h : recoverInterruptedInvocations reason now db = .ok (result, db'))
    (hsuspended : db.status invocationId = .suspended recorded) : db'.status invocationId = .suspended recorded := by
  have hfind := recoverInterruptedInvocations_find h invocationId
  cases hrow : db.invocations.find? invocationId with
  | none =>
    rw [Db.status, hrow] at hsuspended
    cases hsuspended
  | some row =>
    have hreserved : row.state ≠ .RESERVED := by
      intro hstate
      rw [Db.status, hrow, rowStatus_reserved hstate] at hsuspended
      cases hsuspended
    rw [hrow, Option.map_some, if_neg hreserved] at hfind
    rw [Db.status, hfind, ← hrow]
    exact hsuspended

/-- A step that resolves nothing leaves every blocked invocation blocked. -/
theorem System.step_suspended {invocationId : String} {recorded : Option PaymentAttempt}
    (hstep : sys.step platform options action = some sys')
    (hother : ∀ process event, action ≠ .reconcile process event)
    (hsuspended : sys.db.status invocationId = .suspended recorded) :
    sys'.db.status invocationId = .suspended recorded := by
  have hdb := System.step_db hstep
  generalize sys'.db = db' at hdb ⊢
  cases hdb with
  | kept action => exact hsuspended
  | called call progress => exact progress.suspended hsuspended
  | recovered starting recover => exact recoverInterruptedInvocations_suspended recover hsuspended
  | reconciled serving progress => exact absurd rfl (hother _ _)

theorem nodup_lookups (db : Db) : (db.lookups.map Lookup.invocationId).Nodup := by
  have hsublist : (db.lookups.map Lookup.invocationId).Sublist
      (db.listReconciliationRequired.map InvocationRecord.invocationId) := by
    rw [Db.lookups]
    generalize db.listReconciliationRequired = rows
    induction rows with
    | nil => exact .slnil
    | cons row rows ih =>
      rw [List.filterMap_cons]
      cases row.paymentAttempt with
      | none => exact ih.cons _
      | some attempt => exact ih.cons_cons _
  exact hsublist.nodup (nodup_selectByState .RECONCILIATION_REQUIRED)

/-- What a reconciliation run holds is blocked in the database, each invocation once, and what it
decided the chain bears out. -/
structure RunHolds (sys : System) (db : Db) (run : Option ReconcileRun) : Prop where
  distinct : ((unresolvedLookups run).map Lookup.invocationId).Nodup
  blocked : ∀ lookup ∈ unresolvedLookups run, db.status lookup.invocationId = .suspended (some lookup.attempt)
  borne : ∀ lookup outcome rest, run = some (.resolving lookup outcome rest) → sys.BearsOut lookup.attempt outcome

theorem RunHolds.none (sys : System) (db : Db) : RunHolds sys db none where
  distinct := List.nodup_nil
  blocked _ hmem := by cases hmem
  borne _ _ _ heq := by cases heq

/-- A run that goes on to its next lookup has decided nothing about it. -/
theorem nextLookup_ne_resolving {lookup : Lookup} {outcome : ReconciliationOutcome} {rest more : List Lookup} :
    nextLookup more ≠ some (.resolving lookup outcome rest) := by
  cases more with
  | nil => exact fun heq ↦ by cases heq
  | cons next more => exact fun heq ↦ by cases heq

theorem afterResolve_ne_resolving {lookup : Lookup} {outcome other : ReconciliationOutcome} {row : InvocationRecord}
    {rest more : List Lookup} : afterResolve outcome row more ≠ some (.resolving lookup other rest) := by
  unfold afterResolve
  split
  · exact fun heq ↦ by cases heq
  · exact nextLookup_ne_resolving

theorem RunHolds.reconcile {process : ℕ} {processOptions : AuthorityServiceOptions} {run : Option ReconcileRun}
    {event : ReconcileEvent} {db' : Db} (h : RunHolds sys sys.db (sys.runs process))
    (hprogress : ReconcileProgress platform processOptions sys.db (sys.runs process) event db' run)
    (htruthful : AnswersTruly sys (.reconcile process event)) : RunHolds sys db' run := by
  generalize hbefore : sys.runs process = before at h hprogress
  have hanswers : ∀ answer lookup rest outcome, event = .answer answer → before = some (.looking lookup rest) →
      lookupOutcome answer = some outcome → sys.BearsOut lookup.attempt outcome := by
    rintro answer lookup rest outcome rfl rfl
    exact htruthful lookup rest outcome hbefore
  cases hprogress with
  | listed =>
    refine ⟨?_, fun lookup hmem ↦ ?_, fun _ _ _ heq ↦ absurd heq nextLookup_ne_resolving⟩
    · rw [unresolvedLookups_nextLookup]
      exact nodup_lookups sys.db
    · rw [unresolvedLookups_nextLookup] at hmem
      exact mem_lookups hmem
  | decided decides =>
    refine ⟨h.distinct, h.blocked, fun lookup outcome rest heq ↦ ?_⟩
    cases heq
    exact hanswers _ _ _ _ rfl rfl decides
  | skipped rest unresolved =>
    refine ⟨?_, fun lookup hmem ↦ ?_, fun _ _ _ heq ↦ absurd heq nextLookup_ne_resolving⟩
    · rw [unresolvedLookups_nextLookup]
      exact (unresolved.map Lookup.invocationId).nodup h.distinct
    · rw [unresolvedLookups_nextLookup] at hmem
      exact h.blocked lookup (unresolved.subset hmem)
  | @resolved lookup outcome rest now row db' found reconciled =>
    have hdistinct := h.distinct
    rw [unresolvedLookups_some, ReconcileRun.lookups, List.map_cons, List.nodup_cons] at hdistinct
    refine ⟨?_, fun other hmem ↦ ?_, fun _ _ _ heq ↦ absurd heq afterResolve_ne_resolving⟩
    · rw [unresolvedLookups_afterResolve]
      exact hdistinct.2
    · rw [unresolvedLookups_afterResolve] at hmem
      have hne : other.invocationId ≠ lookup.invocationId := by
        intro heq
        exact hdistinct.1 (heq ▸ List.mem_map_of_mem hmem)
      have hid : (reconciledRow row outcome now).invocationId = lookup.invocationId := by
        cases outcome <;> exact found.id_eq
      have hmoved := StatusMoved.of_wrote (reconciled_wrote reconciled) hid rfl rfl
      rw [hmoved.others _ hne]
      exact h.blocked other (List.mem_cons_of_mem _ hmem)
  | attached signed find stores wrote grants transitions =>
    refine ⟨?_, fun lookup hmem ↦ ?_, fun _ _ _ heq ↦ absurd heq nextLookup_ne_resolving⟩
    · rw [unresolvedLookups_nextLookup]
      exact h.distinct
    · rw [unresolvedLookups_nextLookup] at hmem
      have hmoved := StatusMoved.of_kept lookup.invocationId wrote (rowStatus_attached _ _ _)
      rw [hmoved.after_eq]
      exact h.blocked lookup hmem

/-- A process that is alive was alive before, or starts. -/
theorem System.step_alive (hstep : sys.step platform options action = some sys') {process : ℕ}
    (halive : sys'.Alive process) : sys.Alive process ∨ action = .start process := by
  cases System.step_cases hstep with
  | @started started unstarted =>
    by_cases hsame : process = started
    · exact .inr (hsame ▸ rfl)
    · simp only [System.Alive, Function.update_of_ne hsame] at halive
      exact .inl halive
  | @recovered recovered now result db' starting recover =>
    by_cases hsame : process = recovered
    · exact .inl (.inl (hsame ▸ starting))
    · simp only [System.Alive, Function.update_of_ne hsame] at halive
      exact .inl halive
  | crashed crashedProcess =>
    by_cases hsame : process = crashedProcess
    · subst hsame
      simp [System.Alive] at halive
    · simp only [System.Alive, Function.update_of_ne hsame] at halive
      exact .inl halive
  | admitted serving unused authenticated =>
    rw [System.Alive, System.accept_kept.processes] at halive
    exact .inl halive
  | _ => exact .inl halive

/-- At most one process is alive. -/
def System.Single (sys : System) : Prop :=
  ∀ process other, sys.Alive process → sys.Alive other → process = other

theorem single_initial : System.initial.Single := by
  intro process _ halive
  rcases halive with heq | heq <;> cases heq

theorem System.Single.step (h : sys.Single) (halone : StartsAlone sys action)
    (hstep : sys.step platform options action = some sys') : sys'.Single := by
  intro process other halive hother
  rcases System.step_alive hstep halive with hbefore | rfl
  · rcases System.step_alive hstep hother with hbefore' | rfl
    · exact h process other hbefore hbefore'
    · exact absurd hbefore (halone process)
  · rcases System.step_alive hstep hother with hbefore' | heq
    · exact absurd hbefore' (halone other)
    · exact Action.start.inj heq

/-- At most one process is alive, its run holds blocked rows, and the chain does not contradict itself. -/
structure Guarded (sys : System) : Prop where
  joined : Joined sys
  single : sys.Single
  holds : ∀ process, RunHolds sys sys.db (sys.runs process)
  disjoint : ∀ attempt ∈ sys.settled, attempt ∉ sys.perished

theorem guarded_initial : Guarded .initial where
  joined := joined_initial
  single := single_initial
  holds _ := .none _ _
  disjoint _ hmem := by cases hmem

theorem RunHolds.kept {db db' : Db} {run : Option ReconcileRun} (h : RunHolds sys db run)
    (hblocked : ∀ invocationId recorded, db.status invocationId = .suspended recorded →
      db'.status invocationId = .suspended recorded)
    (hsettled : sys.settled ⊆ sys'.settled) (hperished : sys.perished ⊆ sys'.perished) : RunHolds sys' db' run where
  distinct := h.distinct
  blocked lookup hmem := hblocked _ _ (h.blocked lookup hmem)
  borne lookup outcome rest heq := by
    have hborne := h.borne lookup outcome rest heq
    cases outcome with
    | confirmed settlement => exact hsettled hborne
    | failed reason => exact hperished hborne

/-- What the chain shows is never taken back. -/
theorem System.step_chain (hstep : sys.step platform options action = some sys') :
    sys.settled ⊆ sys'.settled ∧ sys.perished ⊆ sys'.perished := by
  cases System.step_cases hstep with
  | settled attempt => exact ⟨List.subset_append_left _ _, List.Subset.refl _⟩
  | perished attempt => exact ⟨List.Subset.refl _, List.subset_append_left _ _⟩
  | admitted serving unused authenticated =>
    rw [System.accept_kept.settled, System.accept_kept.perished]
    exact ⟨List.Subset.refl _, List.Subset.refl _⟩
  | _ => exact ⟨List.Subset.refl _, List.Subset.refl _⟩

/-- A step that resolves nothing leaves each run as it was, or ends it with its process. -/
theorem System.step_runs (hstep : sys.step platform options action = some sys')
    (hother : ∀ process event, action ≠ .reconcile process event) (process : ℕ) :
    sys'.runs process = sys.runs process ∨ sys'.runs process = none := by
  cases System.step_cases hstep with
  | crashed crashedProcess =>
    dsimp only
    by_cases hsame : process = crashedProcess
    · subst hsame
      exact .inr (Function.update_self ..)
    · exact .inl (Function.update_of_ne hsame ..)
  | admitted serving unused authenticated => exact .inl (congrFun System.accept_kept.runs process)
  | reconciled serving progress => exact absurd rfl (hother _ _)
  | _ => exact .inl rfl

/-- Only the process that is alive has a run. -/
theorem Guarded.runs_eq_none (h : Guarded sys) {process other : ℕ} (hserving : sys.processes process = .serving)
    (hne : other ≠ process) : sys.runs other = none := by
  cases hrun : sys.runs other with
  | none => rfl
  | some run => exact absurd (h.single other process (.inr (h.joined.running other run hrun)) (.inr hserving)) hne

theorem Guarded.holds_step (h : Guarded sys) (htruthful : AnswersTruly sys action)
    (hstep : sys.step platform options action = some sys') (process : ℕ) :
    RunHolds sys' sys'.db (sys'.runs process) := by
  obtain ⟨hsettled, hperished⟩ := System.step_chain hstep
  by_cases hreconcile : ∃ other event, action = .reconcile other event
  · obtain ⟨other, event, rfl⟩ := hreconcile
    cases System.step_cases hstep with
    | @reconciled _ _ run db' serving progress =>
      by_cases hsame : process = other
      · subst hsame
        dsimp only
        rw [Function.update_self]
        exact ((h.holds process).reconcile progress htruthful).kept (fun _ _ heq ↦ heq) hsettled hperished
      · dsimp only
        rw [Function.update_of_ne hsame, h.runs_eq_none serving hsame]
        exact .none _ _
  · have hother : ∀ other event, action ≠ .reconcile other event := fun other event heq ↦
      hreconcile ⟨other, event, heq⟩
    rcases System.step_runs hstep hother process with hkept | hnone
    · rw [hkept]
      exact (h.holds process).kept (fun _ _ ↦ System.step_suspended hstep hother) hsettled hperished
    · rw [hnone]
      exact .none _ _

theorem Guarded.disjoint_step (h : Guarded sys) (htruthful : AnswersTruly sys action)
    (hstep : sys.step platform options action = some sys') : ∀ attempt ∈ sys'.settled, attempt ∉ sys'.perished := by
  cases System.step_cases hstep with
  | settled attempt =>
    intro other hmem
    rcases List.mem_append.1 hmem with hold | hnew
    · exact h.disjoint other hold
    · rw [List.mem_singleton.1 hnew]
      exact htruthful
  | perished attempt =>
    intro other hmem hperished
    rcases List.mem_append.1 hperished with hold | hnew
    · exact h.disjoint other hmem hold
    · rw [List.mem_singleton.1 hnew] at hmem
      exact htruthful hmem
  | admitted serving unused authenticated =>
    rw [System.accept_kept.settled, System.accept_kept.perished]
    exact h.disjoint
  | _ => exact h.disjoint

theorem Guarded.step (h : Guarded sys) (halone : StartsAlone sys action) (htruthful : AnswersTruly sys action)
    (hstep : sys.step platform options action = some sys') : Guarded sys' where
  joined := h.joined.step hstep
  single := h.single.step halone hstep
  holds := h.holds_step htruthful hstep
  disjoint := h.disjoint_step htruthful hstep

/-! ## The fences -/

/-- Neither a recovery nor a reconciliation claims a free invocation. -/
theorem recoverInterruptedInvocations_free {reason : String} {now : ℤ} {result : RecoveryResult} {db db' : Db}
    {invocationId : String} (h : recoverInterruptedInvocations reason now db = .ok (result, db'))
    (hfree : db.status invocationId = .free) : db'.status invocationId = .free := by
  have hfind := recoverInterruptedInvocations_find h invocationId
  cases hrow : db.invocations.find? invocationId with
  | none =>
    rw [hrow] at hfind
    rw [Db.status, hfind]
    rfl
  | some row =>
    have hreserved : row.state ≠ .RESERVED := by
      intro hstate
      rw [Db.status, hrow, rowStatus_reserved hstate] at hfree
      cases hfree
    rw [hrow, Option.map_some, if_neg hreserved] at hfind
    rw [Db.status, hfind, ← hrow]
    exact hfree

theorem ReconcileProgress.free {processOptions : AuthorityServiceOptions} {db db' : Db}
    {run run' : Option ReconcileRun} {event : ReconcileEvent} {invocationId : String}
    (h : ReconcileProgress platform processOptions db run event db' run')
    (hfree : db.status invocationId = .free) : db'.status invocationId = .free := by
  cases h with
  | @resolved lookup outcome rest now row db' found reconciled =>
    have hid : (reconciledRow row outcome now).invocationId = lookup.invocationId := by
      cases outcome <;> exact found.id_eq
    have hmoved : StatusMoved db db' lookup.invocationId (.suspended row.paymentAttempt)
        (rowStatus (some (reconciledRow row outcome now))) := by
      refine .of_wrote (reconciled_wrote reconciled) hid ?_ rfl
      simp [rowStatus, found.state_eq]
    by_cases hsame : invocationId = lookup.invocationId
    · subst hsame
      rw [hmoved.before_eq] at hfree
      cases hfree
    · rw [hmoved.others _ hsame]
      exact hfree
  | attached signed find stores wrote grants transitions =>
    have hmoved := StatusMoved.of_kept invocationId wrote (rowStatus_attached _ _ _)
    rw [hmoved.after_eq]
    exact hfree
  | _ => exact hfree

/-- Only a call that has not reserved claims a free invocation, its own. -/
theorem System.step_claims {invocationId : String} (hstep : sys.step platform options action = some sys')
    (hfree : sys.db.status invocationId = .free) (hclaimed : sys'.db.status invocationId = .claimed none) :
    ∃ id auth stage, sys.calls id = some ⟨auth, stage⟩ ∧ auth.request.invocationId = invocationId ∧
      stage.phase = .asking := by
  have hdb := System.step_db hstep
  generalize sys'.db = db' at hdb hclaimed
  cases hdb with
  | kept action =>
    rw [hfree] at hclaimed
    cases hclaimed
  | @called id event auth stage stage' db' call progress =>
    obtain ⟨before, after, hmoved, hmove⟩ := progress.move
    by_cases hid : invocationId = auth.request.invocationId
    · subst hid
      rw [hmoved.before_eq] at hfree
      rw [hmoved.after_eq] at hclaimed
      subst hfree hclaimed
      generalize hphase : stage.phase = phase at hmove
      cases hmove with
      | reserve unsent => exact ⟨id, auth, stage, call, rfl, hphase⟩
    · rw [hmoved.others _ hid, hfree] at hclaimed
      cases hclaimed
  | recovered starting recover =>
    rw [recoverInterruptedInvocations_free recover hfree] at hclaimed
    cases hclaimed
  | reconciled serving progress =>
    rw [progress.free hfree] at hclaimed
    cases hclaimed

theorem isActive_of_asking {stage : Stage} (h : stage.phase = .asking) : stage.isActive = true := by
  cases stage <;> first | rfl | cases h

theorem isActive_of_unsent {stage : Stage} (h : stage.isUnsent = true) : stage.isActive = true := by
  cases stage <;> first | rfl | cases h

theorem isUnsent_of_asking {stage : Stage} (h : stage.phase = .asking) : stage.isUnsent = false := by
  cases stage <;> first | rfl | cases h

/-- Other calls for the invocation wait for the one that reserves it. -/
theorem Guarded.reservesAlone {traced : Traced} (h : Guarded traced.system) :
    ReservesAlone platform options traced action := by
  rintro invocationId ⟨next, hnext, hfree, hclaimed⟩ other ⟨otherAuth, otherStage⟩ hother hotherId
  obtain ⟨sys', hstep, rfl⟩ := Option.map_eq_some_iff.1 hnext
  obtain ⟨id, auth, stage, hcall, hid, hasking⟩ := System.step_claims hstep hfree hclaimed
  by_contra hheld
  have hunsent : otherStage.isUnsent = true := Bool.not_eq_false _ ▸ hheld
  have hprocess : id.process = other.process :=
    h.single _ _ (.inr (h.joined.serving id _ hcall)) (.inr (h.joined.serving other _ hother))
  obtain rfl := h.joined.active_unique hcall hother (isActive_of_asking hasking) (isActive_of_unsent hunsent)
    hprocess (hid.trans hotherId.symm)
  have hstage : otherStage = stage := by
    rw [hcall] at hother
    exact (congrArg Call.stage (Option.some.inj hother)).symm
  subst hstage
  exact hheld (isUnsent_of_asking hasking)

/-- What a run holds is blocked, and a blocked invocation is not reserved. -/
theorem Guarded.reservesUnobserved {traced : Traced} (h : Guarded traced.system) :
    ReservesUnobserved platform options traced action := by
  rintro invocationId ⟨next, -, hfree, -⟩ process run hrun lookup hlookup rfl
  have hholds := h.holds process
  rw [hrun] at hholds
  rw [hholds.blocked lookup hlookup] at hfree
  cases hfree

/-- The credentials of an invocation, in the order in which they left. -/
def System.transmitted (sys : System) (invocationId : String) : List Credential :=
  sys.credentials.filter fun credential ↦ credential.invocationId = invocationId

/-- What the fences give along a run, with the history of each invocation tied to the credentials
and to what the chain shows. -/
structure Exclusively (traced : Traced) : Prop extends AllFenced traced where
  guarded : Guarded traced.system
  voided : ∀ invocationId, ∀ verdict ∈ (traced.history invocationId).verdicts, verdict.void = true →
    verdict.inspected ∈ traced.system.perished
  sent : ∀ invocationId, (traced.history invocationId).sent.map Sending.effect =
    (traced.system.transmitted invocationId).map Credential.attempt

theorem exclusively_initial : Exclusively Traced.initial where
  toAllFenced := allFenced_initial
  guarded := guarded_initial
  voided _ _ hmem := by cases hmem
  sent _ := rfl

theorem callTrail_verdicts (trail : Trail CallId PaymentAttempt) (id : CallId)
    (before after : Status PaymentAttempt) : (callTrail trail id before after).verdicts = trail.verdicts := by
  unfold callTrail
  split <;> rfl

theorem callTrail_sent (trail : Trail CallId PaymentAttempt) (id : CallId)
    (before after : Status PaymentAttempt) : (callTrail trail id before after).sent = trail.sent := by
  unfold callTrail
  split <;> rfl

theorem recoveryTrail_verdicts (trail : Trail CallId PaymentAttempt) (before after : Status PaymentAttempt) :
    (recoveryTrail trail before after).verdicts = trail.verdicts := by
  unfold recoveryTrail
  split <;> rfl

theorem recoveryTrail_sent (trail : Trail CallId PaymentAttempt) (before after : Status PaymentAttempt) :
    (recoveryTrail trail before after).sent = trail.sent := by
  unfold recoveryTrail
  split <;> rfl

theorem verdictTrail_sent (trail : Trail CallId PaymentAttempt) (inspected : PaymentAttempt)
    (before after : Status PaymentAttempt) : (verdictTrail trail inspected before after).sent = trail.sent := by
  unfold verdictTrail
  split <;> rfl

/-- A verdict that voids is the new one of an invocation that came free, or an earlier one. -/
theorem mem_verdictTrail {trail : Trail CallId PaymentAttempt} {inspected : PaymentAttempt}
    {before after : Status PaymentAttempt} {verdict : Verdict PaymentAttempt}
    (hmem : verdict ∈ (verdictTrail trail inspected before after).verdicts) (hvoid : verdict.void = true) :
    verdict ∈ trail.verdicts ∨
      (∃ recorded, before = .suspended recorded) ∧ after = .free ∧ verdict.inspected = inspected := by
  unfold verdictTrail at hmem
  split at hmem
  · rename_i recorded
    rcases List.mem_append.1 hmem with hold | hnew
    · exact .inl hold
    · rw [List.mem_singleton.1 hnew]
      exact .inr ⟨⟨recorded, rfl⟩, rfl, rfl⟩
  · rename_i recorded
    rcases List.mem_append.1 hmem with hold | hnew
    · exact .inl hold
    · rw [List.mem_singleton.1 hnew] at hvoid
      cases hvoid
  · exact .inl hmem

/-- A reconciliation that frees its invocation decided that the attempt failed. -/
theorem ReconcileProgress.freed {processOptions : AuthorityServiceOptions} {db db' : Db} {lookup : Lookup}
    {outcome : ReconciliationOutcome} {rest : List Lookup} {run' : Option ReconcileRun} {event : ReconcileEvent}
    {recorded : Option PaymentAttempt}
    (h : ReconcileProgress platform processOptions db (some (.resolving lookup outcome rest)) event db' run')
    (hbefore : db.status lookup.invocationId = .suspended recorded)
    (hafter : db'.status lookup.invocationId = .free) : ∃ reason, outcome = .failed reason := by
  cases h with
  | skipped rest unresolved =>
    rw [hbefore] at hafter
    cases hafter
  | @resolved _ _ _ now row db' found reconciled =>
    cases outcome with
    | failed reason => exact ⟨reason, rfl⟩
    | confirmed settlement =>
      have hid : (reconciledRow row (.confirmed settlement) now).invocationId = lookup.invocationId := found.id_eq
      have hmoved := StatusMoved.of_wrote (reconciled_wrote reconciled) hid rfl rfl
      rw [hmoved.after_eq] at hafter
      cases hafter

theorem Guarded.voided_step {history : History} {next : System} {invocationId : String} (h : Guarded sys)
    (hvoided : ∀ verdict ∈ (history invocationId).verdicts, verdict.void = true → verdict.inspected ∈ sys.perished)
    (hstep : sys.step platform options action = some next) :
    ∀ verdict ∈ (nextTrail sys action next invocationId (history invocationId)).verdicts, verdict.void = true →
      verdict.inspected ∈ next.perished := by
  have hperished := (System.step_chain hstep).2
  intro verdict hmem hvoid
  have hkept : verdict ∈ (history invocationId).verdicts → verdict.inspected ∈ next.perished :=
    fun hold ↦ hperished (hvoided verdict hold hvoid)
  cases action with
  | call id event =>
    rw [nextTrail, callTrail_verdicts] at hmem
    exact hkept hmem
  | recover process access =>
    rw [nextTrail, recoveryTrail_verdicts] at hmem
    exact hkept hmem
  | transmit id =>
    apply hkept
    unfold nextTrail at hmem
    dsimp only at hmem
    split at hmem
    · split at hmem <;> exact hmem
    · exact hmem
  | reconcile process event =>
    unfold nextTrail at hmem
    dsimp only at hmem
    split at hmem
    · rename_i lookup outcome rest hrun
      split at hmem
      · rename_i hid
        subst hid
        rcases mem_verdictTrail hmem hvoid with hold | ⟨⟨recorded, hbefore⟩, hafter, heq⟩
        · exact hkept hold
        · cases System.step_cases hstep with
          | reconciled serving progress =>
            rw [hrun] at progress
            obtain ⟨reason, rfl⟩ := progress.freed hbefore hafter
            rw [heq]
            exact hperished ((h.holds process).borne lookup _ rest hrun)
      · exact hkept hmem
    · exact hkept hmem
  | _ => exact hkept hmem

/-- A transmission adds one credential, to the history of its invocation. -/
theorem System.sent_step {history : History} {next : System} {invocationId : String}
    (hsent : (history invocationId).sent.map Sending.effect =
      (sys.transmitted invocationId).map Credential.attempt)
    (hstep : sys.step platform options action = some next) :
    (nextTrail sys action next invocationId (history invocationId)).sent.map Sending.effect =
      (next.transmitted invocationId).map Credential.attempt := by
  rcases System.step_credentials hstep with
    hkept | ⟨id, auth, payment, serviceAuthorization, attempt, rfl, hcall, hnew⟩
  · have htrail : (nextTrail sys action next invocationId (history invocationId)).sent =
        (history invocationId).sent := by
      cases action with
      | call id event => exact callTrail_sent _ _ _ _
      | recover process access => exact recoveryTrail_sent _ _ _
      | reconcile process event =>
        unfold nextTrail
        dsimp only
        split
        · split
          · exact verdictTrail_sent _ _ _ _
          · rfl
        · rfl
      | transmit id =>
        cases System.step_cases hstep with
        | transmitted call => simp at hkept
      | _ => rfl
    rw [htrail, hsent, System.transmitted, System.transmitted, hkept]
  · rw [System.transmitted, hnew, List.filter_append, List.map_append, ← System.transmitted, ← hsent]
    simp only [nextTrail, hcall]
    by_cases hid : auth.request.invocationId = invocationId
    · simp [hid, Credential.invocationId]
    · simp [hid, Credential.invocationId]

theorem Exclusively.step {traced next : Traced} (h : Exclusively traced)
    (hallowed : Solo traced.system action) (hstep : traced.step platform options action = some next) :
    Exclusively next := by
  have hreserves : ReservesAlone platform options traced action := h.guarded.reservesAlone
  have hunobserved : ReservesUnobserved platform options traced action := h.guarded.reservesUnobserved
  obtain ⟨sys', hsys, hnext⟩ := Option.map_eq_some_iff.1 hstep
  refine ⟨h.toAllFenced.step hreserves hunobserved hstep, ?_, fun invocationId ↦ ?_, fun invocationId ↦ ?_⟩
  · rw [← hnext]
    exact h.guarded.step hallowed.alone hallowed.truthful hsys
  · rw [← hnext]
    exact h.guarded.voided_step (h.voided invocationId) hsys
  · rw [← hnext]
    exact System.sent_step (h.sent invocationId) hsys

theorem Exclusively.of_run {labels : List Action} {traced : Traced}
    (hrun : Run (Traced.step platform options) (fun traced action ↦ Solo traced.system action) Traced.initial labels
      traced) : Exclusively traced :=
  hrun.invariant exclusively_initial fun _ _ _ h hallowed hstep ↦ h.step hallowed hstep

/-! ## One live credential -/

/-- The credentials that settled or still can. -/
def System.live (sys : System) : List Credential :=
  sys.credentials.filter fun credential ↦ credential.attempt ∉ sys.perished

theorem Exclusively.perished_of_voided {traced : Traced} (h : Exclusively traced) {invocationId : String}
    {attempt : PaymentAttempt} (hvoided : (traced.history invocationId).Voided attempt) :
    attempt ∈ traced.system.perished := by
  obtain ⟨verdict, hmem, hvoid, rfl⟩ := hvoided
  exact h.voided invocationId verdict hmem hvoid

theorem Exclusively.transmitted_pairwise {traced : Traced} (h : Exclusively traced) (invocationId : String) :
    (traced.system.transmitted invocationId).Pairwise fun earlier _ ↦
      (traced.history invocationId).Voided earlier.attempt := by
  have hsent := (h.exclusive invocationId).sent_voided
  have heffects : ((traced.history invocationId).sent.map Sending.effect).Pairwise fun earlier _ ↦
      (traced.history invocationId).Voided earlier :=
    List.pairwise_map.2 hsent
  rw [h.sent invocationId] at heffects
  exact List.pairwise_map.1 heffects

/-- What is pairwise among the entries of each key is pairwise among the entries that share one. -/
theorem pairwise_of_filter {α κ : Type} [DecidableEq κ] {key : α → κ} {related : α → α → Prop} {entries : List α}
    (h : ∀ k, (entries.filter fun entry ↦ key entry = k).Pairwise related) :
    entries.Pairwise fun earlier later ↦ key earlier = key later → related earlier later := by
  induction entries with
  | nil => exact .nil
  | cons entry entries ih =>
    refine List.pairwise_cons.2 ⟨fun later hmem hkey ↦ ?_, ih fun k ↦ ?_⟩
    · have hown := h (key entry)
      rw [List.filter_cons_of_pos (by simp), List.pairwise_cons] at hown
      exact hown.1 later (List.mem_filter.2 ⟨hmem, by simp [hkey]⟩)
    · exact (h k).sublist ((List.sublist_cons_self entry entries).filter _)

/-- The live credentials are of different invocations. -/
theorem Exclusively.nodup_live {traced : Traced} (h : Exclusively traced) :
    (traced.system.live.map Credential.invocationId).Nodup := by
  have hpairwise : traced.system.credentials.Pairwise fun earlier later ↦
      earlier.invocationId = later.invocationId → earlier.attempt ∈ traced.system.perished := by
    apply pairwise_of_filter
    intro invocationId
    exact (h.transmitted_pairwise invocationId).imp h.perished_of_voided
  rw [List.Nodup, List.pairwise_map]
  refine (hpairwise.filter _).imp_of_mem fun hearlier _ hvoided heq ↦ ?_
  exact absurd (hvoided heq) (of_decide_eq_true (List.mem_filter.1 hearlier).2)

theorem Exclusively.live_le_one {traced : Traced} (h : Exclusively traced) (invocationId : String) :
    (traced.system.live.filter fun credential ↦ credential.invocationId = invocationId).length ≤ 1 := by
  have hnodup := h.nodup_live.sublist ((List.filter_sublist (p := fun credential ↦
    credential.invocationId = invocationId)).map Credential.invocationId)
  have hsame : (traced.system.live.filter fun credential ↦ credential.invocationId = invocationId).map
      Credential.invocationId = List.replicate (traced.system.live.filter fun credential ↦
        credential.invocationId = invocationId).length invocationId := by
    rw [List.map_eq_replicate_iff]
    intro credential hmem
    exact of_decide_eq_true (List.mem_filter.1 hmem).2
  rw [hsame] at hnodup
  exact List.nodup_replicate.1 hnodup

/-- Before a call transmits, every credential that left for its invocation is known to be dead. -/
theorem Exclusively.dead_of_unsent {traced : Traced} (h : Exclusively traced) {id : CallId} {call : Call}
    (hcall : traced.system.calls id = some call) (hunsent : call.stage.isUnsent = true) :
    ∀ earlier ∈ traced.system.transmitted call.auth.request.invocationId,
      (traced.history call.auth.request.invocationId).Voided earlier.attempt := by
  have hphase : ((traced.lease call.auth.request.invocationId).phase id).unsent := by
    change (traced.system.phase call.auth.request.invocationId id).unsent
    rw [phase_of_call hcall, if_pos rfl]
    exact unsent_phase hunsent
  have hvoided := (h.exclusive call.auth.request.invocationId).voided_of_unsent (h.owned _) hphase
  intro earlier hmem
  have hattempt := List.mem_map_of_mem (f := Credential.attempt) hmem
  rw [← h.sent] at hattempt
  obtain ⟨sending, hsending, heq⟩ := List.mem_map.1 hattempt
  exact heq ▸ hvoided sending hsending

/-- In every run of one process at a time at most one credential of an invocation has settled or
still can, and while a call holds a reservation it has not paid, a verdict has been applied that
each earlier one failed, as the chain shows. -/
theorem live_unique_of_solo {labels : List Action} {traced : Traced}
    (hrun : Run (Traced.step platform options) (fun traced action ↦ Solo traced.system action) Traced.initial labels
      traced) :
    (∀ invocationId,
      (traced.system.live.filter fun credential ↦ credential.invocationId = invocationId).length ≤ 1) ∧
    ∀ id call, traced.system.calls id = some call → call.stage.isUnsent = true →
      ∀ earlier ∈ traced.system.transmitted call.auth.request.invocationId,
        (traced.history call.auth.request.invocationId).Voided earlier.attempt ∧
          earlier.attempt ∈ traced.system.perished ∧ earlier.attempt ∉ traced.system.settled := by
  have hexclusively := Exclusively.of_run hrun
  refine ⟨hexclusively.live_le_one, fun id call hcall hunsent earlier hmem ↦ ?_⟩
  have hvoided := hexclusively.dead_of_unsent hcall hunsent earlier hmem
  have hperished := hexclusively.perished_of_voided hvoided
  exact ⟨hvoided, hperished, fun hsettled ↦ hexclusively.guarded.disjoint _ hsettled hperished⟩

end

namespace Sample

open Evidence.Sample (profile)

/-- A run of one honest process. -/
def careful (sys : System) (action : Action) : Prop := honest sys action ∧ Solo sys action

theorem careful_transmitted : Run (System.step platform fun _ ↦ options) careful .initial (paying ++ [.transmit id])
    ((pending.sent credential).withCall id auth attemptedDb
      (.transmitted (payment reserved) serviceAuthorization attempt)) := by
  have hstarts : StartsAlone .initial (.start 0) := by
    intro process halive
    rcases halive with heq | heq <;> cases heq
  have hstarted : Run (System.step platform fun _ ↦ options) careful .initial [.start 0, .recover 0 (some 1000)]
      started :=
    (Run.start.next ⟨⟨trivial, trivial⟩, hstarts, trivial⟩ starting_step).next
      ⟨⟨trivial, trivial⟩, trivial, trivial⟩ serving_step
  have harrived : Run (System.step platform fun _ ↦ options) careful .initial
      [.start 0, .recover 0 (some 1000), .arrive id input 2500 (some 2500)]
      (pending.withCall id auth .empty (.known none)) :=
    hstarted.next ⟨⟨arrival_honest, trivial⟩, trivial, trivial⟩ arrives
  have hasked := run_call harrived (by exact ⟨⟨trivial, trivial⟩, trivial, trivial⟩) resuming_step
  have hfetched := run_call hasked (by exact ⟨⟨trivial, trivial⟩, trivial, trivial⟩) fetching_step
  have hheld := run_call hfetched (by exact ⟨⟨trivial, trivial⟩, trivial, trivial⟩) reserving_step
  have hbudgeted := run_call hheld (by exact ⟨⟨trivial, trivial⟩, trivial, trivial⟩) budgeting_step
  have hsigned := run_call hbudgeted (by exact ⟨⟨trivial, trivial⟩, trivial, trivial⟩) authorizing_step
  have hprepared : Prepares platform (fun _ ↦ options)
      (pending.withCall id auth reservedDb (.building (payment reserved) serviceAuthorization))
      (.call id (.submit attempt (some 3200))) := by
    intro other payment authorization hcall
    rw [System.withCall_calls] at hcall
    cases hcall
    exact ⟨answers, prepares⟩
  have hrecorded := run_call hsigned ⟨⟨trivial, hprepared⟩, trivial, trivial⟩ building_step
  exact hrecorded.next ⟨⟨trivial, trivial⟩, trivial, trivial⟩ (System.withCall_transmit _ _ _)

/-- The first call has ended, and its attempt will never settle. -/
def perishing : System :=
  { (pending.sent credential).setPending 0 "invocation" none with perished := [attempt] }.withCall id auth
    unresolvedDb (.refused (reconciliationRequiredError "invocation"))

/-- A second call for the invocation. -/
def retried : CallId := ⟨0, 1⟩

def retriedPending : System :=
  { perishing with db := freedDb }.setPending 0 "invocation" (some ⟨fingerprint, 1⟩)

theorem freed_solo : Attained careful { perishing with db := freedDb } := by
  have htransmitted : Attained careful _ := ⟨_, careful_transmitted⟩
  have hmarked := (htransmitted.call (by exact ⟨⟨trivial, trivial⟩, trivial, trivial⟩) unknown_step).call
    (by exact ⟨⟨trivial, trivial⟩, trivial, trivial⟩) marking_step
  have hfinished : Attained careful (((pending.sent credential).setPending 0 "invocation" none).withCall id auth
      unresolvedDb (.refused (reconciliationRequiredError "invocation"))) :=
    hmarked.next (.finish id) ⟨⟨trivial, trivial⟩, trivial, trivial⟩ rfl
  have hunsettled : attempt ∉ (((pending.sent credential).setPending 0 "invocation" none).withCall id auth
      unresolvedDb (.refused (reconciliationRequiredError "invocation"))).settled := List.not_mem_nil
  have hperished : Attained careful perishing :=
    hfinished.next (.perish attempt) ⟨⟨trivial, trivial⟩, trivial, hunsettled⟩ rfl
  have hself : perishing.withRun 0 (unresolvedDb, none) = perishing := System.withRun_idle rfl unresolvedDb
  rw [← hself] at hperished
  have hlisted : Attained careful (perishing.withRun 0 (unresolvedDb, some (.looking lookup []))) :=
    hperished.reconcile .list rfl ⟨⟨trivial, trivial⟩, trivial, trivial⟩ rfl
  have htrue : AnswersTruly (perishing.withRun 0 (unresolvedDb, some (.looking lookup [])))
      (.reconcile 0 (.answer (.expired "901"))) := by
    intro other rest outcome hrun hdecides
    cases hrun
    cases hdecides
    exact List.mem_singleton_self attempt
  have hanswered : Attained careful (perishing.withRun 0 (unresolvedDb, resolving)) :=
    hlisted.reconcile (.answer (.expired "901")) rfl ⟨⟨trivial, trivial⟩, trivial, htrue⟩ rfl
  have hfreed := hanswered.reconcile (.store (some 6000)) rfl ⟨⟨trivial, trivial⟩, trivial, trivial⟩ freeing_step
  rw [System.withRun_idle rfl] at hfreed
  exact hfreed

theorem retried_solo : Attained careful
    (retriedPending.withCall retried auth renewedDb (.budgeting (payment renewed))) := by
  have hhonest : CollisionFree platform (fun _ ↦ options) digests (.arrive retried input 6100 (some 6100)) := by
    intro other hother
    rw [authenticated_at (by decide) (by decide)] at hother
    cases hother
    exact ⟨rfl, rfl, rfl⟩
  have harrived : Attained careful (retriedPending.withCall retried auth freedDb (.known (some freedRow))) :=
    freed_solo.next (.arrive retried input 6100 (some 6100)) ⟨⟨hhonest, trivial⟩, trivial, trivial⟩
      (System.withCall_arrive rfl rfl (authenticated_at (by decide) (by decide)) rfl)
  have hresume : callStep platform options freedDb auth (.known (some freedRow)) (.resume 6200) =
      some (freedDb, .fetching 6200 profile paidRequest) :=
    congrArg (fun stage ↦ some (freedDb, stage)) (@decided_at 6200 (by decide))
  have hfetched : Attained careful (retriedPending.withCall retried auth freedDb (.reserving 6200 terms)) :=
    (harrived.call (by exact ⟨⟨trivial, trivial⟩, trivial, trivial⟩) hresume).next
      (.call retried (.challenge (.challenge challenge))) ⟨⟨trivial, trivial⟩, trivial, trivial⟩
      (System.withCall_step _)
  exact hfetched.call (by exact ⟨⟨trivial, trivial⟩, trivial, trivial⟩) renewing_step

/-- The retry holds its reservation, and the credential of the first call is known to be dead. -/
theorem live_unique_of_solo_retried : ∃ (labels : List Action) (history : History),
    Run (Traced.step platform fun _ ↦ options) (fun traced action ↦ Solo traced.system action) Traced.initial labels
      ⟨retriedPending.withCall retried auth renewedDb (.budgeting (payment renewed)), history⟩ ∧
    ((retriedPending.withCall retried auth renewedDb (.budgeting (payment renewed))).live.filter
      fun credential ↦ credential.invocationId = "invocation").length ≤ 1 ∧
    (history "invocation").Voided attempt := by
  obtain ⟨labels, hrun⟩ := retried_solo
  obtain ⟨history, htraced⟩ : ∃ history, Run (Traced.step platform fun _ ↦ options)
      (fun traced action ↦ Solo traced.system action) Traced.initial labels
        ⟨retriedPending.withCall retried auth renewedDb (.budgeting (payment renewed)), history⟩ :=
    Traced.run_of_run (fun _ _ hallowed ↦ hallowed.2) hrun
  obtain ⟨hunique, hdead⟩ := live_unique_of_solo htraced
  refine ⟨labels, history, htraced, hunique "invocation", ?_⟩
  have hsent : credential ∈ (retriedPending.withCall retried auth renewedDb
      (.budgeting (payment renewed))).transmitted "invocation" :=
    List.mem_filter.2 ⟨List.mem_singleton_self credential, by decide⟩
  exact (hdead retried _ System.withCall_calls rfl credential hsent).1

end Sample

/-! ## Live credentials and their grant -/

section

variable {platform : Platform} {options : ℕ → AuthorityServiceOptions} {digests : Digests} {sys : System}

/-- What a credential pays. -/
def Credential.amount (credential : Credential) : ℕ := Decimal.amount credential.attempt.amountAtomic

/-- The attempt of a credential is for the amount of its request. -/
theorem CallBound.amount_eq {processOptions : AuthorityServiceOptions} {db : Db} {credential : Credential}
    (h : CallBound platform processOptions digests db credential.sender) :
    credential.amount = Decimal.amount credential.auth.request.amountAtomic := by
  obtain ⟨hpayment, -, hprepared⟩ := h.stage
  obtain ⟨profile, -, haccepted⟩ := hpayment.accepted
  rw [Credential.amount, hprepared.amount_eq, haccepted.amount_eq]
  rfl

/-- A live credential is still shown by its row. -/
theorem Exclusively.carried {traced : Traced} (h : Exclusively traced) {credential : Credential}
    (hmem : credential ∈ traced.system.live) :
    (traced.lease credential.invocationId).Carries credential.attempt := by
  obtain ⟨hsent, hlive⟩ := List.mem_filter.1 hmem
  have hattempt : credential.attempt ∈ (traced.history credential.invocationId).sent.map Sending.effect := by
    rw [h.sent]
    exact List.mem_map_of_mem (List.mem_filter.2 ⟨hsent, by simp⟩)
  obtain ⟨sending, hsending, heq⟩ := List.mem_map.1 hattempt
  rw [← heq]
  refine (h.exclusive credential.invocationId).sent_carried sending hsending fun hvoided ↦ ?_
  exact of_decide_eq_true hlive (h.perished_of_voided (heq ▸ hvoided))

theorem counted_of_carries {traced : Traced} {invocationId : String} {attempt : PaymentAttempt} {row : InvocationRecord}
    (h : (traced.lease invocationId).Carries attempt)
    (hfind : traced.system.db.invocations.find? invocationId = some row) :
    row.isOpen = true ∨ row.isSettled = true := by
  have hstatus : (traced.lease invocationId).status = rowStatus (some row) := by
    rw [← hfind]
    rfl
  rw [Lease.Carries, hstatus, rowStatus] at h
  cases hstate : row.state <;> simp [InvocationRecord.isOpen, InvocationRecord.isSettled, hstate] at h ⊢

/-- The row of a live credential counts at least its amount toward its grant. -/
theorem Exclusively.amount_le {traced : Traced} (h : Exclusively traced)
    (hbound : Bound platform options digests traced.system) {credential : Credential}
    (hmem : credential ∈ traced.system.live) :
    ∃ row, traced.system.db.invocations.find? credential.invocationId = some row ∧
      credential.amount ≤ held credential.auth.grantKey row + spent credential.auth.grantKey row := by
  have hsender := hbound.credentials credential (List.mem_filter.1 hmem).1
  obtain ⟨row, hfind, hfingerprint⟩ := (hsender.stands rfl).row
  have hcontent := hbound.rows _ _ hfind
  have hkey : row.grantKey = credential.auth.grantKey := by
    rw [hcontent.grantKey_eq, hfingerprint]
    exact hsender.agree.grantOf_eq
  have hamount : Decimal.amount row.amountAtomic = credential.amount := by
    rw [hcontent.amount_eq, hfingerprint]
    exact (congrArg Decimal.amount hsender.agree.amount).trans hsender.amount_eq.symm
  refine ⟨row, hfind, ?_⟩
  rcases counted_of_carries (h.carried hmem) hfind with hopen | hsettled
  · rw [held, if_pos ⟨hkey, hopen⟩, hamount]
    exact Nat.le_add_right _ _
  · rw [spent, if_pos ⟨hkey, hsettled⟩, hamount]
    exact Nat.le_add_left _ _

theorem Accounted.totals_eq (h : Accounted platform options digests sys) (key : GrantKey) :
    Decimal.amount (sys.db.reservedTotal key) + Decimal.amount (sys.db.consumedTotal key) =
      sys.db.invocations.sum fun row ↦ held key row + spent key row := by
  rw [h.balanced.reservedTotal_eq, h.balanced.consumedTotal_eq, Decimal.amount_repr, Decimal.amount_repr, Table.sum,
    Table.sum, Table.sum, List.sum_map_add]

/-- The totals of a grant stay within the permit of every credential under it. -/
theorem totals_le_maxTotal (hbound : Bound platform options digests sys)
    (haccounted : Accounted platform options digests sys) {credential : Credential}
    (hmem : credential ∈ sys.credentials) :
    Decimal.amount (sys.db.reservedTotal credential.auth.grantKey) +
        Decimal.amount (sys.db.consumedTotal credential.auth.grantKey) ≤
      Decimal.amount credential.auth.permit.maxTotalAtomic := by
  have hsender := hbound.credentials credential hmem
  obtain ⟨grant, hgrant, -, hpinned⟩ := (hsender.stands rfl).grant
  have hmaxTotal : grant.maxTotalAtomic = credential.auth.permit.maxTotalAtomic := hpinned
  obtain ⟨maxTotal, -, heq, hle⟩ := (haccounted.balanced.grant _ grant hgrant).maxTotal
  rw [haccounted.totals_eq, ← hmaxTotal, heq, Decimal.amount_repr, Table.sum, List.sum_map_add]
  exact hle

/-- The live credentials of a grant stay within its totals. -/
theorem Exclusively.sum_live_le {traced : Traced} (h : Exclusively traced)
    (hbound : Bound platform options digests traced.system)
    (haccounted : Accounted platform options digests traced.system) (key : GrantKey) :
    ((traced.system.live.filter fun credential ↦ credential.auth.grantKey = key).map Credential.amount).sum ≤
      Decimal.amount (traced.system.db.reservedTotal key) + Decimal.amount (traced.system.db.consumedTotal key) := by
  have hnodup : ((traced.system.live.filter fun credential ↦ credential.auth.grantKey = key).map
      Credential.invocationId).Nodup :=
    h.nodup_live.sublist (List.filter_sublist.map Credential.invocationId)
  rw [haccounted.totals_eq]
  refine Table.sum_items_le hnodup fun credential hmem ↦ ?_
  obtain ⟨hlive, hkey⟩ := List.mem_filter.1 hmem
  exact of_decide_eq_true hkey ▸ h.amount_le hbound hlive

/-- In every run of one process at a time the credentials of a grant that have settled or still can
sum to no more than what the grant has reserved and consumed, and that to no more than the permit allows. -/
theorem live_within_budget {labels : List Action}
    (hrun : Run (System.step platform options) (fun sys action ↦ Honoured platform options digests sys action ∧
      Solo sys action) .initial labels sys) (key : GrantKey) :
    ((sys.live.filter fun credential ↦ credential.auth.grantKey = key).map Credential.amount).sum ≤
      Decimal.amount (sys.db.reservedTotal key) + Decimal.amount (sys.db.consumedTotal key) ∧
    ∀ credential ∈ sys.credentials, credential.auth.grantKey = key →
      Decimal.amount (sys.db.reservedTotal key) + Decimal.amount (sys.db.consumedTotal key) ≤
        Decimal.amount credential.auth.permit.maxTotalAtomic := by
  have hbound : Bound platform options digests sys := Bound.of_run (hrun.weaken fun _ _ hallowed ↦ hallowed.1)
  have haccounted : Accounted platform options digests sys :=
    Accounted.of_run (hrun.weaken fun _ _ hallowed ↦ hallowed.1.1)
  obtain ⟨history, htraced⟩ : ∃ history, Run (Traced.step platform options)
      (fun traced action ↦ Solo traced.system action) Traced.initial labels ⟨sys, history⟩ :=
    Traced.run_of_run (fun _ _ hallowed ↦ hallowed.2) hrun
  have hexclusively := Exclusively.of_run htraced
  refine ⟨hexclusively.sum_live_le hbound haccounted key, ?_⟩
  rintro credential hmem rfl
  exact totals_le_maxTotal hbound haccounted hmem

/-- So a bound on the total limit of a grant's live credentials is a bound on their sum. -/
theorem live_class_le {labels : List Action} {key : GrantKey} {bound : ℕ}
    (hrun : Run (System.step platform options) (fun sys action ↦ Honoured platform options digests sys action ∧
      Solo sys action) .initial labels sys)
    (hlimit : ∀ credential ∈ sys.live, credential.auth.grantKey = key →
      Decimal.amount credential.auth.permit.maxTotalAtomic ≤ bound) :
    ((sys.live.filter fun credential ↦ credential.auth.grantKey = key).map Credential.amount).sum ≤ bound := by
  have hbound : Bound platform options digests sys := Bound.of_run (hrun.weaken fun _ _ hallowed ↦ hallowed.1)
  have haccounted : Accounted platform options digests sys :=
    Accounted.of_run (hrun.weaken fun _ _ hallowed ↦ hallowed.1.1)
  obtain ⟨history, htraced⟩ : ∃ history, Run (Traced.step platform options)
      (fun traced action ↦ Solo traced.system action) Traced.initial labels ⟨sys, history⟩ :=
    Traced.run_of_run (fun _ _ hallowed ↦ hallowed.2) hrun
  cases hclass : sys.live.filter fun credential ↦ credential.auth.grantKey = key with
  | nil => exact Nat.zero_le _
  | cons credential rest =>
    have hmem : credential ∈ sys.live.filter fun credential ↦ credential.auth.grantKey = key :=
      hclass ▸ List.mem_cons_self
    obtain ⟨hlive, hkey⟩ := List.mem_filter.1 hmem
    obtain rfl := of_decide_eq_true hkey
    rw [← hclass]
    calc ((sys.live.filter fun other ↦ other.auth.grantKey = credential.auth.grantKey).map Credential.amount).sum
        ≤ Decimal.amount (sys.db.reservedTotal credential.auth.grantKey) +
            Decimal.amount (sys.db.consumedTotal credential.auth.grantKey) :=
          (Exclusively.of_run htraced).sum_live_le hbound haccounted credential.auth.grantKey
      _ ≤ Decimal.amount credential.auth.permit.maxTotalAtomic :=
          totals_le_maxTotal hbound haccounted (List.mem_filter.1 hlive).1
      _ ≤ bound := hlimit credential hlive rfl

end

theorem Sample.live_within_budget_transmitted :
    ((((Sample.pending.sent Sample.credential).withCall Sample.id Sample.auth Sample.attemptedDb
      (.transmitted (Sample.payment Sample.reserved) Sample.serviceAuthorization Sample.attempt)).live.filter
        fun credential ↦ credential.auth.grantKey = Sample.auth.grantKey).map Credential.amount).sum ≤
      Decimal.amount (Sample.attemptedDb.reservedTotal Sample.auth.grantKey) +
        Decimal.amount (Sample.attemptedDb.consumedTotal Sample.auth.grantKey) :=
  (live_within_budget Sample.careful_transmitted Sample.auth.grantKey).1

end VirtualHaibin.Authority
