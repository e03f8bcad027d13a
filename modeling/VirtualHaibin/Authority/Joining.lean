import VirtualHaibin.Authority.Binding

/-!
# How calls join

What holds of the pending map in every run: each entry names a live call of its process for the
same request, each active call has the entry, and a waiting call waits for one for the same
request.  So a process has at most one active call for an invocation.
-/

namespace VirtualHaibin.Authority

open Foundation Payments Evidence

/-- A stage of a call that is neither waiting for another nor finished. -/
def Stage.isActive : Stage → Bool
  | .waiting _ | .done _ => false
  | _ => true

/-- The call `leader` of a process is live and has the invocation and the fingerprint. -/
def System.Leads (sys : System) (process leader : ℕ) (invocationId fingerprint : String) : Prop :=
  ∃ call, sys.calls ⟨process, leader⟩ = some call ∧ call.auth.request.invocationId = invocationId ∧
    call.auth.fingerprint = fingerprint

theorem System.pending_setPending (sys : System) (process : ℕ) (invocationId : String) (entry : Option Pending)
    (other : ℕ) (key : String) : (sys.setPending process invocationId entry).pending other key =
      if other = process ∧ key = invocationId then entry else sys.pending other key := by
  simp only [System.setPending, Function.update_apply]
  by_cases hother : other = process
  · subst hother
    by_cases hkey : key = invocationId <;> simp [hkey]
  · simp [hother]

structure Joined (sys : System) : Prop where
  serving : ∀ id call, sys.calls id = some call → sys.processes id.process = .serving
  running : ∀ process run, sys.runs process = some run → sys.processes process = .serving
  entered : ∀ process invocationId entry, sys.pending process invocationId = some entry →
    sys.Leads process entry.leader invocationId entry.fingerprint
  leading : ∀ id auth stage, sys.calls id = some ⟨auth, stage⟩ → stage.isActive = true →
    sys.pending id.process auth.request.invocationId = some ⟨auth.fingerprint, id.number⟩
  waiting : ∀ id auth leader, sys.calls id = some ⟨auth, .waiting leader⟩ →
    sys.Leads id.process leader auth.request.invocationId auth.fingerprint

variable {platform : Platform} {options : ℕ → AuthorityServiceOptions} {sys sys' : System} {action : Action}
  {auth : AuthenticatedRequest} {stage stage' : Stage}

theorem joined_initial : Joined .initial where
  serving _ _ h := nomatch h
  running _ _ h := nomatch h
  entered _ _ _ h := nomatch h
  leading _ _ _ h := nomatch h
  waiting _ _ _ h := nomatch h

theorem System.Leads.congr {process leader : ℕ} {invocationId fingerprint : String}
    (h : sys.Leads process leader invocationId fingerprint) (hcalls : sys'.calls = sys.calls) :
    sys'.Leads process leader invocationId fingerprint := by
  rw [Leads, hcalls]
  exact h

/-- A call that moves keeps its request. -/
theorem System.Leads.setCall {process leader : ℕ} {invocationId fingerprint : String} {id : CallId} {call : Call}
    (h : sys.Leads process leader invocationId fingerprint)
    (hauth : ∀ before, sys.calls id = some before → before.auth = call.auth) :
    (sys.setCall id call).Leads process leader invocationId fingerprint := by
  obtain ⟨before, hbefore, hid, hfingerprint⟩ := h
  by_cases hsame : (⟨process, leader⟩ : CallId) = id
  · subst hsame
    rw [hauth before hbefore] at hid hfingerprint
    exact ⟨call, Function.update_self .., hid, hfingerprint⟩
  · exact ⟨before, (Function.update_of_ne hsame ..).trans hbefore, hid, hfingerprint⟩

/-- A call moves on: to an active stage only from one, and never to waiting. -/
theorem Joined.move (h : Joined sys) {id : CallId} (hcall : sys.calls id = some ⟨auth, stage⟩)
    (hactive : stage'.isActive = true → stage.isActive = true)
    (hwaiting : ∀ leader, stage' ≠ .waiting leader) : Joined (sys.setCall id ⟨auth, stage'⟩) := by
  have hauth : ∀ before, sys.calls id = some before → before.auth = auth := by
    intro before hbefore
    rw [hcall] at hbefore
    cases hbefore
    rfl
  refine ⟨fun other found hfound ↦ ?_, h.running, fun process invocationId entry hentry ↦ ?_,
    fun other found next hfound hnext ↦ ?_, fun other found leader hfound ↦ ?_⟩
  · rcases System.calls_setCall hfound with ⟨rfl, -⟩ | hkept
    · exact h.serving other _ hcall
    · exact h.serving other _ hkept
  · exact (h.entered process invocationId entry hentry).setCall hauth
  · rcases System.calls_setCall hfound with ⟨rfl, heq⟩ | hkept
    · cases heq
      exact h.leading other auth stage hcall (hactive hnext)
    · exact h.leading other found next hkept hnext
  · rcases System.calls_setCall hfound with ⟨rfl, heq⟩ | hkept
    · cases heq
      exact absurd rfl (hwaiting leader)
    · exact (h.waiting other found leader hkept).setCall hauth

theorem Joined.withDb (h : Joined sys) (db : Db) : Joined { sys with db } :=
  ⟨h.serving, h.running, h.entered, h.leading, h.waiting⟩

theorem Progress.active {processOptions : AuthorityServiceOptions} {db db' : Db} {event : CallEvent}
    (h : Progress platform processOptions db auth stage event db' stage')
    (hactive : stage'.isActive = true) : stage.isActive = true := by
  cases h with
  | failed failure => cases hactive
  | givenUp reason failure tolerant unsent =>
    cases stage with
    | waiting leader => cases unsent
    | done outcome => cases unsent
    | _ => rfl
  | interrupted message executing =>
    cases stage with
    | waiting leader => cases executing
    | done outcome => cases executing
    | _ => rfl
  | executed settlement result executing =>
    cases stage with
    | waiting leader => cases executing
    | done outcome => cases executing
    | _ => rfl
  | marked marking found written => cases hactive
  | _ => rfl

theorem ensureReceipt_ne_waiting (processOptions : AuthorityServiceOptions) (row : InvocationRecord)
    (replay : Bool) (leader : ℕ) : ensureReceipt processOptions row replay ≠ .waiting leader := by
  unfold ensureReceipt
  repeat' split
  all_goals exact nofun

theorem resolveExisting_ne_waiting (processOptions : AuthorityServiceOptions) (row : InvocationRecord)
    (fingerprint : String) (leader : ℕ) : resolveExisting processOptions row fingerprint ≠ .waiting leader := by
  unfold resolveExisting ensureReceipt
  repeat' split
  all_goals exact nofun

theorem decide_ne_waiting (processOptions : AuthorityServiceOptions) (decidedAt : ℤ) (leader : ℕ) :
    decide platform processOptions auth decidedAt ≠ .waiting leader := by
  unfold decide
  dsimp only
  repeat' split
  all_goals exact nofun

theorem afterReserve_ne_waiting (processOptions : AuthorityServiceOptions) (terms : ChallengeTerms)
    (result : Except StoreError ReserveResult) (leader : ℕ) :
    afterReserve platform processOptions auth terms result ≠ .waiting leader := by
  unfold afterReserve startPayment
  repeat' split
  all_goals first
    | exact resolveExisting_ne_waiting _ _ _ _
    | exact ensureReceipt_ne_waiting _ _ _ _
    | exact nofun

theorem Progress.ne_waiting {processOptions : AuthorityServiceOptions} {db db' : Db} {event : CallEvent}
    (h : Progress platform processOptions db auth stage event db' stage') (leader : ℕ) :
    stage' ≠ .waiting leader := by
  cases h with
  | resolved known => exact resolveExisting_ne_waiting _ _ _ _
  | decided now retry => exact decide_ne_waiting _ _ _
  | reserved effect => exact afterReserve_ne_waiting _ _ _ _
  | confirmed found consumed => exact ensureReceipt_ne_waiting _ _ _ _
  | _ => exact nofun

/-- A call joins the entry for its invocation, or makes one. -/
theorem Joined.accept (h : Joined sys) {id : CallId} {access : Option ℤ}
    (hserving : sys.processes id.process = .serving) (hunused : sys.calls id = none) :
    Joined (sys.accept id auth access) := by
  have hfresh : ∀ call, ∀ before, sys.calls id = some before → before.auth = Call.auth call := by
    intro call before hbefore
    rw [hunused] at hbefore
    cases hbefore
  cases hentry : sys.pending id.process auth.request.invocationId with
  | some entry =>
    have heq : sys.accept id auth access =
        sys.setCall id ⟨auth, admitted sys.db access (some entry) auth⟩ := by
      simp [System.accept, hentry]
    rw [heq]
    refine ⟨fun other found hfound ↦ ?_, h.running, fun process invocationId found hfound ↦ ?_,
      fun other found next hfound hnext ↦ ?_, fun other found leader hfound ↦ ?_⟩
    · rcases System.calls_setCall hfound with ⟨rfl, -⟩ | hkept
      · exact hserving
      · exact h.serving other _ hkept
    · exact (h.entered process invocationId found hfound).setCall (hfresh _)
    · rcases System.calls_setCall hfound with ⟨rfl, hcall⟩ | hkept
      · cases hcall
        unfold admitted at hnext
        dsimp only at hnext
        split at hnext <;> cases hnext
      · exact h.leading other found next hkept hnext
    · rcases System.calls_setCall hfound with ⟨rfl, hcall⟩ | hkept
      · simp only [admitted, Call.mk.injEq] at hcall
        obtain ⟨rfl, hstage⟩ := hcall
        split at hstage
        · cases hstage
        · rename_i hsame
          cases hstage
          rw [not_not] at hsame
          exact hsame ▸ (h.entered _ _ entry hentry).setCall (hfresh _)
      · exact (h.waiting other found leader hkept).setCall (hfresh _)
  | none =>
    have heq : sys.accept id auth access =
        (sys.setCall id ⟨auth, earlyLookup sys.db access auth.request.invocationId⟩).setPending id.process
          auth.request.invocationId (some ⟨auth.fingerprint, id.number⟩) := by
      simp [System.accept, hentry, admitted]
    rw [heq]
    have hnew : (sys.setCall id ⟨auth, earlyLookup sys.db access auth.request.invocationId⟩).Leads
        id.process id.number auth.request.invocationId auth.fingerprint :=
      ⟨_, Function.update_self .., rfl, rfl⟩
    refine ⟨fun other found hfound ↦ ?_, h.running, fun process invocationId found hfound ↦ ?_,
      fun other found next hfound hnext ↦ ?_, fun other found leader hfound ↦ ?_⟩
    · rcases System.calls_setCall hfound with ⟨rfl, -⟩ | hkept
      · exact hserving
      · exact h.serving other _ hkept
    · rw [System.pending_setPending] at hfound
      split at hfound
      · rename_i hkey
        cases hfound
        rw [hkey.1, hkey.2]
        exact hnew.congr rfl
      · exact ((h.entered process invocationId found hfound).setCall (hfresh _)).congr rfl
    · rw [System.pending_setPending]
      rcases System.calls_setCall hfound with ⟨rfl, hcall⟩ | hkept
      · cases hcall
        rw [if_pos ⟨rfl, rfl⟩]
      · have hold := h.leading other found next hkept hnext
        rw [if_neg ?_]
        · exact hold
        · rintro ⟨hprocess, hinvocation⟩
          rw [hprocess, hinvocation, hentry] at hold
          cases hold
    · rcases System.calls_setCall hfound with ⟨rfl, hcall⟩ | hkept
      · simp only [Call.mk.injEq] at hcall
        unfold earlyLookup at hcall
        split at hcall <;> cases hcall.2
      · exact ((h.waiting other found leader hkept).setCall (hfresh _)).congr rfl

/-- A finished call gives up its entry; no active call had it. -/
theorem Joined.finish (h : Joined sys) {id : CallId} {outcome : Outcome} {entry : Pending}
    (hcall : sys.calls id = some ⟨auth, .done outcome⟩)
    (hentry : sys.pending id.process auth.request.invocationId = some entry)
    (hleader : entry.leader = id.number) :
    Joined (sys.setPending id.process auth.request.invocationId none) := by
  refine ⟨h.serving, h.running, fun process invocationId found hfound ↦ ?_,
    fun other found next hfound hnext ↦ ?_, fun other found leader hfound ↦ ?_⟩
  · rw [System.pending_setPending] at hfound
    split at hfound
    · cases hfound
    · exact (h.entered process invocationId found hfound).congr rfl
  · have hold := h.leading other found next hfound hnext
    rw [System.pending_setPending, if_neg ?_]
    · exact hold
    · rintro ⟨hprocess, hinvocation⟩
      rw [hprocess, hinvocation, hentry] at hold
      cases hold
      have hsame : other = id := by
        cases other
        cases id
        simp_all
      subst hsame
      change sys.calls other = some ⟨found, next⟩ at hfound
      rw [hcall] at hfound
      cases hfound
      cases hnext
  · exact (h.waiting other found leader hfound).congr rfl

/-- A crash takes the calls and the entries of its process. -/
theorem Joined.crash (h : Joined sys) (process : ℕ) :
    Joined { sys with
      processes := Function.update sys.processes process .dead
      calls := fun id ↦ if id.process = process then none else sys.calls id
      pending := Function.update sys.pending process fun _ ↦ none
      runs := Function.update sys.runs process none } := by
  have hcalls : ∀ {id : CallId} {call : Call},
      (if id.process = process then none else sys.calls id) = some call →
        id.process ≠ process ∧ sys.calls id = some call := by
    intro id call hcall
    split at hcall
    · cases hcall
    · rename_i hother
      exact ⟨hother, hcall⟩
  have hleads : ∀ {other leader : ℕ} {invocationId fingerprint : String}, other ≠ process →
      sys.Leads other leader invocationId fingerprint →
      ∃ call, (if other = process then none else sys.calls ⟨other, leader⟩) = some call ∧
        call.auth.request.invocationId = invocationId ∧ call.auth.fingerprint = fingerprint := by
    intro other leader invocationId fingerprint hother hled
    rw [if_neg hother]
    exact hled
  refine ⟨fun id found hfound ↦ ?_, fun other run hrun ↦ ?_, fun other invocationId found hfound ↦ ?_,
    fun id found next hfound hnext ↦ ?_, fun id found leader hfound ↦ ?_⟩
  · obtain ⟨hother, hkept⟩ := hcalls hfound
    dsimp only
    rw [Function.update_of_ne hother]
    exact h.serving id found hkept
  · dsimp only at hrun ⊢
    rw [Function.update_apply] at hrun
    split at hrun
    · cases hrun
    · rename_i hother
      rw [Function.update_of_ne hother]
      exact h.running other run hrun
  · dsimp only at hfound
    rw [Function.update_apply] at hfound
    split at hfound
    · cases hfound
    · rename_i hother
      exact hleads hother (h.entered other invocationId found hfound)
  · obtain ⟨hother, hkept⟩ := hcalls hfound
    dsimp only
    rw [Function.update_of_ne hother]
    exact h.leading id found next hkept hnext
  · obtain ⟨hother, hkept⟩ := hcalls hfound
    exact hleads hother (h.waiting id found leader hkept)

/-- The state of a process other than the serving ones changes. -/
theorem Joined.process (h : Joined sys) {process : ℕ} {state : ProcessState}
    (hbefore : sys.processes process ≠ .serving) :
    Joined { sys with processes := Function.update sys.processes process state } := by
  have hkept : ∀ {other : ℕ}, sys.processes other = .serving →
      Function.update sys.processes process state other = .serving := by
    intro other hother
    have hne : other ≠ process := by
      rintro rfl
      exact hbefore hother
    rw [Function.update_of_ne hne]
    exact hother
  exact ⟨fun id call hcall ↦ hkept (h.serving id call hcall), fun other run hrun ↦ hkept (h.running other run hrun),
    h.entered, h.leading, h.waiting⟩

theorem Joined.step (h : Joined sys) (hstep : sys.step platform options action = some sys') : Joined sys' := by
  cases System.step_cases hstep with
  | started unstarted => exact h.process (by simp [unstarted])
  | recovered starting recover => exact (h.process (by simp [starting])).withDb _
  | unrecovered => exact h
  | crashed process => exact h.crash process
  | admitted serving unused authenticated => exact h.accept serving unused
  | unauthenticated => exact h
  | called call progress => exact (h.withDb _).move call progress.active progress.ne_waiting
  | @transmitted id auth payment serviceAuthorization attempt call =>
    have hmoved : Joined (sys.setCall id ⟨auth, .transmitted payment serviceAuthorization attempt⟩) := by
      refine h.move call (fun _ ↦ rfl) fun _ hwaiting ↦ ?_
      cases hwaiting
    exact ⟨hmoved.serving, hmoved.running, hmoved.entered, hmoved.leading, hmoved.waiting⟩
  | delivered call leaderDone =>
    refine h.move call (fun hactive ↦ ?_) fun _ hwaiting ↦ ?_
    · cases hactive
    · cases hwaiting
  | finished call pending leader => exact h.finish call pending leader
  | @reconciled process event run db' serving progress =>
    refine ⟨h.serving, fun other found hfound ↦ ?_, h.entered, h.leading, h.waiting⟩
    dsimp only at hfound ⊢
    rw [Function.update_apply] at hfound
    split at hfound
    · rename_i hsame
      exact hsame ▸ serving
    · exact h.running other found hfound
  | settled attempt => exact ⟨h.serving, h.running, h.entered, h.leading, h.waiting⟩
  | perished attempt => exact ⟨h.serving, h.running, h.entered, h.leading, h.waiting⟩

theorem Joined.of_run {allowed : System → Action → Prop} {labels : List Action}
    (hrun : Run (System.step platform options) allowed .initial labels sys) : Joined sys :=
  hrun.invariant joined_initial fun _ _ _ h _ hstep ↦ h.step hstep

/-- A process has one active call for an invocation. -/
theorem Joined.active_unique (h : Joined sys) {id id' : CallId} {auth auth' : AuthenticatedRequest}
    (hcall : sys.calls id = some ⟨auth, stage⟩) (hcall' : sys.calls id' = some ⟨auth', stage'⟩)
    (hactive : stage.isActive = true) (hactive' : stage'.isActive = true)
    (hprocess : id.process = id'.process)
    (hinvocation : auth.request.invocationId = auth'.request.invocationId) : id = id' := by
  have hentry := h.leading id auth stage hcall hactive
  rw [hprocess, hinvocation, h.leading id' auth' stage' hcall' hactive'] at hentry
  simp only [Option.some.injEq, Pending.mk.injEq] at hentry
  cases id
  cases id'
  simp_all

end VirtualHaibin.Authority
