import VirtualHaibin.Authority.Soundness

/-!
# Decisions in time

A payment is decided at one reading of the clock, and only a decision before the permit expires leads to a
reservation.  So behind every credential there is such a reading, however late the credential itself leaves.
-/

namespace VirtualHaibin.Authority

open Foundation Payments Policy Evidence

variable {platform : Platform} {options : ℕ → AuthorityServiceOptions} {processOptions : AuthorityServiceOptions}
  {sys sys' : System} {action : Action} {labels : List Action} {auth : AuthenticatedRequest}

/-- The reading of the clock that a call decides on. -/
def Stage.decidedAt? : Stage → Option ℤ
  | .fetching decidedAt _ _ | .reserving decidedAt _ => some decidedAt
  | _ => none

/-- The call read the clock before the permit of its request expired. -/
def DecidedInTime (labels : List Action) (id : CallId) (auth : AuthenticatedRequest) : Prop :=
  ∃ decidedAt, Action.call id (.resume decidedAt) ∈ labels ∧ decidedAt ≤ auth.permit.expiresAt

theorem DecidedInTime.later {id : CallId} (h : DecidedInTime labels id auth) (more : List Action) :
    DecidedInTime (labels ++ more) id auth := by
  obtain ⟨decidedAt, hmem, hle⟩ := h
  exact ⟨decidedAt, List.mem_append_left more hmem, hle⟩

theorem requestCodes_in_time {decidedAt : ℤ} {committed : String} (h : requestCodes auth decidedAt committed = []) :
    decidedAt ≤ auth.permit.expiresAt := by
  simp only [requestCodes, policyCodes, List.append_eq_nil_iff, reasonCodes_eq_nil, evaluatePurchasePermit_eq_nil] at h
  exact h.2.1

theorem resolveExisting_decidedAt (row : InvocationRecord) (fingerprint : String) :
    (resolveExisting processOptions row fingerprint).decidedAt? = none := by
  unfold resolveExisting ensureReceipt
  repeat' split
  all_goals rfl

theorem ensureReceipt_decidedAt (row : InvocationRecord) (replay : Bool) :
    (ensureReceipt processOptions row replay).decidedAt? = none := by
  unfold ensureReceipt
  repeat' split
  all_goals rfl

theorem decide_decidedAt (decidedAt : ℤ) :
    (decide platform processOptions auth decidedAt).decidedAt? = some decidedAt := by
  unfold decide
  dsimp only
  repeat' split
  all_goals rfl

theorem afterReserve_decidedAt {terms : ChallengeTerms} {result : ReserveResult} :
    (afterReserve platform processOptions auth terms (.ok result)).decidedAt? = none := by
  unfold afterReserve startPayment
  repeat' split
  all_goals first | rfl | exact resolveExisting_decidedAt _ _ | exact ensureReceipt_decidedAt _ _

/-- A call decides on the reading it was resumed with. -/
theorem Progress.decidedAt {db db' : Db} {stage stage' : Stage} {event : CallEvent} {decidedAt : ℤ}
    (h : Progress platform processOptions db auth stage event db' stage')
    (hdecided : stage'.decidedAt? = some decidedAt) :
    stage.decidedAt? = some decidedAt ∨ event = .resume decidedAt := by
  cases h with
  | resolved known =>
    rw [resolveExisting_decidedAt] at hdecided
    cases hdecided
  | decided now retry =>
    rw [decide_decidedAt] at hdecided
    exact .inr (congrArg CallEvent.resume (Option.some.inj hdecided))
  | challenged result => exact .inl hdecided
  | reserved effect =>
    rw [afterReserve_decidedAt] at hdecided
    cases hdecided
  | confirmed found consumed =>
    rw [ensureReceipt_decidedAt] at hdecided
    cases hdecided
  | _ => cases hdecided

/-- A reservation commits only on a decision before the permit expires. -/
theorem Progress.in_time {db db' : Db} {stage stage' : Stage} {event : CallEvent}
    (h : Progress platform processOptions db auth stage event db' stage') (hunsent : stage'.isUnsent = true) :
    stage.isUnsent = true ∨ ∃ decidedAt, stage.decidedAt? = some decidedAt ∧ decidedAt ≤ auth.permit.expiresAt := by
  cases h with
  | resolved known => simp [resolveExisting_isUnsent] at hunsent
  | decided now retry => simp [decide_isUnsent] at hunsent
  | @reserved decidedAt terms now result db' effect =>
    cases result with
    | existing row => simp [afterReserve, resolveExisting_isUnsent] at hunsent
    | grant_conflict grant => cases hunsent
    | denied row => simp [afterReserve, ensureReceipt_isUnsent] at hunsent
    | reserved row =>
      obtain ⟨existing, -, -, hreserved⟩ := effect
      obtain ⟨pinned, middle, grant, reserved, consumed, amount, maxTotal, -, -, hallowed, -⟩ := hreserved.effect
      exact .inr ⟨decidedAt, rfl, requestCodes_in_time (evaluate_allowed hallowed).1⟩
  | givenUp reason failure tolerant unsent => exact .inl unsent
  | budgeted => exact .inl rfl
  | authorized signed => exact .inl rfl
  | recorded found unarmed written => exact .inl rfl
  | rejected => exact .inl rfl
  | confirmed found consumed => simp [ensureReceipt_isUnsent] at hunsent
  | _ => cases hunsent

/-- What is known of the time of every decision. -/
structure Timely (labels : List Action) (sys : System) : Prop where
  decided : ∀ id call decidedAt, sys.calls id = some call → call.stage.decidedAt? = some decidedAt →
    Action.call id (.resume decidedAt) ∈ labels
  calls : ∀ id call, sys.calls id = some call → call.stage.isUnsent = true → DecidedInTime labels id call.auth
  credentials : ∀ credential ∈ sys.credentials, DecidedInTime labels credential.call credential.auth

theorem timely_initial : Timely [] .initial where
  decided _ _ _ h := by cases h
  calls _ _ h := by cases h
  credentials _ h := by cases h

theorem admitted_decidedAt (db : Db) (access : Option ℤ) (pending : Option Pending) :
    (admitted db access pending auth).decidedAt? = none := by
  unfold admitted earlyLookup
  repeat' split
  all_goals rfl

theorem Timely.step (h : Timely labels sys) (hstep : sys.step platform options action = some sys') :
    Timely (labels ++ [action]) sys' where
  decided id call decidedAt hcall hdecided := by
    have horigin := System.step_call hstep hcall
    generalize sys'.db = db' at horigin
    cases horigin with
    | kept found => exact List.mem_append_left _ (h.decided id call decidedAt found hdecided)
    | admitted serving authenticated =>
      rw [admitted_decidedAt] at hdecided
      cases hdecided
    | progressed found progress =>
      rcases progress.decidedAt hdecided with hbefore | rfl
      · exact List.mem_append_left _ (h.decided id _ decidedAt found hbefore)
      · exact List.mem_append_right _ (List.mem_singleton_self _)
    | transmitted found => cases hdecided
    | delivered found leaderDone => cases hdecided
  calls id call hcall hunsent := by
    have horigin := System.step_call hstep hcall
    generalize sys'.db = db' at horigin
    cases horigin with
    | kept found => exact (h.calls id call found hunsent).later _
    | admitted serving authenticated =>
      rw [admitted_isUnsent] at hunsent
      cases hunsent
    | progressed found progress =>
      rcases progress.in_time hunsent with hbefore | ⟨decidedAt, hdecided, hle⟩
      · exact (h.calls id _ found hbefore).later _
      · exact ⟨decidedAt, List.mem_append_left _ (h.decided id _ decidedAt found hdecided), hle⟩
    | transmitted found => cases hunsent
    | delivered found leaderDone => cases hunsent
  credentials credential hmem := by
    rcases System.step_credentials hstep with heq | ⟨id, auth, payment, serviceAuthorization, attempt, -, hcall, heq⟩
    · rw [heq] at hmem
      exact (h.credentials credential hmem).later _
    · rw [heq, List.mem_append, List.mem_singleton] at hmem
      rcases hmem with hold | rfl
      · exact (h.credentials credential hold).later _
      · exact (h.calls id _ hcall rfl).later _

theorem Timely.of_run {allowed : System → Action → Prop}
    (hrun : Run (System.step platform options) allowed .initial labels sys) : Timely labels sys :=
  hrun.invariant_run timely_initial fun _ _ _ _ _ h _ hstep ↦ h.step hstep

end VirtualHaibin.Authority
