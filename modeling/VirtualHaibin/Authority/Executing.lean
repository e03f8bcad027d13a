import VirtualHaibin.Authority.System
import VirtualHaibin.Payments.Provider

/-!
# The provider inside a call

What the provider calls and returns moves the stage of the call that awaits it.  `callStep` has the rows that
the ordering contract of the provider leaves, and every run of `X402ExactPaymentProvider` finds its row there.
-/

namespace VirtualHaibin.Authority

open Foundation Foundation.Program Payments Evidence

/-- What `beforeSubmit` answers the provider, from what the store answered. -/
def callbackAnswer {α : Type} (result : Except StoreError α) : Except String Unit :=
  (result.mapError StoreError.message).map fun _ ↦ ()

/-- The stage of a call after an event of its provider.  `none` is an event that the stage does not expect. -/
def Stage.follow : Stage → Event ProviderAnswer → Option Stage
  | .building payment serviceAuthorization, ⟨.beforeSubmit attempt, some (Except.ok _)⟩ =>
    some (.recorded payment serviceAuthorization attempt)
  | .building payment _, ⟨.beforeSubmit _, some (Except.error _)⟩ => some (.rejected payment)
  | .recorded payment serviceAuthorization attempt, ⟨.fetch _, _⟩ =>
    some (.transmitted payment serviceAuthorization attempt)
  | _, ⟨.beforeSubmit _, some _⟩ | _, ⟨.fetch _, _⟩ => none
  | stage, _ => some stage

/-- What the call awaits of the provider. -/
def outcomeEvent : Except ProviderError PaymentExecution → CallEvent
  | .error (.notSubmitted message) => .notSubmitted message
  | .error (.outcomeUnknown message _) => .outcomeUnknown message
  | .ok execution => .executed execution.settlement execution.result

section

variable {platform : Platform} {options : AuthorityServiceOptions} {db : Db} {auth : AuthenticatedRequest}
  {payment : Payment} {serviceAuthorization : SignedServiceAuthorizationV1} {stage : Stage}

/-- The callback of the provider is a step of the call. -/
theorem callStep_submit (attempt : PaymentAttempt) (access : Option ℤ) :
    (callStep platform options db auth (.building payment serviceAuthorization) (.submit attempt access)).map
        Prod.snd =
      (Stage.building payment serviceAuthorization).follow ⟨.beforeSubmit attempt, some (callbackAnswer
        (db.access access
          (recordPaymentAttempt auth.request.invocationId attempt (some serviceAuthorization))).1)⟩ := by
  simp only [callStep]
  cases (db.access access
    (recordPaymentAttempt auth.request.invocationId attempt (some serviceAuthorization))).1 <;> rfl

/-- The paid request of the provider is the transmission of the system. -/
theorem step_transmit {processes : ℕ → AuthorityServiceOptions} {sys : System} {id : CallId}
    (hcall : sys.calls id = some ⟨auth, stage⟩) (paid : Payments.HttpRequest)
    (answer : Option (Except String HttpResponse)) :
    ((sys.step platform processes (.transmit id)).bind fun next ↦ (next.calls id).map Call.stage) =
      stage.follow ⟨.fetch paid, answer⟩ := by
  cases stage <;> simp [System.step, hcall, System.setCall, Stage.follow]

theorem follow_of_looks {event : Event ProviderAnswer} (h : Looks event.1) : stage.follow event = some stage := by
  obtain ⟨call, answer⟩ := event
  cases call with
  | beforeSubmit attempt => exact absurd rfl (h.2 attempt)
  | fetch paid => exact absurd rfl (h.1 paid)
  | _ => cases stage <;> rfl

theorem followed_of_looks {trace : Trace} (h : ∀ event ∈ trace, Looks event.1) :
    trace.foldlM Stage.follow stage = some stage := by
  induction trace with
  | nil => rfl
  | cons event rest ih =>
    rw [List.forall_mem_cons] at h
    rw [List.foldlM_cons, follow_of_looks h.1]
    exact ih h.2

theorem countP_around {α : Type} {p : α → Bool} {before after : List α} {x : α}
    (h : (before ++ x :: after).countP p ≤ 1) (hx : p x = true) : before.countP p = 0 ∧ after.countP p = 0 := by
  rw [List.countP_append, List.countP_cons_of_pos hx] at h
  omega

theorem notSubmit_of_countP {trace : Trace} (h : trace.countP isSubmit = 0) :
    ∀ event ∈ trace, NotSubmit event.1 := by
  rintro ⟨_, answer⟩ hmem attempt rfl
  exact List.countP_eq_zero.1 h _ hmem rfl

theorem notFetch_of_countP {trace : Trace} (h : trace.countP isFetch = 0) :
    ∀ event ∈ trace, NotFetch event.1 := by
  rintro ⟨_, answer⟩ hmem paid rfl
  exact List.countP_eq_zero.1 h _ hmem rfl

/-- What a stage inside `execute` still awaits. -/
def Stage.awaits : Stage → Except ProviderError PaymentExecution → Prop
  | .building _ _, _ | .recorded _ _ _, _ => True
  | .rejected _, result => ∃ message, result = .error (.notSubmitted message)
  | .transmitted _ _ _, result => ∀ message, result ≠ .error (.notSubmitted message)
  | _, _ => False

theorem callStep_of_awaits {result : Except ProviderError PaymentExecution} (h : stage.awaits result) :
    ∃ stage', callStep platform options db auth stage (outcomeEvent result) = some (db, stage') := by
  cases stage with
  | building => rcases result with (_ | _) | _ <;> exact ⟨_, rfl⟩
  | recorded => rcases result with (_ | _) | _ <;> exact ⟨_, rfl⟩
  | rejected =>
    obtain ⟨message, rfl⟩ := h
    exact ⟨_, rfl⟩
  | transmitted =>
    rcases result with (message | _) | _
    · exact absurd rfl (h message)
    · exact ⟨_, rfl⟩
    · exact ⟨_, rfl⟩
  | _ => exact h.elim

section

variable {providerOptions : ProviderOptions} {input : ExecuteInput} {trace before after : Trace}
  {outcome : Option (Except ProviderError PaymentExecution)} {attempt : PaymentAttempt}
  {answer : Option (Except String Unit)}

/-- A credential leaves only after the callback took its attempt. -/
theorem submitted_of_fetch {paid : Payments.HttpRequest} {fetched : Option (Except String HttpResponse)}
    (h : Contract platform providerOptions input trace outcome)
    (hsplit : trace = before ++ ⟨.fetch paid, fetched⟩ :: after) :
    ∃ attempt, (⟨.beforeSubmit attempt, some (Except.ok ())⟩ : Event ProviderAnswer) ∈ before := by
  obtain ⟨attempt, htransmits, -, -⟩ := h.transmits before paid fetched after hsplit
  obtain ⟨payload, encoded, hready, -⟩ := htransmits.headers
  exact ⟨attempt, hready.submitted⟩

/-- Before the callback the provider only looks. -/
theorem looks_of_notSubmit (h : Contract platform providerOptions input (before ++ after) outcome)
    (hbefore : ∀ event ∈ before, NotSubmit event.1) : ∀ event ∈ before, Looks event.1 := by
  refine fun event hmem ↦ ⟨fun paid hfetch ↦ ?_, hbefore event hmem⟩
  obtain ⟨_, fetched⟩ := event
  obtain rfl : _ = ProviderCall.fetch paid := hfetch
  obtain ⟨earlier, later, rfl⟩ := List.append_of_mem hmem
  obtain ⟨attempt, hsubmitted⟩ := submitted_of_fetch h (List.append_assoc ..)
  exact hbefore _ (List.mem_append_left _ hsubmitted) attempt rfl

/-- After a callback that did not resolve it only looks. -/
theorem looks_of_unresolved
    (h : Contract platform providerOptions input (before ++ ⟨.beforeSubmit attempt, answer⟩ :: after) outcome)
    (hbefore : ∀ event ∈ before, NotSubmit event.1) (hafter : ∀ event ∈ after, NotSubmit event.1)
    (hanswer : answer ≠ some (Except.ok ())) : ∀ event ∈ after, Looks event.1 := by
  refine fun event hmem ↦ ⟨fun paid hfetch ↦ ?_, hafter event hmem⟩
  obtain ⟨_, fetched⟩ := event
  obtain rfl : _ = ProviderCall.fetch paid := hfetch
  obtain ⟨earlier, later, rfl⟩ := List.append_of_mem hmem
  obtain ⟨submitted, hsubmitted⟩ := submitted_of_fetch h
    (show _ = (before ++ ⟨.beforeSubmit attempt, answer⟩ :: earlier) ++ ⟨.fetch paid, fetched⟩ :: later by simp)
  rcases List.mem_append.1 hsubmitted with hold | hnew
  · exact hbefore _ hold submitted rfl
  · rcases List.mem_cons.1 hnew with heq | hlater
    · cases heq
      exact hanswer rfl
    · exact hafter _ (List.mem_append_left _ hlater) submitted rfl

/-- After a callback that resolved the credential may leave once. -/
theorem followed_of_recorded (h : Contract platform providerOptions input (before ++ after) outcome)
    (hafter : ∀ event ∈ after, NotSubmit event.1) :
    ∃ stage, after.foldlM Stage.follow (.recorded payment serviceAuthorization attempt) = some stage ∧
      ∀ result, outcome = some result → stage.awaits result := by
  by_cases hfetches : ∀ event ∈ after, NotFetch event.1
  · exact ⟨_, followed_of_looks fun event hmem ↦ ⟨hfetches event hmem, hafter event hmem⟩, fun _ _ ↦ trivial⟩
  · simp only [NotFetch, not_forall, not_not] at hfetches
    obtain ⟨⟨_, fetched⟩, hmem, paid, rfl⟩ := hfetches
    obtain ⟨earlier, later, rfl⟩ := List.append_of_mem hmem
    have honce := h.once
    rw [← List.append_assoc] at honce
    obtain ⟨hearlier, hlater⟩ := countP_around honce rfl
    have hleft : ∀ event ∈ earlier, Looks event.1 := fun event hevent ↦
      ⟨notFetch_of_countP hearlier event (List.mem_append_right before hevent),
        hafter event (List.mem_append_left _ hevent)⟩
    have hright : ∀ event ∈ later, Looks event.1 := fun event hevent ↦
      ⟨notFetch_of_countP hlater event hevent,
        hafter event (List.mem_append_right _ (List.mem_cons_of_mem _ hevent))⟩
    refine ⟨.transmitted payment serviceAuthorization attempt, ?_, ?_⟩
    · rw [List.foldlM_append, followed_of_looks hleft, Option.bind_eq_bind, Option.bind_some, List.foldlM_cons]
      exact followed_of_looks hright
    · rintro result rfl message rfl
      have hnone := h.notSubmitted message rfl
      exact notFetch_of_countP hnone _ (List.mem_append_right before hmem) paid rfl

theorem followed_of_execute {rounds : ℕ} (h : Plays (execute platform providerOptions rounds input).run trace outcome) :
    ∃ stage, trace.foldlM Stage.follow (.building payment serviceAuthorization) = some stage ∧
      ∀ result, outcome = some result → stage.awaits result := by
  have hcontract := execute_contract h
  obtain ⟨honce, hrejected⟩ := execute_submits h
  by_cases hsubmits : ∀ event ∈ trace, NotSubmit event.1
  · rw [← List.append_nil trace] at hcontract
    exact ⟨_, followed_of_looks (looks_of_notSubmit hcontract hsubmits), fun _ _ ↦ trivial⟩
  · simp only [NotSubmit, not_forall, not_not] at hsubmits
    obtain ⟨⟨_, answer⟩, hmem, attempt, rfl⟩ := hsubmits
    obtain ⟨before, after, rfl⟩ := List.append_of_mem hmem
    obtain ⟨hbeforeCount, hafterCount⟩ := countP_around honce rfl
    have hbefore := notSubmit_of_countP hbeforeCount
    have hafter := notSubmit_of_countP hafterCount
    rw [List.foldlM_append, followed_of_looks (looks_of_notSubmit hcontract hbefore), Option.bind_eq_bind,
      Option.bind_some, List.foldlM_cons]
    rcases answer with _ | message | ⟨⟨⟩⟩
    · exact ⟨_, followed_of_looks (looks_of_unresolved hcontract hbefore hafter fun heq ↦ by cases heq),
        fun _ _ ↦ trivial⟩
    · exact ⟨_, followed_of_looks (looks_of_unresolved hcontract hbefore hafter fun heq ↦ by cases heq),
        hrejected attempt message hmem⟩
    · rw [List.append_cons] at hcontract
      exact followed_of_recorded hcontract hafter

/-- Every run of the provider, wherever it is cut off, leads the call that awaits it to a stage, and its outcome is
an event that the call awaits there. -/
theorem execute_awaited {rounds : ℕ} (h : Plays (execute platform providerOptions rounds input).run trace outcome) :
    ∃ stage, trace.foldlM Stage.follow (.building payment serviceAuthorization) = some stage ∧
      ∀ result, outcome = some result → ∀ db auth,
        ∃ stage', callStep platform options db auth stage (outcomeEvent result) = some (db, stage') := by
  obtain ⟨stage, hfollowed, hawaits⟩ := @followed_of_execute _ payment serviceAuthorization _ _ _ _ _ h
  exact ⟨stage, hfollowed, fun result hresult _ _ ↦ callStep_of_awaits (hawaits result hresult)⟩

end

end

end VirtualHaibin.Authority
