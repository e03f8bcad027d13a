import VirtualHaibin.Authority.Denials
import VirtualHaibin.Web.Format

/-!
# The purchase timeline

A purchase is shown as a sequence of checks, each from what the agent, the authority and the verifier
answered.  The operation and the budget are shown from the reason codes of the receipt, the challenge
from the payment alone, which the authority fills in for a denial too once a challenge was fetched.
-/

namespace VirtualHaibin.Web

open Foundation Mandate Policy Evidence
open Authority (isNullish AuthorizeResult AuthorityServiceOptions System CallId AuthenticatedRequest Action)

/-- What the timeline reads of a signed receipt. -/
structure Receipt where
  reasonCodes : List String

/-- What the timeline reads of the payment evidence. -/
structure Payment where
  protocol : Option String
  transactionId : Option String

structure Authorization where
  decision : String
  receipt : Receipt
  payment : Option Payment
  result : Json

structure DemoResponse where
  operation : Option ExactOperationV1
  authorization : Option Authorization

structure EvidenceView where
  bundleFetched : Bool
  report : Option VerificationReport

inductive StepState where
  | done
  | blocked
  | notReached
  | pending
  deriving DecidableEq

structure StepView where
  state : StepState
  value : String
  detail : Option String := none
  deriving DecidableEq

structure TimelineStep extends StepView where
  id : String
  label : String
  deriving DecidableEq

def OPERATION_CODES : List String :=
  ["OPERATION_NOT_AUTHORIZED", "OPERATION_ARGUMENT_NOT_AUTHORIZED", "OPERATION_METHOD_MISMATCH",
    "OPERATION_RESOURCE_MISMATCH"]

def BUDGET_CODES : List String := ["PER_CALL_LIMIT_EXCEEDED", "TOTAL_BUDGET_EXCEEDED", "INVALID_AMOUNT"]

def opLabel (operation : Option ExactOperationV1) : String :=
  match operation with
  | none => "—"
  | some operation => s!"{operation.operation}({operation.datasetId})"

def claimStatus (report : Option VerificationReport) (id : String) : Option ClaimStatus :=
  report.bind fun report ↦ (report.claims.find? fun claim ↦ claim.id = id).map Claim.status

/-! ## The steps -/

/-- A step that is done or not reached. -/
def reached (denied condition : Bool) (value : String) (detail : Option String := none) : StepView :=
  if condition then { state := .done, value, detail := detail.filter (· ≠ "") }
  else { state := .notReached, value := if denied then "NOT REACHED" else "—" }

def permissionView (receipt : Option Receipt) : StepView :=
  if receipt.isSome then { state := .done, value := "VERIFIED", detail := some "Signed by the trusted issuer" }
  else { state := .notReached, value := "—" }

def agentView (receipt : Option Receipt) : StepView :=
  if receipt.isSome then
    { state := .done, value := "VERIFIED", detail := some "Request signed by the permitted agent" }
  else { state := .notReached, value := "—" }

/-- The reason codes of a kind, as a detail. -/
def codesDetail (codes kind : List String) : String := String.intercalate ", " (codes.filter kind.contains)

def operationView (receipt : Option Receipt) (codes : List String) (operation : Option ExactOperationV1) :
    StepView :=
  if receipt.isNone then { state := .notReached, value := "—" }
  else if codes.any OPERATION_CODES.contains then
    { state := .blocked, value := "NOT AUTHORIZED", detail := some (codesDetail codes OPERATION_CODES) }
  else { state := .done, value := "AUTHORIZED", detail := some (opLabel operation) }

def budgetView (receipt : Option Receipt) (codes : List String) : StepView :=
  let operationBlocked := codes.any OPERATION_CODES.contains
  if receipt.isNone || operationBlocked then
    { state := .notReached, value := if operationBlocked then "NOT REACHED" else "—" }
  else if codes.any BUDGET_CODES.contains then
    { state := .blocked, value := "EXCEEDED", detail := some (codesDetail codes BUDGET_CODES) }
  else { state := .done, value := "AVAILABLE" }

def challengeView (denied : Bool) (payment : Option Payment) : StepView :=
  reached denied (payment.bind Payment.protocol = some "x402") "VERIFIED"
    (some "Payment terms match the human permit")

def serviceAuthorizationView (denied : Bool) (transactionId : Option String)
    (report : Option VerificationReport) : StepView :=
  if transactionId.isSome then
    if claimStatus report "service_authorization" = some .VERIFIED then
      { state := .done, value := "VERIFIED"
        detail := some "Service checked Virtual Haibin's signature before settling" }
    else { state := .pending, value := if report.isSome then "NOT VERIFIED" else "CHECKING…" }
  else { state := .notReached, value := if denied then "NOT REACHED" else "—" }

def paymentView (denied : Bool) (transactionId : Option String) : StepView :=
  reached denied transactionId.isSome "SETTLED"
    (transactionId.map fun transactionId ↦ s!"Transaction {shorten (some transactionId) 6}")

def resultView (denied : Bool) (authorization : Option Authorization) : StepView :=
  reached denied (authorization.any (fun authorization ↦ !isNullish (some authorization.result)) && !denied) "RECEIVED"

def evidenceView (denied : Bool) (transactionId : Option String) (bundleFetched : Bool) : StepView :=
  if denied then { state := .notReached, value := "—" }
  else if bundleFetched then
    { state := .done, value := "AVAILABLE", detail := some "Signed, portable bundle exported" }
  else if transactionId.isSome then { state := .pending, value := "EXPORTING…" }
  else { state := .notReached, value := "—" }

/-- The purchase as a sequence of checks.  An empty transaction identifier counts as none. -/
def buildTimeline (run : DemoResponse) (evidence : EvidenceView) : List TimelineStep :=
  let authorization := run.authorization
  let receipt := authorization.map Authorization.receipt
  let payment := authorization.bind Authorization.payment
  let codes := (receipt.map Receipt.reasonCodes).getD []
  let denied := authorization.any fun authorization ↦ authorization.decision = "DENY"
  let transactionId := (payment.bind Payment.transactionId).filter (· ≠ "")
  [⟨permissionView receipt, "permission", "Human permission"⟩,
    ⟨agentView receipt, "agent", "Agent identity"⟩,
    ⟨operationView receipt codes run.operation, "operation", "Operation"⟩,
    ⟨budgetView receipt codes, "budget", "Budget"⟩,
    ⟨challengeView denied payment, "challenge", "x402 challenge"⟩,
    ⟨serviceAuthorizationView denied transactionId evidence.report, "service-authorization",
      "Service authorization"⟩,
    ⟨paymentView denied transactionId, "payment", "Payment"⟩,
    ⟨resultView denied authorization, "result", "Service result"⟩,
    ⟨evidenceView denied transactionId evidence.bundleFetched, "evidence", "Evidence"⟩]

/-! ## Denials -/

/-- The code is one of the checks that reject a challenge or its terms. -/
def rejectsChallenge : ReasonCode → Bool
  | .CHALLENGE_NOT_PAYMENT_REQUIRED | .CHALLENGE_REDIRECT | .CHALLENGE_MALFORMED
  | .UNSUPPORTED_PAYMENT_PROTOCOL | .UNSUPPORTED_PAYMENT_SCHEME | .CHALLENGE_NETWORK_MISMATCH
  | .ASSET_NOT_ALLOWED | .CHALLENGE_RESOURCE_MISMATCH | .CHALLENGE_FEE_PAYER_INVALID
  | .CHALLENGE_REQUEST_MISMATCH => true
  | _ => false

/-- The challenge checks report such codes only. -/
theorem selectAndValidateChallenge_rejects {result : Payments.ChallengeResult} {profile : Payments.SettlementProfile}
    {paidRequest : Payments.PaidRequest} {request : AuthorizationRequestV2} {payerAddress : String} :
    ∀ code ∈ (Authority.selectAndValidateChallenge result profile paidRequest request payerAddress).reasonCodes,
      rejectsChallenge code = true := by
  intro code hcode
  cases result with
  | rejected reasonCode message =>
    obtain rfl := List.mem_singleton.1 hcode
    cases reasonCode <;> rfl
  | challenge challenge =>
    simp only [Authority.selectAndValidateChallenge] at hcode
    split at hcode
    · obtain rfl := List.mem_singleton.1 hcode
      split <;> rfl
    · simp only [Authority.requirementCodes, Authority.codeIf, List.mem_append, List.mem_ite_nil_right,
        List.mem_singleton] at hcode
      rcases hcode with (((⟨-, rfl⟩ | ⟨-, rfl⟩) | ⟨-, rfl⟩) | ⟨-, rfl⟩) | ⟨-, rfl⟩ <;> rfl

def CHALLENGE_CODES : List String := (ReasonCode.all.filter rejectsChallenge).map ReasonCode.name

/-- The steps after the first blocked one. -/
def afterBlocked (steps : List TimelineStep) : List TimelineStep :=
  (steps.dropWhile fun step ↦ step.state ≠ .blocked).drop 1

/-- The steps of a denial do not overstate it. -/
structure NeverOverstates (codes : List String) (steps : List TimelineStep) : Prop where
  stops : ∀ step ∈ afterBlocked steps, step.state ≠ .done
  challenge : (∃ code ∈ codes, code ∈ CHALLENGE_CODES) →
    ∀ step ∈ steps, step.id = "challenge" → step.state ≠ .done ∧ step.value ≠ "VERIFIED"
  unpaid : ∀ step ∈ steps, step.id ∈ ["service-authorization", "payment", "result", "evidence"] →
    step.state ≠ .done

/-- The body the authority answers with, which the agent passes on. -/
def authorizationOf (result : AuthorizeResult) : Authorization where
  decision := result.receipt.decision
  receipt := ⟨result.receipt.reasonCodes⟩
  payment := result.payment.map fun payment ↦ ⟨payment.protocol, payment.transactionId⟩
  result := result.result

@[simp] theorem permissionView_state (receipt : Receipt) : (permissionView (some receipt)).state = .done := rfl

@[simp] theorem agentView_state (receipt : Receipt) : (agentView (some receipt)).state = .done := rfl

@[simp] theorem operationView_state (receipt : Receipt) (codes : List String) (operation : Option ExactOperationV1) :
    (operationView (some receipt) codes operation).state =
      if codes.any OPERATION_CODES.contains then .blocked else .done := by
  rw [operationView, Option.isNone_some, if_neg Bool.false_ne_true]
  split <;> rfl

@[simp] theorem budgetView_state (receipt : Receipt) (codes : List String) :
    (budgetView (some receipt) codes).state =
      if codes.any OPERATION_CODES.contains then .notReached
      else if codes.any BUDGET_CODES.contains then .blocked else .done := by
  rw [budgetView, Option.isNone_some, Bool.false_or]
  split
  · rfl
  · split <;> rfl

@[simp] theorem challengeView_eq (payment : Option Payment) :
    challengeView true payment =
      if payment.bind Payment.protocol = some "x402" then
        { state := .done, value := "VERIFIED", detail := some "Payment terms match the human permit" }
      else { state := .notReached, value := "NOT REACHED" } := by
  by_cases hprotocol : payment.bind Payment.protocol = some "x402"
  · rw [if_pos hprotocol, challengeView, hprotocol]
    rfl
  · rw [if_neg hprotocol, challengeView, reached, decide_eq_false hprotocol]
    rfl

/-- The steps of a denial: those that stand for a payment are not reached. -/
theorem buildTimeline_denied {result : AuthorizeResult} (h : result.Denied)
    (operation : Option ExactOperationV1) (evidence : EvidenceView) :
    let receipt : Receipt := ⟨result.receipt.reasonCodes⟩
    buildTimeline ⟨operation, some (authorizationOf result)⟩ evidence =
      [⟨permissionView receipt, "permission", "Human permission"⟩,
        ⟨agentView receipt, "agent", "Agent identity"⟩,
        ⟨operationView receipt result.receipt.reasonCodes operation, "operation", "Operation"⟩,
        ⟨budgetView receipt result.receipt.reasonCodes, "budget", "Budget"⟩,
        ⟨challengeView true (authorizationOf result).payment, "challenge", "x402 challenge"⟩,
        ⟨{ state := .notReached, value := "NOT REACHED" }, "service-authorization", "Service authorization"⟩,
        ⟨{ state := .notReached, value := "NOT REACHED" }, "payment", "Payment"⟩,
        ⟨{ state := .notReached, value := "NOT REACHED" }, "result", "Service result"⟩,
        ⟨{ state := .notReached, value := "—" }, "evidence", "Evidence"⟩] := by
  obtain ⟨hdecision, -, -, htransaction, hresult⟩ := h
  have hunpaid : (authorizationOf result).payment.bind Payment.transactionId = none := by
    rw [authorizationOf, Option.bind_eq_none_iff]
    intro payment hpayment
    obtain ⟨found, hfound, rfl⟩ := Option.map_eq_some_iff.1 hpayment
    exact htransaction found hfound
  have hdenied : (decide ((authorizationOf result).decision = "DENY")) = true := decide_eq_true hdecision
  simp only [buildTimeline, Option.map_some, Option.bind_some, Option.getD_some, Option.any_some, hunpaid, hdenied,
    Option.filter_none]
  simp [serviceAuthorizationView, paymentView, resultView, evidenceView, reached, authorizationOf]

/-- A denial is not overstated exactly if no obtained requirement is shown that a reason code objects to. -/
theorem neverOverstates_denied_iff {result : AuthorizeResult} (h : result.Denied)
    (operation : Option ExactOperationV1) (evidence : EvidenceView) :
    NeverOverstates result.receipt.reasonCodes (buildTimeline ⟨operation, some (authorizationOf result)⟩ evidence) ↔
      ((authorizationOf result).payment.bind Payment.protocol = some "x402" →
        result.receipt.reasonCodes.any OPERATION_CODES.contains = false ∧
        result.receipt.reasonCodes.any BUDGET_CODES.contains = false ∧
        result.receipt.reasonCodes.any CHALLENGE_CODES.contains = false) := by
  rw [buildTimeline_denied h]
  generalize (authorizationOf result).payment = payment
  generalize result.receipt.reasonCodes = codes
  have hchallenge : (∃ code ∈ codes, code ∈ CHALLENGE_CODES) ↔ codes.any CHALLENGE_CODES.contains = true := by simp
  let shown : TimelineStep := ⟨challengeView true payment, "challenge", "x402 challenge"⟩
  constructor
  · rintro ⟨hstops, hverified, -⟩ hprotocol
    have hdone : shown.state = .done := by simp [shown, hprotocol]
    have hoperation : codes.any OPERATION_CODES.contains = false := by
      rw [← Bool.not_eq_true]
      intro hblocked
      refine hstops shown ?_ hdone
      simp [afterBlocked, shown, hblocked, List.dropWhile]
    refine ⟨hoperation, ?_, ?_⟩
    · rw [← Bool.not_eq_true]
      intro hblocked
      refine hstops shown ?_ hdone
      simp [afterBlocked, shown, hoperation, hblocked, List.dropWhile]
    · rw [← Bool.not_eq_true, ← hchallenge]
      intro hrejected
      exact (hverified hrejected shown (by simp [shown]) rfl).1 hdone
  · intro hcondition
    by_cases hprotocol : payment.bind Payment.protocol = some "x402"
    · obtain ⟨hoperation, hbudget, hrejects⟩ := hcondition hprotocol
      refine ⟨?_, fun hrejected ↦ ?_, ?_⟩
      · simp [afterBlocked, hoperation, hbudget, hprotocol, List.dropWhile]
      · rw [hchallenge, hrejects] at hrejected
        cases hrejected
      · simp
    · refine ⟨?_, fun _ ↦ ?_, ?_⟩
      · cases hoperation : codes.any OPERATION_CODES.contains <;> cases hbudget : codes.any BUDGET_CODES.contains <;>
          simp [afterBlocked, hoperation, hbudget, hprotocol, List.dropWhile]
      · simp [hprotocol]
      · simp

theorem authorizationOf_protocol {result : AuthorizeResult} :
    (authorizationOf result).payment.bind Payment.protocol = some "x402" ↔
      ∃ payment ∈ result.payment, payment.protocol = some "x402" := by
  rw [authorizationOf, Option.bind_eq_some_iff]
  cases result.payment <;> simp

/-- A refusal of obtained terms is shown: it names a code of the budget or of the challenge. -/
theorem blocked_of_refusesTerms {codes : List String} (h : Authority.RefusesTerms codes) :
    ∃ code ∈ codes, code ∈ BUDGET_CODES ∨ code ∈ CHALLENGE_CODES := by
  obtain ⟨code, hcode, hamount | ⟨_, _, _, _, _, hchallenge⟩⟩ := h.objection
  · refine ⟨code.name, hcode, .inl ?_⟩
    simp only [List.mem_cons, List.not_mem_nil, or_false] at hamount
    rcases hamount with rfl | rfl | rfl <;> simp [BUDGET_CODES, ReasonCode.name]
  · exact ⟨code.name, hcode, .inr (List.mem_map_of_mem
      (List.mem_filter.2 ⟨code.mem_all, selectAndValidateChallenge_rejects code hchallenge⟩))⟩

/-- Over every run, a denial that was returned is not overstated exactly if no x402 requirement was obtained for
it: what was obtained is always among the reasons. -/
theorem timeline_of_obtained {platform : Platform} {options : ℕ → AuthorityServiceOptions} {sys : System}
    {labels : List Action} (hrun : Run (System.step platform options) (fun _ _ ↦ True) .initial labels sys)
    {id : CallId} {auth : AuthenticatedRequest} {result : AuthorizeResult}
    (hcall : sys.calls id = some ⟨auth, .done (.returned result)⟩) (hdeny : result.receipt.decision = "DENY")
    (operation : Option ExactOperationV1) (evidence : EvidenceView) :
    NeverOverstates result.receipt.reasonCodes (buildTimeline ⟨operation, some (authorizationOf result)⟩ evidence) ↔
      ∀ payment ∈ result.payment, payment.protocol ≠ some "x402" := by
  have hdenied := Authority.denied_of_run hrun hcall hdeny
  rw [neverOverstates_denied_iff hdenied, authorizationOf_protocol]
  constructor
  · rintro hquiet payment hpayment hprotocol
    obtain ⟨-, hbudget, hchallenge⟩ := hquiet ⟨payment, hpayment, hprotocol⟩
    have hsome : result.payment.isSome = true := Option.isSome_iff_exists.2 ⟨payment, hpayment⟩
    obtain ⟨code, hcode, hblocked | hblocked⟩ := blocked_of_refusesTerms (hdenied.refuses hsome)
    · exact List.any_eq_false.1 hbudget code hcode (List.contains_iff_mem.2 hblocked)
    · exact List.any_eq_false.1 hchallenge code hcode (List.contains_iff_mem.2 hblocked)
  · rintro hnone ⟨payment, hpayment, hprotocol⟩
    exact absurd hprotocol (hnone payment hpayment)

/-- Over every run: however the evidence of it stands, a denial that the authority returned is not
overstated exactly if no reason code objects to the operation, the budget or the challenge while a
requirement is shown as obtained. -/
theorem timeline_of_denial {platform : Platform} {options : ℕ → AuthorityServiceOptions} {sys : System}
    {labels : List Action} (hrun : Run (System.step platform options) (fun _ _ ↦ True) .initial labels sys)
    {id : CallId} {auth : AuthenticatedRequest} {result : AuthorizeResult}
    (hcall : sys.calls id = some ⟨auth, .done (.returned result)⟩) (hdeny : result.receipt.decision = "DENY")
    (operation : Option ExactOperationV1) (evidence : EvidenceView) :
    NeverOverstates result.receipt.reasonCodes (buildTimeline ⟨operation, some (authorizationOf result)⟩ evidence) ↔
      ((∃ payment ∈ result.payment, payment.protocol = some "x402") →
        ∀ code ∈ result.receipt.reasonCodes,
          code ∉ OPERATION_CODES ∧ code ∉ BUDGET_CODES ∧ code ∉ CHALLENGE_CODES) := by
  rw [neverOverstates_denied_iff (Authority.denied_of_run hrun hcall hdeny), authorizationOf_protocol]
  simp only [List.any_eq_false, List.contains_iff_mem, forall_and]

namespace Sample

open Authority Authority.Sample
open Authority (AuthorizeResult)
open Evidence.Sample (profile url)

/-- The challenge asks for a payment to another recipient. -/
def divertedRequirement : Payments.PaymentRequirement := { requirement with payTo := service }

def divertedRaw : Json :=
  .obj [("x402Version", .int 2), ("resource", .obj [("url", .str url)]),
    ("accepts", .arr [.obj [("scheme", .str "exact"), ("network", .str "devnet-x402"),
      ("asset", .str Payments.Sample.mint), ("payTo", .str service), ("amount", .str "5"),
      ("extra", .obj [("feePayer", .str Payments.Sample.facilitator)])]])]

def diverted : Payments.PaymentChallenge := ⟨[divertedRequirement], paidRequest.sha256, divertedRaw⟩

def divertedTerms : ChallengeTerms :=
  ⟨some paidRequest, some diverted, some divertedRequirement, [.CHALLENGE_REQUEST_MISMATCH]⟩

def reasonCodes : List String := ["CHALLENGE_REQUEST_MISMATCH", "RECIPIENT_MISMATCH"]

def denied : InvocationRecord := (reserveInput auth 2600 divertedTerms).row .DENIED reasonCodes 2700

def deniedDb : Db := db (grant "0" "0" 2700) denied
  [⟨"invocation", none, .DENIED, some "CHALLENGE_REQUEST_MISMATCH,RECIPIENT_MISMATCH", 2700⟩]

def refusal : SignedAuthorizationReceipt :=
  ⟨Authority.unsignedReceipt platform options denied, platform.signBytes options.authoritySigner
    (canonicalizeReceipt platform (Authority.unsignedReceipt platform options denied))⟩

def refused : InvocationRecord := attachedRow refusal 2800 denied

def refusedDb : Db := db (grant "0" "0" 2700) refused deniedDb.transitions

def answer : AuthorizeResult := resultOf options denied refusal false

theorem diverting_step : callStep platform options .empty auth (.fetching 2600 profile paidRequest)
    (.challenge (.challenge diverted)) = some (.empty, .reserving 2600 divertedTerms) := by
  rfl

theorem denying_step : callStep platform options .empty auth (.reserving 2600 divertedTerms) (.store (some 2700)) =
    some (deniedDb, .signing denied false) := by
  rfl

theorem refusing_step : callStep platform options deniedDb auth (.signing denied false) (.store (some 2800)) =
    some (refusedDb, .done (.returned answer)) := by
  have hsign : signReceipt platform options denied = some refusal := by
    rw [signReceipt, signAuthorizationReceipt,
      if_pos (show options.authoritySigner = (Authority.unsignedReceipt platform options denied).authority from rfl)]
    rfl
  have hattach : deniedDb.access (some 2800) (attachReceipt denied.invocationId refusal) =
      (.ok refusal, refusedDb) := by
    rfl
  simp only [callStep, hsign, Option.map_some, hattach]
  rfl

theorem refused_run : Run (System.step platform fun _ ↦ options) (fun _ _ ↦ True) .initial
    ([.start 0, .recover 0 (some 1000), .arrive id input 2500 (some 2500)] ++ [.call id (.resume 2600)] ++
      [.call id (.challenge (.challenge diverted))] ++ [.call id (.store (some 2700))] ++
      [.call id (.store (some 2800))])
    (pending.withCall id auth refusedDb (.done (.returned answer))) := by
  have harrived : Run (System.step platform fun _ ↦ options) (fun _ _ ↦ True) .initial
      [.start 0, .recover 0 (some 1000), .arrive id input 2500 (some 2500)]
      (pending.withCall id auth .empty (.known none)) :=
    (started_run.mono trivial (fun _ _ _ _ _ _ ↦ trivial) fun _ _ _ _ ↦ trivial).next trivial arrives
  exact run_call (run_call (run_call (run_call harrived trivial resuming_step) trivial diverting_step) trivial
    denying_step) trivial refusing_step

end Sample

open Authority.Sample Sample in
/-- The payment terms of the diverted challenge are shown as matching the permit, also with a bundle. -/
theorem timeline_of_denial_diverted :
    ¬ NeverOverstates Sample.reasonCodes (buildTimeline ⟨none, some (authorizationOf answer)⟩ ⟨true, none⟩) := by
  have hdenial := timeline_of_denial refused_run System.withCall_calls rfl none ⟨true, none⟩
  intro h
  obtain ⟨-, -, hchallenge⟩ := hdenial.1 h ⟨_, rfl, rfl⟩ "CHALLENGE_REQUEST_MISMATCH" List.mem_cons_self
  exact hchallenge (by decide)

open Authority.Sample Sample in
/-- A purchase whose challenge was rejected: the run denies it, and the challenge is shown as verified. -/
theorem diverted_overstated :
    (∃ labels sys, Run (System.step Authority.Sample.platform fun _ ↦ options) (fun _ _ ↦ True)
      .initial labels sys ∧
      sys.calls Authority.Sample.id = some ⟨auth, .done (.returned answer)⟩) ∧
    answer.receipt.decision = "DENY" ∧
    answer.receipt.reasonCodes = ["CHALLENGE_REQUEST_MISMATCH", "RECIPIENT_MISMATCH"] ∧
    ¬ NeverOverstates answer.receipt.reasonCodes
      (buildTimeline ⟨some Evidence.Sample.operation, some (authorizationOf answer)⟩ ⟨false, none⟩) := by
  refine ⟨⟨_, _, refused_run, System.withCall_calls⟩, rfl, rfl, fun h ↦ ?_⟩
  have hverified := h.challenge ⟨"CHALLENGE_REQUEST_MISMATCH", by decide, by decide⟩
    ⟨⟨.done, "VERIFIED", some "Payment terms match the human permit"⟩, "challenge", "x402 challenge"⟩
    (by decide) rfl
  exact hverified.1 rfl

end VirtualHaibin.Web
