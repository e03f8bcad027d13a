import VirtualHaibin.Foundation.OrderedMap
import VirtualHaibin.Foundation.Program
import VirtualHaibin.Foundation.TextDecoder
import VirtualHaibin.Payments.Settlement

/-!
# The payment provider

`X402ExactPaymentProvider` as a program that calls the pinned RPC, the paid service, the x402 library,
the caller's `beforeSubmit` and the clock, each of which may answer anything, fail or never answer.
-/

namespace VirtualHaibin.Payments

open Foundation Foundation.Checked Program

def MAX_ACKNOWLEDGEMENT_CHARS : ℕ := 4096

/-- A request through the host's `fetch`; the method is `POST` and redirects are not followed. -/
structure HttpRequest where
  url : String
  headers : OrderedMap String String
  body : String

/-- Names of headers are compared without case. -/
def sameHeader (name other : String) : Bool :=
  name.toList.map Char.toLower = other.toList.map Char.toLower

/-- The values of a header. -/
def HttpRequest.header (request : HttpRequest) (name : String) : List String :=
  (request.headers.rows.filter fun entry ↦ sameHeader entry.1 name).map Prod.snd

structure HttpResponse where
  status : ℤ
  headers : List (String × String)

/-- `headers.get(name)`. -/
def HttpResponse.header (response : HttpResponse) (name : String) : Option String :=
  (response.headers.find? fun entry ↦ entry.1 = name).map Prod.snd

inductive ProviderCall
  /-- The requests to `profile.rpcUrl`, by method and parameters. -/
  | getLatestBlockhash
  | getSignaturesForAddress (address : String)
  | getTransaction (signature : String)
  | getBlockHeight
  | createPaymentPayload (paymentRequired : Json)
  | encodePaymentSignatureHeader (payload : Json)
  | getPaymentSettleResponse (response : HttpResponse)
  | beforeSubmit (attempt : PaymentAttempt)
  /-- The request to the paid service. -/
  | fetch (request : HttpRequest)
  /-- The chunks of the body, put together. -/
  | readBody (response : HttpResponse)
  /-- `Date.now()`. -/
  | now
  /-- Half a second. -/
  | sleep

/-- Failures answer with the text of their exception. -/
def ProviderAnswer : ProviderCall → Type
  /- `result.value`. -/
  | .getLatestBlockhash => Except String (List (String × Json))
  | .getSignaturesForAddress _ => Except String Json
  | .getTransaction _ => Except String (Option RpcTransaction)
  | .getBlockHeight => Except String Number
  | .createPaymentPayload _ => Except String Json
  | .encodePaymentSignatureHeader _ => Except String (List (String × String))
  | .getPaymentSettleResponse _ => Except String Json
  | .beforeSubmit _ => Except String Unit
  | .fetch _ => Except String HttpResponse
  | .readBody _ => Except String (List ℕ)
  | .now => ℤ
  | .sleep => Unit

/-- Calls and answers of the provider. -/
abbrev Trace := List (Program.Event ProviderAnswer)

/-- A computation of the provider that may fail. -/
abbrev Provider (ε α : Type) := ExceptT ε (Program ProviderCall ProviderAnswer) α

namespace Provider

def getLatestBlockhash : Provider String (List (String × Json)) := ExceptT.mk (perform ProviderCall.getLatestBlockhash)

def getSignaturesForAddress (address : String) : Provider String Json :=
  ExceptT.mk (perform (ProviderCall.getSignaturesForAddress address))

def getTransaction (signature : String) : Provider String (Option RpcTransaction) :=
  ExceptT.mk (perform (ProviderCall.getTransaction signature))

def getBlockHeight : Provider String Number := ExceptT.mk (perform ProviderCall.getBlockHeight)

def createPaymentPayload (paymentRequired : Json) : Provider String Json :=
  ExceptT.mk (perform (ProviderCall.createPaymentPayload paymentRequired))

def encodePaymentSignatureHeader (payload : Json) : Provider String (List (String × String)) :=
  ExceptT.mk (perform (ProviderCall.encodePaymentSignatureHeader payload))

def getPaymentSettleResponse (response : HttpResponse) : Provider String Json :=
  ExceptT.mk (perform (ProviderCall.getPaymentSettleResponse response))

def beforeSubmit (attempt : PaymentAttempt) : Provider String Unit :=
  ExceptT.mk (perform (ProviderCall.beforeSubmit attempt))

def fetch (request : HttpRequest) : Provider String HttpResponse := ExceptT.mk (perform (ProviderCall.fetch request))

def readBody (response : HttpResponse) : Provider String (List ℕ) :=
  ExceptT.mk (perform (ProviderCall.readBody response))

def now {ε : Type} : Provider ε ℤ := ask ProviderCall.now

def sleep {ε : Type} : Provider ε Unit := ask ProviderCall.sleep

end Provider

open Provider

structure ProviderOptions extends ProviderPins where
  maxResultBytes : ℕ := 16 * 1024
  confirmationWaitMs : ℤ := 10000
  expiryMarginBlocks : ℕ := 20

structure ExecuteInput where
  request : PaidRequest
  challenge : PaymentChallenge
  requirement : PaymentRequirement
  reference : String
  serviceAuthorizationHeader : Option String

inductive ProviderError
  /-- `PaymentNotSubmittedError`. -/
  | notSubmitted (message : String)
  /-- `PaymentOutcomeUnknownError`. -/
  | outcomeUnknown (message : String) (attempt : PaymentAttempt)

variable (platform : Platform) (options : ProviderOptions)

/-- `BigInt(value)` of a number. -/
def bigIntOfNumber (value : Number) : Except String ℤ :=
  match value with
  | .finite height => do
    guardThat (height.den = 1) ("The number " ++ platform.stringify (some (.num value)) ++
      " cannot be converted to a BigInt because it is not an integer")
    return height.num
  | .infinite _ => .error ("The number " ++ numberText platform value ++
      " cannot be converted to a BigInt because it is not an integer")

/-- One entry of the history. -/
def addCandidate (found : OrderedSet String) (entry : Json) : Except String (OrderedSet String) :=
  match entry with
  | .null => .error "Cannot read properties of null (reading 'signature')"
  | .obj record => .ok (match text record "signature" with
    | some signature => found.add signature
    | none => found)
  | _ => .ok found

/-- The hint and then the signatures of the history, each once. -/
def candidates (hint : Option String) (history : Json) : Except String (OrderedSet String) :=
  let first : OrderedSet String := match hint with
    | some hint => if hint = "" then .empty else OrderedSet.add .empty hint
    | none => .empty
  match history with
  | .arr entries => entries.foldlM addCandidate first
  | _ => .ok first

/-- The candidates one after the other: the first that carries the payer signature decides. -/
def checkCandidates (attempt : PaymentAttempt) (hint : Option String) :
    List String → Provider String (Option SettlementLookup)
  | [] => pure none
  | signature :: rest => do
    let tx ← getTransaction signature
    match ← compute (checkSettledTransaction platform tx attempt.settlementFacts) with
    | .notThisPayment => checkCandidates attempt hint rest
    | .factsMismatch _ detail => return some (.inconclusive detail)
    | .failedOnchain transactionId error => return some (.failed_onchain transactionId error)
    | .settled transactionId slot => do
      let confirmedAt ← now
      return some (.confirmed ⟨transactionId, slot, hint, confirmedAt⟩)

def lookup (attempt : PaymentAttempt) (hint : Option String) : Provider String SettlementLookup := do
  let history ← getSignaturesForAddress attempt.payer
  let candidates ← compute (candidates hint history)
  match ← checkCandidates platform attempt hint candidates.rows with
  | some found => return found
  | none => do
    let height ← compute (bigIntOfNumber platform (← getBlockHeight))
    let lastValid ← compute (required (Decimal.bigInt attempt.lastValidBlockHeight)
      ("Cannot convert " ++ attempt.lastValidBlockHeight ++ " to a BigInt"))
    if lastValid + options.expiryMarginBlocks < height then return .expired height.repr
    else return .pending (some height.repr)

/-- Reconciliation starts without a hint. -/
def lookupSettlement (attempt : PaymentAttempt) : Provider String SettlementLookup :=
  lookup platform options attempt none

/-- `last?.status ?? "none"`. -/
def lastStatus : Option SettlementLookup → String
  | none => "none"
  | some (.confirmed _) => "confirmed"
  | some (.failed_onchain _ _) => "failed_onchain"
  | some (.expired _) => "expired"
  | some (.pending _) => "pending"
  | some (.inconclusive _) => "inconclusive"

def notConfirmed (attempt : PaymentAttempt) (last : Option SettlementLookup) : ProviderError :=
  .outcomeUnknown ("Settlement not confirmed on the pinned RPC (last lookup: " ++ lastStatus last ++ ").") attempt

/-- The rounds of the loop until the deadline, as many as are looked at. -/
def confirmationRounds (attempt : PaymentAttempt) (reported : Option String) (deadline : ℤ) :
    ℕ → Option SettlementLookup → Provider ProviderError ConfirmedSettlement
  | 0, _ => ExceptT.mk .running
  | rounds + 1, last => do
    let time ← now
    if time < deadline then
      match ← recover .inconclusive (lookup platform options attempt reported) with
      | .confirmed settlement => return settlement
      | .failed_onchain transactionId error => throw (notConfirmed attempt (some (.failed_onchain transactionId error)))
      | .expired height => throw (notConfirmed attempt (some (.expired height)))
      | .pending height => do
        sleep
        confirmationRounds attempt reported deadline rounds (some (.pending height))
      | .inconclusive detail => do
        sleep
        confirmationRounds attempt reported deadline rounds (some (.inconclusive detail))
    else throw (notConfirmed attempt last)

def awaitConfirmation (rounds : ℕ) (attempt : PaymentAttempt) (reported : Option String) :
    Provider ProviderError ConfirmedSettlement := do
  let time ← now
  confirmationRounds platform options attempt reported (time + options.confirmationWaitMs) rounds none

/-! ## The payment -/

/-- The entry of the challenge that the requirement was normalized from. -/
def originalEntry (raw : Json) (requirement : PaymentRequirement) : Option (List (String × Json)) :=
  match raw with
  | .obj record =>
    match Json.member record "accepts" with
    | some (.arr accepts) =>
      match accepts[requirement.acceptsIndex]? with
      | some (.obj original) => if originalMatches raw requirement then some original else none
      | _ => none
    | _ => none
  | _ => none

/-- `{ ...members, [name]: value }`. -/
def withMember (members : List (String × Json)) (name : String) (value : Json) : List (String × Json) :=
  if name ∈ members.map Prod.fst then
    members.map fun entry ↦ if entry.1 = name then (name, value) else entry
  else members ++ [(name, value)]

/-- The challenge with the selected entry alone, bound to the blockhash of the pinned RPC. -/
def signedChallenge (raw : Json) (original : List (String × Json)) (fresh : FreshBlockhash) : Json :=
  let extra := ((object? (Json.member original "extra")).getD []).filter fun entry ↦
    entry.1 ≠ "recentBlockhash" ∧ entry.1 ≠ "lastValidBlockHeight"
  let signed := withMember original "extra"
    (.obj (extra ++ [("recentBlockhash", .str fresh.blockhash),
      ("lastValidBlockHeight", .str fresh.lastValidBlockHeight.repr)]))
  .obj (withMember ((object? (some raw)).getD []) "accepts" (.arr [.obj signed]))

/-- `payload.payload.transaction`; what is no text counts as absent. -/
def payloadTransaction (payload : Json) : Except String (Option String) :=
  match payload with
  | .null => .error "Cannot read properties of null (reading 'payload')"
  | .obj record =>
    match Json.member record "payload" with
    | none => .error "Cannot read properties of undefined (reading 'transaction')"
    | some .null => .error "Cannot read properties of null (reading 'transaction')"
    | some (.obj inner) => .ok (text inner "transaction")
    | some _ => .ok none
  | _ => .error "Cannot read properties of undefined (reading 'transaction')"

/-- Before transmission: the credential is built, checked and recorded. -/
def prepare (input : ExecuteInput) : Provider String (PaymentAttempt × Json) := do
  compute (guardThat (paidRequestMatches platform input.request input.challenge.requestSha256)
    "Paid request does not match the request the challenge was issued for.")
  let original ← compute (required (originalEntry input.challenge.raw input.requirement)
    "Selected requirement does not match the parsed challenge.")
  let feePayer ← compute (required
    (input.requirement.feePayer.filter fun feePayer ↦ feePayer ≠ options.payerAddress)
    "Challenge fee payer is missing or is the payment wallet itself.")
  let value ← getLatestBlockhash
  let fresh ← compute (freshBlockhash platform options.profile value)
  let payload ← createPaymentPayload (signedChallenge input.challenge.raw original fresh)
  let transaction ← compute (payloadTransaction payload)
  let check ← compute ((validateExactPaymentTransaction platform transaction {
    payer := options.payerAddress, feePayer, asset := input.requirement.asset, payTo := input.requirement.payTo,
    amountAtomic := input.requirement.amountAtomic, blockhash := fresh.blockhash }).mapError
      fun reason ↦ "payment transaction rejected: " ++ reason)
  let preparedAt ← now
  let attempt : PaymentAttempt := {
    protocol := "x402", scheme := input.requirement.scheme, settlementProfile := options.profile.name,
    network := input.requirement.network, payer := options.payerAddress, payerSignature := check.payerSignature,
    feePayer, asset := input.requirement.asset, payTo := input.requirement.payTo,
    amountAtomic := input.requirement.amountAtomic, blockhash := fresh.blockhash,
    lastValidBlockHeight := fresh.lastValidBlockHeight.repr, resourceUrl := input.request.url,
    requestSha256 := input.request.sha256, transactionBase64 := transaction, preparedAt }
  beforeSubmit attempt
  return (attempt, payload)

/-- The headers of the paid request without those of the credential. -/
def plainHeaders (input : ExecuteInput) : OrderedMap String String :=
  let headers := ((OrderedMap.set .empty "accept" "application/json").set "content-type" "application/json").set
    "x-vh-invocation-id" input.reference
  match input.serviceAuthorizationHeader with
  | none => headers
  | some authorization => headers.set "x-vh-authorization" authorization

/-- `{ ...headers, ...entries }`. -/
def spread (headers : OrderedMap String String) (entries : List (String × String)) : OrderedMap String String :=
  entries.foldl (fun headers entry ↦ headers.set entry.1 entry.2) headers

def paidRequest (input : ExecuteInput) (encoded : List (String × String)) : HttpRequest :=
  ⟨input.request.url, spread (plainHeaders input) encoded, input.request.body⟩

def transmit (input : ExecuteInput) (payload : Json) : Provider String HttpResponse := do
  let encoded ← encodePaymentSignatureHeader payload
  fetch (paidRequest input encoded)

/-- `readBounded`. -/
def readBounded (response : HttpResponse) (maxBytes : ℕ) : Provider String (List ℕ) := do
  let bytes ← readBody response
  compute (guardThat (decide (bytes.length ≤ maxBytes)) ("response body exceeds " ++ maxBytes.repr ++ " bytes"))
  return bytes

/-- The transaction the facilitator reports with its success. -/
def reportedTransaction (response : HttpResponse) : Provider String (Option String) := do
  match ← getPaymentSettleResponse response with
  | .null => throw "Cannot read properties of null (reading 'success')"
  | .obj settle => do
    compute (guardThat (match Json.member settle "success" with | some (.bool true) => true | _ => false)
      "settlement not successful")
    return text settle "transaction"
  | _ => throw "settlement not successful"

def summarizeResult (httpStatus : ℤ) (bytes : List ℕ) : PaidResult :=
  let sha256 := platform.sha256HexOfBytes bytes
  if options.maxResultBytes < bytes.length then ⟨httpStatus, .null, sha256, bytes.length, none, none⟩
  else ⟨httpStatus, (platform.parseJson (TextDecoder.decode bytes)).getD .null, sha256, bytes.length,
    some (platform.encodeBase64 bytes), none⟩

/-- After transmission: the answer of the service, and the confirmation it cannot replace. -/
def settle (rounds : ℕ) (attempt : PaymentAttempt) (response : HttpResponse) :
    Provider ProviderError PaymentExecution := do
  let bytes ← rethrow (fun error ↦ .outcomeUnknown ("Paid response could not be read: " ++ error) attempt)
    (readBounded response (options.maxResultBytes * 4))
  compute (guardThat (response.status = 200)
    (.outcomeUnknown ("Paid retry returned HTTP " ++ response.status.repr ++ ".") attempt))
  let reported ← rethrow
    (fun error ↦ .outcomeUnknown ("Settlement response missing or unsuccessful: " ++ error) attempt)
    (reportedTransaction response)
  let settlement ← awaitConfirmation platform options rounds attempt reported
  let acknowledgement := (response.header "x-vh-service-acknowledgement").filter fun text ↦
    Text.utf16Length text ≤ MAX_ACKNOWLEDGEMENT_CHARS
  return ⟨attempt, settlement,
    { summarizeResult platform options response.status bytes with serviceAcknowledgementHeader := acknowledgement }⟩

def execute (rounds : ℕ) (input : ExecuteInput) : Provider ProviderError PaymentExecution := do
  let (attempt, payload) ← rethrow
    (fun error ↦ .notSubmitted ("Payment credential was not transmitted: " ++ error)) (prepare platform options input)
  let response ← rethrow
    (fun error ↦ .outcomeUnknown ("Paid retry failed after transmission: " ++ error) attempt) (transmit input payload)
  settle platform options rounds attempt response

/-- Any call but the request to the paid service. -/
def NotFetch (call : ProviderCall) : Prop := ∀ request, call ≠ .fetch request

/-- Any call but that of the callback. -/
def NotSubmit (call : ProviderCall) : Prop := ∀ attempt, call ≠ .beforeSubmit attempt

/-- The calls that only look. -/
def Looks (call : ProviderCall) : Prop := NotFetch call ∧ NotSubmit call

variable {platform options}

theorem checkCandidates_only (attempt : PaymentAttempt) (hint : Option String) (candidates : List String) :
    (checkCandidates platform attempt hint candidates).run.Only Looks := by
  induction candidates with
  | nil => trivial
  | cons signature rest ih =>
    refine only_then (only_perform (by simp [Looks, NotFetch, NotSubmit])) fun tx ↦ only_then trivial fun check ↦ ?_
    cases check with
    | notThisPayment => exact ih
    | factsMismatch => trivial
    | failedOnchain => trivial
    | settled => exact only_then (only_ask (by simp [Looks, NotFetch, NotSubmit])) fun _ ↦ trivial

theorem lookup_only (attempt : PaymentAttempt) (hint : Option String) :
    (lookup platform options attempt hint).run.Only Looks := by
  refine only_then (only_perform (by simp [Looks, NotFetch, NotSubmit])) fun history ↦
    only_then trivial fun candidates ↦
    only_then (checkCandidates_only attempt hint candidates.rows) fun found ↦ ?_
  cases found with
  | some found => trivial
  | none =>
    refine only_then (only_perform (by simp [Looks, NotFetch, NotSubmit])) fun height ↦ only_then trivial fun height ↦
      only_then trivial fun lastValid ↦ ?_
    split <;> trivial

theorem confirmationRounds_only (attempt : PaymentAttempt) (reported : Option String) (deadline : ℤ) (rounds : ℕ)
    (last : Option SettlementLookup) :
    (confirmationRounds platform options attempt reported deadline rounds last).run.Only Looks := by
  induction rounds generalizing last with
  | zero => trivial
  | succ rounds ih =>
    refine only_then (only_ask (by simp [Looks, NotFetch, NotSubmit])) fun time ↦ ?_
    split
    · refine only_then (only_recover (lookup_only attempt reported)) fun looked ↦ ?_
      cases looked with
      | confirmed => trivial
      | failed_onchain => trivial
      | expired => trivial
      | pending => exact only_then (only_ask (by simp [Looks, NotFetch, NotSubmit])) fun _ ↦ ih _
      | inconclusive => exact only_then (only_ask (by simp [Looks, NotFetch, NotSubmit])) fun _ ↦ ih _
    · trivial

theorem settle_only (rounds : ℕ) (attempt : PaymentAttempt) (response : HttpResponse) :
    (settle platform options rounds attempt response).run.Only Looks := by
  refine only_then (only_rethrow (only_then (only_perform (by simp [Looks, NotFetch, NotSubmit])) fun bytes ↦
    only_then trivial fun _ ↦ trivial)) fun bytes ↦ only_then trivial fun _ ↦ only_then (only_rethrow ?_) fun reported ↦
    only_then (only_then (only_ask (by simp [Looks, NotFetch, NotSubmit])) fun time ↦
      confirmationRounds_only _ _ _ _ _) fun _ ↦ trivial
  refine only_then (only_perform (by simp [Looks, NotFetch, NotSubmit])) fun settle ↦ ?_
  cases settle with
  | obj => exact only_then trivial fun _ ↦ trivial
  | _ => trivial

theorem prepare_only (input : ExecuteInput) : (prepare platform options input).run.Only NotFetch :=
  only_then trivial fun _ ↦ only_then trivial fun original ↦ only_then trivial fun feePayer ↦
    only_then (only_perform (by simp [NotFetch])) fun value ↦ only_then trivial fun fresh ↦
    only_then (only_perform (by simp [NotFetch])) fun payload ↦ only_then trivial fun transaction ↦
    only_then trivial fun check ↦ only_then (only_ask (by simp [NotFetch])) fun preparedAt ↦
    only_then (only_perform (by simp [NotFetch])) fun _ ↦ trivial

/-! ## What the parts return -/

/-- The pinned RPC showed a transaction that settles the attempt. -/
def ShowsSettled (platform : Platform) (attempt : PaymentAttempt) (trace : Trace) (settlement : ConfirmedSettlement) :
    Prop :=
  ∃ signature tx, (⟨.getTransaction signature, some (Except.ok tx)⟩ : Program.Event ProviderAnswer) ∈ trace ∧
    checkSettledTransaction platform tx attempt.settlementFacts =
      .ok (.settled settlement.transactionId settlement.slot)

theorem ShowsSettled.append {attempt : PaymentAttempt} {before trace after : Trace} {settlement : ConfirmedSettlement}
    (h : ShowsSettled platform attempt trace settlement) :
    ShowsSettled platform attempt (before ++ trace ++ after) settlement := by
  obtain ⟨signature, tx, hmem, hsettled⟩ := h
  exact ⟨signature, tx, List.mem_append_left _ (List.mem_append_right _ hmem), hsettled⟩

/-- A candidate that decides the lookup. -/
def Decides (hint : Option String) (check : SettledTransactionCheck) :
    SettlementLookup → Prop
  | .inconclusive detail => ∃ transactionId, check = .factsMismatch transactionId detail
  | .failed_onchain transactionId error => check = .failedOnchain transactionId error
  | .confirmed settlement => check = .settled settlement.transactionId settlement.slot ∧
      settlement.facilitatorReportedTransaction = hint
  | .expired _ | .pending _ => False

theorem checkCandidates_some {attempt : PaymentAttempt} {hint : Option String} {candidates : List String}
    {trace : Trace} {found : SettlementLookup}
    (h : Plays (checkCandidates platform attempt hint candidates).run trace (some (.ok (some found)))) :
    ∃ signature ∈ candidates, ∃ tx check,
      (⟨.getTransaction signature, some (Except.ok tx)⟩ : Program.Event ProviderAnswer) ∈ trace ∧
      checkSettledTransaction platform tx attempt.settlementFacts = .ok check ∧ Decides hint check found := by
  induction candidates generalizing trace with
  | nil =>
    obtain ⟨-, hresult⟩ := plays_ok.1 h
    cases hresult
  | cons signature rest ih =>
    obtain ⟨tx, before, after, rfl, hask, h⟩ := plays_then_ok.1 h
    obtain ⟨check, checked, after, rfl, hchecked, h⟩ := plays_then_ok.1 h
    obtain rfl := plays_perform.1 hask
    obtain ⟨rfl, hcheck⟩ := plays_compute_ok.1 hchecked
    cases check with
    | notThisPayment =>
      obtain ⟨other, hother, tx, check, hmem, hfound⟩ := ih h
      exact ⟨other, List.mem_cons_of_mem _ hother, tx, check, List.mem_cons_of_mem _ hmem, hfound⟩
    | factsMismatch transactionId detail =>
      obtain ⟨-, hresult⟩ := plays_ok.1 h
      cases hresult
      exact ⟨signature, List.mem_cons_self, tx, _, List.mem_cons_self, hcheck, transactionId, rfl⟩
    | failedOnchain transactionId error =>
      obtain ⟨-, hresult⟩ := plays_ok.1 h
      cases hresult
      exact ⟨signature, List.mem_cons_self, tx, _, List.mem_cons_self, hcheck, rfl⟩
    | settled transactionId slot =>
      obtain ⟨time, clocked, rest, rfl, -, h⟩ := plays_then_ok.1 h
      obtain ⟨-, hresult⟩ := plays_ok.1 h
      cases hresult
      exact ⟨signature, List.mem_cons_self, tx, _, List.mem_cons_self, hcheck, rfl, rfl⟩

/-- Without a decision every candidate was fetched, and was another payment. -/
theorem checkCandidates_none {attempt : PaymentAttempt} {hint : Option String} {candidates : List String}
    {trace : Trace} (h : Plays (checkCandidates platform attempt hint candidates).run trace (some (.ok none))) :
    ∀ signature ∈ candidates, ∃ tx,
      (⟨.getTransaction signature, some (Except.ok tx)⟩ : Program.Event ProviderAnswer) ∈ trace ∧
      checkSettledTransaction platform tx attempt.settlementFacts = .ok .notThisPayment := by
  induction candidates generalizing trace with
  | nil => simp
  | cons signature rest ih =>
    obtain ⟨tx, before, after, rfl, hask, h⟩ := plays_then_ok.1 h
    obtain ⟨check, checked, after, rfl, hchecked, h⟩ := plays_then_ok.1 h
    obtain rfl := plays_perform.1 hask
    obtain ⟨rfl, hcheck⟩ := plays_compute_ok.1 hchecked
    cases check with
    | notThisPayment =>
      rw [List.forall_mem_cons]
      refine ⟨⟨tx, List.mem_cons_self, hcheck⟩, fun other hother ↦ ?_⟩
      obtain ⟨tx, hmem, hother⟩ := ih h other hother
      exact ⟨tx, List.mem_cons_of_mem _ hmem, hother⟩
    | factsMismatch =>
      obtain ⟨-, hresult⟩ := plays_ok.1 h
      cases hresult
    | failedOnchain =>
      obtain ⟨-, hresult⟩ := plays_ok.1 h
      cases hresult
    | settled =>
      obtain ⟨time, clocked, rest, rfl, -, h⟩ := plays_then_ok.1 h
      obtain ⟨-, hresult⟩ := plays_ok.1 h
      cases hresult

/-- A lookup is decided by a candidate or by the block height, which it reads last. -/
theorem lookup_ok {attempt : PaymentAttempt} {hint : Option String} {trace : Trace} {result : SettlementLookup}
    (h : Plays (lookup platform options attempt hint).run trace (some (.ok result))) :
    ∃ history found checking rest, candidates hint history = .ok found ∧
      trace = ⟨.getSignaturesForAddress attempt.payer, some (Except.ok history)⟩ :: (checking ++ rest) ∧
      ((rest = [] ∧
          Plays (checkCandidates platform attempt hint found.rows).run checking (some (.ok (some result)))) ∨
        ∃ answer height lastValid, rest = [⟨.getBlockHeight, some (Except.ok answer)⟩] ∧
          Plays (checkCandidates platform attempt hint found.rows).run checking (some (.ok none)) ∧
          bigIntOfNumber platform answer = .ok height ∧
          Decimal.bigInt attempt.lastValidBlockHeight = some lastValid ∧
          result = if lastValid + options.expiryMarginBlocks < height then .expired height.repr
            else .pending (some height.repr)) := by
  obtain ⟨history, asked, after, rfl, hasked, h⟩ := plays_then_ok.1 h
  obtain ⟨found, counted, after, rfl, hcounted, h⟩ := plays_then_ok.1 h
  obtain ⟨decision, checking, after, rfl, hchecking, h⟩ := plays_then_ok.1 h
  obtain rfl := plays_perform.1 hasked
  obtain ⟨rfl, hfound⟩ := plays_compute_ok.1 hcounted
  refine ⟨history, found, checking, after, hfound, rfl, ?_⟩
  cases decision with
  | some decision =>
    obtain ⟨rfl, hresult⟩ := plays_ok.1 h
    cases hresult
    exact .inl ⟨rfl, hchecking⟩
  | none =>
    obtain ⟨answer, asked, after, rfl, hasked, h⟩ := plays_then_ok.1 h
    obtain ⟨height, read, after, rfl, hread, h⟩ := plays_then_ok.1 h
    obtain ⟨lastValid, bounded, final, rfl, hbounded, hverdict⟩ := plays_then_ok.1 h
    obtain rfl := plays_perform.1 hasked
    obtain ⟨rfl, hheight⟩ := plays_compute_ok.1 hread
    obtain ⟨rfl, hvalid⟩ := plays_compute_ok.1 hbounded
    have hlast : final = [] ∧ result = if lastValid + options.expiryMarginBlocks < height then .expired height.repr
        else .pending (some height.repr) := by
      split at hverdict
      · rename_i hpast
        obtain ⟨hfinal, hresult⟩ := plays_ok.1 hverdict
        cases hresult
        exact ⟨hfinal, (if_pos hpast).symm⟩
      · rename_i hvalid
        obtain ⟨hfinal, hresult⟩ := plays_ok.1 hverdict
        cases hresult
        exact ⟨hfinal, (if_neg hvalid).symm⟩
    obtain ⟨rfl, hresult⟩ := hlast
    exact .inr ⟨answer, height, lastValid, rfl, hchecking, hheight, required_eq_ok.1 hvalid, hresult⟩

theorem lookup_confirmed {attempt : PaymentAttempt} {hint : Option String} {trace : Trace}
    {settlement : ConfirmedSettlement}
    (h : Plays (lookup platform options attempt hint).run trace (some (.ok (.confirmed settlement)))) :
    ShowsSettled platform attempt trace settlement := by
  obtain ⟨history, found, checking, rest, -, rfl,
    ⟨rfl, hchecking⟩ | ⟨answer, height, lastValid, -, -, -, -, hresult⟩⟩ :=
    lookup_ok h
  · obtain ⟨signature, -, tx, check, hmem, hcheck, rfl, -⟩ := checkCandidates_some hchecking
    exact ⟨signature, tx, List.mem_cons_of_mem _ (List.mem_append_left _ hmem), hcheck⟩
  · split at hresult <;> cases hresult

theorem confirmationRounds_ok {attempt : PaymentAttempt} {reported : Option String} {deadline : ℤ} {rounds : ℕ}
    {last : Option SettlementLookup} {trace : Trace} {settlement : ConfirmedSettlement}
    (h : Plays (confirmationRounds platform options attempt reported deadline rounds last).run trace
      (some (.ok settlement))) : ShowsSettled platform attempt trace settlement := by
  induction rounds generalizing last trace with
  | zero =>
    obtain ⟨-, hresult⟩ := plays_running.1 h
    cases hresult
  | succ rounds ih =>
    obtain ⟨time, clocked, after, rfl, -, h⟩ := plays_then_ok.1 h
    split at h
    · obtain ⟨looked, looking, after, rfl, hlooked, h⟩ := plays_then_ok.1 h
      have hmore {last : Option SettlementLookup} (h : Plays (sleep >>= fun _ ↦
          confirmationRounds platform options attempt reported deadline rounds last).run after
            (some (.ok settlement))) : ShowsSettled platform attempt (clocked ++ (looking ++ after)) settlement := by
        obtain ⟨slept, sleeping, after, rfl, -, h⟩ := plays_then_ok.1 h
        obtain ⟨signature, tx, hmem, hsettled⟩ := ih h
        refine ⟨signature, tx, ?_, hsettled⟩
        exact List.mem_append_right _ (List.mem_append_right _ (List.mem_append_right _ hmem))
      cases looked with
      | confirmed found =>
        obtain ⟨rfl, hresult⟩ := plays_ok.1 h
        cases hresult
        rcases plays_recover.1 hlooked with ⟨-, hresult⟩ | ⟨error, -, hresult⟩ | ⟨value, hlookup, hresult⟩
        · cases hresult
        · cases hresult
        · cases hresult
          rw [← List.append_assoc]
          exact (lookup_confirmed hlookup).append
      | failed_onchain transactionId error =>
        obtain ⟨-, hresult⟩ := plays_throw.1 h
        cases hresult
      | expired height =>
        obtain ⟨-, hresult⟩ := plays_throw.1 h
        cases hresult
      | pending height => exact hmore h
      | inconclusive detail => exact hmore h
    · obtain ⟨-, hresult⟩ := plays_throw.1 h
      cases hresult

theorem settle_ok {rounds : ℕ} {attempt : PaymentAttempt} {response : HttpResponse} {trace : Trace}
    {execution : PaymentExecution}
    (h : Plays (settle platform options rounds attempt response).run trace (some (.ok execution))) :
    execution.attempt = attempt ∧ ShowsSettled platform attempt trace execution.settlement := by
  obtain ⟨bytes, read, after, rfl, -, h⟩ := plays_then_ok.1 h
  obtain ⟨-, checked, after, rfl, -, h⟩ := plays_then_ok.1 h
  obtain ⟨reported, reporting, after, rfl, -, h⟩ := plays_then_ok.1 h
  obtain ⟨settlement, confirming, after, rfl, hconfirmed, h⟩ := plays_then_ok.1 h
  obtain ⟨rfl, hresult⟩ := plays_ok.1 h
  cases hresult
  obtain ⟨time, clocked, after, rfl, -, hrounds⟩ := plays_then_ok.1 hconfirmed
  refine ⟨rfl, ?_⟩
  obtain ⟨signature, tx, hmem, hsettled⟩ := confirmationRounds_ok hrounds
  refine ⟨signature, tx, ?_, hsettled⟩
  simp [hmem]

/-- The result that is returned is that of the body that was read, with the acknowledgement that came with it. -/
theorem settle_result {rounds : ℕ} {attempt : PaymentAttempt} {response : HttpResponse} {trace : Trace}
    {execution : PaymentExecution}
    (h : Plays (settle platform options rounds attempt response).run trace (some (.ok execution))) :
    ∃ bytes, (⟨.readBody response, some (Except.ok bytes)⟩ : Program.Event ProviderAnswer) ∈ trace ∧
      execution.result = { summarizeResult platform options 200 bytes with
        serviceAcknowledgementHeader := (response.header "x-vh-service-acknowledgement").filter fun text ↦
          Text.utf16Length text ≤ MAX_ACKNOWLEDGEMENT_CHARS } := by
  obtain ⟨bytes, read, after, rfl, hread, h⟩ := plays_then_ok.1 h
  obtain ⟨_, checked, after, rfl, hchecked, h⟩ := plays_then_ok.1 h
  obtain ⟨reported, reporting, after, rfl, -, h⟩ := plays_then_ok.1 h
  obtain ⟨settlement, confirming, after, rfl, -, h⟩ := plays_then_ok.1 h
  obtain ⟨rfl, hresult⟩ := plays_ok.1 h
  cases hresult
  have hstatus : response.status = 200 := of_decide_eq_true (guardThat_eq_ok.1 (plays_compute_ok.1 hchecked).2)
  obtain ⟨inner, hbounded, hinner⟩ := plays_rethrow.1 hread
  obtain rfl : inner = some (.ok bytes) := by
    rcases inner with _ | error | value <;> cases hinner
    rfl
  obtain ⟨body, called, after, rfl, hcalled, h⟩ := plays_then_ok.1 hbounded
  obtain ⟨-, measured, after, rfl, -, h⟩ := plays_then_ok.1 h
  obtain ⟨rfl, hbody⟩ := plays_ok.1 h
  cases hbody
  obtain rfl := plays_perform.1 hcalled
  refine ⟨bytes, List.mem_append_left _ (List.mem_append_left _ (List.mem_singleton_self _)), ?_⟩
  rw [hstatus]

theorem confirmationRounds_throws {attempt : PaymentAttempt} (reported : Option String) (deadline : ℤ) (rounds : ℕ)
    (last : Option SettlementLookup) :
    (confirmationRounds platform options attempt reported deadline rounds last).run.Throws
      fun error ↦ ∃ message, error = .outcomeUnknown message attempt := by
  induction rounds generalizing last with
  | zero => trivial
  | succ rounds ih =>
    refine throws_then throws_ask fun time ↦ ?_
    split
    · refine throws_then throws_recover fun looked ↦ ?_
      cases looked with
      | confirmed => trivial
      | failed_onchain => exact ⟨_, rfl⟩
      | expired => exact ⟨_, rfl⟩
      | pending => exact throws_then throws_ask fun _ ↦ ih _
      | inconclusive => exact throws_then throws_ask fun _ ↦ ih _
    · exact ⟨_, rfl⟩

/-- After transmission every failure is an unknown outcome of the same attempt. -/
theorem settle_throws (rounds : ℕ) (attempt : PaymentAttempt) (response : HttpResponse) :
    (settle platform options rounds attempt response).run.Throws
      fun error ↦ ∃ message, error = .outcomeUnknown message attempt := by
  refine throws_then (throws_rethrow fun _ ↦ ⟨_, rfl⟩) fun bytes ↦ throws_then ?_ fun _ ↦
    throws_then (throws_rethrow fun _ ↦ ⟨_, rfl⟩) fun reported ↦
    throws_then (throws_then throws_ask fun time ↦ confirmationRounds_throws _ _ _ _) fun _ ↦ trivial
  unfold guardThat
  split
  · trivial
  · exact ⟨_, rfl⟩

/-- A credential that was built, checked and recorded for exactly the requirement and the request. -/
structure Ready (platform : Platform) (options : ProviderOptions) (input : ExecuteInput) (trace : Trace)
    (attempt : PaymentAttempt) (payload : Json) : Prop where
  prepared : Prepared platform options.toProviderPins input.request input.challenge input.requirement attempt
  pinned : ∃ value fresh, (⟨.getLatestBlockhash, some (Except.ok value)⟩ : Program.Event ProviderAnswer) ∈ trace ∧
    freshBlockhash platform options.profile value = .ok fresh ∧ attempt.blockhash = fresh.blockhash ∧
    attempt.lastValidBlockHeight = fresh.lastValidBlockHeight.repr
  carries : payloadTransaction payload = .ok attempt.transactionBase64
  submitted : (⟨.beforeSubmit attempt, some (Except.ok ())⟩ : Program.Event ProviderAnswer) ∈ trace

theorem originalMatches_of_originalEntry {raw : Json} {requirement : PaymentRequirement}
    {original : List (String × Json)} (h : originalEntry raw requirement = some original) :
    originalMatches raw requirement = true := by
  unfold originalEntry at h
  split at h
  · split at h
    · split at h
      · split at h
        · assumption
        · cases h
      · cases h
    · cases h
  · cases h

/-- The calls before transmission answer to one construction of the attempt. -/
theorem prepare_ok {input : ExecuteInput} {trace : Trace} {attempt : PaymentAttempt} {payload : Json}
    (h : Plays (prepare platform options input).run trace (some (.ok (attempt, payload)))) :
    Ready platform options input trace attempt payload := by
  obtain ⟨_, checked, after, rfl, hmatches, h⟩ := plays_then_ok.1 h
  obtain ⟨original, read, after, rfl, horiginal, h⟩ := plays_then_ok.1 h
  obtain ⟨feePayer, chosen, after, rfl, hfeePayer, h⟩ := plays_then_ok.1 h
  obtain ⟨value, asked, after, rfl, hvalue, h⟩ := plays_then_ok.1 h
  obtain ⟨fresh, bound, after, rfl, hfresh, h⟩ := plays_then_ok.1 h
  obtain ⟨payload', created, after, rfl, -, h⟩ := plays_then_ok.1 h
  obtain ⟨transaction, taken, after, rfl, htransaction, h⟩ := plays_then_ok.1 h
  obtain ⟨check, validated, after, rfl, hcheck, h⟩ := plays_then_ok.1 h
  obtain ⟨preparedAt, clocked, after, rfl, -, h⟩ := plays_then_ok.1 h
  obtain ⟨⟨⟩, submitted, after, rfl, hsubmit, h⟩ := plays_then_ok.1 h
  obtain ⟨rfl, hresult⟩ := plays_ok.1 h
  cases hresult
  obtain ⟨rfl, hmatched⟩ := plays_compute_ok.1 hmatches
  obtain ⟨rfl, hentry⟩ := plays_compute_ok.1 horiginal
  obtain ⟨rfl, hpayer⟩ := plays_compute_ok.1 hfeePayer
  obtain ⟨rfl, hbound⟩ := plays_compute_ok.1 hfresh
  obtain ⟨rfl, htaken⟩ := plays_compute_ok.1 htransaction
  obtain ⟨rfl, hvalid⟩ := plays_compute_ok.1 hcheck
  obtain rfl := plays_perform.1 hvalue
  obtain rfl := plays_perform.1 hsubmit
  have hprepared : prepareAttempt platform options.toProviderPins input.request input.challenge input.requirement
      ⟨value, .ok transaction, preparedAt⟩ = .ok _ :=
    bind_eq_ok.2 ⟨(), hmatched, bind_eq_ok.2 ⟨(), guardThat_eq_ok.2 (originalMatches_of_originalEntry
      (required_eq_ok.1 hentry)), bind_eq_ok.2 ⟨feePayer, hpayer, bind_eq_ok.2 ⟨fresh, hbound,
      bind_eq_ok.2 ⟨transaction, rfl, bind_eq_ok.2 ⟨check, hvalid, rfl⟩⟩⟩⟩⟩⟩
  refine ⟨prepareAttempt_ok hprepared, ⟨value, fresh, List.mem_cons_self, hbound, rfl, rfl⟩, htaken, ?_⟩
  exact List.mem_cons_of_mem _ (List.mem_append_right created (List.mem_append_right clocked List.mem_cons_self))

/-! ## The order of an execution -/

/-- The request to the paid service with a credential for exactly the attempt that was recorded. -/
structure Transmits (platform : Platform) (options : ProviderOptions) (input : ExecuteInput) (before : Trace)
    (paid : HttpRequest) (attempt : PaymentAttempt) : Prop where
  url : paid.url = input.request.url
  body : paid.body = input.request.body
  /-- The library encoded the payload whose transaction the attempt records, and its headers are spread
  over those of the request. -/
  headers : ∃ payload encoded, Ready platform options input before attempt payload ∧
    (⟨.encodePaymentSignatureHeader payload, some (Except.ok encoded)⟩ : Program.Event ProviderAnswer) ∈ before ∧
    paid.headers = spread (plainHeaders input) encoded ∧
    ((∀ entry ∈ encoded, sameHeader entry.1 "content-type" = false) →
      paid.header "content-type" = ["application/json"])

/-- An event that is the request to the paid service. -/
def isFetch : Program.Event ProviderAnswer → Bool
  | ⟨.fetch _, _⟩ => true
  | _ => false

/-- The ordering contract of `PaymentProvider.execute`. -/
structure Contract (platform : Platform) (options : ProviderOptions) (input : ExecuteInput) (trace : Trace)
    (outcome : Option (Except ProviderError PaymentExecution)) : Prop where
  once : trace.countP isFetch ≤ 1
  transmits : ∀ before paid answer after, trace = before ++ ⟨.fetch paid, answer⟩ :: after →
    ∃ attempt, Transmits platform options input before paid attempt ∧
      (∀ error, outcome = some (.error error) → ∃ message, error = .outcomeUnknown message attempt) ∧
      ∀ execution, outcome = some (.ok execution) → execution.attempt = attempt
  notSubmitted : ∀ message, outcome = some (.error (.notSubmitted message)) → trace.countP isFetch = 0
  settled : ∀ execution, outcome = some (.ok execution) →
    ShowsSettled platform execution.attempt trace execution.settlement

theorem countP_of_notFetch {trace : Trace} (h : ∀ event ∈ trace, NotFetch event.1) : trace.countP isFetch = 0 := by
  rw [List.countP_eq_zero]
  rintro ⟨call, answer⟩ hmem hfetch
  cases call <;> first | exact h _ hmem _ rfl | cases hfetch

/-- Setting other headers leaves the values of a header. -/
theorem header_spread {name : String} (headers : OrderedMap String String) {entries : List (String × String)}
    (h : ∀ entry ∈ entries, sameHeader entry.1 name = false) :
    (spread headers entries).rows.filter (fun entry ↦ sameHeader entry.1 name) =
      headers.rows.filter fun entry ↦ sameHeader entry.1 name := by
  unfold spread
  induction entries generalizing headers with
  | nil => rfl
  | cons entry rest ih =>
    rw [List.forall_mem_cons] at h
    rw [List.foldl_cons, ih _ h.2]
    exact OrderedMap.filter_set _ _ (p := fun k ↦ sameHeader k name) h.1

theorem contentType_plainHeaders (input : ExecuteInput) :
    (plainHeaders input).rows.filter (fun entry ↦ sameHeader entry.1 "content-type") =
      [("content-type", "application/json")] := by
  have hplain (reference : String) : ((((OrderedMap.set .empty "accept" "application/json").set "content-type"
      "application/json").set "x-vh-invocation-id" reference).rows.filter fun entry ↦
        sameHeader entry.1 "content-type") = [("content-type", "application/json")] := by
    rw [OrderedMap.filter_set _ _ (p := fun k ↦ sameHeader k "content-type") (by decide)]
    decide
  unfold plainHeaders
  cases input.serviceAuthorizationHeader with
  | none => exact hplain _
  | some authorization =>
    exact (OrderedMap.filter_set _ _ (p := fun k ↦ sameHeader k "content-type") (by decide)).trans (hplain _)

theorem contentType_paidRequest (input : ExecuteInput) {encoded : List (String × String)}
    (h : ∀ entry ∈ encoded, sameHeader entry.1 "content-type" = false) :
    (paidRequest input encoded).header "content-type" = ["application/json"] := by
  unfold HttpRequest.header paidRequest
  rw [header_spread _ h, contentType_plainHeaders]
  rfl

/-- The paid request is the last call of `transmit`. -/
theorem transmit_plays {input : ExecuteInput} {payload : Json} {trace : Trace}
    {result : Option (Except String HttpResponse)} (h : Plays (transmit input payload).run trace result) :
    ((∀ event ∈ trace, NotFetch event.1) ∧ ∀ response, result ≠ some (.ok response)) ∨
      ∃ encoded, trace = [⟨.encodePaymentSignatureHeader payload, some (Except.ok encoded)⟩,
        ⟨.fetch (paidRequest input encoded), result⟩] := by
  rcases plays_then.1 h with ⟨hencode, rfl⟩ | ⟨error, hencode, rfl⟩ | ⟨encoded, before, after, rfl, hencode, hfetch⟩
  · obtain rfl := plays_perform.1 hencode
    exact .inl (by simp [NotFetch])
  · obtain rfl := plays_perform.1 hencode
    exact .inl (by simp [NotFetch])
  · obtain rfl := plays_perform.1 hencode
    obtain rfl := plays_perform.1 hfetch
    exact .inr ⟨encoded, rfl⟩

/-- Without a request to the paid service nothing is returned. -/
theorem Contract.unsent {input : ExecuteInput} {trace : Trace}
    {outcome : Option (Except ProviderError PaymentExecution)} (hunsent : ∀ event ∈ trace, NotFetch event.1)
    (hfails : ∀ execution, outcome ≠ some (.ok execution)) : Contract platform options input trace outcome where
  once := by rw [countP_of_notFetch hunsent]; exact Nat.zero_le 1
  transmits := by
    rintro before paid answer after rfl
    exact absurd rfl (hunsent ⟨.fetch paid, answer⟩ (by simp) paid)
  notSubmitted := fun _ _ ↦ countP_of_notFetch hunsent
  settled := fun execution h ↦ absurd h (hfails execution)

/-- The contract of a run around its one request to the paid service. -/
theorem Contract.sent {input : ExecuteInput} {before after : Trace} {paid : HttpRequest}
    {answer : Option (Except String HttpResponse)} {attempt : PaymentAttempt}
    {outcome : Option (Except ProviderError PaymentExecution)} (hbefore : ∀ event ∈ before, NotFetch event.1)
    (hafter : ∀ event ∈ after, NotFetch event.1) (htransmits : Transmits platform options input before paid attempt)
    (hunknown : ∀ error, outcome = some (.error error) → ∃ message, error = .outcomeUnknown message attempt)
    (hreturned : ∀ execution, outcome = some (.ok execution) →
      execution.attempt = attempt ∧ ShowsSettled platform attempt after execution.settlement) :
    Contract platform options input (before ++ ⟨.fetch paid, answer⟩ :: after) outcome where
  once := by
    rw [List.countP_append, List.countP_cons, countP_of_notFetch hbefore, countP_of_notFetch hafter]
    exact Nat.le_refl 1
  transmits := by
    intro before' paid' answer' after' hsplit
    -- The request stands at one place only.
    have hone : before = before' ∧ _ ∧ after = after' :=
      (List.append_cons_inj_of_notMem (fun hmem ↦ hbefore _ hmem paid' rfl) fun hmem ↦ hafter _ hmem paid' rfl).1 hsplit
    obtain ⟨rfl, hevent, rfl⟩ := hone
    cases hevent
    exact ⟨attempt, htransmits, hunknown, fun execution h ↦ (hreturned execution h).1⟩
  notSubmitted := by
    intro message h
    obtain ⟨_, hunknown⟩ := hunknown _ h
    cases hunknown
  settled := by
    intro execution h
    obtain ⟨hattempt, signature, tx, hmem, hsettled⟩ := hreturned execution h
    rw [hattempt]
    exact ⟨signature, tx, List.mem_append_right _ (List.mem_cons_of_mem _ hmem), hsettled⟩

theorem Ready.append {input : ExecuteInput} {before after : Trace} {attempt : PaymentAttempt} {payload : Json}
    (h : Ready platform options input before attempt payload) :
    Ready platform options input (before ++ after) attempt payload := by
  obtain ⟨hprepared, ⟨value, fresh, hmem, hfresh, hblockhash, hheight⟩, hcarries, hsubmitted⟩ := h
  exact ⟨hprepared, ⟨value, fresh, List.mem_append_left _ hmem, hfresh, hblockhash, hheight⟩, hcarries,
    List.mem_append_left _ hsubmitted⟩

/-- Every run of a payment keeps the order, whatever the RPC, the service, the library and the callback
answer, and wherever it is cut off. -/
theorem execute_contract {rounds : ℕ} {input : ExecuteInput} {trace : Trace}
    {outcome : Option (Except ProviderError PaymentExecution)}
    (h : Plays (execute platform options rounds input).run trace outcome) :
    Contract platform options input trace outcome := by
  have hprepares {trace : Trace} {result : Option (Except ProviderError (PaymentAttempt × Json))}
      (h : Plays (rethrow (fun error ↦ ProviderError.notSubmitted ("Payment credential was not transmitted: " ++ error))
        (prepare platform options input)).run trace result) : ∀ event ∈ trace, NotFetch event.1 :=
    (only_rethrow (prepare_only input)).mem h
  rcases plays_then.1 h with ⟨hprepare, rfl⟩ | ⟨error, hprepare, rfl⟩ |
    ⟨⟨attempt, payload⟩, before, after, rfl, hprepare, h⟩
  · exact .unsent (hprepares hprepare) (by simp)
  · exact .unsent (hprepares hprepare) (by simp)
  have hbefore := hprepares hprepare
  obtain ⟨inner, hprepared, hinner⟩ := plays_rethrow.1 hprepare
  obtain rfl : inner = some (.ok (attempt, payload)) := by
    rcases inner with _ | error | value <;> cases hinner
    rfl
  have hready := prepare_ok hprepared
  -- What was sent is a credential for the recorded attempt.
  have hsends (encoded : List (String × String)) : Transmits platform options input
      (before ++ [⟨.encodePaymentSignatureHeader payload, some (Except.ok encoded)⟩]) (paidRequest input encoded)
        attempt :=
    ⟨rfl, rfl, payload, encoded, hready.append, by simp, rfl, contentType_paidRequest input⟩
  have hencoding (encoded : List (String × String)) : ∀ event ∈ before ++
      [(⟨.encodePaymentSignatureHeader payload, some (Except.ok encoded)⟩ : Program.Event ProviderAnswer)],
        NotFetch event.1 := by
    intro event hmem
    rcases List.mem_append.1 hmem with hmem | hmem
    · exact hbefore event hmem
    · rw [List.mem_singleton.1 hmem]
      simp [NotFetch]
  rcases plays_then.1 h with ⟨hsend, rfl⟩ | ⟨error, hsend, rfl⟩ | ⟨response, transmitted, after, rfl, hsend, hsettle⟩
  · obtain ⟨inner, hsend, -⟩ := plays_rethrow.1 hsend
    rcases transmit_plays hsend with ⟨hunsent, -⟩ | ⟨encoded, rfl⟩
    · exact .unsent (List.forall_mem_append.2 ⟨hbefore, hunsent⟩) (by simp)
    · rw [List.append_cons]
      exact .sent (hencoding encoded) (by simp) (hsends encoded) (by simp) (by simp)
  · obtain ⟨inner, hsend, hinner⟩ := plays_rethrow.1 hsend
    rcases transmit_plays hsend with ⟨hunsent, -⟩ | ⟨encoded, rfl⟩
    · exact .unsent (List.forall_mem_append.2 ⟨hbefore, hunsent⟩) (by simp)
    · have hunknown : ∃ message, error = .outcomeUnknown message attempt := by
        rcases inner with _ | message | response <;> cases hinner
        exact ⟨_, rfl⟩
      rw [List.append_cons]
      exact .sent (hencoding encoded) (by simp) (hsends encoded) (by simpa using hunknown) (by simp)
  · obtain ⟨inner, hsend, hinner⟩ := plays_rethrow.1 hsend
    obtain rfl : inner = some (.ok response) := by
      rcases inner with _ | message | response <;> cases hinner
      rfl
    rcases transmit_plays hsend with ⟨-, hfails⟩ | ⟨encoded, rfl⟩
    · exact absurd rfl (hfails response)
    · rw [← List.append_assoc, List.append_cons, List.append_assoc _ _ after]
      refine .sent (hencoding encoded)
        (fun event hmem ↦ ((settle_only rounds attempt response).mem hsettle event hmem).1)
        (hsends encoded) ?_ ?_
      · rintro error rfl
        exact (settle_throws rounds attempt response).error hsettle
      · rintro execution rfl
        exact settle_ok hsettle

/-- An event that is the call of the callback. -/
def isSubmit : Program.Event ProviderAnswer → Bool
  | ⟨.beforeSubmit _, _⟩ => true
  | _ => false

/-- The callback is called once, and a rejection of it ends the run. -/
structure Submits {ε α : Type} (trace : Trace) (result : Option (Except ε α)) : Prop where
  once : trace.countP isSubmit ≤ 1
  rejected : ∀ attempt message, ⟨.beforeSubmit attempt, some (Except.error message)⟩ ∈ trace →
    ∀ value, result ≠ some (.ok value)

theorem countP_of_notSubmit {trace : Trace} (h : ∀ event ∈ trace, NotSubmit event.1) : trace.countP isSubmit = 0 := by
  rw [List.countP_eq_zero]
  rintro ⟨call, answer⟩ hmem hsubmit
  cases call <;> first | exact h _ hmem _ rfl | cases hsubmit

theorem Submits.of_notSubmit {ε α : Type} {trace : Trace} {result : Option (Except ε α)}
    (h : ∀ event ∈ trace, NotSubmit event.1) : Submits trace result where
  once := by rw [countP_of_notSubmit h]; exact Nat.zero_le 1
  rejected attempt message hmem := absurd rfl (h _ hmem attempt)

/-- Calls that are not of the callback may come first. -/
theorem Submits.then {ε α β : Type} {program : Provider ε α} {f : α → Provider ε β} {trace : Trace}
    {result : Option (Except ε β)} (h : Plays (program >>= f).run trace result) (honly : program.run.Only NotSubmit)
    (hthen : ∀ value trace result, Plays (f value).run trace result → Submits trace result) : Submits trace result := by
  rcases plays_then.1 h with ⟨hfirst, rfl⟩ | ⟨error, hfirst, rfl⟩ | ⟨value, before, after, rfl, hfirst, hafter⟩
  · exact .of_notSubmit (honly.mem hfirst)
  · exact .of_notSubmit (honly.mem hfirst)
  · obtain ⟨honce, hrejected⟩ := hthen _ _ _ hafter
    refine ⟨?_, fun attempt message hmem ↦ hrejected attempt message ?_⟩
    · rwa [List.countP_append, countP_of_notSubmit (honly.mem hfirst), Nat.zero_add]
    · exact (List.mem_append.1 hmem).resolve_left fun hbefore ↦ honly.mem hfirst _ hbefore attempt rfl

/-- The call of the callback comes last. -/
theorem Submits.last {α : Type} {attempt : PaymentAttempt} {value : α} {trace : Trace}
    {result : Option (Except String α)} (h : Plays (beforeSubmit attempt >>= fun _ ↦ pure value).run trace result) :
    Submits trace result := by
  have hone (answer : Option (Except String Unit)) :
      List.countP isSubmit [(⟨.beforeSubmit attempt, answer⟩ : Program.Event ProviderAnswer)] ≤ 1 :=
    List.countP_le_length
  rcases plays_then.1 h with ⟨hsubmit, rfl⟩ | ⟨error, hsubmit, rfl⟩ | ⟨⟨⟩, before, after, rfl, hsubmit, hreturned⟩
  · obtain rfl := plays_perform.1 hsubmit
    exact ⟨hone _, by simp⟩
  · obtain rfl := plays_perform.1 hsubmit
    exact ⟨hone _, by simp⟩
  · obtain rfl := plays_perform.1 hsubmit
    obtain ⟨rfl, -⟩ := plays_ok.1 hreturned
    refine ⟨hone _, fun other message hmem ↦ ?_⟩
    cases List.mem_singleton.1 hmem

theorem prepare_submits {input : ExecuteInput} {trace : Trace} {result : Option (Except String (PaymentAttempt × Json))}
    (h : Plays (prepare platform options input).run trace result) : Submits trace result := by
  exact Submits.then h trivial fun _ _ _ h ↦ Submits.then h trivial fun original _ _ h ↦
    Submits.then h trivial fun feePayer _ _ h ↦ Submits.then h (only_perform (by simp [NotSubmit])) fun value _ _ h ↦
    Submits.then h trivial fun fresh _ _ h ↦ Submits.then h (only_perform (by simp [NotSubmit])) fun payload _ _ h ↦
    Submits.then h trivial fun transaction _ _ h ↦ Submits.then h trivial fun check _ _ h ↦
    Submits.then h (only_ask (by simp [NotSubmit])) fun preparedAt _ _ h ↦ Submits.last h

theorem transmit_only (input : ExecuteInput) (payload : Json) : (transmit input payload).run.Only NotSubmit :=
  only_then (only_perform (by simp [NotSubmit])) fun _ ↦ only_perform (by simp [NotSubmit])

/-- Every run of a payment calls the callback at most once, and fails as not submitted where it rejects. -/
theorem execute_submits {rounds : ℕ} {input : ExecuteInput} {trace : Trace}
    {outcome : Option (Except ProviderError PaymentExecution)}
    (h : Plays (execute platform options rounds input).run trace outcome) :
    trace.countP isSubmit ≤ 1 ∧
      ∀ attempt message, ⟨.beforeSubmit attempt, some (Except.error message)⟩ ∈ trace →
        ∀ result, outcome = some result →
        ∃ message, result = .error (.notSubmitted message) := by
  rcases plays_then.1 h with ⟨hprepare, rfl⟩ | ⟨error, hprepare, rfl⟩ |
    ⟨⟨attempt, payload⟩, before, after, rfl, hprepare, h⟩
  · obtain ⟨inner, hprepare, -⟩ := plays_rethrow.1 hprepare
    exact ⟨(prepare_submits hprepare).once, by simp⟩
  · obtain ⟨inner, hprepare, hinner⟩ := plays_rethrow.1 hprepare
    refine ⟨(prepare_submits hprepare).once, fun _ _ _ result hresult ↦ ?_⟩
    rcases inner with _ | message | value <;> cases hinner
    cases hresult
    exact ⟨_, rfl⟩
  · obtain ⟨inner, hprepare, hinner⟩ := plays_rethrow.1 hprepare
    obtain rfl : inner = some (.ok (attempt, payload)) := by
      rcases inner with _ | error | value <;> cases hinner
      rfl
    obtain ⟨honce, hrejected⟩ := prepare_submits hprepare
    have hafter : ∀ event ∈ after, NotSubmit event.1 :=
      (only_then (only_rethrow (transmit_only input payload)) fun response ↦ (settle_only rounds attempt response).mono
        fun _ hlooks ↦ hlooks.2).mem h
    refine ⟨?_, fun other message hmem ↦ ?_⟩
    · rwa [List.countP_append, countP_of_notSubmit hafter, Nat.add_zero]
    · rcases List.mem_append.1 hmem with hbefore | hmem
      · exact absurd rfl (hrejected other message hbefore (attempt, payload))
      · exact absurd rfl (hafter _ hmem other)

namespace Sample

def request : PaidRequest := createPaidRequest payments "http://127.0.0.1:4021/search" "query"

def profile : SettlementProfile where
  name := "sandbox"
  permitNetwork := "solana-sandbox"
  rpcUrl := "http://127.0.0.1:8899"
  acceptedChallengeNetworks := ["solana:sandbox"]
  allowedAssets := [mint]
  protocol := "x402"
  x402Version := 2
  scheme := "exact"
  requiredBlockhashPrefix := "4rua"

def providerOptions : ProviderOptions where
  profile := profile
  payerAddress := wallet

def original : List (String × Json) :=
  [("scheme", .str "exact"), ("network", .str "solana:sandbox"), ("asset", .str mint), ("payTo", .str merchant),
    ("amount", .str "5"), ("extra", .obj [("feePayer", .str facilitator)])]

def requirement : PaymentRequirement :=
  ⟨"x402", 2, 0, "exact", "solana:sandbox", mint, merchant, "5", some facilitator, none, none⟩

def input : ExecuteInput where
  request := request
  challenge := ⟨[requirement], request.sha256, .obj [("accepts", .arr [.obj original])]⟩
  requirement := requirement
  reference := "invocation"
  serviceAuthorizationHeader := none

def pinnedBlockhash : List (String × Json) := [("blockhash", .str blockhash), ("lastValidBlockHeight", .int 900)]

def payload : Json := .obj [("payload", .obj [("transaction", .str transactionBase64)])]

def attempt : PaymentAttempt :=
  ⟨"x402", "exact", "sandbox", "solana:sandbox", wallet, payerSignature, facilitator, mint, merchant, "5", blockhash,
    (900 : ℤ).repr, request.url, request.sha256, some transactionBase64, 1000⟩

def preparing : Trace :=
  [⟨.getLatestBlockhash, some (Except.ok pinnedBlockhash)⟩,
    ⟨.createPaymentPayload (signedChallenge (.obj [("accepts", .arr [.obj original])]) original ⟨blockhash, 900⟩),
      some (Except.ok payload)⟩,
    ⟨.now, some (1000 : ℤ)⟩, ⟨.beforeSubmit attempt, some (Except.ok ())⟩]

theorem prepare_plays : Plays (prepare payments providerOptions input).run preparing
    (some (.ok (attempt, payload))) := by
  have hmatches : paidRequestMatches payments input.request input.challenge.requestSha256 = true := by
    simp [paidRequestMatches, input, request, createPaidRequest]
  have horiginal : originalEntry input.challenge.raw input.requirement = some original := by
    simp [originalEntry, originalMatches, input, requirement, original, Json.member, text]
  have hfresh : freshBlockhash payments profile pinnedBlockhash = .ok ⟨blockhash, 900⟩ := by
    simp [freshBlockhash, pinnedBlockhash, number, text, Json.member, Json.int, profile, blockhash]
  have htransaction : payloadTransaction payload = .ok (some transactionBase64) := by
    simp [payloadTransaction, payload, Json.member, text]
  refine (plays_compute_ok.2 ⟨rfl, show guardThat _ _ = .ok () from guardThat_eq_ok.2 hmatches⟩).then ?_
  refine (plays_compute_ok.2 ⟨rfl, required_eq_ok.2 horiginal⟩).then ?_
  refine (plays_compute_ok.2 ⟨rfl, required_eq_ok.2 (Option.filter_eq_some_iff.2 ⟨rfl, by decide⟩)⟩).then ?_
  refine Plays.then (@Plays.performed _ ProviderAnswer .getLatestBlockhash (Except.ok pinnedBlockhash)) ?_
  refine (plays_compute_ok.2 ⟨rfl, hfresh⟩).then ?_
  refine Plays.then (@Plays.performed _ ProviderAnswer (.createPaymentPayload _) (Except.ok payload)) ?_
  refine (plays_compute_ok.2 ⟨rfl, htransaction⟩).then ?_
  refine (plays_compute_ok.2 ⟨rfl, congrArg (Except.mapError _) validates⟩).then ?_
  refine (@Plays.asked _ ProviderAnswer _ .now (1000 : ℤ)).then ?_
  refine Plays.then (@Plays.performed _ ProviderAnswer (.beforeSubmit _) (Except.ok ())) ?_
  exact plays_ok.2 ⟨rfl, rfl⟩

/-- The request to the paid service with the headers of the library. -/
def sending (encoded : List (String × String)) (answer : Option (Except String HttpResponse)) : Trace :=
  [⟨.encodePaymentSignatureHeader payload, some (Except.ok encoded)⟩, ⟨.fetch (paidRequest input encoded), answer⟩]

theorem transmit_sending (encoded : List (String × String)) (answer : Option (Except String HttpResponse)) :
    Plays (transmit input payload).run (sending encoded answer) answer := by
  refine Plays.then (@Plays.performed _ ProviderAnswer (.encodePaymentSignatureHeader _) (Except.ok encoded)) ?_
  exact plays_perform.2 rfl

def response : HttpResponse := ⟨200, []⟩

def settlement : ConfirmedSettlement :=
  ⟨facilitatorSignature, some (numberText payments (.finite 77)), some facilitatorSignature, 1300⟩

def settling : Trace :=
  [⟨.readBody response, some (Except.ok [])⟩,
    ⟨.getPaymentSettleResponse response,
      some (Except.ok (.obj [("success", .bool true), ("transaction", .str facilitatorSignature)]))⟩,
    ⟨.now, some (1100 : ℤ)⟩, ⟨.now, some (1200 : ℤ)⟩, ⟨.getSignaturesForAddress wallet, some (Except.ok (.arr []))⟩,
    ⟨.getTransaction facilitatorSignature, some (Except.ok (some (rpc (some .null))))⟩, ⟨.now, some (1300 : ℤ)⟩]

theorem settles : checkSettledTransaction payments (some (rpc (some .null))) attempt.settlementFacts =
    .ok (.settled facilitatorSignature (some (numberText payments (.finite 77)))) := by
  obtain ⟨encoded, transaction, hencoded, hpays⟩ := validateExactPaymentTransaction_ok validates
  obtain rfl : transaction = Sample.transaction := by
    obtain rfl := Option.some.inj hencoded
    simpa [payments, eq_comm] using hpays.decoded
  obtain ⟨transactionId, hid, hcheck⟩ :=
    checkSettledTransaction_of_paysExactly derivesTokenAccounts hpays (renders (some .null))
  obtain rfl := Option.some.inj hid
  exact hcheck

theorem lookup_plays : Plays (lookup payments providerOptions attempt (some facilitatorSignature)).run
    [⟨.getSignaturesForAddress wallet, some (Except.ok (.arr []))⟩,
      ⟨.getTransaction facilitatorSignature, some (Except.ok (some (rpc (some .null))))⟩, ⟨.now, some (1300 : ℤ)⟩]
    (some (.ok (.confirmed settlement))) := by
  have hcandidates : candidates (some facilitatorSignature) (.arr []) =
      .ok (OrderedSet.add .empty facilitatorSignature) := by
    have hne : facilitatorSignature ≠ "" := by decide
    simp [candidates, hne]
  refine Plays.then (@Plays.performed _ ProviderAnswer (.getSignaturesForAddress _) (Except.ok (.arr []))) ?_
  refine (plays_compute_ok.2 ⟨rfl, hcandidates⟩).then ?_
  refine plays_then.2 (.inr (.inr ⟨some (.confirmed settlement), [_, _], [], rfl, ?_, plays_ok.2 ⟨rfl, rfl⟩⟩))
  refine Plays.then (@Plays.performed _ ProviderAnswer (.getTransaction _) (Except.ok (some (rpc (some .null))))) ?_
  refine (plays_compute_ok.2 ⟨rfl, settles⟩).then ?_
  exact (@Plays.asked _ ProviderAnswer _ .now (1300 : ℤ)).then (plays_ok.2 ⟨rfl, rfl⟩)

def execution : PaymentExecution where
  attempt := attempt
  settlement := settlement
  result := summarizeResult payments providerOptions 200 []

theorem settle_plays : Plays (settle payments providerOptions 1 attempt response).run settling
    (some (.ok execution)) := by
  have hread : Plays (readBounded response (providerOptions.maxResultBytes * 4)).run
      [⟨.readBody response, some (Except.ok [])⟩] (some (.ok [])) := by
    refine Plays.then (@Plays.performed _ ProviderAnswer (.readBody _) (Except.ok [])) ?_
    exact (plays_compute_ok.2 ⟨rfl, show guardThat _ _ = .ok () from guardThat_eq_ok.2 rfl⟩).then
      (plays_ok.2 ⟨rfl, rfl⟩)
  have hreported : Plays (reportedTransaction response).run
      [⟨.getPaymentSettleResponse response,
        some (Except.ok (.obj [("success", .bool true), ("transaction", .str facilitatorSignature)]))⟩]
      (some (.ok (some facilitatorSignature))) := by
    refine Plays.then (@Plays.performed _ ProviderAnswer (.getPaymentSettleResponse _) (Except.ok (.obj _))) ?_
    exact (plays_compute_ok.2 ⟨rfl, show guardThat _ _ = .ok () from guardThat_eq_ok.2 rfl⟩).then
      (plays_ok.2 ⟨rfl, rfl⟩)
  refine Plays.then (plays_rethrow.2 ⟨_, hread, rfl⟩) ?_
  refine (plays_compute_ok.2 ⟨rfl, show guardThat _ _ = .ok () from guardThat_eq_ok.2 rfl⟩).then ?_
  refine Plays.then (plays_rethrow.2 ⟨_, hreported, rfl⟩) ?_
  refine plays_then.2 (.inr (.inr ⟨settlement, _, [], (List.append_nil _).symm, ?_, plays_ok.2 ⟨rfl, rfl⟩⟩))
  refine (@Plays.asked _ ProviderAnswer _ .now (1100 : ℤ)).then ?_
  refine (@Plays.asked _ ProviderAnswer _ .now (1200 : ℤ)).then ?_
  rw [if_pos (by decide)]
  refine plays_then.2 (.inr (.inr ⟨.confirmed settlement, _, [], (List.append_nil _).symm, ?_, plays_ok.2 ⟨rfl, rfl⟩⟩))
  exact plays_recover.2 (.inr (.inr ⟨_, lookup_plays, rfl⟩))

theorem execute_plays (encoded : List (String × String)) :
    Plays (execute payments providerOptions 1 input).run
      (preparing ++ (sending encoded (some (Except.ok response)) ++ settling)) (some (.ok execution)) := by
  refine Plays.then (plays_rethrow.2 ⟨_, prepare_plays, rfl⟩) ?_
  exact Plays.then (plays_rethrow.2 ⟨_, transmit_sending encoded _, rfl⟩) settle_plays

end Sample

/-- A payment whose settlement the facilitator reported and the RPC confirmed. -/
theorem execute_contract_paid :
    Contract Sample.payments Sample.providerOptions Sample.input
      (Sample.preparing ++ (Sample.sending [("payment-signature", "credential")] (some (Except.ok Sample.response)) ++
        Sample.settling)) (some (.ok Sample.execution)) :=
  execute_contract (Sample.execute_plays _)

/-- The headers of the library come last: one of them can replace the content type that the digest of the
request covers. -/
theorem execute_contract_overridden :
    ¬ ∀ (platform : Platform) (options : ProviderOptions) (rounds : ℕ) (input : ExecuteInput) (trace : Trace)
      (outcome : Option (Except ProviderError PaymentExecution)),
      Plays (execute platform options rounds input).run trace outcome →
        ∀ before paid answer after, trace = before ++ ⟨.fetch paid, answer⟩ :: after →
          paid.url = input.request.url ∧ paid.header "content-type" = ["application/json"] ∧
            paid.body = input.request.body := by
  intro h
  obtain ⟨-, hheader, -⟩ := h _ _ _ _ _ _ (Sample.execute_plays [("content-type", "text/plain")])
    (Sample.preparing ++ [⟨.encodePaymentSignatureHeader Sample.payload,
      some (Except.ok [("content-type", "text/plain")])⟩]) _ _ _ rfl
  revert hheader
  decide

end VirtualHaibin.Payments
