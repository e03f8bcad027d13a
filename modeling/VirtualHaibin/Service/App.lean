import VirtualHaibin.Evidence.Headers
import VirtualHaibin.Evidence.ServiceCheck
import VirtualHaibin.Foundation.OrderedMap
import VirtualHaibin.Foundation.Transition
import VirtualHaibin.Service.Report
import Mathlib.Logic.Function.Basic

/-!
# The paid service

The dataset-report service between two awaits of a request.  A paid request waits for the check of its
authorization, then for the payment gate, which settles it or answers itself; other requests are served
in between, and a demo scenario may be set at any time.
-/

namespace VirtualHaibin.Service

open Foundation Foundation.Checked Foundation.Schema Mandate Evidence

inductive Scenario where
  | honest
  | overcharge
  | wrong_recipient
  | wrong_asset
  | lost_response
  | drop_credential
  deriving DecidableEq

def Scenario.name : Scenario → String
  | .honest => "honest"
  | .overcharge => "overcharge"
  | .wrong_recipient => "wrong-recipient"
  | .wrong_asset => "wrong-asset"
  | .lost_response => "lost-response"
  | .drop_credential => "drop-credential"

def SCENARIOS : List Scenario :=
  [.honest, .overcharge, .wrong_recipient, .wrong_asset, .lost_response, .drop_credential]

def MAX_SCENARIOS : ℕ := 1000

/-- `/^[A-Za-z0-9_.:-]{1,128}$/`. -/
def INVOCATION_ID_PATTERN (text : String) : Bool := IDENTIFIER_PATTERN text

/-- The honest price. -/
structure Price where
  network : String
  asset : String
  payTo : String
  amountAtomic : String

structure ServiceAppOptions where
  /-- The key pair of the service, and the address it publishes. -/
  serviceSigner : String
  serviceAddress : String
  price : Price

/-- A request that was routed to the report: its header lines and the body bytes. -/
structure HttpRequest where
  method : String
  path : String
  header : String → Option String
  rawBody : List ℕ

/-- What `express.json` makes of a request: a refusal of its own, or `request.body`. -/
abbrev BodyParser := HttpRequest → Except ℕ (Option Json)

/-- The settled payment, as the gate reports it. -/
structure GatePayment where
  protocol : Option String
  transaction : Option String

structure ServiceResponse where
  status : ℕ
  reasonCode : Option String
  /-- The error text, or the report. -/
  body : String
  acknowledgement : Option String

inductive Stage where
  /-- The body parser answered with this status. -/
  | unread (status : ℕ)
  /-- The authorization was checked; the gate comes next. -/
  | checked (report : ReportRequest) (check : ServiceAuthorizationCheck)
  /-- Inside the payment gate, which settles a paid request. -/
  | gated (scenario : Scenario) (report : ReportRequest) (check : Option ServiceAuthorizationCheck)
  | responded (response : ServiceResponse)
  /-- The gate answered. -/
  | answered
  /-- The socket was destroyed. -/
  | dropped
  /-- The handler threw. -/
  | threw (message : String)

structure ServiceApp where
  scenarios : OrderedMap String Scenario
  requests : ℕ → Option (HttpRequest × Stage)

def ServiceApp.initial : ServiceApp := ⟨.empty, fun _ ↦ none⟩

inductive Event where
  | scenario (body : Option Json)
  /-- A request arrives; the authority key and the clock are read at once. -/
  | post (id : ℕ) (request : HttpRequest) (authorityKey : Option String) (now : ℤ)
  | resume (id : ℕ)
  | answer (id : ℕ)
  /-- The gate calls `next()`. -/
  | next (id : ℕ) (payment : Option GatePayment) (now : ℤ)

def HttpRequest.isPaid (request : HttpRequest) : Bool := (request.header "payment-signature").any fun text ↦ text ≠ ""

def scenarioFor (scenarios : OrderedMap String Scenario) (request : HttpRequest) : Scenario :=
  (((request.header "x-vh-invocation-id").filter fun text ↦ text ≠ "").bind fun id ↦ scenarios.get? id).getD .honest

/-- The known scenario and the invocation a demo request names. -/
def parseScenario (body : Option Json) : Option (String × Scenario) := do
  let record ← match body with
    | some (.obj record) => some record
    | _ => some []
  let invocationId ← (text record "invocationId").filter INVOCATION_ID_PATTERN
  let scenario ← (text record "scenario").bind fun name ↦ SCENARIOS.find? fun scenario ↦ scenario.name = name
  return (invocationId, scenario)

def setScenario (scenarios : OrderedMap String Scenario) (body : Option Json) : OrderedMap String Scenario :=
  match parseScenario body with
  | none => scenarios
  | some (invocationId, scenario) =>
    let bounded := if MAX_SCENARIOS ≤ scenarios.size then
        match scenarios.oldest? with
        | some oldest => scenarios.delete oldest
        | none => scenarios
      else scenarios
    bounded.set invocationId scenario

/-- The check a paid request has to pass. -/
def authorizationContext (options : ServiceAppOptions) (request : HttpRequest) (authorityKey : String) (now : ℤ) :
    ServiceRequestContext where
  header := request.header SERVICE_AUTHORIZATION_HEADER
  pinnedAuthority := authorityKey
  method := request.method
  path := request.path
  rawBody := request.rawBody
  invocationIdHeader := request.header "x-vh-invocation-id"
  expectedPayment := ⟨options.price.asset, options.price.payTo, options.price.amountAtomic⟩
  now := now

/-- The gate of the request's scenario, unless the demo drops the credential. -/
def enterGate (scenarios : OrderedMap String Scenario) (request : HttpRequest) (report : ReportRequest)
    (check : Option ServiceAuthorizationCheck) : Stage :=
  let scenario := scenarioFor scenarios request
  if scenario = .drop_credential && request.isPaid then .dropped else .gated scenario report check

def ServiceAuthorizationReasonCode.name : ServiceAuthorizationReasonCode → String
  | .SERVICE_AUTHORIZATION_REQUIRED => "SERVICE_AUTHORIZATION_REQUIRED"
  | .SERVICE_AUTHORIZATION_INVALID => "SERVICE_AUTHORIZATION_INVALID"
  | .SERVICE_AUTHORIZATION_EXPIRED => "SERVICE_AUTHORIZATION_EXPIRED"
  | .SERVICE_AUTHORIZATION_REQUEST_MISMATCH => "SERVICE_AUTHORIZATION_REQUEST_MISMATCH"
  | .SERVICE_AUTHORIZATION_PAYMENT_MISMATCH => "SERVICE_AUTHORIZATION_PAYMENT_MISMATCH"

def refuse (status : ℕ) (reasonCode : Option String) (message : String) : Stage :=
  .responded ⟨status, reasonCode, message, none⟩

/-- The first stage of a request. -/
def receive (platform : Platform) (parser : BodyParser) (options : ServiceAppOptions)
    (scenarios : OrderedMap String Scenario) (request : HttpRequest) (authorityKey : Option String) (now : ℤ) : Stage :=
  match parser request with
  | .error status => .unread status
  | .ok body =>
    match parseReportRequest body with
    | none => refuse 400 none ("Body must be exactly \x7boperation: " ++
        "|".intercalate (OPERATIONS.map Operation.name) ++ ", datasetId: " ++
        "|".intercalate (DATASETS.map Prod.fst) ++ "\x7d.")
    | some report =>
      if request.isPaid then
        match authorityKey with
        | none => refuse 503 (some "SERVICE_AUTHORIZATION_UNAVAILABLE") "Authority trust root not available."
        | some key =>
          match checkServiceAuthorization platform (authorizationContext options request key now) with
          | .error refusal => refuse 403 (some (ServiceAuthorizationReasonCode.name refusal.reasonCode)) refusal.message
          | .ok check => .checked report check
      else enterGate scenarios request report none

/-- The operation as the service received and performed it. -/
def received (request : HttpRequest) (report : ReportRequest) : ExactOperationV1 where
  method := request.method
  resource := REPORT_RESOURCE
  operation := report.operation.name
  datasetId := report.datasetId

def reportBody (platform : Platform) (request : HttpRequest) (report : ReportRequest) (payment : Option GatePayment) :
    String :=
  platform.stringify (some (.obj [("service", .str SERVICE_ID), ("capability", .str CAPABILITY),
    ("received", (received request report).toJson), ("result", runReport report),
    ("paidWith", .obj [("protocol", Json.orNull .str (payment.bind GatePayment.protocol)),
      ("transaction", Json.orNull .str (payment.bind GatePayment.transaction))])]))

def unsignedAcknowledgement (platform : Platform) (options : ServiceAppOptions) (request : HttpRequest)
    (report : ReportRequest) (check : ServiceAuthorizationCheck) (payment : Option GatePayment) (now : ℤ) :
    UnsignedServiceAcknowledgementV1 :=
  let bytes := TextDecoder.encode (reportBody platform request report payment)
  { service := options.serviceAddress
    invocationId := check.authorization.invocationId
    authorizationDigest := check.authorizationDigest
    requestSha256 := check.requestSha256
    received := received request report
    transaction := payment.bind GatePayment.transaction
    asset := options.price.asset
    payTo := options.price.payTo
    amountAtomic := options.price.amountAtomic
    httpStatus := 200
    sha256 := platform.sha256HexOfBytes bytes
    bytes := bytes.length
    fulfilledAt := now }

/-- Fulfil and acknowledge; a key pair that is not the published one makes the handler throw. -/
def fulfil (platform : Platform) (options : ServiceAppOptions) (request : HttpRequest) (report : ReportRequest)
    (check : Option ServiceAuthorizationCheck) (payment : Option GatePayment) (now : ℤ) : Stage :=
  let body := reportBody platform request report payment
  match check with
  | none => .responded ⟨200, none, body, none⟩
  | some check =>
    match signServiceAcknowledgement platform
        (unsignedAcknowledgement platform options request report check payment now)
        options.serviceSigner with
    | none => .threw s!"Signer does not match the {SERVICE_ACKNOWLEDGEMENT_DOMAIN} key field."
    | some acknowledgement =>
      .responded ⟨200, none, body, some (encodeServiceHeader platform acknowledgement.toJson)⟩

namespace ServiceApp

def setRequest (app : ServiceApp) (id : ℕ) (request : HttpRequest) (stage : Stage) : ServiceApp :=
  { app with requests := Function.update app.requests id (some (request, stage)) }

/-- One step of the service; `none` is an event that nothing awaits. -/
def step (platform : Platform) (parser : BodyParser) (options : ServiceAppOptions) (app : ServiceApp)
    (event : Event) : Option ServiceApp :=
  match event with
  | .scenario body => some { app with scenarios := setScenario app.scenarios body }
  | .post id request authorityKey now =>
    match app.requests id with
    | some _ => none
    | none =>
      some (app.setRequest id request (receive platform parser options app.scenarios request authorityKey now))
  | .resume id =>
    match app.requests id with
    | some (request, .checked report check) =>
      some (app.setRequest id request (enterGate app.scenarios request report (some check)))
    | _ => none
  | .answer id =>
    match app.requests id with
    | some (request, .gated _ _ _) => some (app.setRequest id request .answered)
    | _ => none
  | .next id payment now =>
    match app.requests id with
    | some (request, .gated _ report check) =>
      if scenarioFor app.scenarios request = .lost_response then some (app.setRequest id request .dropped)
      else some (app.setRequest id request (fulfil platform options request report check payment now))
    | _ => none

end ServiceApp

end VirtualHaibin.Service
