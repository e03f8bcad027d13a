import VirtualHaibin.Agent.Sessions
import VirtualHaibin.Evidence.Tamper
import VirtualHaibin.Foundation.Transition

/-!
# Requests of the agent's HTTP API

A request authenticates when it arrives and then waits: for its body, for the verification of a
permit, for the service agent and the authority.  It keeps the session object it authenticated with,
and other requests are served in between, so the session may leave the store while the request waits.
The store retires the IDs the session has claimed by then; the key of the session object stays.
-/

namespace VirtualHaibin.Agent

open Foundation Mandate Checked

structure HttpInputError where
  message : String
  statusCode : ℕ
  reasonCode : Option String := none

def DEMO_SCENARIOS : List String :=
  ["honest", "overcharge", "wrong-recipient", "wrong-asset", "lost-response", "drop-credential"]

/-- `/^[A-Za-z0-9_.:-]{1,128}$/`. -/
def INVOCATION_ID_PATTERN (text : String) : Bool := IDENTIFIER_PATTERN text

structure DemoInput where
  amountAtomic : Option String
  invocationId : String
  scenario : String
  operation : String
  datasetId : String

/-- `members[name] ?? default`. -/
def memberOr (members : List (String × Json)) (name : String) (default : Json) : Json :=
  match Json.member members name with
  | none | some .null => default
  | some value => value

/-- A body without an ID gets the random one. -/
def parseDemoInput (randomUUID : String) (body : Json) : Except HttpInputError DemoInput := do
  let members ← required (object? (some body)) { message := "Request body must be a JSON object.", statusCode := 400 }
  guardThat (Json.member members "quotedPrice").isNone
    { message := "quotedPrice (decimal number) is no longer supported; send amountAtomic as a canonical integer string."
      statusCode := 400 }
  let amountAtomic ← required (match memberOr members "amountAtomic" .null with
      | .null => some none
      | .str amount => if isCanonicalAtomicAmount amount then some (some amount) else none
      | _ => none)
    { message := "amountAtomic must be a canonical non-negative integer string.", statusCode := 400 }
  let invocationId ← required (match memberOr members "invocationId" (.str randomUUID) with
      | .str invocationId => if INVOCATION_ID_PATTERN invocationId then some invocationId else none
      | _ => none)
    { message := "invocationId must be 1-128 characters of [A-Za-z0-9_.:-].", statusCode := 400 }
  let scenario ← required (match memberOr members "scenario" (.str "honest") with
      | .str scenario => if scenario ∈ DEMO_SCENARIOS then some scenario else none
      | _ => none)
    { message := "scenario must be one of: " ++ ", ".intercalate DEMO_SCENARIOS ++ ".", statusCode := 400 }
  match memberOr members "operation" (.str "summarize"), memberOr members "datasetId" (.str "dataset-a") with
  | .str operation, .str datasetId => return ⟨amountAtomic, invocationId, scenario, operation, datasetId⟩
  | _, _ => throw { message := "operation and datasetId must be strings.", statusCode := 400 }

/-- What `installPermit` writes to the session object. -/
def installPermit (platform : Platform) (agentAddress : String) (body : Json) :
    Except HttpInputError InstalledPermit :=
  -- A body without a permit is verified as `undefined`, which is no object either.
  let candidate := ((object? (some body)).bind fun members ↦ Json.member members "permit").getD .null
  match verifyPurchasePermitV2 platform candidate with
  | .error failure =>
    .error {
      message := "permit is not a valid signed PurchasePermit v2 (" ++ failure.reasonCode.name ++ ")."
      statusCode := 400 }
  | .ok permit =>
    if permit.authorizedAgent ≠ agentAddress then
      .error { message := "permit is issued to a different agent identity.", statusCode := 400 }
    else .ok ⟨permit, computePermitDigest platform permit⟩

/-- `runDemo` up to its first await: `none` is the answer that no permit is installed. -/
def runDemo (options : SessionStoreOptions) (store : SessionStore) (session : ℕ) (input : DemoInput) :
    Except HttpInputError (Option ClaimResult) × SessionStore :=
  match (store.heap session).installed with
  | none => (.ok none, store)
  | some _ =>
    match store.claimInvocation options session input.invocationId with
    | (.foreign, store) =>
      (.error ⟨"invocationId is not available to this session.", 409, some "INVOCATION_NOT_AVAILABLE"⟩, store)
    | (.limit, store) =>
      (.error ⟨"This session has reached its invocation limit; start a new session.", 429,
        some "SESSION_INVOCATION_LIMIT"⟩, store)
    | (claim, store) => (.ok (some claim), store)

/-- Whether the authority's answer makes `runDemo` record a decision. -/
def recordsDecision (status : ℕ) (reasonCode : Option String) : Bool :=
  if status ∈ [401, 403, 409, 502] then reasonCode = some "RECONCILIATION_REQUIRED"
  else 200 ≤ status && status ≤ 299

/-! ## Requests in flight -/

inductive Endpoint
  | permit
  | demo
  deriving DecidableEq

/-- What a request waits for. -/
inductive Waiting
  | body (endpoint : Endpoint)
  /-- The service agent or the authority, for the purchase under this ID. -/
  | authority (invocationId : String)

structure Request where
  /-- The session object `requireSession` returned. -/
  session : ℕ
  waiting : Waiting

structure AgentServerOptions where
  agentAddress : String
  sessions : SessionStoreOptions

structure AgentServer where
  store : SessionStore
  requests : OrderedMap ℕ Request

inductive Event
  | postSession (token : String) (pruned now : ℕ)
  /-- `GET /permit` and `GET /evidence`, which read the store in one go. -/
  | get (authorization : Option String) (now : ℕ)
  | post (endpoint : Endpoint) (request : ℕ) (authorization : Option String) (now : ℕ)
  /-- The body of `POST /permit` is read and its permit verified. -/
  | permit (request : ℕ) (body : Json)
  /-- The body of `POST /demo` is read. -/
  | demo (request : ℕ) (randomUUID : String) (body : Json)
  /-- The authority has answered. -/
  | answered (request : ℕ) (status : ℕ) (reasonCode : Option String)
  /-- Something the request waited for failed. -/
  | failed (request : ℕ)

namespace AgentServer

def start : AgentServer := ⟨.empty, .empty⟩

variable (platform : Platform) (options : AgentServerOptions)

def step (server : AgentServer) : Event → Option AgentServer
  | .postSession token pruned now =>
    some { server with store := (server.store.create platform options.sessions token pruned now).2 }
  | .get authorization now => some { server with store := (server.store.authenticate platform authorization now).2 }
  | .post endpoint request authorization now =>
    match server.store.authenticate platform authorization now with
    | (none, store) => some { server with store }
    | (some session, store) => some ⟨store, server.requests.set request ⟨session, .body endpoint⟩⟩
  | .permit request body =>
    match server.requests.get? request with
    | some ⟨session, .body .permit⟩ =>
      let requests := server.requests.delete request
      match installPermit platform options.agentAddress body with
      | .error _ => some { server with requests }
      | .ok installed =>
        some ⟨{ server.store with
          heap := Function.update server.store.heap session
            { server.store.heap session with installed := some installed } },
          requests⟩
    | _ => none
  | .demo request randomUUID body =>
    match server.requests.get? request with
    | some ⟨session, .body .demo⟩ =>
      match parseDemoInput randomUUID body with
      | .error _ => some { server with requests := server.requests.delete request }
      | .ok input =>
        match runDemo options.sessions server.store session input with
        | (.ok (some _), store) => some ⟨store, server.requests.set request ⟨session, .authority input.invocationId⟩⟩
        | (_, store) => some ⟨store, server.requests.delete request⟩
    | _ => none
  | .answered request status reasonCode =>
    match server.requests.get? request with
    | some ⟨session, .authority invocationId⟩ =>
      let requests := server.requests.delete request
      if recordsDecision status reasonCode then some ⟨server.store.markDecided session invocationId, requests⟩
      else some { server with requests }
    | _ => none
  | .failed request => some { server with requests := server.requests.delete request }

/-- Random tokens name new sessions. -/
def Allowed (server : AgentServer) : Event → Prop
  | .postSession token _ _ => server.store.Fresh platform token
  | _ => True

/-- The claim that serving an event makes, and the session object it is made through. -/
def claim (server : AgentServer) : Event → Option (ℕ × String)
  | .demo request randomUUID body =>
    match server.requests.get? request with
    | some ⟨session, .body .demo⟩ =>
      match parseDemoInput randomUUID body, (server.store.heap session).installed with
      | .ok input, some _ => some (session, input.invocationId)
      | _, _ => none
    | _ => none
  | _ => none

variable {platform options} {server server' : AgentServer} {event : Event}

def Consistent (server : AgentServer) : Prop := server.store.Consistent

variable (platform options)

end AgentServer

namespace Sample

/-- Tokens are their own digests. -/
def platform : Platform := { Evidence.Sample.platform with sha256Hex := id }

/-- An agent with room for one session. -/
def options : AgentServerOptions := ⟨Evidence.Sample.agent, { maxSessions := 1 }⟩

def first : String := "first-session-token-AAAAAAAAAAAAAAAAAAAAAAA"
def second : String := "second-session-token-AAAAAAAAAAAAAAAAAAAAAA"

/-- The second session evicts the first while the body of a purchase is on its way. -/
def events : List Event :=
  [.postSession first 0 0, .post .permit 0 (some ("Bearer " ++ first)) 1,
    .permit 0 (.obj [("permit", Evidence.Sample.permit.toJson)]), .post .demo 1 (some ("Bearer " ++ first)) 2,
    .postSession second 3 3, .demo 1 "" (.obj [("invocationId", .str "purchase")]), .answered 1 200 none]

def installed : InstalledPermit := ⟨Evidence.Sample.permit, computePermitDigest platform Evidence.Sample.permit⟩

/-- The store while the first session is in it. -/
def opened (heap : ℕ → Session) : SessionStore where
  created := 1
  heap := heap
  sessions := ⟨[(first, 0)], by simp⟩
  keys := ⟨[(0, first)], by simp⟩
  owners := .empty

def requests (request : ℕ) (waiting : Waiting) : OrderedMap ℕ Request := ⟨[(request, ⟨0, waiting⟩)], by simp⟩

def owners : OrderedMap String Owner := ⟨[("purchase", .session first)], by simp⟩

end Sample

end VirtualHaibin.Agent
