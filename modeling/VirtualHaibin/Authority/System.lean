import VirtualHaibin.Authority.Process
import VirtualHaibin.Foundation.Transition
import Mathlib.Logic.Function.Basic

/-!
# The running system

Authority processes over one database: their calls, the map of pending invocations that joins
concurrent duplicates, their reconciliation runs, the credentials that left, and the chain's view
of each payment attempt.  An action is one step of one party.  A process may crash between any two
actions; what it held in memory is then gone.
-/

namespace VirtualHaibin.Authority

open Foundation Payments Evidence

structure CallId where
  process : ℕ
  number : ℕ
  deriving DecidableEq

structure Call where
  auth : AuthenticatedRequest
  stage : Stage

/-- An entry of the map that joins concurrent calls for one invocation. -/
structure Pending where
  fingerprint : String
  leader : ℕ

/-- A process serves after its startup recovery. -/
inductive ProcessState where
  | unstarted
  | starting
  | serving
  | dead
  deriving DecidableEq

/-! ## Reconciliation runs -/

/-- A row of the snapshot a run works from, with the attempt to look up. -/
structure Lookup where
  invocationId : String
  attempt : PaymentAttempt
  deriving DecidableEq

inductive ReconcileRun where
  /-- The first lookup is being answered. -/
  | looking (lookup : Lookup) (rest : List Lookup)
  | resolving (lookup : Lookup) (outcome : ReconciliationOutcome) (rest : List Lookup)
  /-- A confirmed row gets its receipt. -/
  | receipting (row : InvocationRecord) (rest : List Lookup)

inductive ReconcileEvent where
  | list
  | answer (answer : SettlementLookup)
  | thrown
  | store (access : Option ℤ)

/-- The attempts a run has not resolved. -/
def ReconcileRun.lookups : ReconcileRun → List Lookup
  | .looking lookup rest | .resolving lookup _ rest => lookup :: rest
  | .receipting _ rest => rest

def nextLookup : List Lookup → Option ReconcileRun
  | [] => none
  | lookup :: rest => some (.looking lookup rest)

/-- The snapshot of a run.  Rows without an attempt are reported and skipped. -/
def Db.lookups (db : Db) : List Lookup :=
  db.listReconciliationRequired.filterMap fun row ↦ row.paymentAttempt.map fun attempt ↦
    ⟨row.invocationId, attempt⟩

/-- What a lookup decides; `none` leaves the invocation as it is. -/
def lookupOutcome : SettlementLookup → Option ReconciliationOutcome
  | .confirmed settlement => some (.confirmed settlement)
  | .failed_onchain transactionId _ => some (.failed s!"transaction {transactionId} failed on-chain")
  | .expired currentBlockHeight =>
    some (.failed s!"no matching transaction and blockhash expired (height {currentBlockHeight})")
  | .pending _ | .inconclusive _ => none

/-- After a store operation of a run threw: a row that another process resolved is skipped, any
other exception ends the run. -/
def afterReconcileError (rest : List Lookup) : StoreError → Option ReconcileRun
  | .invalidStateTransition _ _ _ => nextLookup rest
  | _ => none

/-- A row resolved as confirmed gets a receipt unless it has one. -/
def afterResolve (outcome : ReconciliationOutcome) (row : InvocationRecord) (rest : List Lookup) :
    Option ReconcileRun :=
  match outcome, row.receipt with
  | .confirmed _, none => some (.receipting row rest)
  | _, _ => nextLookup rest

/-- One step of the reconciliation run of a process; the outer `none` is an event it does not
await, the inner one the end of the run. -/
def reconcileStep (platform : Platform) (options : AuthorityServiceOptions) (db : Db)
    (run : Option ReconcileRun) (event : ReconcileEvent) : Option (Db × Option ReconcileRun) :=
  match run, event with
  | none, .list => some (db, nextLookup db.lookups)
  | some (.looking lookup rest), .answer answer =>
    match lookupOutcome answer with
    | some outcome => some (db, some (.resolving lookup outcome rest))
    | none => some (db, nextLookup rest)
  | some (.looking _ rest), .thrown => some (db, nextLookup rest)
  | some (.resolving lookup outcome rest), .store access =>
    match db.access access (resolveReconciliation lookup.invocationId outcome) with
    | (.error error, db') => some (db', afterReconcileError rest error)
    | (.ok row, db') => some (db', afterResolve outcome row rest)
  | some (.receipting row rest), .store access =>
    (signReceipt platform options row).map fun receipt ↦
      match db.access access (attachReceipt row.invocationId receipt) with
      | (.error error, db') => (db', afterReconcileError rest error)
      | (.ok _, db') => (db', nextLookup rest)
  | some (.receipting _ _), .thrown => some (db, none)
  | _, _ => none

/-! ## The state of the system -/

/-- A payment credential on the wire. -/
structure Credential where
  call : CallId
  auth : AuthenticatedRequest
  payment : Payment
  serviceAuthorization : SignedServiceAuthorizationV1
  attempt : PaymentAttempt

def Credential.invocationId (credential : Credential) : String := credential.auth.request.invocationId

structure System where
  db : Db
  processes : ℕ → ProcessState
  calls : CallId → Option Call
  pending : ℕ → String → Option Pending
  runs : ℕ → Option ReconcileRun
  credentials : List Credential
  /-- The attempts that settled. -/
  settled : List PaymentAttempt
  /-- The attempts that never will: failed on-chain, or expired without a transaction. -/
  perished : List PaymentAttempt

def System.initial : System where
  db := .empty
  processes _ := .unstarted
  calls _ := none
  pending _ _ := none
  runs _ := none
  credentials := []
  settled := []
  perished := []

inductive Action where
  | start (process : ℕ)
  | recover (process : ℕ) (access : Option ℤ)
  | crash (process : ℕ)
  | arrive (id : CallId) (input : AuthorizeRequestInput) (now : ℤ) (access : Option ℤ)
  | call (id : CallId) (event : CallEvent)
  | transmit (id : CallId)
  /-- A joined call takes the outcome of the call it waits for. -/
  | deliver (id : CallId)
  /-- A finished call leaves the pending map. -/
  | finish (id : CallId)
  | reconcile (process : ℕ) (event : ReconcileEvent)
  | settle (attempt : PaymentAttempt)
  | perish (attempt : PaymentAttempt)

def replayed : Outcome → Outcome
  | .returned result => .returned { result with replay := true }
  | .failed failure => .failed failure

/-- The early lookup of a call that is about to be processed. -/
def earlyLookup (db : Db) (access : Option ℤ) (invocationId : String) : Stage :=
  match (db.access access fun _ ↦ selectInvocation invocationId).1 with
  | .ok row => .known row
  | .error error => .storeFailed error

/-- The first stage of an authenticated call. -/
def admitted (db : Db) (access : Option ℤ) (pending : Option Pending) (auth : AuthenticatedRequest) : Stage :=
  match pending with
  | none => earlyLookup db access auth.request.invocationId
  | some entry =>
    if entry.fingerprint ≠ auth.fingerprint then .refused (invocationConflictError auth.request.invocationId)
    else .waiting entry.leader

namespace System

def setCall (sys : System) (id : CallId) (call : Call) : System :=
  { sys with calls := Function.update sys.calls id (some call) }

def setPending (sys : System) (process : ℕ) (invocationId : String) (entry : Option Pending) : System :=
  { sys with
    pending := Function.update sys.pending process
      (Function.update (sys.pending process) invocationId entry) }

/-- An authenticated call joins the pending one for its invocation or becomes it. -/
def accept (sys : System) (id : CallId) (auth : AuthenticatedRequest) (access : Option ℤ) : System :=
  let entry := sys.pending id.process auth.request.invocationId
  let joined := sys.setCall id ⟨auth, admitted sys.db access entry auth⟩
  match entry with
  | some _ => joined
  | none => joined.setPending id.process auth.request.invocationId (some ⟨auth.fingerprint, id.number⟩)

def step (platform : Platform) (options : ℕ → AuthorityServiceOptions) (sys : System) (action : Action) :
    Option System :=
  match action with
  | .start process =>
    if sys.processes process = .unstarted then
      some { sys with processes := Function.update sys.processes process .starting }
    else none
  | .recover process access =>
    if sys.processes process = .starting then
      match sys.db.access access
        (recoverInterruptedInvocations "authority restarted while payment was in progress") with
      | (.ok _, db') =>
        some { sys with db := db', processes := Function.update sys.processes process .serving }
      | (.error _, _) => some sys
    else none
  | .crash process =>
    some { sys with
      processes := Function.update sys.processes process .dead
      calls := fun id ↦ if id.process = process then none else sys.calls id
      pending := Function.update sys.pending process fun _ ↦ none
      runs := Function.update sys.runs process none }
  | .arrive id input now access =>
    if sys.processes id.process = .serving ∧ (sys.calls id).isNone then
      match authenticate platform (options id.process) input now with
      | .ok auth => some (sys.accept id auth access)
      | .error _ => some sys
    else none
  | .call id event =>
    match sys.calls id with
    | some ⟨auth, stage⟩ =>
      (callStep platform (options id.process) sys.db auth stage event).map fun next ↦
        { sys with db := next.1 }.setCall id ⟨auth, next.2⟩
    | none => none
  | .transmit id =>
    match sys.calls id with
    | some ⟨auth, .recorded payment serviceAuthorization attempt⟩ =>
      some { sys.setCall id ⟨auth, .transmitted payment serviceAuthorization attempt⟩ with
        credentials := sys.credentials ++ [⟨id, auth, payment, serviceAuthorization, attempt⟩] }
    | _ => none
  | .deliver id =>
    match sys.calls id with
    | some ⟨auth, .waiting leader⟩ =>
      match sys.calls ⟨id.process, leader⟩ with
      | some ⟨_, .done outcome⟩ => some (sys.setCall id ⟨auth, .done (replayed outcome)⟩)
      | _ => none
    | _ => none
  | .finish id =>
    match sys.calls id with
    | some ⟨auth, .done _⟩ =>
      if (sys.pending id.process auth.request.invocationId).any fun entry ↦ entry.leader = id.number then
        some (sys.setPending id.process auth.request.invocationId none)
      else none
    | _ => none
  | .reconcile process event =>
    if sys.processes process = .serving then
      (reconcileStep platform (options process) sys.db (sys.runs process) event).map fun next ↦
        { sys with db := next.1, runs := Function.update sys.runs process next.2 }
    else none
  | .settle attempt => some { sys with settled := sys.settled ++ [attempt] }
  | .perish attempt => some { sys with perished := sys.perished ++ [attempt] }

end System

end VirtualHaibin.Authority
