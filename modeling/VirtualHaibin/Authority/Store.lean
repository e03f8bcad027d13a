import VirtualHaibin.Evidence.Receipt
import VirtualHaibin.Foundation.Table
import Mathlib.Data.List.Sort

/-!
# The durable store

The tables of the authority's database and the store operations on them.  Every mutating
operation is one immediate transaction: it runs alone, and an exception anywhere in it leaves the
database as it was.  Amounts are decimal text under a `CHECK` constraint and are computed with
arbitrary-precision integers.
-/

namespace VirtualHaibin.Authority

open Foundation Mandate Payments Evidence

inductive InvocationState where
  | RESERVED
  | DENIED
  | CONFIRMED
  | FAILED
  | RECONCILIATION_REQUIRED
  deriving DecidableEq, Repr

def InvocationState.name : InvocationState → String
  | RESERVED => "RESERVED"
  | DENIED => "DENIED"
  | CONFIRMED => "CONFIRMED"
  | FAILED => "FAILED"
  | RECONCILIATION_REQUIRED => "RECONCILIATION_REQUIRED"

/-- The signed artifacts behind an invocation. -/
structure StoredAuthorizationEvidence where
  permit : SignedPurchasePermitV2
  agentSignature : AgentRequestSignature
  deriving DecidableEq

structure GrantTerms where
  issuer : String
  grantId : String
  permitDigest : String
  maxTotalAtomic : String
  deriving DecidableEq

structure GrantRecord extends GrantTerms where
  reservedAtomic : String
  consumedAtomic : String
  createdAt : ℤ
  updatedAt : ℤ
  deriving DecidableEq

/-- A row of `invocations`, decoded.  New rows always store a version 2 request. -/
structure InvocationRecord where
  invocationId : String
  fingerprint : String
  issuer : String
  grantId : String
  agent : String
  request : AuthorizationRequestV2
  amountAtomic : String
  state : InvocationState
  reasonCodes : List String
  paymentTransactionId : Option String
  paymentRequirement : Option PaymentRequirement
  paymentAttempt : Option PaymentAttempt
  settlement : Option ConfirmedSettlement
  result : Option PaidResult
  receipt : Option SignedAuthorizationReceipt
  authorization : Option StoredAuthorizationEvidence
  serviceAuthorization : Option SignedServiceAuthorizationV1
  stateReason : Option String
  decidedAt : ℤ
  createdAt : ℤ
  updatedAt : ℤ

/-- A row of the append-only `invocation_transitions`. -/
structure TransitionRecord where
  invocationId : String
  fromState : Option InvocationState
  toState : InvocationState
  reason : Option String
  at_ : ℤ
  deriving DecidableEq

abbrev GrantKey := String × String

def GrantRecord.key (grant : GrantRecord) : GrantKey := (grant.issuer, grant.grantId)
def InvocationRecord.grantKey (row : InvocationRecord) : GrantKey := (row.issuer, row.grantId)

structure Db where
  grants : Table GrantRecord.key
  invocations : Table InvocationRecord.invocationId
  transitions : List TransitionRecord

def Db.empty : Db := ⟨.empty, .empty, []⟩

inductive StoreError where
  /-- The operation could not run: lock timeout, I/O, or the connection is closed. -/
  | unavailable
  | constraint
  | notAnInteger (text : String)
  | evaluator
  | invalidStateTransition (invocationId expected action : String)
  | invocationMissing (invocationId : String)
  | grantMissing (issuer grantId : String)
  | refusingToReserve (amountAtomic grantId : String)
  | reservedBelow (grantId invocationId : String)
  | concurrentModification (invocationId action : String)
  deriving DecidableEq

def StoreError.message : StoreError → String
  | unavailable => "database is locked"
  | constraint => "constraint failed"
  | notAnInteger text => s!"Cannot convert {text} to a BigInt"
  | evaluator => "unknown"
  | invalidStateTransition invocationId expected action =>
    s!"Invocation {invocationId} is not {expected}; cannot {action}."
  | invocationMissing invocationId => s!"Invocation {invocationId} does not exist."
  | grantMissing issuer grantId => s!"Grant {issuer}/{grantId} does not exist."
  | refusingToReserve amountAtomic grantId =>
    s!"Refusing to reserve {amountAtomic} beyond grant {grantId}'s total."
  | reservedBelow grantId invocationId =>
    s!"Grant {grantId} reserved total is below invocation {invocationId}'s reservation."
  | concurrentModification invocationId action =>
    s!"Authority store could not {action} invocation {invocationId} (concurrent modification?)."

/-- The body of one immediate transaction. -/
abbrev Transaction := StateT Db (Except StoreError)

namespace Transaction

theorem bind_eq_ok {α β : Type} {x : Transaction α} {f : α → Transaction β} {db : Db} {result : β × Db} :
    (x >>= f) db = .ok result ↔ ∃ a db', x db = .ok (a, db') ∧ f a db' = .ok result := by
  simp only [bind, StateT.bind]
  cases x db with
  | error e => simp [Except.bind]
  | ok pair =>
    obtain ⟨a, db'⟩ := pair
    simp [Except.bind]

@[simp] theorem pure_eq_ok {α : Type} {a : α} {db : Db} {result : α × Db} :
    (pure a : Transaction α) db = .ok result ↔ (a, db) = result := by
  change Except.ok (a, db) = .ok result ↔ (a, db) = result
  rw [Except.ok.injEq]

@[simp] theorem throw_eq_ok {α : Type} {e : StoreError} {db : Db} {result : α × Db} :
    (throw e : Transaction α) db = .ok result ↔ False := by
  simp [throw, throwThe, MonadExceptOf.throw, StateT.lift, bind, Except.bind]

/-- Run the transaction; an exception rolls it back. -/
def run {α : Type} (transaction : Transaction α) (db : Db) : Except StoreError α × Db :=
  match StateT.run transaction db with
  | .ok (a, db') => (.ok a, db')
  | .error e => (.error e, db)

theorem run_eq {α : Type} {transaction : Transaction α} {db db' : Db} {result : Except StoreError α}
    (h : transaction.run db = (result, db')) :
    (∃ a, result = .ok a ∧ transaction db = .ok (a, db')) ∨
      (∃ e, result = .error e ∧ transaction db = .error e ∧ db' = db) := by
  simp only [run, StateT.run] at h
  cases htransaction : transaction db with
  | ok pair =>
    obtain ⟨a, db''⟩ := pair
    rw [htransaction] at h
    cases h
    exact .inl ⟨a, rfl, rfl⟩
  | error e =>
    rw [htransaction] at h
    cases h
    exact .inr ⟨e, rfl, rfl, rfl⟩

end Transaction

/-! ## Statements -/

/-- The `CHECK` constraints of `grants`. -/
def GrantRecord.satisfiesChecks (grant : GrantRecord) : Bool :=
  isCanonicalAtomicAmount grant.maxTotalAtomic && isCanonicalAtomicAmount grant.reservedAtomic &&
    isCanonicalAtomicAmount grant.consumedAtomic

/-- The `CHECK` constraints of `invocations`. -/
def InvocationRecord.satisfiesChecks (row : InvocationRecord) : Bool :=
  isCanonicalAtomicAmount row.amountAtomic && (row.state ≠ .CONFIRMED || row.paymentTransactionId.isSome)

def selectInvocation (invocationId : String) : Transaction (Option InvocationRecord) := do
  return (← get).invocations.find? invocationId

def selectGrant (key : GrantKey) : Transaction (Option GrantRecord) := do
  return (← get).grants.find? key

def requireInvocation (invocationId : String) : Transaction InvocationRecord := do
  match ← selectInvocation invocationId with
  | some row => return row
  | none => throw (.invocationMissing invocationId)

def requireState (invocationId : String) (expected : InvocationState) (action : String) :
    Transaction InvocationRecord := do
  let row ← requireInvocation invocationId
  if row.state = expected then return row
  else throw (.invalidStateTransition invocationId expected.name action)

def requireGrant (key : GrantKey) : Transaction GrantRecord := do
  match ← selectGrant key with
  | some grant => return grant
  | none => throw (.grantMissing key.1 key.2)

def bigInt (text : String) : Transaction ℤ :=
  match Decimal.bigInt text with
  | some value => return value
  | none => throw (.notAnInteger text)

def insertGrant (grant : GrantRecord) : Transaction Unit := do
  let db ← get
  if grant.satisfiesChecks then
    match db.grants.insert? grant with
    | some grants => set { db with grants }
    | none => throw .constraint
  else throw .constraint

def updateGrantAmounts (key : GrantKey) (reserved consumed : String) (now : ℤ) : Transaction Unit := do
  let db ← get
  if isCanonicalAtomicAmount reserved && isCanonicalAtomicAmount consumed then
    set { db with
      grants := db.grants.modify key fun grant ↦
        { grant with reservedAtomic := reserved, consumedAtomic := consumed, updatedAt := now } }
  else throw .constraint

/-- `INSERT INTO invocations`, with its foreign key into `grants`. -/
def insertInvocation (row : InvocationRecord) : Transaction Unit := do
  let db ← get
  if row.satisfiesChecks && (db.grants.find? row.grantKey).isSome then
    match db.invocations.insert? row with
    | some invocations => set { db with invocations }
    | none => throw .constraint
  else throw .constraint

/-- `UPDATE invocations SET … WHERE invocation_id = ? AND …`, required to change one row. -/
def updateInvocation (invocationId : String) (selected : InvocationRecord → Bool)
    (change : InvocationRecord → InvocationRecord) (action : String)
    (hkey : ∀ row, (change row).invocationId = row.invocationId := by intro row; rfl) :
    Transaction Unit := do
  let db ← get
  match (db.invocations.find? invocationId).filter selected with
  | none => throw (.concurrentModification invocationId action)
  | some row =>
    if (change row).satisfiesChecks then
      set { db with invocations := db.invocations.modify invocationId change hkey }
    else throw .constraint

def recordTransition (invocationId : String) (fromState : Option InvocationState)
    (toState : InvocationState) (reason : Option String) (now : ℤ) : Transaction Unit :=
  modify fun db ↦ { db with
    transitions := db.transitions ++ [⟨invocationId, fromState, toState, reason, now⟩] }

def transitionState (invocationId : String) (fromState toState : InvocationState) (reason : String)
    (now : ℤ) : Transaction Unit := do
  updateInvocation invocationId (fun row ↦ row.state = fromState)
    (fun row ↦ { row with state := toState, stateReason := some reason, updatedAt := now })
    s!"move to {toState.name}"
  recordTransition invocationId (some fromState) toState (some reason) now

/-- `reserved -= amount; consumed += amount`. -/
def consumeReservation (invocation : InvocationRecord) (now : ℤ) : Transaction Unit := do
  let grant ← requireGrant invocation.grantKey
  let amount ← bigInt invocation.amountAtomic
  let reserved ← bigInt grant.reservedAtomic
  if reserved < amount then throw (.reservedBelow grant.grantId invocation.invocationId)
  else
    let consumed ← bigInt grant.consumedAtomic
    updateGrantAmounts grant.key (reserved - amount).repr (consumed + amount).repr now

/-- `reserved -= amount`. -/
def releaseReservation (invocation : InvocationRecord) (now : ℤ) : Transaction Unit := do
  let grant ← requireGrant invocation.grantKey
  let amount ← bigInt invocation.amountAtomic
  let reserved ← bigInt grant.reservedAtomic
  if reserved < amount then throw (.reservedBelow grant.grantId invocation.invocationId)
  else updateGrantAmounts grant.key (reserved - amount).repr grant.consumedAtomic now

/-! ## Operations -/

structure ReserveInput where
  invocationId : String
  fingerprint : String
  grant : GrantTerms
  agent : String
  request : AuthorizationRequestV2
  amountAtomic : String
  decidedAt : ℤ
  paymentRequirement : Option PaymentRequirement
  authorization : Option StoredAuthorizationEvidence

def ReserveInput.grantKey (input : ReserveInput) : GrantKey := (input.grant.issuer, input.grant.grantId)

inductive BudgetDecision where
  | allowed
  | refused (reasonCodes : List String)

/-- Receives the committed total of the grant; `none` is an exception. -/
abbrev BudgetEvaluator := String → Option BudgetDecision

inductive ReserveResult where
  | existing (invocation : InvocationRecord)
  | grant_conflict (grant : GrantRecord)
  | reserved (invocation : InvocationRecord)
  | denied (invocation : InvocationRecord)

structure ConfirmPayment where
  transactionId : String
  settlement : Option ConfirmedSettlement
  result : Option PaidResult

inductive ReconciliationOutcome where
  | confirmed (settlement : ConfirmedSettlement)
  | failed (reason : String)

structure RecoveryResult where
  reconciliationRequired : List String
  releasedNeverSubmitted : List String

/-- The row a first decision inserts. -/
def ReserveInput.row (input : ReserveInput) (state : InvocationState) (reasonCodes : List String)
    (now : ℤ) : InvocationRecord where
  invocationId := input.invocationId
  fingerprint := input.fingerprint
  issuer := input.grant.issuer
  grantId := input.grant.grantId
  agent := input.agent
  request := input.request
  amountAtomic := input.amountAtomic
  state := state
  reasonCodes := reasonCodes
  paymentTransactionId := none
  paymentRequirement := input.paymentRequirement.map PaymentRequirement.stored
  paymentAttempt := none
  settlement := none
  result := none
  receipt := none
  authorization := input.authorization
  serviceAuthorization := none
  stateReason := none
  decidedAt := input.decidedAt
  createdAt := now
  updatedAt := now

/-- What a retry writes over a `FAILED` row; its identity and grant stay. -/
def ReserveInput.rewrite (input : ReserveInput) (state : InvocationState) (reasonCodes : List String)
    (now : ℤ) (row : InvocationRecord) : InvocationRecord :=
  { row with
    state := state
    reasonCodes := reasonCodes
    request := input.request
    amountAtomic := input.amountAtomic
    paymentRequirement := input.paymentRequirement.map PaymentRequirement.stored
    authorization := input.authorization
    paymentAttempt := none
    serviceAuthorization := none
    settlement := none
    result := none
    paymentTransactionId := none
    decidedAt := input.decidedAt
    stateReason := none
    updatedAt := now }

def writeDecision (input : ReserveInput) (existing : Option InvocationRecord) (state : InvocationState)
    (reasonCodes : List String) (now : ℤ) : Transaction Unit := do
  match existing with
  | none => insertInvocation (input.row state reasonCodes now)
  | some _ =>
    updateInvocation input.invocationId (fun row ↦ row.state = .FAILED)
      (input.rewrite state reasonCodes now) "retry"
  recordTransition input.invocationId (existing.map InvocationRecord.state) state
    (if reasonCodes = [] then none else some (String.intercalate "," reasonCodes)) now

/-- A `FAILED` invocation may be attempted again by the same request. -/
def retryingFailed (input : ReserveInput) (existing : InvocationRecord) : Bool :=
  existing.state = .FAILED && existing.fingerprint = input.fingerprint

/-- The grant, created on first use; the left side is a grant pinned to other terms. -/
def pinGrant (terms : GrantTerms) (now : ℤ) : Transaction (GrantRecord ⊕ GrantRecord) := do
  match ← selectGrant (terms.issuer, terms.grantId) with
  | none =>
    insertGrant { terms with reservedAtomic := "0", consumedAtomic := "0", createdAt := now, updatedAt := now }
    return .inr (← requireGrant (terms.issuer, terms.grantId))
  | some grant =>
    if grant.permitDigest ≠ terms.permitDigest ∨ grant.maxTotalAtomic ≠ terms.maxTotalAtomic then
      return .inl grant
    else return .inr grant

/-- The decision against the committed total, and its effect. -/
def decideBudget (input : ReserveInput) (evaluate : BudgetEvaluator) (existing : Option InvocationRecord)
    (grant : GrantRecord) (now : ℤ) : Transaction ReserveResult := do
  let reserved ← bigInt grant.reservedAtomic
  let consumed ← bigInt grant.consumedAtomic
  match evaluate (reserved + consumed).repr with
  | none => throw .evaluator
  | some (.refused reasonCodes) =>
    writeDecision input existing .DENIED reasonCodes now
    return .denied (← requireInvocation input.invocationId)
  | some .allowed =>
    let amount ← bigInt input.amountAtomic
    let maxTotal ← bigInt grant.maxTotalAtomic
    -- Never persist a reservation beyond the grant, even if an evaluator were wrong.
    if amount ≤ 0 ∨ maxTotal < reserved + amount + consumed ∨ (maxU64 : ℤ) < reserved + amount then
      throw (.refusingToReserve input.amountAtomic input.grant.grantId)
    else
      updateGrantAmounts grant.key (reserved + amount).repr grant.consumedAtomic now
      writeDecision input existing .RESERVED [] now
      return .reserved (← requireInvocation input.invocationId)

def reserve (input : ReserveInput) (evaluate : BudgetEvaluator) (now : ℤ) : Transaction ReserveResult := do
  let existing ← selectInvocation input.invocationId
  match existing.filter fun row ↦ !retryingFailed input row with
  | some row => return .existing row
  | none =>
    match ← pinGrant input.grant now with
    | .inl grant => return .grant_conflict grant
    | .inr grant => decideBudget input evaluate existing grant now

def recordPaymentAttempt (invocationId : String) (attempt : PaymentAttempt)
    (serviceAuthorization : Option SignedServiceAuthorizationV1) (now : ℤ) : Transaction Unit := do
  let invocation ← requireState invocationId .RESERVED "record a payment attempt"
  if invocation.paymentAttempt.isSome then
    throw (.invalidStateTransition invocationId "RESERVED without a recorded attempt"
      "record a second payment attempt")
  else
    updateInvocation invocationId (fun row ↦ row.state = .RESERVED && row.paymentAttempt.isNone)
      (fun row ↦ { row with
        paymentAttempt := some attempt, serviceAuthorization := serviceAuthorization, updatedAt := now })
      "record attempt"
    recordTransition invocationId (some .RESERVED) .RESERVED
      (some s!"payment attempt {attempt.payerSignature}") now

def confirm (invocationId : String) (payment : ConfirmPayment) (now : ℤ) : Transaction InvocationRecord := do
  let invocation ← requireState invocationId .RESERVED "confirm"
  consumeReservation invocation now
  updateInvocation invocationId (fun row ↦ row.state = .RESERVED)
    (fun row ↦ { row with
      state := .CONFIRMED, paymentTransactionId := some payment.transactionId,
      settlement := payment.settlement, result := payment.result.map PaidResult.stored, updatedAt := now })
    "confirm"
  recordTransition invocationId (some .RESERVED) .CONFIRMED (some s!"payment {payment.transactionId}") now
  requireInvocation invocationId

def resolveReconciliation (invocationId : String) (outcome : ReconciliationOutcome) (now : ℤ) :
    Transaction InvocationRecord := do
  let invocation ← requireState invocationId .RECONCILIATION_REQUIRED "resolve reconciliation"
  match outcome with
  | .confirmed settlement =>
    consumeReservation invocation now
    let reason := s!"reconciled: settled in {settlement.transactionId}"
    updateInvocation invocationId (fun row ↦ row.state = .RECONCILIATION_REQUIRED)
      (fun row ↦ { row with
        state := .CONFIRMED, paymentTransactionId := some settlement.transactionId,
        settlement := some settlement, stateReason := some reason, updatedAt := now })
      "resolve as confirmed"
    recordTransition invocationId (some .RECONCILIATION_REQUIRED) .CONFIRMED (some reason) now
  | .failed reason =>
    releaseReservation invocation now
    transitionState invocationId .RECONCILIATION_REQUIRED .FAILED s!"reconciled: {reason}" now
  requireInvocation invocationId

def fail (invocationId reason : String) (now : ℤ) : Transaction Unit := do
  let invocation ← requireState invocationId .RESERVED "fail"
  releaseReservation invocation now
  transitionState invocationId .RESERVED .FAILED reason now

def markReconciliationRequired (invocationId reason : String) (now : ℤ) : Transaction Unit := do
  let _ ← requireState invocationId .RESERVED "mark reconciliation required"
  transitionState invocationId .RESERVED .RECONCILIATION_REQUIRED reason now

/-- Stores the receipt of a decided invocation; a stored receipt wins. -/
def attachReceipt (invocationId : String) (receipt : SignedAuthorizationReceipt) (now : ℤ) :
    Transaction SignedAuthorizationReceipt := do
  modify fun db ↦ { db with
    invocations := db.invocations.modify invocationId
      (fun row ↦
        if row.receipt.isNone && (row.state = .DENIED || row.state = .CONFIRMED) then
          { row with receipt := some receipt, updatedAt := now }
        else row)
      (by intro row; split <;> rfl) }
  let invocation ← requireInvocation invocationId
  match invocation.receipt with
  | some stored => return stored
  | none => throw (.invalidStateTransition invocationId "CONFIRMED" "attach a receipt")

/-- `SELECT … WHERE state = ? ORDER BY created_at`. -/
def Db.selectByState (db : Db) (state : InvocationState) : List InvocationRecord :=
  (db.invocations.rows.filter fun row ↦ row.state = state).insertionSort
    fun a b ↦ a.createdAt ≤ b.createdAt

def Db.listReconciliationRequired (db : Db) : List InvocationRecord :=
  db.selectByState .RECONCILIATION_REQUIRED

/-- One row of the recovery: it was selected in the state `RESERVED`. -/
def recoverRow (reason : String) (now : ℤ) (result : RecoveryResult) (row : InvocationRecord) :
    Transaction RecoveryResult := do
  if row.paymentAttempt.isSome then
    transitionState row.invocationId .RESERVED .RECONCILIATION_REQUIRED reason now
    return { result with reconciliationRequired := result.reconciliationRequired ++ [row.invocationId] }
  else
    releaseReservation (← requireInvocation row.invocationId) now
    transitionState row.invocationId .RESERVED .FAILED
      s!"{reason}; no payment attempt recorded, credential never transmitted" now
    return { result with releasedNeverSubmitted := result.releasedNeverSubmitted ++ [row.invocationId] }

def recoverInterruptedInvocations (reason : String) (now : ℤ) : Transaction RecoveryResult := do
  let rows := (← get).selectByState .RESERVED
  rows.foldlM (recoverRow reason now) ⟨[], []⟩

end VirtualHaibin.Authority
