import VirtualHaibin.Authority.Store

/-!
# What the store operations do

One inversion lemma for each operation: the row it found, the checks that row passed, the single
row it wrote, and what happened to the grant.  Later modules cite these and never unfold a
transaction.
-/

namespace VirtualHaibin.Authority

open Foundation Payments Evidence

variable {db db' : Db}

theorem selectInvocation_ok {invocationId : String} {result : Option InvocationRecord} :
    selectInvocation invocationId db = .ok (result, db') ↔
      result = db.invocations.find? invocationId ∧ db' = db := by
  simp only [selectInvocation, bind_pure_comp]
  constructor
  · intro h
    cases h
    exact ⟨rfl, rfl⟩
  · rintro ⟨rfl, rfl⟩
    rfl

theorem selectGrant_ok {key : GrantKey} {result : Option GrantRecord} :
    selectGrant key db = .ok (result, db') ↔ result = db.grants.find? key ∧ db' = db := by
  simp only [selectGrant, bind_pure_comp]
  constructor
  · intro h
    cases h
    exact ⟨rfl, rfl⟩
  · rintro ⟨rfl, rfl⟩
    rfl

theorem requireInvocation_ok {invocationId : String} {row : InvocationRecord} :
    requireInvocation invocationId db = .ok (row, db') ↔
      db.invocations.find? invocationId = some row ∧ db' = db := by
  simp only [requireInvocation, Transaction.bind_eq_ok, selectInvocation_ok]
  constructor
  · rintro ⟨found, db'', ⟨rfl, rfl⟩, h⟩
    cases hfind : db''.invocations.find? invocationId with
    | none =>
      rw [hfind, Transaction.throw_eq_ok] at h
      exact h.elim
    | some other =>
      rw [hfind, Transaction.pure_eq_ok] at h
      cases h
      exact ⟨rfl, rfl⟩
  · rintro ⟨hfind, rfl⟩
    refine ⟨some row, db', ⟨hfind.symm, rfl⟩, ?_⟩
    simp

theorem requireState_ok {invocationId action : String} {expected : InvocationState}
    {row : InvocationRecord} (h : requireState invocationId expected action db = .ok (row, db')) :
    db.invocations.find? invocationId = some row ∧ row.state = expected ∧ db' = db := by
  simp only [requireState, Transaction.bind_eq_ok, requireInvocation_ok] at h
  obtain ⟨found, db'', ⟨hfind, rfl⟩, h⟩ := h
  split at h
  · rename_i hstate
    rw [Transaction.pure_eq_ok] at h
    cases h
    exact ⟨hfind, hstate, rfl⟩
  · rw [Transaction.throw_eq_ok] at h
    exact h.elim

theorem requireGrant_ok {key : GrantKey} {grant : GrantRecord}
    (h : requireGrant key db = .ok (grant, db')) :
    db.grants.find? key = some grant ∧ db' = db := by
  rw [requireGrant, Transaction.bind_eq_ok] at h
  obtain ⟨found, db'', hselect, h⟩ := h
  obtain ⟨rfl, rfl⟩ := selectGrant_ok.1 hselect
  cases hfind : db''.grants.find? key with
  | none =>
    rw [hfind, Transaction.throw_eq_ok] at h
    exact h.elim
  | some other =>
    rw [hfind, Transaction.pure_eq_ok] at h
    cases h
    exact ⟨rfl, rfl⟩

theorem bigInt_ok {text : String} {value : ℤ} (h : bigInt text db = .ok (value, db')) :
    Decimal.bigInt text = some value ∧ db' = db := by
  unfold bigInt at h
  cases hvalue : Decimal.bigInt text with
  | none =>
    rw [hvalue, Transaction.throw_eq_ok] at h
    exact h.elim
  | some other =>
    rw [hvalue, Transaction.pure_eq_ok] at h
    cases h
    exact ⟨rfl, rfl⟩

theorem insertGrant_ok {grant : GrantRecord} (h : insertGrant grant db = .ok ((), db')) :
    grant.satisfiesChecks = true ∧ Table.Wrote db.grants db'.grants none grant ∧
      db'.invocations = db.invocations ∧ db'.transitions = db.transitions := by
  simp only [insertGrant, Transaction.bind_eq_ok] at h
  obtain ⟨current, db'', hget, h⟩ := h
  cases hget
  split at h
  · rename_i hchecks
    cases hinsert : db.grants.insert? grant with
    | none =>
      rw [hinsert, Transaction.throw_eq_ok] at h
      exact h.elim
    | some grants =>
      rw [hinsert] at h
      cases h
      exact ⟨hchecks, Table.wrote_insert? hinsert, rfl, rfl⟩
  · rw [Transaction.throw_eq_ok] at h
    exact h.elim

theorem insertInvocation_ok {row : InvocationRecord} (h : insertInvocation row db = .ok ((), db')) :
    row.satisfiesChecks = true ∧ (db.grants.find? row.grantKey).isSome = true ∧
      Table.Wrote db.invocations db'.invocations none row ∧
      db'.grants = db.grants ∧ db'.transitions = db.transitions := by
  simp only [insertInvocation, Transaction.bind_eq_ok] at h
  obtain ⟨current, db'', hget, h⟩ := h
  cases hget
  split at h
  · rename_i hchecks
    rw [Bool.and_eq_true] at hchecks
    cases hinsert : db.invocations.insert? row with
    | none =>
      rw [hinsert, Transaction.throw_eq_ok] at h
      exact h.elim
    | some invocations =>
      rw [hinsert] at h
      cases h
      exact ⟨hchecks.1, hchecks.2, Table.wrote_insert? hinsert, rfl, rfl⟩
  · rw [Transaction.throw_eq_ok] at h
    exact h.elim

theorem updateInvocation_ok {invocationId action : String} {selected : InvocationRecord → Bool}
    {change : InvocationRecord → InvocationRecord}
    {hkey : ∀ row, (change row).invocationId = row.invocationId}
    (h : updateInvocation invocationId selected change action hkey db = .ok ((), db')) :
    ∃ row, db.invocations.find? invocationId = some row ∧ selected row = true ∧
      (change row).satisfiesChecks = true ∧
      Table.Wrote db.invocations db'.invocations (some row) (change row) ∧
      db'.grants = db.grants ∧ db'.transitions = db.transitions := by
  simp only [updateInvocation, Transaction.bind_eq_ok] at h
  obtain ⟨current, db'', hget, h⟩ := h
  cases hget
  cases hrow : (db.invocations.find? invocationId).filter selected with
  | none =>
    rw [hrow, Transaction.throw_eq_ok] at h
    exact h.elim
  | some row =>
    rw [hrow] at h
    rw [Checked.filter_eq_some] at hrow
    dsimp only at h
    split at h
    · rename_i hchecks
      cases h
      exact ⟨row, hrow.1, hrow.2, hchecks, Table.wrote_modify hrow.1 change hkey, rfl, rfl⟩
    · rw [Transaction.throw_eq_ok] at h
      exact h.elim

/-- The grant under `key` carries new amounts; everything else is as before. -/
structure Posted (db db' : Db) (key : GrantKey) (grant : GrantRecord) (reserved consumed : String)
    (now : ℤ) : Prop where
  found : db.grants.find? key = some grant
  reserved_canonical : isCanonicalAtomicAmount reserved = true
  consumed_canonical : isCanonicalAtomicAmount consumed = true
  wrote : Table.Wrote db.grants db'.grants (some grant)
    { grant with reservedAtomic := reserved, consumedAtomic := consumed, updatedAt := now }
  invocations : db'.invocations = db.invocations
  transitions : db'.transitions = db.transitions

theorem updateGrantAmounts_ok {key : GrantKey} {grant : GrantRecord} {reserved consumed : String}
    {now : ℤ} (hfound : db.grants.find? key = some grant)
    (h : updateGrantAmounts key reserved consumed now db = .ok ((), db')) :
    Posted db db' key grant reserved consumed now := by
  simp only [updateGrantAmounts, Transaction.bind_eq_ok] at h
  obtain ⟨current, db'', hget, h⟩ := h
  cases hget
  split at h
  · rename_i hchecks
    rw [Bool.and_eq_true] at hchecks
    cases h
    let post : GrantRecord → GrantRecord := fun grant ↦
      { grant with reservedAtomic := reserved, consumedAtomic := consumed, updatedAt := now }
    exact ⟨hfound, hchecks.1, hchecks.2, Table.wrote_modify hfound post fun _ ↦ rfl, rfl, rfl⟩
  · rw [Transaction.throw_eq_ok] at h
    exact h.elim

theorem recordTransition_ok {invocationId : String} {fromState : Option InvocationState}
    {toState : InvocationState} {reason : Option String} {now : ℤ}
    (h : recordTransition invocationId fromState toState reason now db = .ok ((), db')) :
    db'.invocations = db.invocations ∧ db'.grants = db.grants ∧
      db'.transitions = db.transitions ++ [⟨invocationId, fromState, toState, reason, now⟩] := by
  cases h
  exact ⟨rfl, rfl, rfl⟩

/-- An operation wrote the single row `new` over `old` and logged `entry`. -/
structure RowWritten (db db' : Db) (old : Option InvocationRecord) (new : InvocationRecord)
    (entry : TransitionRecord) : Prop where
  checks : new.satisfiesChecks = true
  wrote : Table.Wrote db.invocations db'.invocations old new
  grants : db'.grants = db.grants
  transitions : db'.transitions = db.transitions ++ [entry]

theorem transitionState_ok {invocationId reason : String} {fromState toState : InvocationState} {now : ℤ}
    (h : transitionState invocationId fromState toState reason now db = .ok ((), db')) :
    ∃ row, db.invocations.find? invocationId = some row ∧ row.state = fromState ∧
      RowWritten db db' (some row)
        { row with state := toState, stateReason := some reason, updatedAt := now }
        ⟨invocationId, some fromState, toState, some reason, now⟩ := by
  simp only [transitionState, Transaction.bind_eq_ok] at h
  obtain ⟨⟨⟩, db'', hupdate, hlog⟩ := h
  obtain ⟨row, hfind, hstate, hchecks, hwrote, hgrants, htransitions⟩ := updateInvocation_ok hupdate
  obtain ⟨hinvocations', hgrants', htransitions'⟩ := recordTransition_ok hlog
  refine ⟨row, hfind, by simpa using hstate, hchecks, ?_, ?_, ?_⟩
  · rw [hinvocations']
    exact hwrote
  · rw [hgrants', hgrants]
  · rw [htransitions', htransitions]

theorem consumeReservation_ok {row : InvocationRecord} {now : ℤ}
    (h : consumeReservation row now db = .ok ((), db')) :
    ∃ grant amount reserved consumed, Decimal.bigInt row.amountAtomic = some amount ∧
      Decimal.bigInt grant.reservedAtomic = some reserved ∧
      Decimal.bigInt grant.consumedAtomic = some consumed ∧ amount ≤ reserved ∧
      Posted db db' row.grantKey grant (reserved - amount).repr (consumed + amount).repr now := by
  simp only [consumeReservation, Transaction.bind_eq_ok] at h
  obtain ⟨grant, db₁, hgrant, amount, db₂, hamount, reserved, db₃, hreserved, h⟩ := h
  obtain ⟨hfind, rfl⟩ := requireGrant_ok hgrant
  obtain ⟨hamount', rfl⟩ := bigInt_ok hamount
  obtain ⟨hreserved', rfl⟩ := bigInt_ok hreserved
  split at h
  · rw [Transaction.throw_eq_ok] at h
    exact h.elim
  · rename_i hle
    rw [Transaction.bind_eq_ok] at h
    obtain ⟨consumed, db₄, hconsumed, h⟩ := h
    obtain ⟨hconsumed', rfl⟩ := bigInt_ok hconsumed
    have hkey : grant.key = row.grantKey := Table.key_of_find? hfind
    rw [hkey] at h
    exact ⟨grant, amount, reserved, consumed, hamount', hreserved', hconsumed', not_lt.1 hle,
      updateGrantAmounts_ok hfind h⟩

theorem releaseReservation_ok {row : InvocationRecord} {now : ℤ}
    (h : releaseReservation row now db = .ok ((), db')) :
    ∃ grant amount reserved, Decimal.bigInt row.amountAtomic = some amount ∧
      Decimal.bigInt grant.reservedAtomic = some reserved ∧ amount ≤ reserved ∧
      Posted db db' row.grantKey grant (reserved - amount).repr grant.consumedAtomic now := by
  simp only [releaseReservation, Transaction.bind_eq_ok] at h
  obtain ⟨grant, db₁, hgrant, amount, db₂, hamount, reserved, db₃, hreserved, h⟩ := h
  obtain ⟨hfind, rfl⟩ := requireGrant_ok hgrant
  obtain ⟨hamount', rfl⟩ := bigInt_ok hamount
  obtain ⟨hreserved', rfl⟩ := bigInt_ok hreserved
  split at h
  · rw [Transaction.throw_eq_ok] at h
    exact h.elim
  · rename_i hle
    have hkey : grant.key = row.grantKey := Table.key_of_find? hfind
    rw [hkey] at h
    exact ⟨grant, amount, reserved, hamount', hreserved', not_lt.1 hle, updateGrantAmounts_ok hfind h⟩

/-! ## Operations on one reservation -/

/-- The row of an operation that requires a state. -/
structure Found (db : Db) (invocationId : String) (state : InvocationState) (row : InvocationRecord) :
    Prop where
  find : db.invocations.find? invocationId = some row
  state_eq : row.state = state

theorem Found.id_eq {invocationId : String} {state : InvocationState} {row : InvocationRecord}
    (h : Found db invocationId state row) : row.invocationId = invocationId :=
  Table.key_of_find? h.find

theorem recordPaymentAttempt_ok {invocationId : String} {attempt : PaymentAttempt}
    {serviceAuthorization : Option SignedServiceAuthorizationV1} {now : ℤ}
    (h : recordPaymentAttempt invocationId attempt serviceAuthorization now db = .ok ((), db')) :
    ∃ row, Found db invocationId .RESERVED row ∧ row.paymentAttempt = none ∧
      RowWritten db db' (some row)
        { row with
          paymentAttempt := some attempt, serviceAuthorization := serviceAuthorization, updatedAt := now }
        ⟨invocationId, some .RESERVED, .RESERVED, some s!"payment attempt {attempt.payerSignature}", now⟩ := by
  simp only [recordPaymentAttempt, Transaction.bind_eq_ok] at h
  obtain ⟨found, db₁, hfound, h⟩ := h
  obtain ⟨hfind, hstate, rfl⟩ := requireState_ok hfound
  split at h
  · rw [Transaction.throw_eq_ok] at h
    exact h.elim
  · rename_i hnone
    rw [Transaction.bind_eq_ok] at h
    obtain ⟨⟨⟩, db₂, hupdate, hlog⟩ := h
    obtain ⟨row, hrow, -, hchecks, hwrote, hgrants, htransitions⟩ := updateInvocation_ok hupdate
    obtain ⟨hinvocations', hgrants', htransitions'⟩ := recordTransition_ok hlog
    rw [hfind] at hrow
    cases hrow
    refine ⟨found, ⟨hfind, hstate⟩, by simpa using hnone, hchecks, ?_, ?_, ?_⟩
    · rw [hinvocations']
      exact hwrote
    · rw [hgrants', hgrants]
    · rw [htransitions', htransitions]

theorem markReconciliationRequired_ok {invocationId reason : String} {now : ℤ}
    (h : markReconciliationRequired invocationId reason now db = .ok ((), db')) :
    ∃ row, Found db invocationId .RESERVED row ∧
      RowWritten db db' (some row)
        { row with state := .RECONCILIATION_REQUIRED, stateReason := some reason, updatedAt := now }
        ⟨invocationId, some .RESERVED, .RECONCILIATION_REQUIRED, some reason, now⟩ := by
  simp only [markReconciliationRequired, Transaction.bind_eq_ok] at h
  obtain ⟨found, db₁, hfound, h⟩ := h
  obtain ⟨-, -, rfl⟩ := requireState_ok hfound
  obtain ⟨row, hfind, hstate, hwritten⟩ := transitionState_ok h
  exact ⟨row, ⟨hfind, hstate⟩, hwritten⟩

/-- A reservation left its grant and the row `new` was written over `row`. -/
structure Released (db db' : Db) (row new : InvocationRecord) (entry : TransitionRecord) (now : ℤ) :
    Prop where
  money : ∃ grant amount reserved middle, Decimal.bigInt row.amountAtomic = some amount ∧
    Decimal.bigInt grant.reservedAtomic = some reserved ∧ amount ≤ reserved ∧
    Posted db middle row.grantKey grant (reserved - amount).repr grant.consumedAtomic now ∧
    RowWritten middle db' (some row) new entry

/-- A reservation became a payment and the row `new` was written over `row`. -/
structure Consumed (db db' : Db) (row new : InvocationRecord) (entry : TransitionRecord) (now : ℤ) :
    Prop where
  money : ∃ grant amount reserved consumed middle, Decimal.bigInt row.amountAtomic = some amount ∧
    Decimal.bigInt grant.reservedAtomic = some reserved ∧
    Decimal.bigInt grant.consumedAtomic = some consumed ∧ amount ≤ reserved ∧
    Posted db middle row.grantKey grant (reserved - amount).repr (consumed + amount).repr now ∧
    RowWritten middle db' (some row) new entry

theorem Released.wrote {row new : InvocationRecord} {entry : TransitionRecord} {now : ℤ}
    (h : Released db db' row new entry now) :
    Table.Wrote db.invocations db'.invocations (some row) new := by
  obtain ⟨_, _, _, middle, -, -, -, hposted, hwritten⟩ := h.money
  rw [← hposted.invocations]
  exact hwritten.wrote

theorem Consumed.wrote {row new : InvocationRecord} {entry : TransitionRecord} {now : ℤ}
    (h : Consumed db db' row new entry now) :
    Table.Wrote db.invocations db'.invocations (some row) new := by
  obtain ⟨_, _, _, _, middle, -, -, -, -, hposted, hwritten⟩ := h.money
  rw [← hposted.invocations]
  exact hwritten.wrote

/-- A release followed by a state change, the shared body of failing, reconciling and recovering. -/
theorem release_transition_ok {row : InvocationRecord} {state toState : InvocationState}
    {invocationId reason : String} {now : ℤ} (hfound : Found db invocationId state row)
    (h : (do releaseReservation row now; transitionState invocationId state toState reason now :
      Transaction Unit) db = .ok ((), db')) :
    Released db db' row { row with state := toState, stateReason := some reason, updatedAt := now }
      ⟨invocationId, some state, toState, some reason, now⟩ now := by
  rw [Transaction.bind_eq_ok] at h
  obtain ⟨⟨⟩, middle, hrelease, htransition⟩ := h
  obtain ⟨grant, amount, reserved, hamount, hreserved, hle, hposted⟩ := releaseReservation_ok hrelease
  obtain ⟨other, hfind, -, hwritten⟩ := transitionState_ok htransition
  rw [hposted.invocations, hfound.find] at hfind
  cases hfind
  exact ⟨grant, amount, reserved, middle, hamount, hreserved, hle, hposted, hwritten⟩

theorem fail_ok {invocationId reason : String} {now : ℤ}
    (h : fail invocationId reason now db = .ok ((), db')) :
    ∃ row, Found db invocationId .RESERVED row ∧
      Released db db' row { row with state := .FAILED, stateReason := some reason, updatedAt := now }
        ⟨invocationId, some .RESERVED, .FAILED, some reason, now⟩ now := by
  rw [fail, Transaction.bind_eq_ok] at h
  obtain ⟨row, db₁, hfound, h⟩ := h
  obtain ⟨hfind, hstate, rfl⟩ := requireState_ok hfound
  exact ⟨row, ⟨hfind, hstate⟩, release_transition_ok ⟨hfind, hstate⟩ h⟩

/-- A consumption followed by the write of the confirmed row. -/
theorem consume_update_ok {row new : InvocationRecord} {state : InvocationState}
    {invocationId action : String} {selected : InvocationRecord → Bool}
    {change : InvocationRecord → InvocationRecord}
    {hkey : ∀ row, (change row).invocationId = row.invocationId} {reason : Option String} {now : ℤ}
    {middle after : Db} (hfound : Found db invocationId state row) (hnew : change row = new)
    (hconsume : consumeReservation row now db = .ok ((), middle))
    (hupdate : updateInvocation invocationId selected change action hkey middle = .ok ((), after))
    (hlog : recordTransition invocationId (some state) .CONFIRMED reason now after = .ok ((), db')) :
    Consumed db db' row new ⟨invocationId, some state, .CONFIRMED, reason, now⟩ now := by
  obtain ⟨grant, amount, reserved, consumed, hamount, hreserved, hconsumed, hle, hposted⟩ :=
    consumeReservation_ok hconsume
  obtain ⟨other, hfind, -, hchecks, hwrote, hgrants, htransitions⟩ := updateInvocation_ok hupdate
  obtain ⟨hinvocations', hgrants', htransitions'⟩ := recordTransition_ok hlog
  rw [hposted.invocations, hfound.find] at hfind
  cases hfind
  subst hnew
  refine ⟨grant, amount, reserved, consumed, middle, hamount, hreserved, hconsumed, hle, hposted,
    hchecks, ?_, ?_, ?_⟩
  · rw [hinvocations']
    exact hwrote
  · rw [hgrants', hgrants]
  · rw [htransitions', htransitions]

def confirmedRow (row : InvocationRecord) (payment : ConfirmPayment) (now : ℤ) : InvocationRecord :=
  { row with
    state := .CONFIRMED, paymentTransactionId := some payment.transactionId,
    settlement := payment.settlement, result := payment.result.map PaidResult.stored, updatedAt := now }

theorem confirm_ok {invocationId : String} {payment : ConfirmPayment} {new : InvocationRecord} {now : ℤ}
    (h : confirm invocationId payment now db = .ok (new, db')) :
    ∃ row, Found db invocationId .RESERVED row ∧ new = confirmedRow row payment now ∧
      Consumed db db' row new
        ⟨invocationId, some .RESERVED, .CONFIRMED, some s!"payment {payment.transactionId}", now⟩ now := by
  simp only [confirm, Transaction.bind_eq_ok] at h
  obtain ⟨row, db₁, hfound, ⟨⟩, db₂, hconsume, ⟨⟩, db₃, hupdate, ⟨⟩, db₄, hlog, hrequire⟩ := h
  obtain ⟨hfind, hstate, rfl⟩ := requireState_ok hfound
  obtain ⟨hnew, rfl⟩ := requireInvocation_ok.1 hrequire
  have hconsumed : Consumed db₁ db' row (confirmedRow row payment now) _ now :=
    consume_update_ok ⟨hfind, hstate⟩ rfl hconsume hupdate hlog
  have heq := hconsumed.wrote.eq_of_find hfind rfl hnew
  exact ⟨row, ⟨hfind, hstate⟩, heq, heq ▸ hconsumed⟩

def reconciledRow (row : InvocationRecord) (outcome : ReconciliationOutcome) (now : ℤ) : InvocationRecord :=
  match outcome with
  | .confirmed settlement =>
    { row with
      state := .CONFIRMED, paymentTransactionId := some settlement.transactionId,
      settlement := some settlement,
      stateReason := some s!"reconciled: settled in {settlement.transactionId}", updatedAt := now }
  | .failed reason =>
    { row with state := .FAILED, stateReason := some s!"reconciled: {reason}", updatedAt := now }

/-- The money of a reconciled reservation, by outcome. -/
def Reconciled (db db' : Db) (invocationId : String) (row new : InvocationRecord) (now : ℤ) :
    ReconciliationOutcome → Prop
  | .confirmed settlement => Consumed db db' row new
      ⟨invocationId, some .RECONCILIATION_REQUIRED, .CONFIRMED,
        some s!"reconciled: settled in {settlement.transactionId}", now⟩ now
  | .failed reason => Released db db' row new
      ⟨invocationId, some .RECONCILIATION_REQUIRED, .FAILED, some s!"reconciled: {reason}", now⟩ now

theorem resolveReconciliation_ok {invocationId : String} {outcome : ReconciliationOutcome}
    {new : InvocationRecord} {now : ℤ}
    (h : resolveReconciliation invocationId outcome now db = .ok (new, db')) :
    ∃ row, Found db invocationId .RECONCILIATION_REQUIRED row ∧ new = reconciledRow row outcome now ∧
      Reconciled db db' invocationId row new now outcome := by
  cases outcome with
  | confirmed settlement =>
    simp only [resolveReconciliation, Transaction.bind_eq_ok] at h
    obtain ⟨row, db₁, hfound, ⟨⟩, db₂, hconsume, ⟨⟩, db₃, hupdate, ⟨⟩, db₄, hlog, hrequire⟩ := h
    obtain ⟨hfind, hstate, rfl⟩ := requireState_ok hfound
    obtain ⟨hnew, rfl⟩ := requireInvocation_ok.1 hrequire
    have hconsumed : Consumed db₁ db' row (reconciledRow row (.confirmed settlement) now) _ now :=
      consume_update_ok ⟨hfind, hstate⟩ rfl hconsume hupdate hlog
    have heq := hconsumed.wrote.eq_of_find hfind rfl hnew
    exact ⟨row, ⟨hfind, hstate⟩, heq, heq ▸ hconsumed⟩
  | failed reason =>
    simp only [resolveReconciliation, Transaction.bind_eq_ok] at h
    obtain ⟨row, db₁, hfound, ⟨⟩, db₂, hrelease, ⟨⟩, db₃, htransition, hrequire⟩ := h
    obtain ⟨hfind, hstate, rfl⟩ := requireState_ok hfound
    obtain ⟨hnew, rfl⟩ := requireInvocation_ok.1 hrequire
    have hreleased : Released db₁ db' row (reconciledRow row (.failed reason) now) _ now :=
      release_transition_ok ⟨hfind, hstate⟩
        (Transaction.bind_eq_ok.2 ⟨(), db₂, hrelease, htransition⟩)
    have heq := hreleased.wrote.eq_of_find hfind rfl hnew
    exact ⟨row, ⟨hfind, hstate⟩, heq, heq ▸ hreleased⟩

theorem reconciled_wrote {invocationId : String} {row new : InvocationRecord} {now : ℤ}
    {outcome : ReconciliationOutcome} (h : Reconciled db db' invocationId row new now outcome) :
    Table.Wrote db.invocations db'.invocations (some row) new := by
  cases outcome with
  | confirmed settlement => exact Consumed.wrote h
  | failed reason => exact Released.wrote h

/-! ## Reserving -/

/-- The row a decision writes: a new one, or the rewritten `FAILED` one. -/
def ReserveInput.written (input : ReserveInput) (existing : Option InvocationRecord)
    (state : InvocationState) (reasonCodes : List String) (now : ℤ) : InvocationRecord :=
  match existing with
  | none => input.row state reasonCodes now
  | some row => input.rewrite state reasonCodes now row

def ReserveInput.entry (input : ReserveInput) (existing : Option InvocationRecord)
    (state : InvocationState) (reasonCodes : List String) (now : ℤ) : TransitionRecord :=
  ⟨input.invocationId, existing.map InvocationRecord.state, state,
    if reasonCodes = [] then none else some (String.intercalate "," reasonCodes), now⟩

theorem writeDecision_ok {input : ReserveInput} {existing : Option InvocationRecord}
    {state : InvocationState} {reasonCodes : List String} {now : ℤ}
    (hexisting : db.invocations.find? input.invocationId = existing)
    (h : writeDecision input existing state reasonCodes now db = .ok ((), db')) :
    (existing = none → (db.grants.find? input.grantKey).isSome = true) ∧
      RowWritten db db' existing (input.written existing state reasonCodes now)
        (input.entry existing state reasonCodes now) := by
  cases existing with
  | none =>
    simp only [writeDecision, Transaction.bind_eq_ok] at h
    obtain ⟨⟨⟩, middle, hinsert, hlog⟩ := h
    obtain ⟨hchecks, hgrant, hwrote, hgrants, htransitions⟩ := insertInvocation_ok hinsert
    obtain ⟨hinvocations', hgrants', htransitions'⟩ := recordTransition_ok hlog
    refine ⟨fun _ ↦ hgrant, hchecks, ?_, ?_, ?_⟩
    · rw [hinvocations']
      exact hwrote
    · rw [hgrants', hgrants]
    · rw [htransitions', htransitions]
      rfl
  | some existingRow =>
    simp only [writeDecision, Transaction.bind_eq_ok] at h
    obtain ⟨⟨⟩, middle, hupdate, hlog⟩ := h
    obtain ⟨row, hfind, -, hchecks, hwrote, hgrants, htransitions⟩ := updateInvocation_ok hupdate
    obtain ⟨hinvocations', hgrants', htransitions'⟩ := recordTransition_ok hlog
    rw [hexisting] at hfind
    cases hfind
    refine ⟨fun hnone ↦ absurd hnone (by simp), hchecks, ?_, ?_, ?_⟩
    · rw [hinvocations']
      exact hwrote
    · rw [hgrants', hgrants]
    · rw [htransitions', htransitions]
      rfl

/-- The grant `terms` name is in the table `pinned`, found there or just created. -/
structure Pinned (db pinned : Db) (terms : GrantTerms) (grant : GrantRecord) (now : ℤ) : Prop where
  found : pinned.grants.find? (terms.issuer, terms.grantId) = some grant
  terms_eq : grant.permitDigest = terms.permitDigest ∧ grant.maxTotalAtomic = terms.maxTotalAtomic
  invocations : pinned.invocations = db.invocations
  transitions : pinned.transitions = db.transitions
  origin : pinned = db ∨ (isCanonicalAtomicAmount terms.maxTotalAtomic = true ∧
    grant = { terms with reservedAtomic := "0", consumedAtomic := "0", createdAt := now, updatedAt := now } ∧
    Table.Wrote db.grants pinned.grants none grant)

/-- A grant pinned to other terms than the request's. -/
structure Conflicting (db : Db) (terms : GrantTerms) (grant : GrantRecord) : Prop where
  found : db.grants.find? (terms.issuer, terms.grantId) = some grant
  terms_ne : grant.permitDigest ≠ terms.permitDigest ∨ grant.maxTotalAtomic ≠ terms.maxTotalAtomic

theorem pinGrant_ok {terms : GrantTerms} {now : ℤ} {result : GrantRecord ⊕ GrantRecord}
    (h : pinGrant terms now db = .ok (result, db')) :
    (∃ grant, result = .inl grant ∧ db' = db ∧ Conflicting db terms grant) ∨
      (∃ grant, result = .inr grant ∧ Pinned db db' terms grant now) := by
  rw [pinGrant, Transaction.bind_eq_ok] at h
  obtain ⟨found, db₁, hselect, h⟩ := h
  obtain ⟨rfl, rfl⟩ := selectGrant_ok.1 hselect
  cases hfind : db₁.grants.find? (terms.issuer, terms.grantId) with
  | some grant =>
    rw [hfind] at h
    dsimp only at h
    split at h
    · rename_i hconflict
      rw [Transaction.pure_eq_ok] at h
      cases h
      exact .inl ⟨grant, rfl, rfl, hfind, hconflict⟩
    · rename_i hsame
      rw [Transaction.pure_eq_ok] at h
      cases h
      rw [not_or, not_not, not_not] at hsame
      exact .inr ⟨grant, rfl, hfind, hsame, rfl, rfl, .inl rfl⟩
  | none =>
    rw [hfind] at h
    simp only [Transaction.bind_eq_ok] at h
    obtain ⟨⟨⟩, db₂, hinsert, grant, db₃, hrequire, h⟩ := h
    rw [Transaction.pure_eq_ok] at h
    cases h
    obtain ⟨hchecks, hwrote, hinvocations, htransitions⟩ := insertGrant_ok hinsert
    obtain ⟨hgrant, rfl⟩ := requireGrant_ok hrequire
    have hself := hwrote.find_self
    simp only [GrantRecord.key] at hself
    rw [hgrant] at hself
    obtain rfl := Option.some.inj hself
    simp only [GrantRecord.satisfiesChecks, Bool.and_eq_true] at hchecks
    exact .inr ⟨_, rfl, hgrant, ⟨rfl, rfl⟩, hinvocations, htransitions, .inr ⟨hchecks.1.1, rfl, hwrote⟩⟩

/-- The committed total a grant's evaluator sees. -/
structure Committed (grant : GrantRecord) (reserved consumed : ℤ) : Prop where
  reserved_eq : Decimal.bigInt grant.reservedAtomic = some reserved
  consumed_eq : Decimal.bigInt grant.consumedAtomic = some consumed

/-- A denial of the request was recorded. -/
structure Denied (db db' : Db) (input : ReserveInput) (evaluate : BudgetEvaluator) (now : ℤ)
    (existing : Option InvocationRecord) (new : InvocationRecord) : Prop where
  effect : ∃ pinned grant reserved consumed reasonCodes, Pinned db pinned input.grant grant now ∧
    Committed grant reserved consumed ∧
    evaluate (reserved + consumed).repr = some (.refused reasonCodes) ∧
    new = input.written existing .DENIED reasonCodes now ∧
    RowWritten pinned db' existing new (input.entry existing .DENIED reasonCodes now)

/-- The request was allowed and its amount reserved. -/
structure Reserved (db db' : Db) (input : ReserveInput) (evaluate : BudgetEvaluator) (now : ℤ)
    (existing : Option InvocationRecord) (new : InvocationRecord) : Prop where
  effect : ∃ pinned middle grant reserved consumed amount maxTotal,
    Pinned db pinned input.grant grant now ∧ Committed grant reserved consumed ∧
    evaluate (reserved + consumed).repr = some .allowed ∧
    Decimal.bigInt input.amountAtomic = some amount ∧
    Decimal.bigInt grant.maxTotalAtomic = some maxTotal ∧ 0 < amount ∧
    reserved + amount + consumed ≤ maxTotal ∧
    Posted pinned middle input.grantKey grant (reserved + amount).repr grant.consumedAtomic now ∧
    new = input.written existing .RESERVED [] now ∧
    RowWritten middle db' existing new (input.entry existing .RESERVED [] now)

/-- What `reserve` did, by result. -/
def ReserveEffect (db db' : Db) (input : ReserveInput) (evaluate : BudgetEvaluator) (now : ℤ) :
    ReserveResult → Prop
  | .existing row => db' = db ∧ db.invocations.find? input.invocationId = some row ∧
      retryingFailed input row = false
  | .grant_conflict grant => db' = db ∧ Conflicting db input.grant grant
  | .denied new => ∃ existing, db.invocations.find? input.invocationId = existing ∧
      (∀ row, existing = some row → retryingFailed input row = true) ∧
      Denied db db' input evaluate now existing new
  | .reserved new => ∃ existing, db.invocations.find? input.invocationId = existing ∧
      (∀ row, existing = some row → retryingFailed input row = true) ∧
      Reserved db db' input evaluate now existing new

theorem retryingFailed_iff {input : ReserveInput} {row : InvocationRecord} :
    retryingFailed input row = true ↔ row.state = .FAILED ∧ row.fingerprint = input.fingerprint := by
  simp [retryingFailed]

theorem ReserveInput.written_fingerprint {input : ReserveInput} {existing : Option InvocationRecord}
    {state : InvocationState} {reasonCodes : List String} {now : ℤ}
    (hretry : ∀ row, existing = some row → retryingFailed input row = true) :
    (input.written existing state reasonCodes now).fingerprint = input.fingerprint := by
  cases existing with
  | none => rfl
  | some row => exact (retryingFailed_iff.1 (hretry row rfl)).2

theorem ReserveInput.written_invocationId {input : ReserveInput} {existing : Option InvocationRecord}
    {state : InvocationState} {reasonCodes : List String} {now : ℤ}
    (hexisting : ∀ row, existing = some row → row.invocationId = input.invocationId) :
    (input.written existing state reasonCodes now).invocationId = input.invocationId := by
  cases existing with
  | none => rfl
  | some row => exact hexisting row rfl

/-- The row read back after a decision is the one it wrote. -/
theorem require_written {input : ReserveInput} {existing : Option InvocationRecord} {before : Db}
    {new other : InvocationRecord} {entry : TransitionRecord}
    (hid : new.invocationId = input.invocationId) (hwritten : RowWritten before db existing new entry)
    (hrequire : requireInvocation input.invocationId db = .ok (other, db')) :
    other = new ∧ db' = db := by
  obtain ⟨hfind, rfl⟩ := requireInvocation_ok.1 hrequire
  have hself := hwritten.wrote.find_self
  rw [hid, hfind] at hself
  exact ⟨Option.some.inj hself, rfl⟩

theorem decideBudget_ok {input : ReserveInput} {evaluate : BudgetEvaluator} {before pinned : Db}
    {existing : Option InvocationRecord} {grant : GrantRecord} {now : ℤ} {result : ReserveResult}
    (hexisting : before.invocations.find? input.invocationId = existing)
    (hretry : ∀ row, existing = some row → retryingFailed input row = true)
    (hpinned : Pinned before pinned input.grant grant now)
    (h : decideBudget input evaluate existing grant now pinned = .ok (result, db')) :
    ReserveEffect before db' input evaluate now result := by
  simp only [decideBudget, Transaction.bind_eq_ok] at h
  obtain ⟨reserved, db₁, hreserved, consumed, db₂, hconsumed, h⟩ := h
  obtain ⟨hreserved', rfl⟩ := bigInt_ok hreserved
  obtain ⟨hconsumed', rfl⟩ := bigInt_ok hconsumed
  have hid : ∀ state reasonCodes,
      (input.written existing state reasonCodes now).invocationId = input.invocationId := fun _ _ ↦
    ReserveInput.written_invocationId fun row hrow ↦ Table.key_of_find? (hexisting.trans hrow)
  have hexisting' : db₂.invocations.find? input.invocationId = existing := by
    rw [hpinned.invocations, hexisting]
  cases hdecision : evaluate (reserved + consumed).repr with
  | none =>
    rw [hdecision, Transaction.throw_eq_ok] at h
    exact h.elim
  | some decision =>
    rw [hdecision] at h
    cases decision with
    | refused reasonCodes =>
      simp only [Transaction.bind_eq_ok] at h
      obtain ⟨⟨⟩, db₃, hwrite, new, db₄, hrequire, h⟩ := h
      rw [Transaction.pure_eq_ok] at h
      cases h
      obtain ⟨-, hwritten⟩ := writeDecision_ok hexisting' hwrite
      obtain ⟨rfl, rfl⟩ := require_written (hid _ _) hwritten hrequire
      exact ⟨existing, hexisting, hretry, db₂, grant, reserved, consumed, reasonCodes, hpinned,
        ⟨hreserved', hconsumed'⟩, hdecision, rfl, hwritten⟩
    | allowed =>
      simp only [Transaction.bind_eq_ok] at h
      obtain ⟨amount, db₃, hamount, maxTotal, db₄, hmaxTotal, h⟩ := h
      obtain ⟨hamount', rfl⟩ := bigInt_ok hamount
      obtain ⟨hmaxTotal', rfl⟩ := bigInt_ok hmaxTotal
      split at h
      · rw [Transaction.throw_eq_ok] at h
        exact h.elim
      · rename_i hwithin
        rw [not_or, not_or, not_le, not_lt, not_lt] at hwithin
        simp only [Transaction.bind_eq_ok] at h
        obtain ⟨⟨⟩, middle, hupdate, ⟨⟩, db₅, hwrite, new, db₆, hrequire, h⟩ := h
        rw [Transaction.pure_eq_ok] at h
        cases h
        have hkey : grant.key = input.grantKey := Table.key_of_find? hpinned.found
        rw [hkey] at hupdate
        have hposted := updateGrantAmounts_ok hpinned.found hupdate
        have hmiddle : middle.invocations.find? input.invocationId = existing := by
          rw [hposted.invocations, hexisting']
        obtain ⟨-, hwritten⟩ := writeDecision_ok hmiddle hwrite
        obtain ⟨rfl, rfl⟩ := require_written (hid _ _) hwritten hrequire
        exact ⟨existing, hexisting, hretry, db₄, middle, grant, reserved, consumed, amount, maxTotal,
          hpinned, ⟨hreserved', hconsumed'⟩, hdecision, hamount', hmaxTotal', hwithin.1, hwithin.2.1,
          hposted, rfl, hwritten⟩

theorem reserve_ok {input : ReserveInput} {evaluate : BudgetEvaluator} {now : ℤ}
    {result : ReserveResult} (h : reserve input evaluate now db = .ok (result, db')) :
    ReserveEffect db db' input evaluate now result := by
  rw [reserve, Transaction.bind_eq_ok] at h
  obtain ⟨existing, db₁, hselect, h⟩ := h
  obtain ⟨rfl, rfl⟩ := selectInvocation_ok.1 hselect
  cases hfilter : (db₁.invocations.find? input.invocationId).filter
      (fun row ↦ !retryingFailed input row) with
  | some row =>
    rw [hfilter, Transaction.pure_eq_ok] at h
    cases h
    rw [Checked.filter_eq_some] at hfilter
    exact ⟨rfl, hfilter.1, by simpa using hfilter.2⟩
  | none =>
    rw [hfilter] at h
    simp only [Transaction.bind_eq_ok] at h
    obtain ⟨pin, pinned, hpin, h⟩ := h
    have hretry : ∀ row, db₁.invocations.find? input.invocationId = some row →
        retryingFailed input row = true := by
      intro row hrow
      rw [hrow] at hfilter
      simpa using hfilter
    rcases pinGrant_ok hpin with ⟨grant, rfl, rfl, hconflict⟩ | ⟨grant, rfl, hpinned⟩
    · rw [Transaction.pure_eq_ok] at h
      cases h
      exact ⟨rfl, hconflict⟩
    · exact decideBudget_ok rfl hretry hpinned h

/-! ## Receipts and recovery -/

def attachedRow (receipt : SignedAuthorizationReceipt) (now : ℤ) (row : InvocationRecord) :
    InvocationRecord :=
  if row.receipt.isNone && (row.state = .DENIED || row.state = .CONFIRMED) then
    { row with receipt := some receipt, updatedAt := now }
  else row

theorem attachedRow_invocationId (receipt : SignedAuthorizationReceipt) (now : ℤ)
    (row : InvocationRecord) : (attachedRow receipt now row).invocationId = row.invocationId := by
  unfold attachedRow
  split <;> rfl

theorem attachReceipt_ok {invocationId : String} {receipt stored : SignedAuthorizationReceipt} {now : ℤ}
    (h : attachReceipt invocationId receipt now db = .ok (stored, db')) :
    ∃ row, db.invocations.find? invocationId = some row ∧
      (attachedRow receipt now row).receipt = some stored ∧
      Table.Wrote db.invocations db'.invocations (some row) (attachedRow receipt now row) ∧
      db'.grants = db.grants ∧ db'.transitions = db.transitions := by
  simp only [attachReceipt, Transaction.bind_eq_ok] at h
  obtain ⟨⟨⟩, db₁, hmodify, found, db₂, hrequire, h⟩ := h
  cases hmodify
  obtain ⟨hfind, rfl⟩ := requireInvocation_ok.1 hrequire
  have hwrite := Table.find?_modify db.invocations invocationId (attachedRow receipt now)
    (attachedRow_invocationId receipt now) invocationId
  change Table.find? (Table.modify db.invocations invocationId (attachedRow receipt now)
    (attachedRow_invocationId receipt now)) invocationId = some found at hfind
  rw [hfind, if_pos rfl] at hwrite
  cases hrow : db.invocations.find? invocationId with
  | none =>
    rw [hrow] at hwrite
    cases hwrite
  | some row =>
    rw [hrow] at hwrite
    obtain rfl := Option.some.inj hwrite
    cases hreceipt : (attachedRow receipt now row).receipt with
    | none =>
      rw [hreceipt, Transaction.throw_eq_ok] at h
      exact h.elim
    | some other =>
      rw [hreceipt, Transaction.pure_eq_ok] at h
      cases h
      exact ⟨row, rfl, hreceipt, Table.wrote_modify hrow _ (attachedRow_invocationId receipt now), rfl, rfl⟩

/-- What recovery makes of a `RESERVED` row. -/
def recoveredRow (reason : String) (now : ℤ) (row : InvocationRecord) : InvocationRecord :=
  if row.paymentAttempt.isSome then
    { row with state := .RECONCILIATION_REQUIRED, stateReason := some reason, updatedAt := now }
  else
    { row with
      state := .FAILED
      stateReason := some s!"{reason}; no payment attempt recorded, credential never transmitted"
      updatedAt := now }

theorem recoveredRow_invocationId (reason : String) (now : ℤ) (row : InvocationRecord) :
    (recoveredRow reason now row).invocationId = row.invocationId := by
  unfold recoveredRow
  split <;> rfl

/-- One recovered row: kept reserved if an attempt was recorded, released otherwise. -/
inductive RecoveredRow (db db' : Db) (reason : String) (now : ℤ) (row : InvocationRecord) : Prop
  | kept (hattempt : row.paymentAttempt.isSome = true)
      (written : RowWritten db db' (some row) (recoveredRow reason now row)
        ⟨row.invocationId, some .RESERVED, .RECONCILIATION_REQUIRED, some reason, now⟩)
  | released (hattempt : row.paymentAttempt = none)
      (released : Released db db' row (recoveredRow reason now row)
        ⟨row.invocationId, some .RESERVED, .FAILED,
          some s!"{reason}; no payment attempt recorded, credential never transmitted", now⟩ now)

theorem RecoveredRow.wrote {reason : String} {now : ℤ} {row : InvocationRecord}
    (h : RecoveredRow db db' reason now row) :
    Table.Wrote db.invocations db'.invocations (some row) (recoveredRow reason now row) := by
  cases h with
  | kept _ written => exact written.wrote
  | released _ released => exact released.wrote

theorem recoverRow_ok {reason : String} {now : ℤ} {result result' : RecoveryResult}
    {row : InvocationRecord} (hfound : Found db row.invocationId .RESERVED row)
    (h : recoverRow reason now result row db = .ok (result', db')) :
    RecoveredRow db db' reason now row := by
  unfold recoverRow at h
  split at h
  · rename_i hattempt
    rw [Transaction.bind_eq_ok] at h
    obtain ⟨⟨⟩, db₁, htransition, h⟩ := h
    rw [Transaction.pure_eq_ok] at h
    cases h
    obtain ⟨other, hfind, -, hwritten⟩ := transitionState_ok htransition
    rw [hfound.find] at hfind
    cases hfind
    refine .kept hattempt ?_
    rw [recoveredRow, if_pos hattempt]
    exact hwritten
  · rename_i hattempt
    simp only [Transaction.bind_eq_ok] at h
    obtain ⟨found, db₁, hrequire, ⟨⟩, db₂, hrelease, ⟨⟩, db₃, htransition, h⟩ := h
    rw [Transaction.pure_eq_ok] at h
    cases h
    obtain ⟨hfind, rfl⟩ := requireInvocation_ok.1 hrequire
    rw [hfound.find] at hfind
    cases hfind
    refine .released (by simpa using hattempt) ?_
    rw [recoveredRow, if_neg hattempt]
    exact release_transition_ok hfound (Transaction.bind_eq_ok.2 ⟨(), db₂, hrelease, htransition⟩)

/-- Recovery of distinct `RESERVED` rows, one after another. -/
inductive RecoveredRows (reason : String) (now : ℤ) : Db → Db → List InvocationRecord → Prop
  | nil (db : Db) : RecoveredRows reason now db db []
  | cons {db middle db' : Db} {row : InvocationRecord} {rows : List InvocationRecord}
      (found : Found db row.invocationId .RESERVED row)
      (first : RecoveredRow db middle reason now row)
      (rest : RecoveredRows reason now middle db' rows) : RecoveredRows reason now db db' (row :: rows)

theorem recoverRows_ok {reason : String} {now : ℤ} {rows : List InvocationRecord} :
    ∀ {db db' : Db} {result result' : RecoveryResult},
      (∀ row ∈ rows, Found db row.invocationId .RESERVED row) →
      (rows.map InvocationRecord.invocationId).Nodup →
      (rows.foldlM (recoverRow reason now) result : Transaction RecoveryResult) db = .ok (result', db') →
      RecoveredRows reason now db db' rows := by
  induction rows with
  | nil =>
    intro db db' result result' _ _ h
    cases h
    exact .nil db
  | cons row rest ih =>
    intro db db' result result' hfound hnodup h
    rw [List.foldlM_cons, Transaction.bind_eq_ok] at h
    obtain ⟨middleResult, middle, hfirst, h⟩ := h
    rw [List.map_cons, List.nodup_cons] at hnodup
    have hrow := hfound row (by simp)
    have hrecovered := recoverRow_ok hrow hfirst
    refine .cons hrow hrecovered (ih (fun other hother ↦ ?_) hnodup.2 h)
    obtain ⟨hfind, hstate⟩ := hfound other (by simp [hother])
    refine ⟨?_, hstate⟩
    have hne : (recoveredRow reason now row).invocationId ≠ other.invocationId := by
      rw [recoveredRow_invocationId]
      intro heq
      exact hnodup.1 (heq ▸ List.mem_map_of_mem hother)
    rw [hrecovered.wrote.find_ne hne, hfind]

theorem mem_selectByState {state : InvocationState} {row : InvocationRecord} :
    row ∈ db.selectByState state ↔ db.invocations.find? row.invocationId = some row ∧ row.state = state := by
  rw [Db.selectByState, List.mem_insertionSort, List.mem_filter, decide_eq_true_eq, Table.find?_eq_some]
  simp

theorem nodup_selectByState (state : InvocationState) :
    ((db.selectByState state).map InvocationRecord.invocationId).Nodup := by
  have hperm := (List.perm_insertionSort (fun a b : InvocationRecord ↦ a.createdAt ≤ b.createdAt)
    (db.invocations.rows.filter fun row ↦ row.state = state)).map InvocationRecord.invocationId
  exact hperm.nodup_iff.2 ((List.filter_sublist.map _).nodup db.invocations.nodup)

theorem recoverInterruptedInvocations_ok {reason : String} {now : ℤ} {result : RecoveryResult}
    (h : recoverInterruptedInvocations reason now db = .ok (result, db')) :
    RecoveredRows reason now db db' (db.selectByState .RESERVED) := by
  rw [recoverInterruptedInvocations, Transaction.bind_eq_ok] at h
  obtain ⟨current, db₁, hget, h⟩ := h
  cases hget
  refine recoverRows_ok (fun row hrow ↦ ?_) (nodup_selectByState .RESERVED) h
  obtain ⟨hfind, hstate⟩ := mem_selectByState.1 hrow
  exact ⟨hfind, hstate⟩

/-- Recovery leaves the rows it did not select. -/
theorem RecoveredRows.find_of_not_mem {reason : String} {now : ℤ} {rows : List InvocationRecord}
    (h : RecoveredRows reason now db db' rows) {id : String} (hid : id ∉ rows.map InvocationRecord.invocationId) :
    db'.invocations.find? id = db.invocations.find? id := by
  induction h with
  | nil db => rfl
  | @cons db middle db' row rows _ hfirst _ ih =>
    rw [List.map_cons, List.mem_cons, not_or] at hid
    have hne : (recoveredRow reason now row).invocationId ≠ id := by
      rw [recoveredRow_invocationId]
      exact Ne.symm hid.1
    rw [ih hid.2, hfirst.wrote.find_ne hne]

theorem RecoveredRows.find_of_mem {reason : String} {now : ℤ} {rows : List InvocationRecord}
    (h : RecoveredRows reason now db db' rows) (hnodup : (rows.map InvocationRecord.invocationId).Nodup)
    {row : InvocationRecord} (hmem : row ∈ rows) :
    db'.invocations.find? row.invocationId = some (recoveredRow reason now row) := by
  induction h with
  | nil db => cases hmem
  | @cons db middle db' first rows _ hfirst hrest ih =>
    rw [List.map_cons, List.nodup_cons] at hnodup
    rcases List.mem_cons.1 hmem with rfl | hmem
    · rw [hrest.find_of_not_mem hnodup.1, ← recoveredRow_invocationId reason now row]
      exact hfirst.wrote.find_self
    · exact ih hnodup.2 hmem

/-- What recovery makes of every row. -/
theorem recoverInterruptedInvocations_find {reason : String} {now : ℤ} {result : RecoveryResult}
    (h : recoverInterruptedInvocations reason now db = .ok (result, db')) (id : String) :
    db'.invocations.find? id = (db.invocations.find? id).map fun row ↦
      if row.state = .RESERVED then recoveredRow reason now row else row := by
  have hrows := recoverInterruptedInvocations_ok h
  have hother : (∀ row, db.invocations.find? id = some row → row.state ≠ .RESERVED) →
      db'.invocations.find? id = db.invocations.find? id := by
    intro hstate
    refine hrows.find_of_not_mem fun hmem ↦ ?_
    obtain ⟨row, hrow, rfl⟩ := List.mem_map.1 hmem
    obtain ⟨hfind, hreserved⟩ := mem_selectByState.1 hrow
    exact hstate row hfind hreserved
  cases hfind : db.invocations.find? id with
  | none =>
    have hunreserved : ∀ row, db.invocations.find? id = some row → row.state ≠ .RESERVED := by
      intro row hrow
      rw [hfind] at hrow
      cases hrow
    rw [hother hunreserved, hfind]
    rfl
  | some row =>
    simp only [Option.map_some]
    split
    · rename_i hreserved
      obtain rfl : row.invocationId = id := Table.key_of_find? hfind
      exact hrows.find_of_mem (nodup_selectByState .RESERVED) (mem_selectByState.2 ⟨hfind, hreserved⟩)
    · rename_i hstate
      have hunreserved : ∀ other, db.invocations.find? id = some other → other.state ≠ .RESERVED := by
        intro other hsame
        rw [hfind] at hsame
        cases hsame
        exact hstate
      rw [hother hunreserved, hfind]

end VirtualHaibin.Authority
