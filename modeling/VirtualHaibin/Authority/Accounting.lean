import VirtualHaibin.Authority.StoreSpec

/-!
# Budget accounting

The two counters of a grant are the sums over its open and its settled invocations.  Each store
operation posts one row and moves the counters by that row's change, so the balance holds after
every sequence of calls, by any number of connections, including the calls that throw.
-/

namespace VirtualHaibin.Authority

open Foundation Payments Evidence

/-! ## Calls -/

/-- The mutating operations of the store. -/
inductive StoreCall where
  | reserve (input : ReserveInput) (evaluate : BudgetEvaluator)
  | recordPaymentAttempt (invocationId : String) (attempt : PaymentAttempt)
      (serviceAuthorization : Option SignedServiceAuthorizationV1)
  | confirm (invocationId : String) (payment : ConfirmPayment)
  | fail (invocationId reason : String)
  | markReconciliationRequired (invocationId reason : String)
  | resolveReconciliation (invocationId : String) (outcome : ReconciliationOutcome)
  | recoverInterruptedInvocations (reason : String)
  | attachReceipt (invocationId : String) (receipt : SignedAuthorizationReceipt)

def StoreCall.transaction (call : StoreCall) (now : ℤ) : Transaction Unit :=
  match call with
  | reserve input evaluate => do let _ ← Authority.reserve input evaluate now
  | recordPaymentAttempt invocationId attempt serviceAuthorization =>
    Authority.recordPaymentAttempt invocationId attempt serviceAuthorization now
  | confirm invocationId payment => do let _ ← Authority.confirm invocationId payment now
  | fail invocationId reason => Authority.fail invocationId reason now
  | markReconciliationRequired invocationId reason =>
    Authority.markReconciliationRequired invocationId reason now
  | resolveReconciliation invocationId outcome => do
    let _ ← Authority.resolveReconciliation invocationId outcome now
  | recoverInterruptedInvocations reason => do
    let _ ← Authority.recoverInterruptedInvocations reason now
  | attachReceipt invocationId receipt => do let _ ← Authority.attachReceipt invocationId receipt now

/-- One call by one connection.  A connection that does not acquire the write lock in time throws
before its transaction begins. -/
structure ConnectionCall where
  connection : ℕ
  call : StoreCall
  now : ℤ
  acquires : Bool

/-- The result of a call and the database after it. -/
def Db.perform (db : Db) (request : ConnectionCall) : Except StoreError Unit × Db :=
  if request.acquires then (request.call.transaction request.now).run db else (.error .unavailable, db)

def Db.performAll (db : Db) (requests : List ConnectionCall) : Db :=
  requests.foldl (fun db request ↦ (db.perform request).2) db

/-- Durable budget view of a grant. -/
structure GrantBudget where
  maxTotalAtomic : String
  reservedAtomic : String
  consumedAtomic : String
  remainingAtomic : String
  deriving DecidableEq

def getGrantBudget (key : GrantKey) : Transaction (Option GrantBudget) := do
  match ← selectGrant key with
  | none => return none
  | some grant =>
    let reserved ← bigInt grant.reservedAtomic
    let consumed ← bigInt grant.consumedAtomic
    let maxTotal ← bigInt grant.maxTotalAtomic
    return some {
      maxTotalAtomic := grant.maxTotalAtomic, reservedAtomic := grant.reservedAtomic,
      consumedAtomic := grant.consumedAtomic, remainingAtomic := (maxTotal - (reserved + consumed)).repr }

/-! ## The balance -/

def InvocationRecord.isOpen (row : InvocationRecord) : Bool :=
  row.state = .RESERVED || row.state = .RECONCILIATION_REQUIRED

def InvocationRecord.isSettled (row : InvocationRecord) : Bool := row.state = .CONFIRMED

/-- The amount a row holds reserved under a grant. -/
def held (key : GrantKey) (row : InvocationRecord) : ℕ :=
  if row.grantKey = key ∧ row.isOpen = true then Decimal.amount row.amountAtomic else 0

/-- The amount a row has consumed from a grant. -/
def spent (key : GrantKey) (row : InvocationRecord) : ℕ :=
  if row.grantKey = key ∧ row.isSettled = true then Decimal.amount row.amountAtomic else 0

/-- What the committed amount of a grant is held to, given the text of the grant's total. -/
structure CommitmentRule where
  admits : String → Prop
  within : String → ℕ → Prop

/-- A rule that the checks of a reservation keep. -/
class CommitmentRule.Lawful (rule : CommitmentRule) : Prop where
  opened : ∀ {text : String}, rule.admits text → rule.within text 0
  shrunk : ∀ {text : String} {total total' : ℕ}, rule.within text total → total' ≤ total → rule.within text total'
  extended : ∀ {text : String} {total total' : ℕ} {limit : ℤ}, rule.within text total →
    Decimal.bigInt text = some limit → (total' : ℤ) ≤ limit → rule.within text total'

/-- Nothing is asked of the totals. -/
def unlimited : CommitmentRule where
  admits _ := True
  within _ _ := True

instance : unlimited.Lawful where
  opened _ := trivial
  shrunk _ _ := trivial
  extended _ _ _ := trivial

/-- The totals are in the token range, and nothing is committed beyond them. -/
def withinTotal : CommitmentRule where
  admits text := ∃ maxTotal ≤ maxU64, text = maxTotal.repr
  within text total := ∃ maxTotal ≤ maxU64, text = maxTotal.repr ∧ total ≤ maxTotal

instance : withinTotal.Lawful where
  opened := by
    rintro text ⟨maxTotal, hmax, htext⟩
    exact ⟨maxTotal, hmax, htext, Nat.zero_le _⟩
  shrunk := by
    rintro text total total' ⟨maxTotal, hmax, htext, hle⟩ hshrunk
    exact ⟨maxTotal, hmax, htext, hshrunk.trans hle⟩
  extended := by
    rintro text total total' limit ⟨maxTotal, hmax, htext, -⟩ hlimit hle
    rw [htext, Decimal.bigInt_repr] at hlimit
    obtain rfl := Option.some.inj hlimit
    exact ⟨maxTotal, hmax, htext, by exact_mod_cast hle⟩

structure GrantTallied (rule : CommitmentRule) (db : Db) (key : GrantKey) (grant : GrantRecord) : Prop where
  maxTotal : rule.within grant.maxTotalAtomic (db.invocations.sum (held key) + db.invocations.sum (spent key))
  reserved_eq : grant.reservedAtomic = (db.invocations.sum (held key)).repr
  consumed_eq : grant.consumedAtomic = (db.invocations.sum (spent key)).repr

/-- A row belongs to the grant its identity determines, and that grant exists. -/
structure RowSound (keyOf : String → String → GrantKey) (db : Db) (row : InvocationRecord) : Prop where
  key_eq : keyOf row.invocationId row.fingerprint = row.grantKey
  canonical : isCanonicalAtomicAmount row.amountAtomic = true
  grant_isSome : (db.grants.find? row.grantKey).isSome = true

/-- The counters of every grant are the sums over its rows.  `keyOf` is the grant that an invocation id and a
fingerprint name. -/
structure Tallied (rule : CommitmentRule) (keyOf : String → String → GrantKey) (db : Db) : Prop where
  row : ∀ id row, db.invocations.find? id = some row → RowSound keyOf db row
  grant : ∀ key grant, db.grants.find? key = some grant → GrantTallied rule db key grant

abbrev GrantBalanced := GrantTallied withinTotal

/-- The accounting invariant. -/
abbrev Balanced := Tallied withinTotal

variable {rule : CommitmentRule} {keyOf : String → String → GrantKey} {db db' : Db}

theorem held_of_ne {key : GrantKey} {row : InvocationRecord} (h : row.grantKey ≠ key) :
    held key row = 0 := by
  simp [held, h]

theorem spent_of_ne {key : GrantKey} {row : InvocationRecord} (h : row.grantKey ≠ key) :
    spent key row = 0 := by
  simp [spent, h]

/-- No row counts toward a grant that does not exist. -/
theorem Tallied.sum_eq_zero (h : Tallied rule keyOf db) {key : GrantKey}
    (hnone : db.grants.find? key = none) :
    db.invocations.sum (held key) = 0 ∧ db.invocations.sum (spent key) = 0 := by
  have hne : ∀ row ∈ db.invocations.rows, row.grantKey ≠ key := by
    rintro row hmem rfl
    have hsome := (h.row _ _ (Table.find?_of_mem hmem)).grant_isSome
    rw [hnone] at hsome
    cases hsome
  constructor
  · refine List.sum_eq_zero fun weight hweight ↦ ?_
    obtain ⟨row, hmem, rfl⟩ := List.mem_map.1 hweight
    exact held_of_ne (hne row hmem)
  · refine List.sum_eq_zero fun weight hweight ↦ ?_
    obtain ⟨row, hmem, rfl⟩ := List.mem_map.1 hweight
    exact spent_of_ne (hne row hmem)

/-- Creating a grant no row refers to keeps the balance. -/
theorem Tallied.pinned [rule.Lawful] (h : Tallied rule keyOf db) {pinned : Db} {terms : GrantTerms}
    {grant : GrantRecord}
    {now : ℤ} (hpinned : Pinned db pinned terms grant now)
    (hmax : rule.admits terms.maxTotalAtomic) : Tallied rule keyOf pinned := by
  rcases hpinned.origin with rfl | ⟨-, hgrant, hwrote⟩
  · exact h
  · refine ⟨fun id row hrow ↦ ?_, fun key other hother ↦ ?_⟩
    · rw [hpinned.invocations] at hrow
      obtain ⟨hkey, hcanonical, hsome⟩ := h.row id row hrow
      refine ⟨hkey, hcanonical, ?_⟩
      rw [hwrote.find]
      split
      · rfl
      · exact hsome
    · rcases hwrote.cases hother with ⟨rfl, rfl⟩ | ⟨-, hbefore⟩
      · have hzero := h.sum_eq_zero hwrote.old_eq
        refine ⟨?_, ?_, ?_⟩
        · rw [hpinned.invocations, hzero.1, hzero.2, hgrant]
          exact CommitmentRule.Lawful.opened hmax
        · rw [hpinned.invocations, hzero.1, hgrant]
          rfl
        · rw [hpinned.invocations, hzero.2, hgrant]
          rfl
      · obtain ⟨hmaxTotal, hreserved, hconsumed⟩ := h.grant key other hbefore
        rw [← hpinned.invocations] at hmaxTotal hreserved hconsumed
        exact ⟨hmaxTotal, hreserved, hconsumed⟩

/-- Writing a row that weighs as much as the one it replaces. -/
theorem Tallied.rewrite (h : Tallied rule keyOf db) {old : Option InvocationRecord} {new : InvocationRecord}
    (hwrote : Table.Wrote db.invocations db'.invocations old new) (hgrants : db'.grants = db.grants)
    (hsound : RowSound keyOf db new)
    (hheld : ∀ key, old.elim 0 (held key) = held key new)
    (hspent : ∀ key, old.elim 0 (spent key) = spent key new) : Tallied rule keyOf db' := by
  refine ⟨fun id row hrow ↦ ?_, fun key grant hgrant ↦ ?_⟩
  · have hsound' : RowSound keyOf db row := by
      rcases hwrote.cases hrow with ⟨-, rfl⟩ | ⟨-, hbefore⟩
      · exact hsound
      · exact h.row id row hbefore
    exact ⟨hsound'.key_eq, hsound'.canonical, hgrants ▸ hsound'.grant_isSome⟩
  · rw [hgrants] at hgrant
    obtain ⟨hmaxTotal, hreserved, hconsumed⟩ := h.grant key grant hgrant
    have hsumHeld : db'.invocations.sum (held key) = db.invocations.sum (held key) := by
      have := hwrote.sum (held key)
      rw [hheld key] at this
      omega
    have hsumSpent : db'.invocations.sum (spent key) = db.invocations.sum (spent key) := by
      have := hwrote.sum (spent key)
      rw [hspent key] at this
      omega
    rw [← hsumHeld, ← hsumSpent] at hmaxTotal
    rw [← hsumHeld] at hreserved
    rw [← hsumSpent] at hconsumed
    exact ⟨hmaxTotal, hreserved, hconsumed⟩

/-- Writing a row and posting its change to the counters of its grant. -/
theorem Tallied.post (h : Tallied rule keyOf db) {middle : Db} {old : Option InvocationRecord}
    {new : InvocationRecord} {entry : TransitionRecord} {grant : GrantRecord} {reserved consumed : String}
    {now : ℤ} (hposted : Posted db middle new.grantKey grant reserved consumed now)
    (hwritten : RowWritten middle db' old new entry)
    (hold : ∀ row, old = some row → row.grantKey = new.grantKey)
    (hkey : keyOf new.invocationId new.fingerprint = new.grantKey)
    (hreserved : reserved = (db'.invocations.sum (held new.grantKey)).repr)
    (hconsumed : consumed = (db'.invocations.sum (spent new.grantKey)).repr)
    (hwithin : rule.within grant.maxTotalAtomic
      (db'.invocations.sum (held new.grantKey) + db'.invocations.sum (spent new.grantKey))) :
    Tallied rule keyOf db' := by
  have hwrote := hwritten.wrote
  rw [hposted.invocations] at hwrote
  have hsome : ∀ key, (db.grants.find? key).isSome = true → (db'.grants.find? key).isSome = true := by
    intro key hkeySome
    rw [hwritten.grants, hposted.wrote.find]
    split
    · rfl
    · exact hkeySome
  refine ⟨fun id row hrow ↦ ?_, fun key other hother ↦ ?_⟩
  · rcases hwrote.cases hrow with ⟨-, rfl⟩ | ⟨-, hbefore⟩
    · have hcanonical := hwritten.checks
      rw [InvocationRecord.satisfiesChecks, Bool.and_eq_true] at hcanonical
      exact ⟨hkey, hcanonical.1, hsome _ (by rw [hposted.found]; rfl)⟩
    · obtain ⟨hkeyRow, hcanonical, hgrant⟩ := h.row id row hbefore
      exact ⟨hkeyRow, hcanonical, hsome _ hgrant⟩
  · rw [hwritten.grants] at hother
    have hgrantKey : grant.key = new.grantKey := Table.key_of_find? hposted.found
    rcases hposted.wrote.cases hother with ⟨hself, rfl⟩ | ⟨hne, hbefore⟩
    · obtain rfl : key = new.grantKey := hself.trans hgrantKey
      exact ⟨hwithin, hreserved, hconsumed⟩
    · have hneNew : new.grantKey ≠ key := fun heq ↦ hne (heq.symm.trans hgrantKey.symm)
      have hneOld : ∀ weight : GrantKey → InvocationRecord → ℕ,
          (∀ row, row.grantKey ≠ key → weight key row = 0) → old.elim 0 (weight key) = 0 := by
        intro weight hzero
        cases old with
        | none => rfl
        | some row => exact hzero row (hold row rfl ▸ hneNew)
      have hsumHeld : db'.invocations.sum (held key) = db.invocations.sum (held key) := by
        have := hwrote.sum (held key)
        rw [hneOld held fun row hrow ↦ held_of_ne hrow, held_of_ne hneNew] at this
        omega
      have hsumSpent : db'.invocations.sum (spent key) = db.invocations.sum (spent key) := by
        have := hwrote.sum (spent key)
        rw [hneOld spent fun row hrow ↦ spent_of_ne hrow, spent_of_ne hneNew] at this
        omega
      obtain ⟨hmaxTotal, hreserved', hconsumed'⟩ := h.grant key other hbefore
      rw [← hsumHeld, ← hsumSpent] at hmaxTotal
      rw [← hsumHeld] at hreserved'
      rw [← hsumSpent] at hconsumed'
      exact ⟨hmaxTotal, hreserved', hconsumed'⟩

theorem bigInt_canonical {text : String} {value : ℤ} (hcanonical : isCanonicalAtomicAmount text = true)
    (h : Decimal.bigInt text = some value) : value = (Decimal.amount text : ℤ) := by
  rw [← repr_amount hcanonical, Decimal.bigInt_repr] at h
  exact (Option.some.inj h).symm

theorem repr_natCast (n : ℕ) : (n : ℤ).repr = n.repr := rfl

/-- A released row weighs nothing and its amount leaves the reserved counter. -/
theorem Tallied.released [rule.Lawful] (h : Tallied rule keyOf db) {row new : InvocationRecord}
    {entry : TransitionRecord}
    {now : ℤ} (hreleased : Released db db' row new entry now) (hopen : row.isOpen = true)
    (hfind : db.invocations.find? row.invocationId = some row) (hstate : new.state = .FAILED)
    (hid : new.invocationId = row.invocationId) (hfingerprint : new.fingerprint = row.fingerprint)
    (hkey : new.grantKey = row.grantKey) : Tallied rule keyOf db' := by
  obtain ⟨grant, amount, reserved, middle, hamount, hreserved, hle, hposted, hwritten⟩ := hreleased.money
  have hsound := h.row _ _ hfind
  have hgrant := h.grant _ _ hposted.found
  obtain rfl := bigInt_canonical hsound.canonical hamount
  rw [hgrant.reserved_eq, Decimal.bigInt_repr] at hreserved
  obtain rfl := Option.some.inj hreserved
  have hwrote := hwritten.wrote
  rw [hposted.invocations] at hwrote
  have hheldRow : held row.grantKey row = Decimal.amount row.amountAtomic := by simp [held, hopen]
  have hheldNew : held row.grantKey new = 0 := by simp [held, InvocationRecord.isOpen, hstate]
  have hspentRow : spent row.grantKey row = 0 := by
    simp only [InvocationRecord.isOpen, Bool.or_eq_true, decide_eq_true_eq] at hopen
    rcases hopen with hopen | hopen <;> simp [spent, InvocationRecord.isSettled, hopen]
  have hspentNew : spent row.grantKey new = 0 := by simp [spent, InvocationRecord.isSettled, hstate]
  have hsumHeld := hwrote.sum (held row.grantKey)
  have hsumSpent := hwrote.sum (spent row.grantKey)
  simp only [Option.elim, hheldRow, hheldNew, hspentRow, hspentNew] at hsumHeld hsumSpent
  refine h.post (hkey ▸ hposted) hwritten (fun other hother ↦ ?_) ?_ ?_ ?_ ?_
  · cases hother
    exact hkey.symm
  · rw [hid, hfingerprint, hkey]
    exact hsound.key_eq
  · rw [hkey, ← repr_natCast]
    congr 1
    omega
  · rw [hkey, hgrant.consumed_eq]
    congr 1
    omega
  · rw [hkey]
    exact CommitmentRule.Lawful.shrunk hgrant.maxTotal (by omega)

/-- A settled row's amount moves from the reserved to the consumed counter. -/
theorem Tallied.consumed [rule.Lawful] (h : Tallied rule keyOf db) {row new : InvocationRecord}
    {entry : TransitionRecord}
    {now : ℤ} (hconsumed : Consumed db db' row new entry now) (hopen : row.isOpen = true)
    (hfind : db.invocations.find? row.invocationId = some row) (hstate : new.state = .CONFIRMED)
    (hid : new.invocationId = row.invocationId) (hfingerprint : new.fingerprint = row.fingerprint)
    (hkey : new.grantKey = row.grantKey) (hamountEq : new.amountAtomic = row.amountAtomic) :
    Tallied rule keyOf db' := by
  obtain ⟨grant, amount, reserved, consumed, middle, hamount, hreserved, hconsumedEq, hle, hposted,
    hwritten⟩ := hconsumed.money
  have hsound := h.row _ _ hfind
  have hgrant := h.grant _ _ hposted.found
  obtain rfl := bigInt_canonical hsound.canonical hamount
  rw [hgrant.reserved_eq, Decimal.bigInt_repr] at hreserved
  rw [hgrant.consumed_eq, Decimal.bigInt_repr] at hconsumedEq
  obtain rfl := Option.some.inj hreserved
  obtain rfl := Option.some.inj hconsumedEq
  have hwrote := hwritten.wrote
  rw [hposted.invocations] at hwrote
  have hheldRow : held row.grantKey row = Decimal.amount row.amountAtomic := by simp [held, hopen]
  have hheldNew : held row.grantKey new = 0 := by simp [held, InvocationRecord.isOpen, hstate]
  have hspentRow : spent row.grantKey row = 0 := by
    simp only [InvocationRecord.isOpen, Bool.or_eq_true, decide_eq_true_eq] at hopen
    rcases hopen with hopen | hopen <;> simp [spent, InvocationRecord.isSettled, hopen]
  have hspentNew : spent row.grantKey new = Decimal.amount row.amountAtomic := by
    simp [spent, InvocationRecord.isSettled, hstate, hkey, hamountEq]
  have hsumHeld := hwrote.sum (held row.grantKey)
  have hsumSpent := hwrote.sum (spent row.grantKey)
  simp only [Option.elim, hheldRow, hheldNew, hspentRow, hspentNew] at hsumHeld hsumSpent
  refine h.post (hkey ▸ hposted) hwritten (fun other hother ↦ ?_) ?_ ?_ ?_ ?_
  · cases hother
    exact hkey.symm
  · rw [hid, hfingerprint, hkey]
    exact hsound.key_eq
  · rw [hkey, ← repr_natCast]
    congr 1
    omega
  · rw [hkey, ← repr_natCast]
    congr 1
    omega
  · rw [hkey]
    exact CommitmentRule.Lawful.shrunk hgrant.maxTotal (by omega)

end VirtualHaibin.Authority
