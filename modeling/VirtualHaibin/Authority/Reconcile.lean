import VirtualHaibin.Authority.Binding
import VirtualHaibin.Authority.Budget
import VirtualHaibin.Authority.Verdict
import VirtualHaibin.Foundation.Rewrites

/-!
# A reconciliation run

One run of a single process from its snapshot to its reports, with nothing else writing.  Each
invocation of the snapshot is looked up and settled in a transaction of its own, and every turn of the
loop ends in one report or in an exception that ends the run.
-/

namespace VirtualHaibin.Authority

open Foundation Foundation.Checked Mandate Payments Evidence

/-- What the lookup of an attempt comes back with. -/
inductive LookupResult where
  | answered (lookup : SettlementLookup)
  | thrown (message : String)

inductive ReportedOutcome where
  | confirmed
  | failed
  | still_pending
  | no_attempt_recorded
  | lookup_error
  | already_resolved
  deriving DecidableEq, Repr

structure ReconciliationReport where
  invocationId : String
  outcome : ReportedOutcome
  detail : Option String := none
  deriving DecidableEq

/-- The clock readings of one turn: of the settling transaction and of the one that stores the receipt. -/
structure Instants where
  settled : ℤ
  receipted : ℤ

/-- `#ensureReceipt` -/
def ensureStoredReceipt (platform : Platform) (options : AuthorityServiceOptions) (row : InvocationRecord)
    (now : ℤ) (db : Db) : Except Failure Unit × Db :=
  match row.receipt with
  | some _ => (.ok (), db)
  | none =>
    match signReceipt platform options row with
    | none => (.error (.thrown "Authority signer keypair does not match the receipt's authority field."), db)
    | some receipt =>
      match (attachReceipt row.invocationId receipt now).run db with
      | (.ok _, db') => (.ok (), db')
      | (.error error, db') => (.error (.store error), db')

/-- Settles an invocation as its lookup decided, and signs the receipt of a confirmed one. -/
def settleInvocation (platform : Platform) (options : AuthorityServiceOptions) (instants : Instants)
    (invocationId : String) (outcome : ReconciliationOutcome) (db : Db) : Except Failure Unit × Db :=
  match (resolveReconciliation invocationId outcome instants.settled).run db with
  | (.error error, db') => (.error (.store error), db')
  | (.ok resolved, db') =>
    match outcome with
    | .confirmed _ => ensureStoredReceipt platform options resolved instants.receipted db'
    | .failed _ => (.ok (), db')

/-- The report of an invocation that was settled. -/
def settledReport (invocationId : String) : ReconciliationOutcome → ReconciliationReport
  | .confirmed settlement => ⟨invocationId, .confirmed, some settlement.transactionId⟩
  | .failed reason => ⟨invocationId, .failed, some reason⟩

/-- The detail of a lookup that decided nothing. -/
def pendingDetail : SettlementLookup → Option String
  | .pending height =>
    let shown := height.getD "null"
    some s!"blockhash may still be valid (height {shown})"
  | .inconclusive detail => some detail
  | _ => none

/-- One turn of the loop. -/
def reconcileInvocation (platform : Platform) (options : AuthorityServiceOptions) (result : LookupResult)
    (instants : Instants) (row : InvocationRecord) (db : Db) : Except Failure ReconciliationReport × Db :=
  match row.paymentAttempt, result with
  | none, _ => (.ok ⟨row.invocationId, .no_attempt_recorded, none⟩, db)
  | some _, .thrown message => (.ok ⟨row.invocationId, .lookup_error, some message⟩, db)
  | some _, .answered lookup =>
    match lookupOutcome lookup with
    | none => (.ok ⟨row.invocationId, .still_pending, pendingDetail lookup⟩, db)
    | some outcome =>
      match settleInvocation platform options instants row.invocationId outcome db with
      | (.ok _, db') => (.ok (settledReport row.invocationId outcome), db')
      -- Resolved concurrently by another process.
      | (.error (.store (.invalidStateTransition _ _ _)), db') =>
        (.ok ⟨row.invocationId, .already_resolved, none⟩, db')
      | (.error failure, db') => (.error failure, db')

/-- The loop over the snapshot, with the lookup and the clock readings of each invocation. -/
def reconcileAll (platform : Platform) (options : AuthorityServiceOptions) (lookups : String → LookupResult)
    (clock : String → Instants) : List InvocationRecord → Db → Except Failure (List ReconciliationReport) × Db
  | [], db => (.ok [], db)
  | row :: rest, db =>
    match reconcileInvocation platform options (lookups row.invocationId) (clock row.invocationId) row db with
    | (.error failure, db') => (.error failure, db')
    | (.ok report, db') =>
      match reconcileAll platform options lookups clock rest db' with
      | (.error failure, db'') => (.error failure, db'')
      | (.ok reports, db'') => (.ok (report :: reports), db'')

/-- `#reconcileOnce` -/
def reconcileOnce (platform : Platform) (options : AuthorityServiceOptions) (lookups : String → LookupResult)
    (clock : String → Instants) (db : Db) : Except Failure (List ReconciliationReport) × Db :=
  reconcileAll platform options lookups clock db.listReconciliationRequired db

/-! ## What a turn leaves -/

/-- What the turn of an invocation decides; `none` leaves it as it is. -/
def resolution (result : LookupResult) (row : InvocationRecord) : Option ReconciliationOutcome :=
  match row.paymentAttempt, result with
  | some _, .answered lookup => lookupOutcome lookup
  | _, _ => none

/-- A row with the receipt it gets unless it has one. -/
def receiptedRow (platform : Platform) (options : AuthorityServiceOptions) (now : ℤ) (row : InvocationRecord) :
    InvocationRecord :=
  match signReceipt platform options row with
  | some receipt => attachedRow receipt now row
  | none => row

/-- The row of a resolved invocation. -/
def resolvedRow (platform : Platform) (options : AuthorityServiceOptions) (outcome : ReconciliationOutcome)
    (instants : Instants) (row : InvocationRecord) : InvocationRecord :=
  match outcome with
  | .confirmed settlement =>
    receiptedRow platform options instants.receipted (reconciledRow row (.confirmed settlement) instants.settled)
  | .failed reason => reconciledRow row (.failed reason) instants.settled

/-- The log entry of a resolved invocation. -/
def resolvedEntry (invocationId : String) (now : ℤ) : ReconciliationOutcome → TransitionRecord
  | .confirmed settlement => ⟨invocationId, some .RECONCILIATION_REQUIRED, .CONFIRMED,
      some s!"reconciled: settled in {settlement.transactionId}", now⟩
  | .failed reason => ⟨invocationId, some .RECONCILIATION_REQUIRED, .FAILED, some s!"reconciled: {reason}", now⟩

/-- The row after the turn of its invocation. -/
def settledRow (platform : Platform) (options : AuthorityServiceOptions) (result : LookupResult)
    (instants : Instants) (row : InvocationRecord) : InvocationRecord :=
  (resolution result row).elim row fun outcome ↦ resolvedRow platform options outcome instants row

theorem settledRow_of_none {platform : Platform} {options : AuthorityServiceOptions} {result : LookupResult}
    {instants : Instants} {row : InvocationRecord} (h : resolution result row = none) :
    settledRow platform options result instants row = row := by
  rw [settledRow, h]
  rfl

theorem settledRow_of_some {platform : Platform} {options : AuthorityServiceOptions} {result : LookupResult}
    {instants : Instants} {row : InvocationRecord} {outcome : ReconciliationOutcome}
    (h : resolution result row = some outcome) :
    settledRow platform options result instants row = resolvedRow platform options outcome instants row := by
  rw [settledRow, h]
  rfl

/-- What the turn of an invocation logs. -/
def settledEntries (result : LookupResult) (instants : Instants) (row : InvocationRecord) : List TransitionRecord :=
  (resolution result row).elim [] fun outcome ↦ [resolvedEntry row.invocationId instants.settled outcome]

/-- The report of an invocation. -/
def reportOf (result : LookupResult) (row : InvocationRecord) : ReconciliationReport :=
  match row.paymentAttempt, result with
  | none, _ => ⟨row.invocationId, .no_attempt_recorded, none⟩
  | some _, .thrown message => ⟨row.invocationId, .lookup_error, some message⟩
  | some _, .answered lookup =>
    match lookupOutcome lookup with
    | none => ⟨row.invocationId, .still_pending, pendingDetail lookup⟩
    | some outcome => settledReport row.invocationId outcome

theorem reportOf_invocationId (result : LookupResult) (row : InvocationRecord) :
    (reportOf result row).invocationId = row.invocationId := by
  unfold reportOf
  split
  · rfl
  · rfl
  · split
    · rfl
    · rename_i outcome _
      cases outcome <;> rfl

theorem receiptedRow_invocationId (platform : Platform) (options : AuthorityServiceOptions) (now : ℤ)
    (row : InvocationRecord) : (receiptedRow platform options now row).invocationId = row.invocationId := by
  unfold receiptedRow
  split
  · exact attachedRow_invocationId _ now row
  · rfl

theorem settledRow_invocationId (platform : Platform) (options : AuthorityServiceOptions) (result : LookupResult)
    (instants : Instants) (row : InvocationRecord) :
    (settledRow platform options result instants row).invocationId = row.invocationId := by
  cases hresolution : resolution result row with
  | none => rw [settledRow_of_none hresolution]
  | some outcome =>
    rw [settledRow_of_some hresolution]
    cases outcome with
    | confirmed settlement => exact receiptedRow_invocationId platform options _ _
    | failed reason => rfl

variable {keyOf : String → String → GrantKey} {platform : Platform} {options : AuthorityServiceOptions}
  {db db' : Db} {row : InvocationRecord}

/-- The reservation of an open row can be settled: its grant exists, covers it and has room for it. -/
structure Settleable (db : Db) (row : InvocationRecord) (grant : GrantRecord) (amount reserved consumed : ℕ) :
    Prop where
  found : db.grants.find? row.grantKey = some grant
  amount_eq : Decimal.bigInt row.amountAtomic = some (amount : ℤ)
  reserved_eq : grant.reservedAtomic = reserved.repr
  consumed_eq : grant.consumedAtomic = consumed.repr
  covers : amount ≤ reserved
  fits : reserved + consumed ≤ maxU64

theorem Balanced.settleable (h : Balanced keyOf db) (hopen : row.isOpen = true)
    (hfind : db.invocations.find? row.invocationId = some row) :
    ∃ grant amount reserved consumed, Settleable db row grant amount reserved consumed := by
  have hsound := h.row _ _ hfind
  obtain ⟨grant, hgrant⟩ := Option.isSome_iff_exists.1 hsound.grant_isSome
  obtain ⟨⟨maxTotal, hle, -, hspent⟩, hreserved, hconsumed⟩ := h.grant _ _ hgrant
  have hamount : Decimal.bigInt row.amountAtomic = some (Decimal.amount row.amountAtomic : ℤ) := by
    rw [← Decimal.bigInt_repr, repr_amount hsound.canonical]
  have hcovers := h.covers hopen hfind hgrant hamount (hreserved ▸ Decimal.bigInt_repr _)
  exact ⟨grant, _, _, _, hgrant, hamount, hreserved, hconsumed, by exact_mod_cast hcovers, hspent.trans hle⟩

variable {grant : GrantRecord} {amount reserved consumed : ℕ}

theorem Settleable.commits_consume (h : Settleable db row grant amount reserved consumed) (now : ℤ) :
    (consumeReservation row now).Commits db := by
  refine (commits_requireGrant h.found).bind fun found db₁ hrequire ↦ ?_
  obtain ⟨hfound, rfl⟩ := requireGrant_ok hrequire
  obtain rfl := Option.some.inj (h.found.symm.trans hfound)
  have hcovers := h.covers
  have hfits := h.fits
  rw [h.reserved_eq, h.consumed_eq]
  refine commits_bigInt h.amount_eq (commits_bigInt (Decimal.bigInt_repr _) ?_)
  rw [if_neg (by omega)]
  refine commits_bigInt (Decimal.bigInt_repr _) ?_
  rw [← Nat.cast_add, ← Nat.cast_sub hcovers, repr_natCast, repr_natCast]
  exact commits_updateGrantAmounts (isCanonicalAtomicAmount_repr (by omega)) (isCanonicalAtomicAmount_repr (by omega))

theorem Settleable.commits_release (h : Settleable db row grant amount reserved consumed) (now : ℤ) :
    (releaseReservation row now).Commits db := by
  refine (commits_requireGrant h.found).bind fun found db₁ hrequire ↦ ?_
  obtain ⟨hfound, rfl⟩ := requireGrant_ok hrequire
  obtain rfl := Option.some.inj (h.found.symm.trans hfound)
  have hcovers := h.covers
  have hfits := h.fits
  rw [h.reserved_eq, h.consumed_eq]
  refine commits_bigInt h.amount_eq (commits_bigInt (Decimal.bigInt_repr _) ?_)
  rw [if_neg (by omega), ← Nat.cast_sub hcovers, repr_natCast]
  exact commits_updateGrantAmounts (isCanonicalAtomicAmount_repr (by omega)) (isCanonicalAtomicAmount_repr (by omega))

theorem commits_requireState {invocationId action : String} {state : InvocationState}
    (h : Found db invocationId state row) : requireState invocationId state action db = .ok (row, db) := by
  refine Transaction.bind_eq_ok.2 ⟨row, db, requireInvocation_ok.2 ⟨h.find, rfl⟩, ?_⟩
  rw [if_pos h.state_eq]
  rfl

/-- On a balanced database every blocked invocation can be resolved. -/
theorem Balanced.commits_resolve (h : Balanced keyOf db)
    (hfound : Found db row.invocationId .RECONCILIATION_REQUIRED row) (outcome : ReconciliationOutcome) (now : ℤ) :
    (resolveReconciliation row.invocationId outcome now).Commits db := by
  have hopen : row.isOpen = true := by simp [InvocationRecord.isOpen, hfound.state_eq]
  have hcanonical := (h.row _ _ hfound.find).canonical
  obtain ⟨grant, amount, reserved, consumed, hsettleable⟩ := h.settleable hopen hfound.find
  have hchecks (written : InvocationRecord) (hamount : written.amountAtomic = row.amountAtomic)
      (hpaid : written.state = .CONFIRMED → written.paymentTransactionId.isSome = true) :
      written.satisfiesChecks = true := by
    by_cases hstate : written.state = .CONFIRMED
    · simp [InvocationRecord.satisfiesChecks, hamount, hcanonical, hpaid hstate]
    · simp [InvocationRecord.satisfiesChecks, hamount, hcanonical, hstate]
  cases outcome with
  | confirmed settlement =>
    refine Transaction.Commits.bind ⟨row, db, commits_requireState hfound⟩ fun found db₁ hrequire ↦ ?_
    obtain ⟨hfind, -, rfl⟩ := requireState_ok hrequire
    obtain rfl := Option.some.inj (hfound.find.symm.trans hfind)
    refine (hsettleable.commits_consume now).bind fun _ db₂ hconsume ↦ ?_
    obtain ⟨_, _, _, _, -, -, -, -, hposted⟩ := consumeReservation_ok hconsume
    have hfind₂ : db₂.invocations.find? row.invocationId = some row := hposted.invocations ▸ hfound.find
    refine (commits_updateInvocation hfind₂ (decide_eq_true hfound.state_eq) (hchecks _ rfl fun _ ↦ rfl)).bind
      fun _ db₃ hupdate ↦ ?_
    obtain ⟨_, hfind₃, -, -, hwrote, -, -⟩ := updateInvocation_ok hupdate
    obtain rfl := Option.some.inj (hfind₂.symm.trans hfind₃)
    refine Transaction.Commits.bind ⟨(), _, rfl⟩ fun _ db₄ hlog ↦ ?_
    obtain ⟨hinvocations, -, -⟩ := recordTransition_ok hlog
    exact commits_requireInvocation (hinvocations ▸ hwrote.find_self)
  | failed reason =>
    refine Transaction.Commits.bind ⟨row, db, commits_requireState hfound⟩ fun found db₁ hrequire ↦ ?_
    obtain ⟨hfind, -, rfl⟩ := requireState_ok hrequire
    obtain rfl := Option.some.inj (hfound.find.symm.trans hfind)
    refine (hsettleable.commits_release now).bind fun _ db₂ hrelease ↦ ?_
    obtain ⟨_, _, _, -, -, -, hposted⟩ := releaseReservation_ok hrelease
    have hfind₂ : db₂.invocations.find? row.invocationId = some row := hposted.invocations ▸ hfound.find
    refine Transaction.Commits.bind ?_ fun _ db₃ htransition ↦ ?_
    · exact (commits_updateInvocation hfind₂ (decide_eq_true hfound.state_eq) (hchecks _ rfl fun h ↦ by cases h)).bind
        fun _ _ _ ↦ ⟨(), _, rfl⟩
    · obtain ⟨_, hfind₃, -, hwritten⟩ := transitionState_ok htransition
      obtain rfl := Option.some.inj (hfind₂.symm.trans hfind₃)
      exact commits_requireInvocation hwritten.wrote.find_self

/-- A decided row that is there can be given a receipt. -/
theorem commits_attachReceipt (hfind : db.invocations.find? row.invocationId = some row)
    (hdecided : row.state = .DENIED ∨ row.state = .CONFIRMED) (receipt : SignedAuthorizationReceipt) (now : ℤ) :
    (attachReceipt row.invocationId receipt now).Commits db := by
  have hstored : (attachedRow receipt now row).receipt ≠ none := by
    cases hreceipt : row.receipt with
    | some earlier => simp [attachedRow, hreceipt]
    | none => simp [attachedRow, hreceipt, hdecided]
  refine Transaction.Commits.bind ⟨(), _, rfl⟩ fun _ db₁ hmodify ↦ ?_
  cases hmodify
  have hwrote := Table.wrote_modify hfind (attachedRow receipt now) (attachedRow_invocationId receipt now)
  have hself := hwrote.find_self
  rw [attachedRow_invocationId] at hself
  refine (commits_requireInvocation hself).bind fun found db₂ hrequire ↦ ?_
  obtain ⟨hfound, rfl⟩ := requireInvocation_ok.1 hrequire
  obtain rfl := Option.some.inj (hself.symm.trans hfound)
  cases hreceipt : (attachedRow receipt now row).receipt with
  | none => exact absurd hreceipt hstored
  | some stored => exact commits_pure stored

/-! ## One turn -/

/-- What a grant keeps while its counters move. -/
def GrantRecord.origin (grant : GrantRecord) : GrantTerms × ℤ := (grant.toGrantTerms, grant.createdAt)

def Db.SameGrants (db db' : Db) : Prop :=
  ∀ key, (db'.grants.find? key).map GrantRecord.origin = (db.grants.find? key).map GrantRecord.origin

theorem Db.SameGrants.of_eq (h : db'.grants = db.grants) : db.SameGrants db' := fun key ↦ by rw [h]

theorem Db.SameGrants.trans {db'' : Db} (h : db.SameGrants db') (h' : db'.SameGrants db'') : db.SameGrants db'' :=
  fun key ↦ (h' key).trans (h key)

theorem Posted.sameGrants {key : GrantKey} {grant : GrantRecord} {reserved consumed : String} {now : ℤ}
    (h : Posted db db' key grant reserved consumed now) : db.SameGrants db' := by
  intro other
  rw [h.wrote.find]
  split
  · rename_i hkey
    have hgrant : grant.key = key := Table.key_of_find? h.found
    have hother : key = other := hgrant.symm.trans hkey
    rw [← hother, h.found]
    rfl
  · rfl

/-- Money moved along with one row, and nothing else did. -/
structure Turned (keyOf : String → String → GrantKey) (db db' : Db) (row new : InvocationRecord)
    (entries : List TransitionRecord) : Prop where
  balanced : Balanced keyOf db'
  wrote : Table.Wrote db.invocations db'.invocations (some row) new
  grants : db.SameGrants db'
  transitions : db'.transitions = db.transitions ++ entries

theorem Turned.trans {db'' : Db} {new newer : InvocationRecord} {entries more : List TransitionRecord}
    (h : Turned keyOf db db' row new entries) (h' : Turned keyOf db' db'' new newer more)
    (hid : newer.invocationId = new.invocationId) : Turned keyOf db db'' row newer (entries ++ more) where
  balanced := h'.balanced
  wrote := h.wrote.trans h'.wrote hid
  grants := h.grants.trans h'.grants
  transitions := by rw [h'.transitions, h.transitions, List.append_assoc]

theorem Balanced.unturned (h : Balanced keyOf db) (hfind : db.invocations.find? row.invocationId = some row) :
    Turned keyOf db db row row [] where
  balanced := h
  wrote := Table.wrote_self hfind
  grants := .of_eq rfl
  transitions := (List.append_nil _).symm

theorem Balanced.turned_of_reconciled (h : Balanced keyOf db)
    (hfound : Found db row.invocationId .RECONCILIATION_REQUIRED row) {outcome : ReconciliationOutcome} {now : ℤ}
    (hreconciled : Reconciled db db' row.invocationId row (reconciledRow row outcome now) now outcome) :
    Turned keyOf db db' row (reconciledRow row outcome now) [resolvedEntry row.invocationId now outcome] := by
  have hopen : row.isOpen = true := by simp [InvocationRecord.isOpen, hfound.state_eq]
  have hwrote := reconciled_wrote hreconciled
  cases outcome with
  | confirmed settlement =>
    have hconsumed : Consumed db db' row _ _ now := hreconciled
    obtain ⟨_, _, _, _, middle, -, -, -, -, hposted, hwritten⟩ := hconsumed.money
    refine ⟨h.consumed hconsumed hopen hfound.find rfl rfl rfl rfl rfl, hwrote,
      hposted.sameGrants.trans (.of_eq hwritten.grants), ?_⟩
    rw [hwritten.transitions, hposted.transitions]
    rfl
  | failed reason =>
    have hreleased : Released db db' row _ _ now := hreconciled
    obtain ⟨_, _, _, middle, -, -, -, hposted, hwritten⟩ := hreleased.money
    refine ⟨h.released hreleased hopen hfound.find rfl rfl rfl rfl, hwrote,
      hposted.sameGrants.trans (.of_eq hwritten.grants), ?_⟩
    rw [hwritten.transitions, hposted.transitions]
    rfl

theorem resolveReconciliation_turned (h : Balanced keyOf db)
    (hfound : Found db row.invocationId .RECONCILIATION_REQUIRED row) (outcome : ReconciliationOutcome) (now : ℤ) :
    ∃ db', (resolveReconciliation row.invocationId outcome now).run db = (.ok (reconciledRow row outcome now), db') ∧
      Turned keyOf db db' row (reconciledRow row outcome now) [resolvedEntry row.invocationId now outcome] := by
  obtain ⟨new, db', hresolve⟩ := h.commits_resolve hfound outcome now
  obtain ⟨other, hother, rfl, hreconciled⟩ := resolveReconciliation_ok hresolve
  obtain rfl := Option.some.inj (hfound.find.symm.trans hother.find)
  refine ⟨db', ?_, h.turned_of_reconciled hfound hreconciled⟩
  rw [Transaction.run, StateT.run, hresolve]

theorem signReceipt_isSome (platform : Platform) (hsigner : options.authoritySigner = options.authorityAddress)
    (row : InvocationRecord) :
    ∃ receipt, signReceipt platform options row = some receipt := by
  rw [signReceipt, signAuthorizationReceipt, if_pos (show options.authoritySigner =
    (unsignedReceipt platform options row).authority from hsigner)]
  exact ⟨_, rfl⟩

theorem ensureStoredReceipt_turned (platform : Platform) (h : Balanced keyOf db)
    (hsigner : options.authoritySigner = options.authorityAddress)
    (hfind : db.invocations.find? row.invocationId = some row) (hstate : row.state = .CONFIRMED) (now : ℤ) :
    ∃ db', ensureStoredReceipt platform options row now db = (.ok (), db') ∧
      Turned keyOf db db' row (receiptedRow platform options now row) [] := by
  obtain ⟨receipt, hsign⟩ := signReceipt_isSome platform hsigner row
  have hreceipted : receiptedRow platform options now row = attachedRow receipt now row := by
    rw [receiptedRow, hsign]
  unfold ensureStoredReceipt
  cases hreceipt : row.receipt with
  | some earlier =>
    have hkept : attachedRow receipt now row = row := by simp [attachedRow, hreceipt]
    rw [hreceipted, hkept]
    exact ⟨db, rfl, h.unturned hfind⟩
  | none =>
    obtain ⟨stored, db', hattach⟩ := commits_attachReceipt hfind (.inr hstate) receipt now
    obtain ⟨other, hother, -, hwrote, hgrants, htransitions⟩ := attachReceipt_ok hattach
    obtain rfl := Option.some.inj (hfind.symm.trans hother)
    rw [hreceipted]
    refine ⟨db', ?_, h.attached hfind hwrote hgrants, hwrote, .of_eq hgrants, ?_⟩
    · simp only [hsign, Transaction.run, StateT.run, hattach]
    · rw [htransitions, List.append_nil]

theorem settleInvocation_turned (platform : Platform) (h : Balanced keyOf db)
    (hsigner : options.authoritySigner = options.authorityAddress)
    (hfound : Found db row.invocationId .RECONCILIATION_REQUIRED row) (outcome : ReconciliationOutcome)
    (instants : Instants) :
    ∃ db', settleInvocation platform options instants row.invocationId outcome db = (.ok (), db') ∧
      Turned keyOf db db' row (resolvedRow platform options outcome instants row)
        [resolvedEntry row.invocationId instants.settled outcome] := by
  obtain ⟨middle, hresolve, hturned⟩ := resolveReconciliation_turned h hfound outcome instants.settled
  unfold settleInvocation
  rw [hresolve]
  cases outcome with
  | failed reason => exact ⟨middle, rfl, hturned⟩
  | confirmed settlement =>
    obtain ⟨db', hensure, hreceipted⟩ := ensureStoredReceipt_turned platform hturned.balanced hsigner
      hturned.wrote.find_self rfl instants.receipted
    exact ⟨db', hensure, hturned.trans hreceipted (receiptedRow_invocationId platform options _ _)⟩

/-- On a balanced database the turn of a blocked invocation ends in its report, settles its own row and
moves the counters of its own grant. -/
theorem reconcileInvocation_turned (platform : Platform) (h : Balanced keyOf db)
    (hsigner : options.authoritySigner = options.authorityAddress)
    (hfound : Found db row.invocationId .RECONCILIATION_REQUIRED row) (result : LookupResult) (instants : Instants) :
    ∃ db', reconcileInvocation platform options result instants row db = (.ok (reportOf result row), db') ∧
      Turned keyOf db db' row (settledRow platform options result instants row)
        (settledEntries result instants row) ∧ (resolution result row = none → db' = db) := by
  have hunturned := h.unturned hfound.find
  unfold reconcileInvocation reportOf settledRow settledEntries resolution
  cases row.paymentAttempt with
  | none => exact ⟨db, rfl, hunturned, fun _ ↦ rfl⟩
  | some attempt =>
    cases result with
    | thrown message => exact ⟨db, rfl, hunturned, fun _ ↦ rfl⟩
    | answered lookup =>
      dsimp only
      cases lookupOutcome lookup with
      | none => exact ⟨db, rfl, hunturned, fun _ ↦ rfl⟩
      | some outcome =>
        obtain ⟨db', hsettle, hturned⟩ := settleInvocation_turned platform h hsigner hfound outcome instants
        refine ⟨db', ?_, hturned, fun hnone ↦ by cases hnone⟩
        dsimp only
        rw [hsettle]

/-- What a run over some rows leaves: every one settled by its own lookup, the counters moved along, and
an entry in the log for each that was resolved. -/
structure Swept (keyOf : String → String → GrantKey) (platform : Platform) (options : AuthorityServiceOptions)
    (lookups : String → LookupResult) (clock : String → Instants) (db db' : Db) (rows : List InvocationRecord) :
    Prop where
  balanced : Balanced keyOf db'
  rewrote : Table.Rewrote db.invocations db'.invocations rows fun row ↦
    settledRow platform options (lookups row.invocationId) (clock row.invocationId) row
  grants : db.SameGrants db'
  transitions : db'.transitions = db.transitions ++ rows.flatMap fun row ↦
    settledEntries (lookups row.invocationId) (clock row.invocationId) row
  unresolved : (∀ row ∈ rows, resolution (lookups row.invocationId) row = none) → db' = db

variable {lookups : String → LookupResult} {clock : String → Instants} {rows : List InvocationRecord}

theorem Balanced.swept_nil (h : Balanced keyOf db) : Swept keyOf platform options lookups clock db db [] where
  balanced := h
  rewrote := Table.rewrote_nil db.invocations _
  grants := .of_eq rfl
  transitions := (List.append_nil _).symm
  unresolved _ := rfl

theorem Swept.cons {middle : Db} (hrest : Swept keyOf platform options lookups clock middle db' rows)
    (hturned : Turned keyOf db middle row
      (settledRow platform options (lookups row.invocationId) (clock row.invocationId) row)
      (settledEntries (lookups row.invocationId) (clock row.invocationId) row))
    (hkept : resolution (lookups row.invocationId) row = none → middle = db)
    (hfresh : row.invocationId ∉ rows.map InvocationRecord.invocationId) :
    Swept keyOf platform options lookups clock db db' (row :: rows) where
  balanced := hrest.balanced
  rewrote := Table.Rewrote.cons hturned.wrote hrest.rewrote (settledRow_invocationId platform options _ _ row) hfresh
  grants := hturned.grants.trans hrest.grants
  transitions := by rw [hrest.transitions, hturned.transitions, List.flatMap_cons, List.append_assoc]
  unresolved hnone := by
    have hmiddle := hkept (hnone row List.mem_cons_self)
    rw [hrest.unresolved fun other hmem ↦ hnone other (List.mem_cons_of_mem row hmem), hmiddle]

/-- On a balanced database the run over distinct blocked rows, in any order, ends in the report of each. -/
theorem reconcileAll_swept (platform : Platform) (hsigner : options.authoritySigner = options.authorityAddress)
    (lookups : String → LookupResult) (clock : String → Instants) (h : Balanced keyOf db)
    (hnodup : (rows.map InvocationRecord.invocationId).Nodup)
    (hfound : ∀ row ∈ rows, Found db row.invocationId .RECONCILIATION_REQUIRED row) :
    ∃ db', reconcileAll platform options lookups clock rows db =
        (.ok (rows.map fun row ↦ reportOf (lookups row.invocationId) row), db') ∧
      Swept keyOf platform options lookups clock db db' rows := by
  induction rows generalizing db with
  | nil => exact ⟨db, rfl, h.swept_nil⟩
  | cons row rest ih =>
    rw [List.map_cons, List.nodup_cons] at hnodup
    obtain ⟨hfresh, hnodup⟩ := hnodup
    obtain ⟨middle, hturn, hturned, hkept⟩ := reconcileInvocation_turned platform h hsigner
      (hfound row List.mem_cons_self) (lookups row.invocationId) (clock row.invocationId)
    have hfound' : ∀ other ∈ rest, Found middle other.invocationId .RECONCILIATION_REQUIRED other := by
      intro other hmem
      have hne : row.invocationId ≠ other.invocationId := fun heq ↦ hfresh (heq ▸ List.mem_map_of_mem hmem)
      have hother := hfound other (List.mem_cons_of_mem row hmem)
      refine ⟨?_, hother.state_eq⟩
      rw [hturned.wrote.find, settledRow_invocationId, if_neg hne, hother.find]
    obtain ⟨db', hrest, hswept⟩ := ih hturned.balanced hnodup hfound'
    refine ⟨db', ?_, hswept.cons hturned hkept hfresh⟩
    rw [reconcileAll, hturn]
    dsimp only
    rw [hrest, List.map_cons]

/-! ## The run as steps of the system -/

/-- Some steps of a run of one process, with nothing else writing. -/
def RunsTo (platform : Platform) (options : AuthorityServiceOptions) :
    Db × Option ReconcileRun → Db × Option ReconcileRun → Prop :=
  Relation.ReflTransGen fun state state' ↦
    ∃ event, reconcileStep platform options state.1 state.2 event = some state'

theorem RunsTo.of_step {run run' : Option ReconcileRun} (event : ReconcileEvent)
    (h : reconcileStep platform options db run event = some (db', run')) :
    RunsTo platform options (db, run) (db', run') :=
  .single ⟨event, h⟩

/-- The attempts of the snapshot. -/
def lookupsOf (rows : List InvocationRecord) : List Lookup :=
  rows.filterMap fun row ↦ row.paymentAttempt.map fun attempt ↦ ⟨row.invocationId, attempt⟩

/-- How a turn ends without ending the run. -/
def Settled (result : Except Failure Unit) : Prop :=
  result = .ok () ∨
    ∃ invocationId expected actual, result = .error (.store (.invalidStateTransition invocationId expected actual))

theorem ensureStoredReceipt_runsTo {now : ℤ} {rest : List Lookup} {result : Except Failure Unit}
    (h : ensureStoredReceipt platform options row now db = (result, db')) (hsettled : Settled result)
    (hreceipt : row.receipt = none) :
    RunsTo platform options (db, some (.receipting row rest)) (db', nextLookup rest) := by
  refine .of_step (.store (some now)) ?_
  simp only [ensureStoredReceipt, hreceipt] at h
  simp only [reconcileStep, Db.access]
  cases hsign : signReceipt platform options row with
  | none =>
    rw [hsign] at h
    cases h
    rcases hsettled with hok | ⟨_, _, _, herror⟩
    · cases hok
    · cases herror
  | some receipt =>
    rw [hsign] at h
    rw [Option.map_some]
    dsimp only at h
    cases hattach : (attachReceipt row.invocationId receipt now).run db with
    | mk attached middle =>
      rw [hattach] at h
      cases attached with
      | ok stored =>
        cases h
        rfl
      | error error =>
        cases h
        rcases hsettled with hok | ⟨_, _, _, herror⟩
        · cases hok
        · cases herror
          rfl

theorem settleInvocation_runsTo {instants : Instants} {outcome : ReconciliationOutcome} {lookup : Lookup}
    {rest : List Lookup} {result : Except Failure Unit}
    (h : settleInvocation platform options instants lookup.invocationId outcome db = (result, db'))
    (hsettled : Settled result) :
    RunsTo platform options (db, some (.resolving lookup outcome rest)) (db', nextLookup rest) := by
  unfold settleInvocation at h
  cases hresolve : (resolveReconciliation lookup.invocationId outcome instants.settled).run db with
  | mk resolved middle =>
    rw [hresolve] at h
    cases resolved with
    | error error =>
      cases h
      refine .of_step (.store (some instants.settled)) ?_
      simp only [reconcileStep, Db.access, hresolve]
      rcases hsettled with hok | ⟨_, _, _, herror⟩
      · cases hok
      · cases herror
        rfl
    | ok resolved =>
      have hstep : RunsTo platform options (db, some (.resolving lookup outcome rest))
          (middle, afterResolve outcome resolved rest) := by
        refine .of_step (.store (some instants.settled)) ?_
        simp only [reconcileStep, Db.access, hresolve]
      refine hstep.trans ?_
      cases outcome with
      | failed reason =>
        cases h
        exact .refl
      | confirmed settlement =>
        cases hreceipt : resolved.receipt with
        | some receipt =>
          simp only [ensureStoredReceipt, hreceipt] at h
          cases h
          simp only [afterResolve, hreceipt]
          exact .refl
        | none =>
          simp only [afterResolve, hreceipt]
          exact ensureStoredReceipt_runsTo h hsettled hreceipt

/-- A turn is some steps of the run. -/
theorem reconcileInvocation_runsTo {result : LookupResult} {instants : Instants} {report : ReconciliationReport}
    {rest : List InvocationRecord}
    (h : reconcileInvocation platform options result instants row db = (.ok report, db')) :
    RunsTo platform options (db, nextLookup (lookupsOf (row :: rest))) (db', nextLookup (lookupsOf rest)) := by
  unfold reconcileInvocation at h
  unfold lookupsOf
  cases hattempt : row.paymentAttempt with
  | none =>
    rw [hattempt] at h
    cases h
    rw [List.filterMap_cons_none (by rw [hattempt]; rfl)]
    exact .refl
  | some attempt =>
    rw [hattempt] at h
    rw [List.filterMap_cons_some (by rw [hattempt]; rfl)]
    cases result with
    | thrown message =>
      cases h
      exact .of_step .thrown rfl
    | answered lookup =>
      dsimp only at h
      cases hlookup : lookupOutcome lookup with
      | none =>
        rw [hlookup] at h
        cases h
        refine .of_step (.answer lookup) ?_
        simp only [nextLookup, reconcileStep, hlookup]
      | some outcome =>
        rw [hlookup] at h
        dsimp only at h
        have hstep : RunsTo platform options
            (db, nextLookup (⟨row.invocationId, attempt⟩ :: lookupsOf rest))
            (db, some (.resolving ⟨row.invocationId, attempt⟩ outcome (lookupsOf rest))) := by
          refine .of_step (.answer lookup) ?_
          simp only [nextLookup, reconcileStep, hlookup]
        refine hstep.trans ?_
        split at h
        · rename_i hsettle
          cases h
          exact settleInvocation_runsTo hsettle (.inl rfl)
        · rename_i hsettle
          cases h
          exact settleInvocation_runsTo hsettle (.inr ⟨_, _, _, rfl⟩)
        · cases h

theorem reconcileAll_runsTo {lookups : String → LookupResult} {clock : String → Instants}
    {rows : List InvocationRecord} {reports : List ReconciliationReport}
    (h : reconcileAll platform options lookups clock rows db = (.ok reports, db')) :
    RunsTo platform options (db, nextLookup (lookupsOf rows)) (db', none) := by
  induction rows generalizing db reports with
  | nil =>
    cases h
    exact .refl
  | cons row rest ih =>
    rw [reconcileAll] at h
    split at h
    · cases h
    · rename_i report middle hturn
      split at h
      · cases h
      · rename_i hrest
        cases h
        exact (reconcileInvocation_runsTo hturn).trans (ih hrest)

/-- The system with one run elsewhere, and the database it left. -/
def System.withRun (sys : System) (process : ℕ) (state : Db × Option ReconcileRun) : System :=
  { sys with db := state.1, runs := Function.update sys.runs process state.2 }

theorem System.withRun_idle {sys : System} {process : ℕ} (h : sys.runs process = none) (db : Db) :
    sys.withRun process (db, none) = { sys with db := db } := by
  rw [withRun, ← h, Function.update_eq_self]

theorem System.withRun_step {options : ℕ → AuthorityServiceOptions} {sys : System} {process : ℕ}
    {state state' : Db × Option ReconcileRun} {event : ReconcileEvent} (hserving : sys.processes process = .serving)
    (h : reconcileStep platform (options process) state.1 state.2 event = some state') :
    System.step platform options (sys.withRun process state) (.reconcile process event) =
      some (sys.withRun process state') := by
  simp only [step, withRun, hserving, if_true, Function.update_self, h, Option.map_some, Function.update_idem]

theorem RunsTo.run {options : ℕ → AuthorityServiceOptions} {sys init : System} {process : ℕ}
    {allowed : System → Action → Prop} {labels : List Action} {state state' : Db × Option ReconcileRun}
    (h : RunsTo platform (options process) state state') (hserving : sys.processes process = .serving)
    (hallowed : ∀ sys event, allowed sys (.reconcile process event))
    (hrun : Run (System.step platform options) allowed init labels (sys.withRun process state)) :
    ∃ events : List ReconcileEvent, Run (System.step platform options) allowed init
      (labels ++ events.map (Action.reconcile process)) (sys.withRun process state') := by
  induction h with
  | refl => exact ⟨[], by simpa using hrun⟩
  | tail _ hstep ih =>
    obtain ⟨events, hevents⟩ := ih
    obtain ⟨event, hstep⟩ := hstep
    refine ⟨events ++ [event], ?_⟩
    rw [List.map_append, ← List.append_assoc]
    exact hevents.next (hallowed _ event) (System.withRun_step hserving hstep)

/-- A run of the loop is a run of the system in which only this process acts, and it ends with the process
idle again. -/
theorem reconcileOnce_run {options : ℕ → AuthorityServiceOptions} {lookups : String → LookupResult}
    {clock : String → Instants} {reports : List ReconciliationReport} {sys init : System} {process : ℕ}
    {allowed : System → Action → Prop} {labels : List Action}
    (hrun : Run (System.step platform options) allowed init labels sys)
    (hallowed : ∀ sys event, allowed sys (.reconcile process event))
    (hserving : sys.processes process = .serving) (hidle : sys.runs process = none)
    (h : reconcileOnce platform (options process) lookups clock sys.db = (.ok reports, db')) :
    ∃ events : List ReconcileEvent, Run (System.step platform options) allowed init
      (labels ++ events.map (Action.reconcile process)) { sys with db := db' } := by
  have hlisted : RunsTo platform (options process) (sys.db, none)
      (sys.db, nextLookup (lookupsOf sys.db.listReconciliationRequired)) := .of_step .list rfl
  have hself : sys.withRun process (sys.db, none) = sys := System.withRun_idle hidle sys.db
  have hstart : Run (System.step platform options) allowed init labels (sys.withRun process (sys.db, none)) := by
    rw [hself]
    exact hrun
  rw [← System.withRun_idle hidle db']
  exact RunsTo.run (hlisted.trans (reconcileAll_runsTo h)) hserving hallowed hstart

end VirtualHaibin.Authority
