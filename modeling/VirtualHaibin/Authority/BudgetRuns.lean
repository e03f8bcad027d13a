import VirtualHaibin.Authority.Accounting

/-!
# Budgets over sequences of store calls

Every call keeps the accounting invariant and the history of each invocation, whatever the
evaluator, the connection or the outcome.  From this follow the budget bound in every reachable
database, the constancy of a grant's pins, and that no call finds a counter below a reservation.
-/

namespace VirtualHaibin.Authority

open Foundation Payments Evidence

variable {rule : CommitmentRule} {keyOf : String → String → GrantKey} {db db' : Db}

/-- A reservation names the grant its invocation and fingerprint determine, with a total that the rule admits. -/
structure InputTallied (rule : CommitmentRule) (keyOf : String → String → GrantKey) (input : ReserveInput) : Prop where
  key_eq : keyOf input.invocationId input.fingerprint = input.grantKey
  maxTotal : rule.admits input.grant.maxTotalAtomic

/-- The same with a total in the token range. -/
abbrev InputSound := InputTallied withinTotal

/-- The identity of the row a decision writes. -/
structure WrittenFacts (input : ReserveInput) (existing : Option InvocationRecord)
    (state : InvocationState) (new : InvocationRecord) : Prop where
  invocationId : new.invocationId = input.invocationId
  fingerprint : new.fingerprint = input.fingerprint
  grantKey : new.grantKey = input.grantKey
  state_eq : new.state = state
  amount_eq : new.amountAtomic = input.amountAtomic
  old_failed : ∀ row, existing = some row → row.state = .FAILED ∧ row.grantKey = new.grantKey

theorem Tallied.written (h : Tallied rule keyOf db) {input : ReserveInput} (hinput : InputTallied rule keyOf input)
    {existing : Option InvocationRecord}
    (hexisting : db.invocations.find? input.invocationId = existing)
    (hretry : ∀ row, existing = some row → retryingFailed input row = true)
    (state : InvocationState) (reasonCodes : List String) (now : ℤ) :
    WrittenFacts input existing state (input.written existing state reasonCodes now) := by
  cases existing with
  | none => exact ⟨rfl, rfl, rfl, rfl, rfl, fun row hrow ↦ by cases hrow⟩
  | some row =>
    have hrow := retryingFailed_iff.1 (hretry row rfl)
    have hid : row.invocationId = input.invocationId := Table.key_of_find? hexisting
    have hkey : row.grantKey = input.grantKey := by
      rw [← (h.row _ _ hexisting).key_eq, ← hinput.key_eq, hid, hrow.2]
    exact ⟨hid, hrow.2, hkey, rfl, rfl, fun other hother ↦ by cases hother; exact ⟨hrow.1, rfl⟩⟩

theorem held_eq_zero {key : GrantKey} {row : InvocationRecord} (h : row.isOpen = false) :
    held key row = 0 := by
  simp [held, h]

theorem spent_eq_zero {key : GrantKey} {row : InvocationRecord} (h : row.isSettled = false) :
    spent key row = 0 := by
  simp [spent, h]

theorem WrittenFacts.old_weight {input : ReserveInput} {existing : Option InvocationRecord}
    {state : InvocationState} {new : InvocationRecord} (h : WrittenFacts input existing state new)
    (key : GrantKey) : existing.elim 0 (held key) = 0 ∧ existing.elim 0 (spent key) = 0 := by
  cases existing with
  | none => exact ⟨rfl, rfl⟩
  | some row =>
    have hstate := (h.old_failed row rfl).1
    exact ⟨held_eq_zero (by simp [InvocationRecord.isOpen, hstate]),
      spent_eq_zero (by simp [InvocationRecord.isSettled, hstate])⟩

theorem Tallied.reserve [rule.Lawful] (h : Tallied rule keyOf db) {input : ReserveInput}
    (hinput : InputTallied rule keyOf input)
    {evaluate : BudgetEvaluator} {now : ℤ} {result : ReserveResult}
    (heffect : ReserveEffect db db' input evaluate now result) : Tallied rule keyOf db' := by
  cases result with
  | existing row => exact heffect.1 ▸ h
  | grant_conflict grant => exact heffect.1 ▸ h
  | denied new =>
    obtain ⟨existing, hexisting, hretry, hdenied⟩ := heffect
    obtain ⟨pinned, grant, reserved, consumed, reasonCodes, hpinned, -, -, rfl, hwritten⟩ := hdenied.effect
    have hfacts := h.written hinput hexisting hretry .DENIED reasonCodes now
    have hbalanced := h.pinned hpinned hinput.maxTotal
    have hcanonical := hwritten.checks
    rw [InvocationRecord.satisfiesChecks, Bool.and_eq_true] at hcanonical
    refine hbalanced.rewrite hwritten.wrote hwritten.grants ⟨?_, hcanonical.1, ?_⟩ (fun key ↦ ?_)
      (fun key ↦ ?_)
    · rw [hfacts.invocationId, hfacts.fingerprint, hfacts.grantKey, hinput.key_eq]
    · rw [hfacts.grantKey, ReserveInput.grantKey, hpinned.found]
      rfl
    · rw [(hfacts.old_weight key).1, held_eq_zero (by simp [InvocationRecord.isOpen, hfacts.state_eq])]
    · rw [(hfacts.old_weight key).2, spent_eq_zero (by simp [InvocationRecord.isSettled, hfacts.state_eq])]
  | reserved new =>
    obtain ⟨existing, hexisting, hretry, hreserved⟩ := heffect
    obtain ⟨pinned, middle, grant, reserved, consumed, amount, maxTotal, hpinned, hcommitted, -, hamount,
      hmaxTotal, hpositive, hwithin, hposted, rfl, hwritten⟩ := hreserved.effect
    have hfacts := h.written hinput hexisting hretry .RESERVED [] now
    have hbalanced := h.pinned hpinned hinput.maxTotal
    have hgrant := hbalanced.grant _ _ hposted.found
    have hreservedEq := hcommitted.reserved_eq
    have hconsumedEq := hcommitted.consumed_eq
    rw [hgrant.reserved_eq, Decimal.bigInt_repr] at hreservedEq
    rw [hgrant.consumed_eq, Decimal.bigInt_repr] at hconsumedEq
    obtain rfl := Option.some.inj hreservedEq
    obtain rfl := Option.some.inj hconsumedEq
    have hcanonical := hwritten.checks
    rw [InvocationRecord.satisfiesChecks, Bool.and_eq_true, hfacts.amount_eq] at hcanonical
    obtain rfl := bigInt_canonical hcanonical.1 hamount
    have hwrote := hwritten.wrote
    rw [hposted.invocations] at hwrote
    have hheldNew : held input.grantKey (input.written existing .RESERVED [] now) =
        Decimal.amount input.amountAtomic := by
      simp [held, hfacts.grantKey, InvocationRecord.isOpen, hfacts.state_eq, hfacts.amount_eq]
    have hspentNew : spent input.grantKey (input.written existing .RESERVED [] now) = 0 :=
      spent_eq_zero (by simp [InvocationRecord.isSettled, hfacts.state_eq])
    have hsumHeld := hwrote.sum (held input.grantKey)
    have hsumSpent := hwrote.sum (spent input.grantKey)
    rw [(hfacts.old_weight _).1, hheldNew] at hsumHeld
    rw [(hfacts.old_weight _).2, hspentNew] at hsumSpent
    refine hbalanced.post (hfacts.grantKey ▸ hposted) hwritten (fun row hrow ↦ (hfacts.old_failed row hrow).2)
      ?_ ?_ ?_ ?_
    · rw [hfacts.invocationId, hfacts.fingerprint, hfacts.grantKey, hinput.key_eq]
    · rw [hfacts.grantKey, ← repr_natCast]
      congr 1
      omega
    · rw [hfacts.grantKey, hgrant.consumed_eq]
      congr 1
      omega
    · rw [hfacts.grantKey]
      refine CommitmentRule.Lawful.extended hgrant.maxTotal hmaxTotal ?_
      omega

/-- Writing a row over one in the same open or closed condition. -/
theorem Tallied.rewriteRow (h : Tallied rule keyOf db) {row new : InvocationRecord}
    (hwrote : Table.Wrote db.invocations db'.invocations (some row) new) (hgrants : db'.grants = db.grants)
    (hfind : db.invocations.find? row.invocationId = some row)
    (hid : new.invocationId = row.invocationId) (hfingerprint : new.fingerprint = row.fingerprint)
    (hkey : new.grantKey = row.grantKey) (hamount : new.amountAtomic = row.amountAtomic)
    (hopen : new.isOpen = row.isOpen) (hsettled : new.isSettled = row.isSettled) : Tallied rule keyOf db' := by
  obtain ⟨hkeyEq, hcanonical, hsome⟩ := h.row _ _ hfind
  refine h.rewrite hwrote hgrants ⟨?_, ?_, ?_⟩ (fun key ↦ ?_) (fun key ↦ ?_)
  · rw [hid, hfingerprint, hkey, hkeyEq]
  · rw [hamount]
    exact hcanonical
  · rw [hkey]
    exact hsome
  · simp only [Option.elim, held, hkey, hopen, hamount]
  · simp only [Option.elim, spent, hkey, hsettled, hamount]

theorem recoveredRow_keeps (reason : String) (now : ℤ) (row : InvocationRecord) :
    (recoveredRow reason now row).fingerprint = row.fingerprint ∧
      (recoveredRow reason now row).grantKey = row.grantKey ∧
      (recoveredRow reason now row).amountAtomic = row.amountAtomic := by
  unfold recoveredRow
  split <;> exact ⟨rfl, rfl, rfl⟩

theorem Tallied.recoveredRow [rule.Lawful] (h : Tallied rule keyOf db) {reason : String} {now : ℤ}
    {row : InvocationRecord}
    (hfound : Found db row.invocationId .RESERVED row)
    (hrecovered : RecoveredRow db db' reason now row) : Tallied rule keyOf db' := by
  obtain ⟨hfingerprint, hkey, hamount⟩ := recoveredRow_keeps reason now row
  have hopen : row.isOpen = true := by simp [InvocationRecord.isOpen, hfound.state_eq]
  have hid := recoveredRow_invocationId reason now row
  cases hrecovered with
  | kept hattempt hwritten =>
    have hstate : (Authority.recoveredRow reason now row).state = .RECONCILIATION_REQUIRED := by
      rw [Authority.recoveredRow, if_pos hattempt]
    refine h.rewriteRow hwritten.wrote hwritten.grants hfound.find hid hfingerprint hkey hamount ?_ ?_
    · rw [hopen]
      simp [InvocationRecord.isOpen, hstate]
    · simp [InvocationRecord.isSettled, hstate, hfound.state_eq]
  | released hattempt hreleased =>
    have hstate : (Authority.recoveredRow reason now row).state = .FAILED := by
      rw [Authority.recoveredRow, if_neg (by simp [hattempt])]
    exact h.released hreleased hopen hfound.find hstate hid hfingerprint hkey

theorem Tallied.recoveredRows [rule.Lawful] (reason : String) (now : ℤ) {rows : List InvocationRecord}
    (h : Tallied rule keyOf db) (hrecovered : RecoveredRows reason now db db' rows) : Tallied rule keyOf db' := by
  induction hrecovered with
  | nil => exact h
  | cons hfound hfirst _ ih => exact ih (h.recoveredRow hfound hfirst)

def StoreCall.reserveInput? : StoreCall → Option ReserveInput
  | .reserve input _ => some input
  | _ => none

/-- Peel the discarded result off a call's body. -/
theorem discard_ok {α : Type} {x : Transaction α} {db' : Db}
    (h : (do let _ ← x : Transaction Unit) db = .ok ((), db')) : ∃ a, x db = .ok (a, db') := by
  rw [Transaction.bind_eq_ok] at h
  obtain ⟨a, db'', hx, h⟩ := h
  rw [Transaction.pure_eq_ok] at h
  cases h
  exact ⟨a, hx⟩

/-- Every committed call keeps the balance. -/
theorem Tallied.transaction [rule.Lawful] (h : Tallied rule keyOf db) {call : StoreCall} {now : ℤ}
    (hinput : ∀ input, call.reserveInput? = some input → InputTallied rule keyOf input)
    (hcall : call.transaction now db = .ok ((), db')) : Tallied rule keyOf db' := by
  cases call with
  | reserve input evaluate =>
    obtain ⟨result, hresult⟩ := discard_ok hcall
    exact h.reserve (hinput input rfl) (reserve_ok hresult)
  | recordPaymentAttempt invocationId attempt serviceAuthorization =>
    obtain ⟨row, hfound, -, hwritten⟩ := recordPaymentAttempt_ok hcall
    obtain rfl : row.invocationId = invocationId := Table.key_of_find? hfound.find
    exact h.rewriteRow hwritten.wrote hwritten.grants hfound.find rfl rfl rfl rfl rfl rfl
  | confirm invocationId payment =>
    obtain ⟨new, hnew⟩ := discard_ok hcall
    obtain ⟨row, hfound, rfl, hconsumed⟩ := confirm_ok hnew
    obtain rfl : row.invocationId = invocationId := Table.key_of_find? hfound.find
    exact h.consumed hconsumed (by simp [InvocationRecord.isOpen, hfound.state_eq]) hfound.find
      rfl rfl rfl rfl rfl
  | fail invocationId reason =>
    obtain ⟨row, hfound, hreleased⟩ := fail_ok hcall
    obtain rfl : row.invocationId = invocationId := Table.key_of_find? hfound.find
    exact h.released hreleased (by simp [InvocationRecord.isOpen, hfound.state_eq]) hfound.find
      rfl rfl rfl rfl
  | markReconciliationRequired invocationId reason =>
    obtain ⟨row, hfound, hwritten⟩ := markReconciliationRequired_ok hcall
    obtain rfl : row.invocationId = invocationId := Table.key_of_find? hfound.find
    refine h.rewriteRow hwritten.wrote hwritten.grants hfound.find rfl rfl rfl rfl ?_ ?_
    · simp [InvocationRecord.isOpen, hfound.state_eq]
    · simp [InvocationRecord.isSettled, hfound.state_eq]
  | resolveReconciliation invocationId outcome =>
    obtain ⟨new, hnew⟩ := discard_ok hcall
    obtain ⟨row, hfound, rfl, hreconciled⟩ := resolveReconciliation_ok hnew
    obtain rfl : row.invocationId = invocationId := Table.key_of_find? hfound.find
    have hopen : row.isOpen = true := by simp [InvocationRecord.isOpen, hfound.state_eq]
    cases outcome with
    | confirmed settlement => exact h.consumed hreconciled hopen hfound.find rfl rfl rfl rfl rfl
    | failed reason => exact h.released hreconciled hopen hfound.find rfl rfl rfl rfl
  | recoverInterruptedInvocations reason =>
    obtain ⟨result, hresult⟩ := discard_ok hcall
    exact h.recoveredRows reason now (recoverInterruptedInvocations_ok hresult)
  | attachReceipt invocationId receipt =>
    obtain ⟨stored, hstored⟩ := discard_ok hcall
    obtain ⟨row, hfind, -, hwrote, hgrants, -⟩ := attachReceipt_ok hstored
    obtain rfl : row.invocationId = invocationId := Table.key_of_find? hfind
    refine h.rewriteRow hwrote hgrants hfind (attachedRow_invocationId receipt now row) ?_ ?_ ?_ ?_ ?_ <;>
      (unfold attachedRow; split <;> rfl)

theorem Tallied.empty : Tallied rule keyOf Db.empty :=
  ⟨fun id row h ↦ by simp [Db.empty] at h, fun key grant h ↦ by simp [Db.empty] at h⟩

theorem Tallied.perform [rule.Lawful] (h : Tallied rule keyOf db) {request : ConnectionCall}
    (hinput : ∀ input, request.call.reserveInput? = some input → InputTallied rule keyOf input) :
    Tallied rule keyOf (db.perform request).2 := by
  unfold Db.perform
  split
  · cases hrun : (request.call.transaction request.now).run db with
    | mk result db' =>
      rcases Transaction.run_eq hrun with ⟨a, -, hok⟩ | ⟨e, -, -, rfl⟩
      · exact h.transaction hinput hok
      · exact h
  · exact h

theorem Tallied.performAll [rule.Lawful] (h : Tallied rule keyOf db) {requests : List ConnectionCall}
    (hinput : ∀ request ∈ requests, ∀ input, request.call.reserveInput? = some input →
      InputTallied rule keyOf input) : Tallied rule keyOf (db.performAll requests) := by
  induction requests generalizing db with
  | nil => exact h
  | cons request rest ih =>
    exact ih (h.perform (hinput request (by simp))) fun other hother ↦ hinput other (by simp [hother])

/-! ## The state machine of an invocation -/

/-- The moves of an invocation; `none` is an invocation that does not exist yet. -/
def mayBecome : Option InvocationState → InvocationState → Bool
  | none, .RESERVED | none, .DENIED => true
  | some .FAILED, .RESERVED | some .FAILED, .DENIED => true
  | some .RESERVED, .RESERVED | some .RESERVED, .CONFIRMED | some .RESERVED, .FAILED
  | some .RESERVED, .RECONCILIATION_REQUIRED => true
  | some .RECONCILIATION_REQUIRED, .CONFIRMED | some .RECONCILIATION_REQUIRED, .FAILED => true
  | _, _ => false

/-- The pinned terms of every grant survive. -/
def PinsKept (db db' : Db) : Prop :=
  ∀ key grant, db.grants.find? key = some grant → ∃ grant', db'.grants.find? key = some grant' ∧
    grant'.permitDigest = grant.permitDigest ∧ grant'.maxTotalAtomic = grant.maxTotalAtomic

theorem PinsKept.of_eq (h : db'.grants = db.grants) : PinsKept db db' :=
  fun key grant hgrant ↦ ⟨grant, by rw [h, hgrant], rfl, rfl⟩

theorem PinsKept.trans {db'' : Db} (h : PinsKept db db') (h' : PinsKept db' db'') : PinsKept db db'' := by
  intro key grant hgrant
  obtain ⟨grant', hgrant', hdigest, hmax⟩ := h key grant hgrant
  obtain ⟨grant'', hgrant'', hdigest', hmax'⟩ := h' key grant' hgrant'
  exact ⟨grant'', hgrant'', hdigest'.trans hdigest, hmax'.trans hmax⟩

theorem Posted.pinsKept {key : GrantKey} {grant : GrantRecord} {reserved consumed : String} {now : ℤ}
    (h : Posted db db' key grant reserved consumed now) : PinsKept db db' := by
  intro other found hfound
  rw [h.wrote.find]
  split
  · rename_i hkey
    have hsame : key = other := (Table.key_of_find? h.found).symm.trans hkey
    rw [← hsame, h.found] at hfound
    cases hfound
    exact ⟨_, rfl, rfl, rfl⟩
  · exact ⟨found, hfound, rfl, rfl⟩

theorem Pinned.pinsKept {terms : GrantTerms} {grant : GrantRecord} {now : ℤ}
    (h : Pinned db db' terms grant now) : PinsKept db db' := by
  rcases h.origin with rfl | ⟨-, -, hwrote⟩
  · exact .of_eq rfl
  · intro other found hfound
    rw [hwrote.find]
    split
    · rename_i hkey
      rw [← hkey, hwrote.old_eq] at hfound
      cases hfound
    · exact ⟨found, hfound, rfl, rfl⟩

def TransitionRecord.opens (entry : TransitionRecord) : ℕ :=
  if entry.toState = .RESERVED ∧ entry.fromState ≠ some .RESERVED then 1 else 0

def TransitionRecord.consumes (entry : TransitionRecord) : ℕ := if entry.toState = .CONFIRMED then 1 else 0

def TransitionRecord.releases (entry : TransitionRecord) : ℕ := if entry.toState = .FAILED then 1 else 0

/-- An attempt was recorded on a reservation. -/
def TransitionRecord.arms (entry : TransitionRecord) : Bool :=
  entry.fromState = some .RESERVED && entry.toState = .RESERVED

/-- What a move keeps of the reservation of its row. -/
structure KeepsReservation (old : Option InvocationRecord) (new : InvocationRecord)
    (entry : TransitionRecord) : Prop where
  arms : entry.arms = true → new.paymentAttempt.isSome = true ∧
    ∀ row, old = some row → row.paymentAttempt = none
  grantKey : ∀ row, old = some row → new.grantKey = row.grantKey
  amountAtomic : ∀ row, old = some row → row.isOpen = true → new.amountAtomic = row.amountAtomic

/-- One legal, logged move of one invocation. -/
structure Moved (db db' : Db) (old : Option InvocationRecord) (new : InvocationRecord)
    (entry : TransitionRecord) : Prop where
  wrote : Table.Wrote db.invocations db'.invocations old new
  pins : PinsKept db db'
  transitions : db'.transitions = db.transitions ++ [entry]
  invocationId : entry.invocationId = new.invocationId
  fromState : entry.fromState = old.map InvocationRecord.state
  toState : entry.toState = new.state
  legal : mayBecome (old.map InvocationRecord.state) new.state = true
  reservation : KeepsReservation old new entry

/-- What storing a receipt leaves as it was. -/
structure SameStanding (row new : InvocationRecord) : Prop where
  state : new.state = row.state
  paymentAttempt : new.paymentAttempt = row.paymentAttempt
  amountAtomic : new.amountAtomic = row.amountAtomic
  grantKey : new.grantKey = row.grantKey

theorem attachedRow_sameStanding (receipt : SignedAuthorizationReceipt) (now : ℤ) (row : InvocationRecord) :
    SameStanding row (attachedRow receipt now row) := by
  unfold attachedRow
  split <;> exact ⟨rfl, rfl, rfl, rfl⟩

/-- What a committed call is made of: legal moves, and receipts stored without a move. -/
inductive Moves (allowed : TransitionRecord → Prop) : Db → Db → Prop
  | refl (db : Db) : Moves allowed db db
  | move {db middle db' : Db} {old : Option InvocationRecord} {new : InvocationRecord}
      {entry : TransitionRecord} (moved : Moved db middle old new entry) (permitted : allowed entry)
      (rest : Moves allowed middle db') : Moves allowed db db'
  | attach {db middle db' : Db} {row new : InvocationRecord}
      (wrote : Table.Wrote db.invocations middle.invocations (some row) new)
      (standing : SameStanding row new) (grants : middle.grants = db.grants)
      (transitions : middle.transitions = db.transitions) (rest : Moves allowed middle db') :
      Moves allowed db db'

theorem Moves.weaken {allowed allowed' : TransitionRecord → Prop} (h : Moves allowed db db')
    (hallowed : ∀ entry, allowed entry → allowed' entry) : Moves allowed' db db' := by
  induction h with
  | refl db => exact .refl db
  | move moved permitted _ ih => exact .move moved (hallowed _ permitted) ih
  | attach wrote standing grants transitions _ ih => exact .attach wrote standing grants transitions ih

theorem arms_eq_false {entry : TransitionRecord}
    (h : entry.fromState ≠ some .RESERVED ∨ entry.toState ≠ .RESERVED) : entry.arms = false := by
  rcases h with h | h <;> simp [TransitionRecord.arms, h]

theorem opens_eq_zero {entry : TransitionRecord}
    (h : entry.fromState = some .RESERVED ∨ entry.toState ≠ .RESERVED) : entry.opens = 0 := by
  rcases h with h | h <;> simp [TransitionRecord.opens, h]

/-- A move that leaves the reserved state keeps the terms of its row. -/
theorem KeepsReservation.leaves {row new : InvocationRecord} {entry : TransitionRecord}
    (hto : entry.toState ≠ .RESERVED) (hkey : new.grantKey = row.grantKey)
    (hamount : new.amountAtomic = row.amountAtomic) : KeepsReservation (some row) new entry where
  arms harms := by
    rw [arms_eq_false (.inr hto)] at harms
    cases harms
  grantKey other hother := by
    cases hother
    exact hkey
  amountAtomic other hother _ := by
    cases hother
    exact hamount

theorem RowWritten.moved {old : Option InvocationRecord} {new : InvocationRecord}
    {entry : TransitionRecord} (h : RowWritten db db' old new entry)
    (hid : entry.invocationId = new.invocationId) (hfrom : entry.fromState = old.map InvocationRecord.state)
    (hto : entry.toState = new.state) (hlegal : mayBecome (old.map InvocationRecord.state) new.state = true)
    (hreservation : KeepsReservation old new entry) : Moved db db' old new entry :=
  ⟨h.wrote, .of_eq h.grants, h.transitions, hid, hfrom, hto, hlegal, hreservation⟩

theorem Released.moved {row new : InvocationRecord} {entry : TransitionRecord} {now : ℤ}
    (h : Released db db' row new entry now) (hid : entry.invocationId = new.invocationId)
    (hfrom : entry.fromState = some row.state) (hto : entry.toState = new.state)
    (hlegal : mayBecome (some row.state) new.state = true)
    (hreservation : KeepsReservation (some row) new entry) : Moved db db' (some row) new entry := by
  obtain ⟨_, _, _, middle, -, -, -, hposted, hwritten⟩ := h.money
  refine ⟨h.wrote, hposted.pinsKept.trans (.of_eq hwritten.grants), ?_, hid, hfrom, hto, hlegal,
    hreservation⟩
  rw [hwritten.transitions, hposted.transitions]

theorem Consumed.moved {row new : InvocationRecord} {entry : TransitionRecord} {now : ℤ}
    (h : Consumed db db' row new entry now) (hid : entry.invocationId = new.invocationId)
    (hfrom : entry.fromState = some row.state) (hto : entry.toState = new.state)
    (hlegal : mayBecome (some row.state) new.state = true)
    (hreservation : KeepsReservation (some row) new entry) : Moved db db' (some row) new entry := by
  obtain ⟨_, _, _, _, middle, -, -, -, -, hposted, hwritten⟩ := h.money
  refine ⟨h.wrote, hposted.pinsKept.trans (.of_eq hwritten.grants), ?_, hid, hfrom, hto, hlegal,
    hreservation⟩
  rw [hwritten.transitions, hposted.transitions]

theorem written_state {input : ReserveInput} {existing : Option InvocationRecord} {state : InvocationState}
    {reasonCodes : List String} {now : ℤ} : (input.written existing state reasonCodes now).state = state := by
  cases existing <;> rfl

theorem written_legal {input : ReserveInput} {existing : Option InvocationRecord}
    (hretry : ∀ row, existing = some row → retryingFailed input row = true) {state : InvocationState}
    (hstate : state = .RESERVED ∨ state = .DENIED) :
    mayBecome (existing.map InvocationRecord.state) state = true := by
  cases existing with
  | none => rcases hstate with rfl | rfl <;> rfl
  | some row =>
    have hrow := retryingFailed_iff.1 (hretry row rfl)
    simp only [Option.map_some, hrow.1]
    rcases hstate with rfl | rfl <;> rfl

/-- A decision is taken on no reservation: on a new invocation or on a failed one. -/
theorem written_reservation {input : ReserveInput} {existing : Option InvocationRecord}
    (hretry : ∀ row, existing = some row → retryingFailed input row = true) (state : InvocationState)
    (reasonCodes : List String) (now : ℤ) :
    KeepsReservation existing (input.written existing state reasonCodes now)
      (input.entry existing state reasonCodes now) := by
  cases existing with
  | none =>
    refine ⟨fun harms ↦ ?_, fun row hrow ↦ ?_, fun row hrow ↦ ?_⟩
    · simp [TransitionRecord.arms, ReserveInput.entry] at harms
    · cases hrow
    · cases hrow
  | some row =>
    have hfailed := (retryingFailed_iff.1 (hretry row rfl)).1
    refine ⟨fun harms ↦ ?_, fun other hother ↦ ?_, fun other hother hopen ↦ ?_⟩
    · simp [TransitionRecord.arms, ReserveInput.entry, hfailed] at harms
    · cases hother
      rfl
    · cases hother
      simp [InvocationRecord.isOpen, hfailed] at hopen

/-- The row and the log entry of a decision on `old`. -/
structure Decided (input : ReserveInput) (now : ℤ) (old : Option InvocationRecord) (new : InvocationRecord)
    (entry : TransitionRecord) : Prop where
  found : ∀ row, old = some row → retryingFailed input row = true
  written : ∃ state reasonCodes, new = input.written old state reasonCodes now ∧
    entry = input.entry old state reasonCodes now

/-- A reservation decides its invocation, or leaves the database. -/
theorem ReserveEffect.moved {input : ReserveInput} {evaluate : BudgetEvaluator} {now : ℤ}
    {result : ReserveResult} (h : ReserveEffect db db' input evaluate now result) :
    db' = db ∨ ∃ new entry, Moved db db' (db.invocations.find? input.invocationId) new entry ∧
      Decided input now (db.invocations.find? input.invocationId) new entry := by
  cases result with
  | existing row => exact .inl h.1
  | grant_conflict grant => exact .inl h.1
  | denied new =>
    obtain ⟨existing, hexisting, hretry, hdenied⟩ := h
    obtain ⟨pinned, grant, reserved, consumed, reasonCodes, hpinned, -, -, rfl, hwritten⟩ := hdenied.effect
    have hwrote := hwritten.wrote
    rw [hpinned.invocations] at hwrote
    rw [hexisting]
    refine .inr ⟨_, _, ⟨hwrote, hpinned.pinsKept.trans (.of_eq hwritten.grants), ?_, ?_, rfl, ?_, ?_,
      written_reservation hretry _ _ _⟩, hretry, .DENIED, reasonCodes, rfl, rfl⟩
    · rw [hwritten.transitions, hpinned.transitions]
    · exact (ReserveInput.written_invocationId fun row hrow ↦
        Table.key_of_find? (hexisting.trans hrow)).symm
    · rw [written_state]
      rfl
    · rw [written_state]
      exact written_legal hretry (.inr rfl)
  | reserved new =>
    obtain ⟨existing, hexisting, hretry, hreserved⟩ := h
    obtain ⟨pinned, middle, grant, reserved, consumed, amount, maxTotal, hpinned, -, -, -, -, -, -,
      hposted, rfl, hwritten⟩ := hreserved.effect
    have hwrote := hwritten.wrote
    rw [hposted.invocations, hpinned.invocations] at hwrote
    rw [hexisting]
    refine .inr ⟨_, _, ⟨hwrote, (hpinned.pinsKept.trans hposted.pinsKept).trans (.of_eq hwritten.grants),
      ?_, ?_, rfl, ?_, ?_, written_reservation hretry _ _ _⟩, hretry, .RESERVED, [], rfl, rfl⟩
    · rw [hwritten.transitions, hposted.transitions, hpinned.transitions]
    · exact (ReserveInput.written_invocationId fun row hrow ↦
        Table.key_of_find? (hexisting.trans hrow)).symm
    · rw [written_state]
      rfl
    · rw [written_state]
      exact written_legal hretry (.inl rfl)

theorem ReserveEffect.moves {input : ReserveInput} {evaluate : BudgetEvaluator} {now : ℤ}
    {result : ReserveResult} (h : ReserveEffect db db' input evaluate now result) :
    Moves (fun _ ↦ True) db db' := by
  rcases h.moved with rfl | ⟨new, entry, hmoved, -⟩
  · exact .refl _
  · exact .move hmoved trivial (.refl db')

theorem RecoveredRow.moved {reason : String} {now : ℤ} {row : InvocationRecord}
    (hfound : Found db row.invocationId .RESERVED row) (h : RecoveredRow db db' reason now row) :
    ∃ entry, Moved db db' (some row) (Authority.recoveredRow reason now row) entry ∧
      entry.toState ≠ .RESERVED := by
  have hid := recoveredRow_invocationId reason now row
  obtain ⟨-, hkey, hamount⟩ := recoveredRow_keeps reason now row
  cases h with
  | kept hattempt hwritten =>
    have hstate : (Authority.recoveredRow reason now row).state = .RECONCILIATION_REQUIRED := by
      rw [Authority.recoveredRow, if_pos hattempt]
    refine ⟨_, hwritten.moved hid.symm ?_ hstate.symm ?_ (.leaves (fun h ↦ by cases h) hkey hamount),
      fun h ↦ by cases h⟩ <;> simp [hfound.state_eq, hstate, mayBecome]
  | released hattempt hreleased =>
    have hstate : (Authority.recoveredRow reason now row).state = .FAILED := by
      rw [Authority.recoveredRow, if_neg (by simp [hattempt])]
    refine ⟨_, hreleased.moved hid.symm ?_ hstate.symm ?_ (.leaves (fun h ↦ by cases h) hkey hamount),
      fun h ↦ by cases h⟩ <;> simp [hfound.state_eq, hstate, mayBecome]

theorem RecoveredRows.moves {reason : String} {now : ℤ} {rows : List InvocationRecord}
    (h : RecoveredRows reason now db db' rows) : Moves (fun entry ↦ entry.opens = 0) db db' := by
  induction h with
  | nil db => exact .refl db
  | cons hfound hfirst _ ih =>
    obtain ⟨entry, hmoved, hto⟩ := hfirst.moved hfound
    exact .move hmoved (opens_eq_zero (.inr hto)) ih

/-- Every committed call is a sequence of legal moves; only a reservation opens one. -/
theorem transaction_moves {call : StoreCall} {now : ℤ} (hcall : call.transaction now db = .ok ((), db')) :
    Moves (fun entry ↦ call.reserveInput? = none → entry.opens = 0) db db' := by
  cases call with
  | reserve input evaluate =>
    obtain ⟨result, hresult⟩ := discard_ok hcall
    refine (reserve_ok hresult).moves.weaken fun entry _ hnone ↦ ?_
    cases hnone
  | recordPaymentAttempt invocationId attempt serviceAuthorization =>
    obtain ⟨row, hfound, hnone, hwritten⟩ := recordPaymentAttempt_ok hcall
    have hreservation : KeepsReservation (some row)
        { row with
          paymentAttempt := some attempt, serviceAuthorization := serviceAuthorization, updatedAt := now }
        ⟨invocationId, some .RESERVED, .RESERVED, some s!"payment attempt {attempt.payerSignature}", now⟩ := by
      refine ⟨fun _ ↦ ⟨rfl, ?_⟩, ?_, ?_⟩
      · rintro other ⟨⟩
        exact hnone
      · rintro other ⟨⟩
        rfl
      · rintro other ⟨⟩ -
        rfl
    refine .move (hwritten.moved (Table.key_of_find? hfound.find).symm ?_ ?_ ?_ hreservation)
      (fun _ ↦ opens_eq_zero (.inl rfl)) (.refl db') <;> simp [hfound.state_eq, mayBecome]
  | confirm invocationId payment =>
    obtain ⟨new, hnew⟩ := discard_ok hcall
    obtain ⟨row, hfound, rfl, hconsumed⟩ := confirm_ok hnew
    refine .move (hconsumed.moved (Table.key_of_find? hfound.find).symm ?_ rfl ?_ (.leaves nofun rfl rfl))
      (fun _ ↦ opens_eq_zero (.inr nofun)) (.refl db') <;>
      simp [hfound.state_eq, mayBecome, confirmedRow]
  | fail invocationId reason =>
    obtain ⟨row, hfound, hreleased⟩ := fail_ok hcall
    refine .move (hreleased.moved (Table.key_of_find? hfound.find).symm ?_ rfl ?_ (.leaves nofun rfl rfl))
      (fun _ ↦ opens_eq_zero (.inr nofun)) (.refl db') <;> simp [hfound.state_eq, mayBecome]
  | markReconciliationRequired invocationId reason =>
    obtain ⟨row, hfound, hwritten⟩ := markReconciliationRequired_ok hcall
    refine .move (hwritten.moved (Table.key_of_find? hfound.find).symm ?_ rfl ?_ (.leaves nofun rfl rfl))
      (fun _ ↦ opens_eq_zero (.inr nofun)) (.refl db') <;> simp [hfound.state_eq, mayBecome]
  | resolveReconciliation invocationId outcome =>
    obtain ⟨new, hnew⟩ := discard_ok hcall
    obtain ⟨row, hfound, rfl, hreconciled⟩ := resolveReconciliation_ok hnew
    have hid : row.invocationId = invocationId := Table.key_of_find? hfound.find
    cases outcome with
    | confirmed settlement =>
      refine .move (Consumed.moved hreconciled hid.symm ?_ rfl ?_ (.leaves nofun rfl rfl))
        (fun _ ↦ opens_eq_zero (.inr nofun)) (.refl db') <;>
        simp [hfound.state_eq, mayBecome, reconciledRow]
    | failed reason =>
      refine .move (Released.moved hreconciled hid.symm ?_ rfl ?_ (.leaves nofun rfl rfl))
        (fun _ ↦ opens_eq_zero (.inr nofun)) (.refl db') <;>
        simp [hfound.state_eq, mayBecome, reconciledRow]
  | recoverInterruptedInvocations reason =>
    obtain ⟨result, hresult⟩ := discard_ok hcall
    exact (recoverInterruptedInvocations_ok hresult).moves.weaken fun _ hclosed _ ↦ hclosed
  | attachReceipt invocationId receipt =>
    obtain ⟨stored, hstored⟩ := discard_ok hcall
    obtain ⟨row, -, -, hwrote, hgrants, htransitions⟩ := attachReceipt_ok hstored
    exact .attach hwrote (attachedRow_sameStanding _ _ _) hgrants htransitions (.refl db')

theorem Moves.pinsKept {allowed : TransitionRecord → Prop} (h : Moves allowed db db') : PinsKept db db' := by
  induction h with
  | refl db => exact .of_eq rfl
  | move moved _ _ ih => exact moved.pins.trans ih
  | attach _ _ grants _ _ ih => exact (PinsKept.of_eq grants).trans ih

theorem pinsKept_performAll (requests : List ConnectionCall) (db : Db) :
    PinsKept db (db.performAll requests) := by
  induction requests generalizing db with
  | nil => exact .of_eq rfl
  | cons request rest ih =>
    refine PinsKept.trans ?_ (ih (db.perform request).2)
    unfold Db.perform
    split
    · cases hrun : (request.call.transaction request.now).run db with
      | mk result db' =>
        rcases Transaction.run_eq hrun with ⟨a, -, hok⟩ | ⟨e, -, -, rfl⟩
        · exact (transaction_moves hok).pinsKept
        · exact .of_eq rfl
    · exact .of_eq rfl

/-! ## The history of an invocation -/

/-- The total of a weight over the logged moves of one invocation. -/
def Db.tally (db : Db) (weight : TransitionRecord → ℕ) (invocationId : String) : ℕ :=
  ((db.transitions.filter fun entry ↦ entry.invocationId = invocationId).map weight).sum

def openCount (row : InvocationRecord) : ℕ := if row.isOpen then 1 else 0
def settledCount (row : InvocationRecord) : ℕ := if row.isSettled then 1 else 0

/-- Every reservation was consumed once, or released once, or is still open. -/
structure HistoryBalanced (db : Db) : Prop where
  opened : ∀ id, db.tally TransitionRecord.opens id =
    db.tally TransitionRecord.consumes id + db.tally TransitionRecord.releases id +
      (db.invocations.find? id).elim 0 openCount
  consumed : ∀ id, db.tally TransitionRecord.consumes id = (db.invocations.find? id).elim 0 settledCount

theorem tally_append {entry : TransitionRecord} (h : db'.transitions = db.transitions ++ [entry])
    (weight : TransitionRecord → ℕ) (id : String) :
    db'.tally weight id = db.tally weight id + if entry.invocationId = id then weight entry else 0 := by
  simp only [Db.tally, h, List.filter_append, List.map_append, List.sum_append]
  congr 1
  by_cases hid : entry.invocationId = id <;> simp [hid]

/-- A legal move accounts for the change of its row. -/
theorem legal_counts {old : Option InvocationRecord} {new : InvocationRecord} {entry : TransitionRecord}
    (hfrom : entry.fromState = old.map InvocationRecord.state) (hto : entry.toState = new.state)
    (hlegal : mayBecome (old.map InvocationRecord.state) new.state = true) :
    old.elim 0 openCount + entry.opens = entry.consumes + entry.releases + openCount new ∧
      old.elim 0 settledCount + entry.consumes = settledCount new := by
  cases old with
  | none =>
    cases hnew : new.state <;> simp_all [mayBecome, openCount, settledCount, InvocationRecord.isOpen,
      InvocationRecord.isSettled, TransitionRecord.opens, TransitionRecord.consumes, TransitionRecord.releases]
  | some row =>
    cases hrow : row.state <;> cases hnew : new.state <;>
      simp_all [mayBecome, openCount, settledCount, InvocationRecord.isOpen,
        InvocationRecord.isSettled, TransitionRecord.opens, TransitionRecord.consumes,
        TransitionRecord.releases]

theorem HistoryBalanced.moved (h : HistoryBalanced db) {old : Option InvocationRecord}
    {new : InvocationRecord} {entry : TransitionRecord} (hmoved : Moved db db' old new entry) :
    HistoryBalanced db' := by
  obtain ⟨hopen, hsettled⟩ := legal_counts hmoved.fromState hmoved.toState hmoved.legal
  have hold := hmoved.wrote.old_eq
  constructor
  · intro id
    have hbefore := h.opened id
    rw [tally_append hmoved.transitions, tally_append hmoved.transitions, tally_append hmoved.transitions,
      hmoved.wrote.find, hmoved.invocationId]
    split
    · rename_i hid
      rw [← hid, hold] at hbefore
      rw [← hid]
      simp only [Option.elim] at *
      omega
    · simpa using hbefore
  · intro id
    have hbefore := h.consumed id
    rw [tally_append hmoved.transitions, hmoved.wrote.find, hmoved.invocationId]
    split
    · rename_i hid
      rw [← hid, hold] at hbefore
      rw [← hid]
      simp only [Option.elim] at *
      omega
    · simpa using hbefore

theorem HistoryBalanced.moves {allowed : TransitionRecord → Prop} (h : HistoryBalanced db)
    (hmoves : Moves allowed db db') : HistoryBalanced db' := by
  induction hmoves with
  | refl db => exact h
  | move moved _ _ ih => exact ih (h.moved moved)
  | @attach before middle _ row new wrote standing grants transitions _ ih =>
    have hcount : ∀ (count : InvocationRecord → ℕ), count new = count row → ∀ id,
        (middle.invocations.find? id).elim 0 count = (before.invocations.find? id).elim 0 count := by
      intro count hcount id
      rw [wrote.find]
      split
      · rename_i hid
        rw [← hid, wrote.old_eq]
        exact hcount
      · rfl
    refine ih ⟨fun id ↦ ?_, fun id ↦ ?_⟩
    · have hbefore := h.opened id
      rw [← hcount openCount (by simp [openCount, InvocationRecord.isOpen, standing.state]) id] at hbefore
      simpa [Db.tally, transitions] using hbefore
    · have hbefore := h.consumed id
      rw [← hcount settledCount (by simp [settledCount, InvocationRecord.isSettled, standing.state]) id] at hbefore
      simpa [Db.tally, transitions] using hbefore

theorem historyBalanced_performAll {requests : List ConnectionCall} (h : HistoryBalanced db) :
    HistoryBalanced (db.performAll requests) := by
  induction requests generalizing db with
  | nil => exact h
  | cons request rest ih =>
    suffices hnext : HistoryBalanced (db.perform request).2 from ih hnext
    unfold Db.perform
    split
    · cases hrun : (request.call.transaction request.now).run db with
      | mk result db' =>
        rcases Transaction.run_eq hrun with ⟨a, -, hok⟩ | ⟨e, -, -, rfl⟩
        · exact h.moves (transaction_moves hok)
        · exact h
    · exact h

end VirtualHaibin.Authority
