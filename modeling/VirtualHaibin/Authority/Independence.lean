import VirtualHaibin.Authority.Receipts
import VirtualHaibin.Authority.Reconcile

/-!
# Independence of a reconciliation run

What a run leaves of an invocation is a function of its row and its own lookup, and what it leaves of a
grant is determined by the rows.  So the order of the invocations shows only in the times they were
settled at and in the order of the log.
-/

namespace VirtualHaibin.Authority

open Foundation Payments Evidence

variable {keyOf : String → String → GrantKey} {platform : Platform} {options : AuthorityServiceOptions}
  {lookups : String → LookupResult} {clock clock' : String → Instants} {db db' left right : Db}
  {row : InvocationRecord} {rows rows' : List InvocationRecord}

def ReconciliationOutcome.state : ReconciliationOutcome → InvocationState
  | .confirmed _ => .CONFIRMED
  | .failed _ => .FAILED

theorem receiptedRow_kept (platform : Platform) (options : AuthorityServiceOptions) (now : ℤ)
    (row : InvocationRecord) : row.Kept (receiptedRow platform options now row) := by
  unfold receiptedRow
  split
  · exact .attached _ now row
  · exact .refl row

/-- Settling a row keeps all but its state, what it paid, its receipt and its time. -/
theorem resolvedRow_state (outcome : ReconciliationOutcome) (instants : Instants) :
    (resolvedRow platform options outcome instants row).state = outcome.state := by
  cases outcome with
  | confirmed settlement => exact (receiptedRow_kept platform options _ _).state_eq
  | failed reason => rfl

theorem resolvedRow_grantKey (outcome : ReconciliationOutcome) (instants : Instants) :
    (resolvedRow platform options outcome instants row).grantKey = row.grantKey := by
  cases outcome with
  | confirmed settlement =>
    rw [resolvedRow, (receiptedRow_kept platform options _ _).same]
    rfl
  | failed reason => rfl

theorem resolvedRow_amountAtomic (outcome : ReconciliationOutcome) (instants : Instants) :
    (resolvedRow platform options outcome instants row).amountAtomic = row.amountAtomic := by
  cases outcome with
  | confirmed settlement =>
    rw [resolvedRow, (receiptedRow_kept platform options _ _).same]
    rfl
  | failed reason => rfl

/-- The amount that the turn of a row takes out of the reservations of a grant toward a state. -/
def movedAmount (lookups : String → LookupResult) (key : GrantKey) (state : InvocationState)
    (row : InvocationRecord) : ℕ :=
  if row.grantKey = key ∧ (resolution (lookups row.invocationId) row).map ReconciliationOutcome.state = some state then
    Decimal.amount row.amountAtomic
  else 0

theorem held_settledRow (hstate : row.state = .RECONCILIATION_REQUIRED) (key : GrantKey) (instants : Instants) :
    held key (settledRow platform options (lookups row.invocationId) instants row) +
      (movedAmount lookups key .CONFIRMED row + movedAmount lookups key .FAILED row) = held key row := by
  unfold movedAmount
  cases hresolution : resolution (lookups row.invocationId) row with
  | none =>
    rw [settledRow_of_none hresolution]
    simp
  | some outcome =>
    have hopen : row.isOpen = true := by simp [InvocationRecord.isOpen, hstate]
    have hclosed : held key (resolvedRow platform options outcome instants row) = 0 := by
      apply held_eq_zero
      rw [InvocationRecord.isOpen, resolvedRow_state]
      cases outcome <;> rfl
    rw [settledRow_of_some hresolution, hclosed, held, hopen]
    cases outcome <;> simp [ReconciliationOutcome.state]

theorem spent_settledRow (hstate : row.state = .RECONCILIATION_REQUIRED) (key : GrantKey) (instants : Instants) :
    spent key (settledRow platform options (lookups row.invocationId) instants row) =
      spent key row + movedAmount lookups key .CONFIRMED row := by
  unfold movedAmount
  cases hresolution : resolution (lookups row.invocationId) row with
  | none =>
    rw [settledRow_of_none hresolution]
    simp
  | some outcome =>
    have hunspent : spent key row = 0 := spent_eq_zero (by simp [InvocationRecord.isSettled, hstate])
    rw [settledRow_of_some hresolution, hunspent, spent, InvocationRecord.isSettled, resolvedRow_state,
      resolvedRow_grantKey, resolvedRow_amountAtomic]
    cases outcome <;> simp [ReconciliationOutcome.state]

def movedTotal (lookups : String → LookupResult) (key : GrantKey) (state : InvocationState)
    (rows : List InvocationRecord) : ℕ :=
  (rows.map (movedAmount lookups key state)).sum

theorem Swept.held_eq (h : Swept keyOf platform options lookups clock db db' rows)
    (hstate : ∀ row ∈ rows, row.state = .RECONCILIATION_REQUIRED) (key : GrantKey) :
    db'.invocations.sum (held key) + (movedTotal lookups key .CONFIRMED rows + movedTotal lookups key .FAILED rows) =
      db.invocations.sum (held key) := by
  have hsum := h.rewrote.sum (held key)
  have hrows : (rows.map (held key)).sum =
      (rows.map (held key ∘ fun row ↦
        settledRow platform options (lookups row.invocationId) (clock row.invocationId) row)).sum +
      (movedTotal lookups key .CONFIRMED rows + movedTotal lookups key .FAILED rows) := by
    rw [movedTotal, movedTotal, ← List.sum_map_add, ← List.sum_map_add]
    refine congrArg List.sum (List.map_congr_left fun row hmem ↦ ?_)
    exact (held_settledRow (hstate row hmem) key (clock row.invocationId)).symm
  omega

theorem Swept.spent_eq (h : Swept keyOf platform options lookups clock db db' rows)
    (hstate : ∀ row ∈ rows, row.state = .RECONCILIATION_REQUIRED) (key : GrantKey) :
    db'.invocations.sum (spent key) = db.invocations.sum (spent key) + movedTotal lookups key .CONFIRMED rows := by
  have hsum := h.rewrote.sum (spent key)
  have hrows : (rows.map (spent key ∘ fun row ↦
        settledRow platform options (lookups row.invocationId) (clock row.invocationId) row)).sum =
      (rows.map (spent key)).sum + movedTotal lookups key .CONFIRMED rows := by
    rw [movedTotal, ← List.sum_map_add]
    refine congrArg List.sum (List.map_congr_left fun row hmem ↦ ?_)
    exact spent_settledRow (hstate row hmem) key (clock row.invocationId)
  omega

/-- The reserved total of a grant falls by what the run moved, and it was reserved. -/
theorem Swept.reservedTotal_eq (h : Swept keyOf platform options lookups clock db db' rows)
    (hbalanced : Balanced keyOf db) (hstate : ∀ row ∈ rows, row.state = .RECONCILIATION_REQUIRED) (key : GrantKey) :
    movedTotal lookups key .CONFIRMED rows + movedTotal lookups key .FAILED rows ≤
        Decimal.amount (db.reservedTotal key) ∧
      db'.reservedTotal key = (Decimal.amount (db.reservedTotal key) -
        (movedTotal lookups key .CONFIRMED rows + movedTotal lookups key .FAILED rows)).repr := by
  have hheld := h.held_eq hstate key
  rw [h.balanced.reservedTotal_eq, hbalanced.reservedTotal_eq, Decimal.amount_repr]
  refine ⟨by omega, ?_⟩
  congr 1
  omega

/-- The consumed total of a grant rises by what the run confirmed. -/
theorem Swept.consumedTotal_eq (h : Swept keyOf platform options lookups clock db db' rows)
    (hbalanced : Balanced keyOf db) (hstate : ∀ row ∈ rows, row.state = .RECONCILIATION_REQUIRED) (key : GrantKey) :
    db'.consumedTotal key =
      (Decimal.amount (db.consumedTotal key) + movedTotal lookups key .CONFIRMED rows).repr := by
  rw [h.balanced.consumedTotal_eq, hbalanced.consumedTotal_eq, Decimal.amount_repr, h.spent_eq hstate]

/-! ## Two orders -/

def InvocationRecord.timeless (row : InvocationRecord) : InvocationRecord := { row with updatedAt := 0 }

theorem held_timeless (key : GrantKey) (row : InvocationRecord) : held key row.timeless = held key row := rfl

theorem spent_timeless (key : GrantKey) (row : InvocationRecord) : spent key row.timeless = spent key row := rfl

def GrantRecord.timeless (grant : GrantRecord) : GrantRecord := { grant with updatedAt := 0 }

def TransitionRecord.timeless (entry : TransitionRecord) : TransitionRecord := { entry with at_ := 0 }

/-- Two databases that went on from one differ at most in the times of their rows, and in the times and the
order of what they logged since. -/
structure SameButForTimes (db left right : Db) : Prop where
  invocations : ∀ id, (left.invocations.find? id).map InvocationRecord.timeless =
    (right.invocations.find? id).map InvocationRecord.timeless
  grants : ∀ key, (left.grants.find? key).map GrantRecord.timeless =
    (right.grants.find? key).map GrantRecord.timeless
  transitions : ∃ logged logged', left.transitions = db.transitions ++ logged ∧
    right.transitions = db.transitions ++ logged' ∧
    (logged.map TransitionRecord.timeless).Perm (logged'.map TransitionRecord.timeless)

theorem resolvedRow_timeless (outcome : ReconciliationOutcome) (instants instants' : Instants) :
    (resolvedRow platform options outcome instants row).timeless =
      (resolvedRow platform options outcome instants' row).timeless := by
  cases outcome with
  | failed reason => rfl
  | confirmed settlement =>
    -- What is signed states the times of the decision, not those of the settlement.
    have hsigned : signReceipt platform options (reconciledRow row (.confirmed settlement) instants.settled) =
      signReceipt platform options (reconciledRow row (.confirmed settlement) instants'.settled) := rfl
    dsimp only [resolvedRow, receiptedRow]
    rw [hsigned]
    cases signReceipt platform options (reconciledRow row (.confirmed settlement) instants'.settled) with
    | none => rfl
    | some receipt =>
      cases hreceipt : row.receipt <;> simp [attachedRow, reconciledRow, InvocationRecord.timeless, hreceipt]

theorem settledRow_timeless (result : LookupResult) (instants instants' : Instants) (row : InvocationRecord) :
    (settledRow platform options result instants row).timeless =
      (settledRow platform options result instants' row).timeless := by
  cases hresolution : resolution result row with
  | none => rw [settledRow_of_none hresolution, settledRow_of_none hresolution]
  | some outcome =>
    rw [settledRow_of_some hresolution, settledRow_of_some hresolution]
    exact resolvedRow_timeless outcome instants instants'

theorem settledEntries_timeless (result : LookupResult) (instants instants' : Instants) (row : InvocationRecord) :
    (settledEntries result instants row).map TransitionRecord.timeless =
      (settledEntries result instants' row).map TransitionRecord.timeless := by
  unfold settledEntries
  cases resolution result row with
  | none => rfl
  | some outcome => cases outcome <;> rfl

/-- A grant is determined by its terms and the rows under it. -/
theorem grants_timeless (hleft : Balanced keyOf left) (hright : Balanced keyOf right)
    (hleftGrants : db.SameGrants left) (hrightGrants : db.SameGrants right) {key : GrantKey}
    (hheld : left.invocations.sum (held key) = right.invocations.sum (held key))
    (hspent : left.invocations.sum (spent key) = right.invocations.sum (spent key)) :
    (left.grants.find? key).map GrantRecord.timeless = (right.grants.find? key).map GrantRecord.timeless := by
  have horigin := (hleftGrants key).trans (hrightGrants key).symm
  cases hgrant : left.grants.find? key with
  | none =>
    rw [hgrant, Option.map_none, eq_comm, Option.map_eq_none_iff] at horigin
    rw [horigin]
  | some grant =>
    rw [hgrant, Option.map_some, eq_comm, Option.map_eq_some_iff] at horigin
    obtain ⟨grant', hgrant', horigin⟩ := horigin
    obtain ⟨-, hreserved, hconsumed⟩ := hleft.grant key grant hgrant
    obtain ⟨-, hreserved', hconsumed'⟩ := hright.grant key grant' hgrant'
    have hreservedEq : grant.reservedAtomic = grant'.reservedAtomic := by rw [hreserved, hreserved', hheld]
    have hconsumedEq : grant.consumedAtomic = grant'.consumedAtomic := by rw [hconsumed, hconsumed', hspent]
    obtain ⟨hterms, hcreated⟩ := Prod.mk.inj horigin
    rw [hgrant', Option.map_some, Option.map_some, GrantRecord.timeless, GrantRecord.timeless, hterms, hcreated,
      hreservedEq, hconsumedEq]

/-- Two runs over the same rows in any two orders leave the same but for times. -/
theorem Swept.sameButForTimes (h : Swept keyOf platform options lookups clock db left rows)
    (h' : Swept keyOf platform options lookups clock' db right rows') (hperm : rows.Perm rows') :
    SameButForTimes db left right where
  invocations := h.rewrote.view_eq h'.rewrote hperm InvocationRecord.timeless fun row ↦
    settledRow_timeless _ _ _ row
  grants key := by
    refine grants_timeless h.balanced h'.balanced h.grants h'.grants ?_ ?_
    · refine h.rewrote.sum_eq h'.rewrote hperm (held key) fun row ↦ ?_
      rw [← held_timeless, settledRow_timeless _ _ (clock' row.invocationId), held_timeless]
    · refine h.rewrote.sum_eq h'.rewrote hperm (spent key) fun row ↦ ?_
      rw [← spent_timeless, settledRow_timeless _ _ (clock' row.invocationId), spent_timeless]
  transitions := by
    refine ⟨_, _, h.transitions, h'.transitions, ?_⟩
    have hentries : (fun row : InvocationRecord ↦
        (settledEntries (lookups row.invocationId) (clock row.invocationId) row).map TransitionRecord.timeless) =
        fun row ↦ (settledEntries (lookups row.invocationId) (clock' row.invocationId) row).map
          TransitionRecord.timeless := by
      funext row
      apply settledEntries_timeless
    rw [List.map_flatMap, List.map_flatMap, hentries]
    exact hperm.flatMap_right _

/-! ## A run over the blocked invocations -/

theorem found_of_blocked (hperm : rows.Perm db.listReconciliationRequired) (hmem : row ∈ rows) :
    Found db row.invocationId .RECONCILIATION_REQUIRED row := by
  obtain ⟨hfind, hstate⟩ := mem_selectByState.1 (hperm.mem_iff.1 hmem)
  exact ⟨hfind, hstate⟩

theorem reconcileAll_swept_of_perm (platform : Platform)
    (hsigner : options.authoritySigner = options.authorityAddress) (lookups : String → LookupResult)
    (clock : String → Instants) (h : Balanced keyOf db) (hperm : rows.Perm db.listReconciliationRequired) :
    ∃ db', reconcileAll platform options lookups clock rows db =
        (.ok (rows.map fun row ↦ reportOf (lookups row.invocationId) row), db') ∧
      Swept keyOf platform options lookups clock db db' rows := by
  have hnodup : (rows.map InvocationRecord.invocationId).Nodup :=
    (hperm.map InvocationRecord.invocationId).nodup_iff.2 (nodup_selectByState .RECONCILIATION_REQUIRED)
  exact reconcileAll_swept platform hsigner lookups clock h hnodup fun row hmem ↦ found_of_blocked hperm hmem

/-- What is still blocked after a run is what its lookups did not decide. -/
theorem Swept.unresolved_of_blocked (h : Swept keyOf platform options lookups clock db db' rows)
    (hperm : rows.Perm db.listReconciliationRequired) (hmem : row ∈ db'.listReconciliationRequired) :
    resolution (lookups row.invocationId) row = none := by
  obtain ⟨hfind, hstate⟩ := mem_selectByState.1 hmem
  rw [h.rewrote.find, Option.map_eq_some_iff] at hfind
  obtain ⟨old, hold, hrow⟩ := hfind
  have hid : old.invocationId = row.invocationId := Table.key_of_find? hold
  by_cases hlisted : row.invocationId ∈ rows.map InvocationRecord.invocationId
  · rw [if_pos hlisted] at hrow
    cases hresolution : resolution (lookups old.invocationId) old with
    | none =>
      rw [settledRow_of_none hresolution] at hrow
      rw [← hrow, hresolution]
    | some outcome =>
      rw [settledRow_of_some hresolution] at hrow
      rw [← hrow, resolvedRow_state] at hstate
      cases outcome <;> cases hstate
  · rw [if_neg hlisted] at hrow
    have hblocked : old ∈ db.listReconciliationRequired := mem_selectByState.2 ⟨hid ▸ hold, hrow ▸ hstate⟩
    exact absurd (hid ▸ List.mem_map_of_mem (hperm.mem_iff.2 hblocked)) hlisted

/-- A second run with the same lookups finds nothing to change. -/
theorem Swept.reconcileOnce_again (h : Swept keyOf platform options lookups clock db db' rows)
    (hsigner : options.authoritySigner = options.authorityAddress) (hperm : rows.Perm db.listReconciliationRequired)
    (clock' : String → Instants) :
    reconcileOnce platform options lookups clock' db' =
      (.ok (db'.listReconciliationRequired.map fun row ↦ reportOf (lookups row.invocationId) row), db') := by
  obtain ⟨db'', hagain, hswept⟩ := reconcileAll_swept_of_perm platform hsigner lookups clock' h.balanced (.refl _)
  rw [reconcileOnce, hagain, hswept.unresolved fun row hmem ↦ h.unresolved_of_blocked hperm hmem]

/-- What a run over some rows leaves of the rows and the grants. -/
structure RunEffect (platform : Platform) (options : AuthorityServiceOptions) (lookups : String → LookupResult)
    (clock : String → Instants) (db db' : Db) (rows : List InvocationRecord) : Prop where
  settled : ∀ row ∈ rows, db'.invocations.find? row.invocationId =
    some (settledRow platform options (lookups row.invocationId) (clock row.invocationId) row)
  state : ∀ row ∈ rows, ∀ new, db'.invocations.find? row.invocationId = some new →
    new.state = (resolution (lookups row.invocationId) row).elim .RECONCILIATION_REQUIRED ReconciliationOutcome.state
  others : ∀ id ∉ rows.map InvocationRecord.invocationId, db'.invocations.find? id = db.invocations.find? id
  grants : db.SameGrants db'
  reserved : ∀ key,
    movedTotal lookups key .CONFIRMED rows + movedTotal lookups key .FAILED rows ≤
        Decimal.amount (db.reservedTotal key) ∧
      db'.reservedTotal key = (Decimal.amount (db.reservedTotal key) -
        (movedTotal lookups key .CONFIRMED rows + movedTotal lookups key .FAILED rows)).repr
  consumed : ∀ key, db'.consumedTotal key =
    (Decimal.amount (db.consumedTotal key) + movedTotal lookups key .CONFIRMED rows).repr

theorem Swept.runEffect (h : Swept keyOf platform options lookups clock db db' rows) (hbalanced : Balanced keyOf db)
    (hperm : rows.Perm db.listReconciliationRequired) : RunEffect platform options lookups clock db db' rows := by
  have hstate : ∀ row ∈ rows, row.state = .RECONCILIATION_REQUIRED := fun row hmem ↦
    (found_of_blocked hperm hmem).state_eq
  have hsettled : ∀ row ∈ rows, db'.invocations.find? row.invocationId =
      some (settledRow platform options (lookups row.invocationId) (clock row.invocationId) row) := fun row hmem ↦
    h.rewrote.find_of_mem hmem (found_of_blocked hperm hmem).find
  refine ⟨hsettled, fun row hmem new hnew ↦ ?_, fun id hnot ↦ h.rewrote.find_of_not_mem hnot, h.grants,
    h.reservedTotal_eq hbalanced hstate, h.consumedTotal_eq hbalanced hstate⟩
  obtain rfl := Option.some.inj ((hsettled row hmem).symm.trans hnew)
  cases hresolution : resolution (lookups row.invocationId) row with
  | none =>
    rw [settledRow_of_none hresolution]
    exact hstate row hmem
  | some outcome =>
    rw [settledRow_of_some hresolution]
    exact resolvedRow_state outcome _

/-- A run over the blocked invocations in any order.  Every one gets its report, its own lookup decides its
row, the counters follow, any other order leaves the same but for times, and a second run changes nothing. -/
theorem reconcileAll_independent (requests : List ConnectionCall) (hagree : GrantsAgree requests)
    (htotals : TotalsAreU64 requests) (hdb : Db.empty.performAll requests = db) (platform : Platform)
    (hsigner : options.authoritySigner = options.authorityAddress) (lookups : String → LookupResult)
    (clock : String → Instants) (hperm : rows.Perm db.listReconciliationRequired) :
    ∃ db', reconcileAll platform options lookups clock rows db =
        (.ok (rows.map fun row ↦ reportOf (lookups row.invocationId) row), db') ∧
      (rows.map fun row ↦ (reportOf (lookups row.invocationId) row).invocationId) =
        rows.map InvocationRecord.invocationId ∧
      RunEffect platform options lookups clock db db' rows ∧
      (∀ rows' clock', rows'.Perm db.listReconciliationRequired →
        ∃ reports db'', reconcileAll platform options lookups clock' rows' db = (.ok reports, db'') ∧
          SameButForTimes db db' db'') ∧
      ∀ clock', reconcileOnce platform options lookups clock' db' =
        (.ok (db'.listReconciliationRequired.map fun row ↦ reportOf (lookups row.invocationId) row), db') := by
  have hbalanced : Balanced (namedGrant requests) db := hdb ▸
    Tallied.empty.performAll fun request hmem input hinput ↦ inputSound_of_mem hagree htotals hmem hinput
  obtain ⟨db', hrun, hswept⟩ := reconcileAll_swept_of_perm platform hsigner lookups clock hbalanced hperm
  refine ⟨db', hrun, List.map_congr_left fun row _ ↦ reportOf_invocationId _ row, hswept.runEffect hbalanced hperm,
    fun rows' clock' hperm' ↦ ?_, hswept.reconcileOnce_again hsigner hperm⟩
  obtain ⟨db'', hrun', hswept'⟩ := reconcileAll_swept_of_perm platform hsigner lookups clock' hbalanced hperm'
  exact ⟨_, db'', hrun', hswept.sameButForTimes hswept' (hperm.trans hperm'.symm)⟩

namespace Sample

/-- A reservation of 5 base units whose payment was sent and never observed. -/
def interrupted (invocationId : String) : List ConnectionCall :=
  [⟨0, .reserve { reportReservation with invocationId := invocationId } fun _ ↦ some .allowed, 1, true⟩,
    ⟨0, .recordPaymentAttempt invocationId attempt none, 2, true⟩,
    ⟨0, .markReconciliationRequired invocationId "no settlement", 3, true⟩]

def interruptions : List ConnectionCall := interrupted "first" ++ interrupted "second"

def blocked : Db := Db.empty.performAll interruptions

theorem interruptions_input {request : ConnectionCall} (hmem : request ∈ interruptions) {input : ReserveInput}
    (hinput : request.call.reserveInput? = some input) : input.grant = reportReservation.grant := by
  simp only [interruptions, interrupted, List.cons_append, List.nil_append, List.mem_cons, List.not_mem_nil,
    or_false] at hmem
  rcases hmem with rfl | rfl | rfl | rfl | rfl | rfl <;> cases hinput <;> rfl

theorem interruptions_agree : GrantsAgree interruptions := by
  intro request hmem other hother input input' hinput hinput' _ _
  rw [ReserveInput.grantKey, ReserveInput.grantKey, interruptions_input hmem hinput,
    interruptions_input hother hinput']

theorem interruptions_totals : TotalsAreU64 interruptions := by
  intro request hmem input hinput
  rw [interruptions_input hmem hinput]
  exact ⟨20, by decide, by decide⟩

/-- The first lookup fails; the second payment settled. -/
def halfAnswered (invocationId : String) : LookupResult :=
  if invocationId = "first" then .thrown "timeout" else .answered (.confirmed settlement)

/-- The clock of a run that settles one invocation at 10 and the others after it. -/
def startingWith (first invocationId : String) : Instants := if invocationId = first then ⟨10, 11⟩ else ⟨20, 21⟩

/-- The invocation whose lookup failed does not hold up the other. -/
theorem reconcileAll_independent_halfAnswered :
    ∃ reports db', reconcileAll Sample.platform Sample.options halfAnswered (startingWith "first")
        blocked.listReconciliationRequired blocked = (.ok reports, db') ∧
      reports = [⟨"first", .lookup_error, some "timeout"⟩, ⟨"second", .confirmed, some settlement.transactionId⟩] ∧
      db'.reservedTotal ("issuer", "grant") = "5" ∧ db'.consumedTotal ("issuer", "grant") = "5" := by
  have hsigner : Sample.options.authoritySigner = Sample.options.authorityAddress := rfl
  obtain ⟨db', hrun, -, heffect, -⟩ := reconcileAll_independent interruptions interruptions_agree interruptions_totals
    rfl Sample.platform hsigner halfAnswered (startingWith "first") (.refl _)
  refine ⟨_, db', hrun, ?_, ?_, ?_⟩
  · decide
  · rw [(heffect.reserved _).2]
    decide
  · rw [heffect.consumed]
    decide

def expired (_ : String) : LookupResult := .answered (.expired "77")

def inOrder : Db :=
  (reconcileAll Sample.platform Sample.options expired (startingWith "first") blocked.listReconciliationRequired
    blocked).2

def inReverse : Db :=
  (reconcileAll Sample.platform Sample.options expired (startingWith "second")
    blocked.listReconciliationRequired.reverse blocked).2

/-- One run in its two orders, each with the clock it reads: the database records which it was. -/
theorem order_recorded :
    inOrder ≠ inReverse ∧
      (inOrder.invocations.find? "first").map InvocationRecord.updatedAt = some 10 ∧
      (inReverse.invocations.find? "first").map InvocationRecord.updatedAt = some 20 ∧
      (inOrder.transitions.drop 6).map TransitionRecord.invocationId = ["first", "second"] ∧
      (inReverse.transitions.drop 6).map TransitionRecord.invocationId = ["second", "first"] := by
  have hleft : (inOrder.invocations.find? "first").map InvocationRecord.updatedAt = some 10 := by decide
  have hright : (inReverse.invocations.find? "first").map InvocationRecord.updatedAt = some 20 := by decide
  refine ⟨fun heq ↦ ?_, hleft, hright, by decide, by decide⟩
  rw [heq, hright] at hleft
  cases hleft

end Sample

end VirtualHaibin.Authority
