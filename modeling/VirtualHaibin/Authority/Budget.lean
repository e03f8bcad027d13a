import VirtualHaibin.Authority.BudgetRuns

/-!
# Solvency and the budget theorem

A counter below a reservation would be an exception of the operations that move money.  Under the
accounting invariant no call raises it, and the remaining budget is the printed difference of the
pinned total and the two counters.
-/

namespace VirtualHaibin.Authority

open Foundation Mandate Payments Evidence

variable {keyOf : String → String → GrantKey} {db db' : Db}

/-! ## No shortfall -/

def StoreError.isShortfall : StoreError → Bool
  | .reservedBelow _ _ => true
  | _ => false

/-- A transaction that never reports a shortfall. -/
def NoShortfall {α : Type} (transaction : Transaction α) : Prop :=
  ∀ db e, transaction db = .error e → e.isShortfall = false

theorem Transaction.bind_eq_error {α β : Type} {x : Transaction α} {f : α → Transaction β} {e : StoreError} :
    (x >>= f) db = .error e ↔ x db = .error e ∨ ∃ a db', x db = .ok (a, db') ∧ f a db' = .error e := by
  simp only [bind, StateT.bind]
  cases x db with
  | error e' => simp [Except.bind]
  | ok pair =>
    obtain ⟨a, db'⟩ := pair
    simp [Except.bind]

theorem NoShortfall.seq {α β : Type} {x : Transaction α} {f : α → Transaction β} (hx : NoShortfall x)
    (hf : ∀ a, NoShortfall (f a)) : NoShortfall (x >>= f) := by
  intro db e h
  rcases Transaction.bind_eq_error.1 h with h | ⟨a, db', -, h⟩
  · exact hx db e h
  · exact hf a db' e h

/-- A shortfall of a sequence comes from its continuation when the first part has none. -/
theorem NoShortfall.bind_error {α β : Type} {x : Transaction α} {f : α → Transaction β} {e : StoreError}
    (hx : NoShortfall x) (h : (x >>= f) db = .error e) (hshort : e.isShortfall = true) :
    ∃ a db', x db = .ok (a, db') ∧ f a db' = .error e := by
  rcases Transaction.bind_eq_error.1 h with h | hrest
  · rw [hx db e h] at hshort
    cases hshort
  · exact hrest

theorem NoShortfall.pure {α : Type} (a : α) : NoShortfall (Pure.pure a) := by
  intro db e h
  cases h

theorem NoShortfall.throw {α : Type} {error : StoreError} (h : error.isShortfall = false) :
    NoShortfall (throw error : Transaction α) := by
  intro db e heq
  cases heq
  exact h

theorem NoShortfall.ite {α : Type} {p : Prop} [Decidable p] {x y : Transaction α}
    (hx : NoShortfall x) (hy : NoShortfall y) : NoShortfall (if p then x else y) := by
  split
  · exact hx
  · exact hy

theorem NoShortfall.get : NoShortfall (get : Transaction Db) := by
  intro db e h
  cases h

theorem NoShortfall.set (after : Db) : NoShortfall (set after : Transaction PUnit) := by
  intro db e h
  cases h

theorem NoShortfall.modify (change : Db → Db) :
    NoShortfall (modify change : Transaction PUnit) := by
  intro db e h
  cases h

theorem noShortfall_requireInvocation {invocationId : String} :
    NoShortfall (requireInvocation invocationId) := by
  refine NoShortfall.seq (NoShortfall.seq .get fun _ ↦ .pure _) fun found ↦ ?_
  cases found with
  | none => exact .throw rfl
  | some row => exact .pure row

theorem noShortfall_requireState {invocationId action : String}
    {expected : InvocationState} : NoShortfall (requireState invocationId expected action) :=
  NoShortfall.seq noShortfall_requireInvocation fun _ ↦ .ite (.pure _) (.throw rfl)

theorem noShortfall_requireGrant {key : GrantKey} : NoShortfall (requireGrant key) := by
  refine NoShortfall.seq (NoShortfall.seq .get fun _ ↦ .pure _) fun found ↦ ?_
  cases found with
  | none => exact .throw rfl
  | some grant => exact .pure grant

theorem noShortfall_bigInt {text : String} : NoShortfall (bigInt text) := by
  unfold bigInt
  cases Decimal.bigInt text with
  | none => exact .throw rfl
  | some value => exact .pure value

theorem noShortfall_updateGrantAmounts {key : GrantKey} {reserved consumed : String}
    {now : ℤ} : NoShortfall (updateGrantAmounts key reserved consumed now) :=
  NoShortfall.seq .get fun _ ↦ .ite (.set _) (.throw rfl)

theorem noShortfall_insertGrant {grant : GrantRecord} :
    NoShortfall (insertGrant grant) := by
  refine NoShortfall.seq .get fun db ↦ .ite ?_ (.throw rfl)
  cases db.grants.insert? grant with
  | none => exact .throw rfl
  | some grants => exact .set _

theorem noShortfall_insertInvocation {row : InvocationRecord} :
    NoShortfall (insertInvocation row) := by
  refine NoShortfall.seq .get fun db ↦ .ite ?_ (.throw rfl)
  cases db.invocations.insert? row with
  | none => exact .throw rfl
  | some invocations => exact .set _

theorem noShortfall_updateInvocation {invocationId action : String}
    {selected : InvocationRecord → Bool} {change : InvocationRecord → InvocationRecord}
    {hkey : ∀ row, (change row).invocationId = row.invocationId} :
    NoShortfall (updateInvocation invocationId selected change action hkey) := by
  refine NoShortfall.seq .get fun db ↦ ?_
  cases (db.invocations.find? invocationId).filter selected with
  | none => exact .throw rfl
  | some row => exact .ite (.set _) (.throw rfl)

theorem noShortfall_recordTransition {invocationId : String}
    {fromState : Option InvocationState} {toState : InvocationState} {reason : Option String} {now : ℤ} :
    NoShortfall (recordTransition invocationId fromState toState reason now) :=
  .modify _

theorem noShortfall_transitionState {invocationId reason : String}
    {fromState toState : InvocationState} {now : ℤ} :
    NoShortfall (transitionState invocationId fromState toState reason now) :=
  NoShortfall.seq noShortfall_updateInvocation fun _ ↦ noShortfall_recordTransition

theorem noShortfall_writeDecision {input : ReserveInput}
    {existing : Option InvocationRecord} {state : InvocationState} {reasonCodes : List String} {now : ℤ} :
    NoShortfall (writeDecision input existing state reasonCodes now) := by
  cases existing with
  | none => exact NoShortfall.seq noShortfall_insertInvocation fun _ ↦ noShortfall_recordTransition
  | some row => exact NoShortfall.seq noShortfall_updateInvocation fun _ ↦ noShortfall_recordTransition

theorem noShortfall_pinGrant {terms : GrantTerms} {now : ℤ} :
    NoShortfall (pinGrant terms now) := by
  refine NoShortfall.seq (NoShortfall.seq .get fun _ ↦ .pure _) fun found ↦ ?_
  cases found with
  | none =>
    exact NoShortfall.seq noShortfall_insertGrant fun _ ↦
      NoShortfall.seq noShortfall_requireGrant fun _ ↦ .pure _
  | some grant => exact .ite (.pure _) (.pure _)

theorem noShortfall_decideBudget {input : ReserveInput} {evaluate : BudgetEvaluator}
    {existing : Option InvocationRecord} {grant : GrantRecord} {now : ℤ} :
    NoShortfall (decideBudget input evaluate existing grant now) := by
  refine NoShortfall.seq noShortfall_bigInt fun reserved ↦
    NoShortfall.seq noShortfall_bigInt fun consumed ↦ ?_
  cases evaluate (reserved + consumed).repr with
  | none => exact .throw rfl
  | some decision =>
    cases decision with
    | refused reasonCodes =>
      exact NoShortfall.seq noShortfall_writeDecision fun _ ↦
        NoShortfall.seq noShortfall_requireInvocation fun _ ↦ .pure _
    | allowed =>
      refine NoShortfall.seq noShortfall_bigInt fun amount ↦
        NoShortfall.seq noShortfall_bigInt fun maxTotal ↦ .ite (.throw rfl) ?_
      exact NoShortfall.seq noShortfall_updateGrantAmounts fun _ ↦
        NoShortfall.seq noShortfall_writeDecision fun _ ↦
          NoShortfall.seq noShortfall_requireInvocation fun _ ↦ .pure _

theorem noShortfall_reserve {input : ReserveInput} {evaluate : BudgetEvaluator} {now : ℤ} :
    NoShortfall (reserve input evaluate now) := by
  refine NoShortfall.seq (NoShortfall.seq .get fun _ ↦ .pure _) fun existing ↦ ?_
  cases existing.filter fun row ↦ !retryingFailed input row with
  | some row => exact .pure _
  | none =>
    refine NoShortfall.seq noShortfall_pinGrant fun pin ↦ ?_
    cases pin with
    | inl grant => exact .pure _
    | inr grant => exact noShortfall_decideBudget

/-- The counter of an open row covers its amount. -/
theorem Balanced.covers (h : Balanced keyOf db) {row : InvocationRecord} (hopen : row.isOpen = true)
    (hfind : db.invocations.find? row.invocationId = some row) {grant : GrantRecord}
    (hgrant : db.grants.find? row.grantKey = some grant) {amount reserved : ℤ}
    (hamount : Decimal.bigInt row.amountAtomic = some amount)
    (hreserved : Decimal.bigInt grant.reservedAtomic = some reserved) : amount ≤ reserved := by
  obtain rfl := bigInt_canonical (h.row _ _ hfind).canonical hamount
  rw [(h.grant _ _ hgrant).reserved_eq, Decimal.bigInt_repr] at hreserved
  obtain rfl := Option.some.inj hreserved
  have hle := Table.le_sum hfind (held row.grantKey)
  simp only [held, hopen, and_self, if_true] at hle
  exact_mod_cast hle

/-- A shortfall while a reservation is being settled is a counter below its amount. -/
theorem settle_error {row : InvocationRecord} {rest : GrantRecord → ℤ → ℤ → Transaction Unit}
    (hrest : ∀ grant amount reserved, NoShortfall (rest grant amount reserved)) {e : StoreError}
    (h : (do
      let grant ← requireGrant row.grantKey
      let amount ← bigInt row.amountAtomic
      let reserved ← bigInt grant.reservedAtomic
      if reserved < amount then throw (.reservedBelow grant.grantId row.invocationId)
      else rest grant amount reserved : Transaction Unit) db = .error e)
    (hshort : e.isShortfall = true) :
    ∃ grant amount reserved, db.grants.find? row.grantKey = some grant ∧
      Decimal.bigInt row.amountAtomic = some amount ∧
      Decimal.bigInt grant.reservedAtomic = some reserved ∧ reserved < amount := by
  obtain ⟨grant, db₁, hgrant, h₁⟩ := noShortfall_requireGrant.bind_error h hshort
  obtain ⟨hfound, rfl⟩ := requireGrant_ok hgrant
  obtain ⟨amount, db₂, hamount, h₂⟩ := noShortfall_bigInt.bind_error h₁ hshort
  obtain ⟨hamount', rfl⟩ := bigInt_ok hamount
  obtain ⟨reserved, db₃, hreserved, h₃⟩ := noShortfall_bigInt.bind_error h₂ hshort
  obtain ⟨hreserved', rfl⟩ := bigInt_ok hreserved
  split at h₃
  · rename_i hlt
    exact ⟨grant, amount, reserved, hfound, hamount', hreserved', hlt⟩
  · rw [hrest grant amount reserved _ e h₃] at hshort
    cases hshort

theorem Balanced.noShortfall_consume (h : Balanced keyOf db) {row : InvocationRecord}
    (hopen : row.isOpen = true) (hfind : db.invocations.find? row.invocationId = some row) {now : ℤ}
    {e : StoreError} (herror : consumeReservation row now db = .error e) : e.isShortfall = false := by
  by_contra hshort
  obtain ⟨grant, amount, reserved, hgrant, hamount, hreserved, hlt⟩ :=
    settle_error (fun grant amount reserved ↦ noShortfall_bigInt.seq fun consumed ↦
      noShortfall_updateGrantAmounts) herror (by simpa using hshort)
  exact absurd (h.covers hopen hfind hgrant hamount hreserved) (not_le.2 hlt)

theorem Balanced.noShortfall_release (h : Balanced keyOf db) {row : InvocationRecord}
    (hopen : row.isOpen = true) (hfind : db.invocations.find? row.invocationId = some row) {now : ℤ}
    {e : StoreError} (herror : releaseReservation row now db = .error e) : e.isShortfall = false := by
  by_contra hshort
  obtain ⟨grant, amount, reserved, hgrant, hamount, hreserved, hlt⟩ :=
    settle_error (fun grant amount reserved ↦ noShortfall_updateGrantAmounts) herror (by simpa using hshort)
  exact absurd (h.covers hopen hfind hgrant hamount hreserved) (not_le.2 hlt)

/-- An operation that finds an open row, settles it without a shortfall and then writes. -/
theorem settled_noShortfall {α : Type} {invocationId action : String} {state : InvocationState}
    {settle : InvocationRecord → Transaction Unit} {rest : Unit → Transaction α}
    (hopen : state = .RESERVED ∨ state = .RECONCILIATION_REQUIRED)
    (hsettle : ∀ row e, row.isOpen = true → db.invocations.find? row.invocationId = some row →
      settle row db = .error e → e.isShortfall = false)
    (hrest : ∀ done, NoShortfall (rest done)) {e : StoreError}
    (h : (do
      let row ← requireState invocationId state action
      let done ← settle row
      rest done : Transaction α) db = .error e) : e.isShortfall = false := by
  by_contra hshort
  rw [Bool.not_eq_false] at hshort
  obtain ⟨row, db₁, hrow, h₁⟩ := noShortfall_requireState.bind_error h hshort
  obtain ⟨hfind, hstate, rfl⟩ := requireState_ok hrow
  obtain rfl : row.invocationId = invocationId := Table.key_of_find? hfind
  have hopenRow : row.isOpen = true := by
    rcases hopen with rfl | rfl <;> simp [InvocationRecord.isOpen, hstate]
  rcases Transaction.bind_eq_error.1 h₁ with h₂ | ⟨done, db₂, -, h₂⟩
  · rw [hsettle row e hopenRow hfind h₂] at hshort
    cases hshort
  · rw [hrest done db₂ e h₂] at hshort
    cases hshort

theorem discard_error {α : Type} {x : Transaction α} {e : StoreError}
    (h : (do let _ ← x : Transaction Unit) db = .error e) : x db = .error e := by
  rcases Transaction.bind_eq_error.1 h with h | ⟨a, db', -, h⟩
  · exact h
  · cases h

theorem noShortfall_recoverRow (h : Balanced keyOf db) {reason : String} {now : ℤ} {result : RecoveryResult}
    {row : InvocationRecord} (hfound : Found db row.invocationId .RESERVED row) {e : StoreError}
    (herror : recoverRow reason now result row db = .error e) : e.isShortfall = false := by
  by_contra hshort
  rw [Bool.not_eq_false] at hshort
  unfold recoverRow at herror
  split at herror
  · have hall : NoShortfall (do
        transitionState row.invocationId .RESERVED .RECONCILIATION_REQUIRED reason now
        return { result with
          reconciliationRequired := result.reconciliationRequired ++ [row.invocationId] } :
            Transaction RecoveryResult) := noShortfall_transitionState.seq fun _ ↦ .pure _
    rw [hall db e herror] at hshort
    cases hshort
  · obtain ⟨other, db₁, hrequire, h₁⟩ := noShortfall_requireInvocation.bind_error herror hshort
    obtain ⟨hfind, rfl⟩ := requireInvocation_ok.1 hrequire
    rw [hfound.find] at hfind
    cases hfind
    rcases Transaction.bind_eq_error.1 h₁ with h₂ | ⟨done, db₂, -, h₂⟩
    · rw [h.noShortfall_release (by simp [InvocationRecord.isOpen, hfound.state_eq]) hfound.find h₂] at hshort
      cases hshort
    · rw [(noShortfall_transitionState.seq fun _ ↦ .pure _ : NoShortfall _) db₂ e h₂] at hshort
      cases hshort

theorem noShortfall_recoverRows {reason : String} {now : ℤ} {rows : List InvocationRecord} :
    ∀ {db : Db} {result : RecoveryResult} {e : StoreError}, Balanced keyOf db →
      (∀ row ∈ rows, Found db row.invocationId .RESERVED row) →
      (rows.map InvocationRecord.invocationId).Nodup →
      (rows.foldlM (recoverRow reason now) result : Transaction RecoveryResult) db = .error e →
      e.isShortfall = false := by
  induction rows with
  | nil =>
    intro db result e _ _ _ h
    cases h
  | cons row rest ih =>
    intro db result e hbalanced hfound hnodup h
    rw [List.foldlM_cons] at h
    have hrow := hfound row (by simp)
    rw [List.map_cons, List.nodup_cons] at hnodup
    rcases Transaction.bind_eq_error.1 h with h | ⟨middleResult, middle, hfirst, h⟩
    · exact noShortfall_recoverRow hbalanced hrow h
    · have hrecovered := recoverRow_ok hrow hfirst
      refine ih (hbalanced.recoveredRow hrow hrecovered) (fun other hother ↦ ?_) hnodup.2 h
      obtain ⟨hfind, hstate⟩ := hfound other (by simp [hother])
      refine ⟨?_, hstate⟩
      rw [hrecovered.wrote.find_ne, hfind]
      rw [recoveredRow_invocationId]
      intro heq
      exact hnodup.1 (heq ▸ List.mem_map_of_mem hother)

/-- No call reports a counter below a reservation. -/
theorem Balanced.noShortfall (h : Balanced keyOf db) {call : StoreCall} {now : ℤ} {e : StoreError}
    (herror : call.transaction now db = .error e) : e.isShortfall = false := by
  cases call with
  | reserve input evaluate => exact noShortfall_reserve db e (discard_error herror)
  | recordPaymentAttempt invocationId attempt serviceAuthorization =>
    have hall : NoShortfall (recordPaymentAttempt invocationId attempt serviceAuthorization now) :=
      noShortfall_requireState.seq fun row ↦ .ite (.throw rfl)
        (noShortfall_updateInvocation.seq fun _ ↦ noShortfall_recordTransition)
    exact hall db e herror
  | confirm invocationId payment =>
    exact settled_noShortfall (.inl rfl) (fun row e hopen hfind ↦ h.noShortfall_consume hopen hfind)
      (fun _ ↦ noShortfall_updateInvocation.seq fun _ ↦ noShortfall_recordTransition.seq fun _ ↦
        noShortfall_requireInvocation) (discard_error herror)
  | fail invocationId reason =>
    exact settled_noShortfall (.inl rfl) (fun row e hopen hfind ↦ h.noShortfall_release hopen hfind)
      (fun _ ↦ noShortfall_transitionState) herror
  | markReconciliationRequired invocationId reason =>
    have hall : NoShortfall (markReconciliationRequired invocationId reason now) :=
      noShortfall_requireState.seq fun _ ↦ noShortfall_transitionState
    exact hall db e herror
  | resolveReconciliation invocationId outcome =>
    cases outcome with
    | confirmed settlement =>
      exact settled_noShortfall (.inr rfl) (fun row e hopen hfind ↦ h.noShortfall_consume hopen hfind)
        (fun _ ↦ noShortfall_updateInvocation.seq fun _ ↦ noShortfall_recordTransition.seq fun _ ↦
          noShortfall_requireInvocation) (discard_error herror)
    | failed reason =>
      exact settled_noShortfall (.inr rfl) (fun row e hopen hfind ↦ h.noShortfall_release hopen hfind)
        (fun _ ↦ noShortfall_transitionState.seq fun _ ↦ noShortfall_requireInvocation)
        (discard_error herror)
  | recoverInterruptedInvocations reason =>
    rcases Transaction.bind_eq_error.1 (discard_error herror) with hget | ⟨current, db₁, hget, hrows⟩
    · cases hget
    · cases hget
      refine noShortfall_recoverRows h (fun row hrow ↦ ?_) (nodup_selectByState .RESERVED) hrows
      obtain ⟨hfind, hstate⟩ := mem_selectByState.1 hrow
      exact ⟨hfind, hstate⟩
  | attachReceipt invocationId receipt =>
    have hall : NoShortfall (attachReceipt invocationId receipt now) := by
      refine NoShortfall.seq (.modify _) fun _ ↦ noShortfall_requireInvocation.seq fun row ↦ ?_
      cases row.receipt with
      | none => exact .throw rfl
      | some stored => exact .pure _
    exact hall db e (discard_error herror)

theorem Balanced.perform_noShortfall (h : Balanced keyOf db) {request : ConnectionCall} {e : StoreError}
    (herror : (db.perform request).1 = .error e) : e.isShortfall = false := by
  unfold Db.perform at herror
  split at herror
  · cases hrun : (request.call.transaction request.now).run db with
    | mk result db' =>
      rw [hrun] at herror
      rcases Transaction.run_eq hrun with ⟨a, rfl, -⟩ | ⟨e', rfl, hfailed, -⟩
      · cases herror
      · cases herror
        exact h.noShortfall hfailed
  · cases herror
    rfl

/-! ## The budget theorem -/

/-- Reservations of one invocation id and fingerprint name one grant. -/
def GrantsAgree (requests : List ConnectionCall) : Prop :=
  ∀ request ∈ requests, ∀ other ∈ requests, ∀ input input',
    request.call.reserveInput? = some input → other.call.reserveInput? = some input' →
    input.invocationId = input'.invocationId → input.fingerprint = input'.fingerprint →
      input.grantKey = input'.grantKey

/-- Every reservation names a grant total in the token range. -/
def TotalsAreU64 (requests : List ConnectionCall) : Prop :=
  ∀ request ∈ requests, ∀ input, request.call.reserveInput? = some input →
    ∃ maxTotal ≤ maxU64, input.grant.maxTotalAtomic = maxTotal.repr

/-- The grant that the reservations of an invocation id and fingerprint name. -/
def namedGrant (requests : List ConnectionCall) (invocationId fingerprint : String) : GrantKey :=
  ((requests.filterMap fun request ↦ request.call.reserveInput?).find? fun input ↦
    input.invocationId = invocationId ∧ input.fingerprint = fingerprint).elim ("", "") ReserveInput.grantKey

theorem namedGrant_of_mem {requests : List ConnectionCall} (hagree : GrantsAgree requests)
    {request : ConnectionCall} (hmem : request ∈ requests) {input : ReserveInput}
    (hinput : request.call.reserveInput? = some input) :
    namedGrant requests input.invocationId input.fingerprint = input.grantKey := by
  unfold namedGrant
  cases hfind : (requests.filterMap fun request ↦ request.call.reserveInput?).find? fun other ↦
      other.invocationId = input.invocationId ∧ other.fingerprint = input.fingerprint with
  | none =>
    have hnot := List.find?_eq_none.1 hfind input (List.mem_filterMap.2 ⟨request, hmem, hinput⟩)
    simp at hnot
  | some other =>
    obtain ⟨request', hmem', hother⟩ := List.mem_filterMap.1 (List.mem_of_find?_eq_some hfind)
    have hsame := List.find?_some hfind
    simp only [decide_eq_true_eq] at hsame
    exact hagree request' hmem' request hmem other input hother hinput hsame.1 hsame.2

theorem inputSound_of_mem {requests : List ConnectionCall} (hagree : GrantsAgree requests)
    (htotals : TotalsAreU64 requests) {request : ConnectionCall} (hmem : request ∈ requests)
    {input : ReserveInput} (hinput : request.call.reserveInput? = some input) :
    InputSound (namedGrant requests) input :=
  ⟨namedGrant_of_mem hagree hmem hinput, htotals request hmem input hinput⟩

/-- What holds of a grant and its invocations in every reachable database. -/
structure BudgetSound (db : Db) (key : GrantKey) (grant : GrantRecord) (maxTotal reserved consumed : ℕ) :
    Prop where
  reserved_sum : reserved = db.invocations.sum (held key)
  consumed_sum : consumed = db.invocations.sum (spent key)
  maxTotal_u64 : maxTotal ≤ maxU64
  within : reserved + consumed ≤ maxTotal
  maxTotal_text : grant.maxTotalAtomic = maxTotal.repr
  reserved_text : grant.reservedAtomic = reserved.repr
  consumed_text : grant.consumedAtomic = consumed.repr
  budget : getGrantBudget key db = .ok (some {
    maxTotalAtomic := maxTotal.repr, reservedAtomic := reserved.repr, consumedAtomic := consumed.repr,
    remainingAtomic := (maxTotal - reserved - consumed).repr }, db)

theorem getGrantBudget_eq {key : GrantKey} {grant : GrantRecord} {maxTotal reserved consumed : ℕ}
    (hgrant : db.grants.find? key = some grant) (hmax : grant.maxTotalAtomic = maxTotal.repr)
    (hreserved : grant.reservedAtomic = reserved.repr) (hconsumed : grant.consumedAtomic = consumed.repr)
    (hle : reserved + consumed ≤ maxTotal) :
    getGrantBudget key db = .ok (some {
      maxTotalAtomic := maxTotal.repr, reservedAtomic := reserved.repr, consumedAtomic := consumed.repr,
      remainingAtomic := (maxTotal - reserved - consumed).repr }, db) := by
  have hremaining : ((maxTotal : ℤ) - ((reserved : ℤ) + consumed)).repr =
      (maxTotal - reserved - consumed).repr := by
    rw [← repr_natCast]
    congr 1
    omega
  unfold getGrantBudget
  rw [Transaction.bind_eq_ok]
  refine ⟨some grant, db, ?_, ?_⟩
  · rw [← hgrant]
    rfl
  · simp only [bigInt, hmax, hreserved, hconsumed, Decimal.bigInt_repr, pure_bind, hremaining]
    rfl

theorem Balanced.budgetSound (h : Balanced keyOf db) {key : GrantKey} {grant : GrantRecord}
    (hgrant : db.grants.find? key = some grant) :
    ∃ maxTotal reserved consumed, BudgetSound db key grant maxTotal reserved consumed := by
  obtain ⟨⟨maxTotal, hu64, hmax, hle⟩, hreserved, hconsumed⟩ := h.grant key grant hgrant
  exact ⟨maxTotal, _, _, rfl, rfl, hu64, hle, hmax, hreserved, hconsumed,
    getGrantBudget_eq hgrant hmax hreserved hconsumed hle⟩

theorem HistoryBalanced.empty : HistoryBalanced Db.empty :=
  ⟨fun _ ↦ rfl, fun _ ↦ rfl⟩

/-- The budget of every grant after every sequence of store calls. -/
theorem budget_accounting (requests : List ConnectionCall) (hagree : GrantsAgree requests)
    (htotals : TotalsAreU64 requests) :
    (∀ key grant, (Db.empty.performAll requests).grants.find? key = some grant →
      ∃ maxTotal reserved consumed,
        BudgetSound (Db.empty.performAll requests) key grant maxTotal reserved consumed) ∧
    (∀ further, PinsKept (Db.empty.performAll requests)
      ((Db.empty.performAll requests).performAll further)) ∧
    HistoryBalanced (Db.empty.performAll requests) ∧
    ∀ request grantId invocationId,
      ((Db.empty.performAll requests).perform request).1 ≠ .error (.reservedBelow grantId invocationId) := by
  have hbalanced : Balanced (namedGrant requests) (Db.empty.performAll requests) :=
    Tallied.empty.performAll fun request hmem input hinput ↦ inputSound_of_mem hagree htotals hmem hinput
  refine ⟨fun key grant hgrant ↦ hbalanced.budgetSound hgrant, fun further ↦ pinsKept_performAll further _,
    historyBalanced_performAll .empty, fun request grantId invocationId herror ↦ ?_⟩
  have hshort := hbalanced.perform_noShortfall herror
  cases hshort

/-- A request to buy one report for 5 base units. -/
def reportRequest : AuthorizationRequestV2 where
  protocol := AUTHORIZATION_REQUEST_PROTOCOL
  audience := "authority"
  grantId := "grant"
  permitDigest := "permit"
  invocationId := "invocation"
  service := "reports"
  capability := "summarize"
  network := "devnet"
  mint := "mint"
  recipient := "merchant"
  amountAtomic := "5"
  issuedAt := 1
  operation := ⟨"POST", "/reports", "summarize", "sales"⟩

def reportReservation : ReserveInput where
  invocationId := "invocation"
  fingerprint := "fingerprint"
  grant := ⟨"issuer", "grant", "permit", "20"⟩
  agent := "agent"
  request := reportRequest
  amountAtomic := "5"
  decidedAt := 1
  paymentRequirement := none
  authorization := none

/-- A reservation, its release by the recovery of a second connection, and a retry. -/
def retriedReservation : List ConnectionCall :=
  [⟨0, .reserve reportReservation fun _ ↦ some .allowed, 1, true⟩,
    ⟨1, .recoverInterruptedInvocations "restarted", 2, true⟩,
    ⟨0, .reserve reportReservation fun _ ↦ some .allowed, 3, true⟩]

theorem retriedReservation_input {request : ConnectionCall} (hmem : request ∈ retriedReservation)
    {input : ReserveInput} (hinput : request.call.reserveInput? = some input) :
    input = reportReservation := by
  simp only [retriedReservation, List.mem_cons, List.not_mem_nil, or_false] at hmem
  rcases hmem with rfl | rfl | rfl <;> cases hinput <;> rfl

theorem retriedReservation_agree : GrantsAgree retriedReservation := by
  intro request hmem other hother input input' hinput hinput' _ _
  rw [retriedReservation_input hmem hinput, retriedReservation_input hother hinput']

theorem retriedReservation_totals : TotalsAreU64 retriedReservation := by
  intro request hmem input hinput
  rw [retriedReservation_input hmem hinput]
  exact ⟨20, by decide, by decide⟩

theorem budget_accounting_retriedReservation :
    ((Db.empty.performAll retriedReservation).grants.find? ("issuer", "grant")).map
        GrantRecord.reservedAtomic = some "5" ∧
      ∃ grant maxTotal reserved consumed, BudgetSound (Db.empty.performAll retriedReservation)
        ("issuer", "grant") grant maxTotal reserved consumed := by
  have hsome : ((Db.empty.performAll retriedReservation).grants.find? ("issuer", "grant")).isSome = true := by
    decide
  obtain ⟨grant, hgrant⟩ := Option.isSome_iff_exists.1 hsome
  refine ⟨by decide, grant, ?_⟩
  apply (budget_accounting retriedReservation retriedReservation_agree retriedReservation_totals).1
  exact hgrant

end VirtualHaibin.Authority
