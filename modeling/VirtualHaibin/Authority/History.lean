import VirtualHaibin.Authority.Budget

/-!
# The transition log

The log of an invocation is the chain of its states, and replaying the log with the amount of each
reservation gives the counters of every grant.  Both hold after every sequence of store calls, by
any number of connections, including the calls that throw.
-/

namespace VirtualHaibin.Authority

open Foundation Payments Evidence

variable {rule : CommitmentRule} {keyOf : String → String → GrantKey} {db db' : Db}

/-- The logged moves of one invocation, in the order of their ids. -/
def Db.history (db : Db) (invocationId : String) : List TransitionRecord :=
  db.transitions.filter fun entry ↦ entry.invocationId = invocationId

theorem history_append {entry : TransitionRecord} (h : db'.transitions = db.transitions ++ [entry])
    (id : String) : db'.history id = db.history id ++ if entry.invocationId = id then [entry] else [] := by
  simp only [Db.history, h, List.filter_append]
  split <;> rename_i hid <;> simp [hid]

/-- A chain grows by an entry that its last one leads to. -/
theorem isChain_concat {α : Type*} {r : α → α → Prop} {entries : List α} {entry : α}
    (h : entries.IsChain r) (hlast : ∀ previous ∈ entries.getLast?, r previous entry) :
    (entries ++ [entry]).IsChain r := by
  induction h with
  | nil => exact .singleton entry
  | singleton previous => exact .cons_cons (hlast previous rfl) (.singleton entry)
  | cons_cons hfirst _ ih =>
    apply List.IsChain.cons_cons hfirst
    apply ih
    simpa only [List.getLast?_cons_cons] using hlast

/-- One logged move after another: from the state the other reached, and never a second attempt on
one reservation. -/
structure Follows (previous next : TransitionRecord) : Prop where
  fromState : next.fromState = some previous.toState
  armed_once : previous.arms = true → next.arms = false

/-- A log that is a history of an invocation now in `state`. -/
structure FaithfulHistory (history : List TransitionRecord) (state : Option InvocationState) : Prop where
  first : ∀ entry ∈ history.head?, entry.fromState = none
  chain : history.IsChain Follows
  legal : ∀ entry ∈ history, mayBecome entry.fromState entry.toState = true
  last : history.getLast?.map TransitionRecord.toState = state

/-- The last move before an attempt is recorded opened the reservation. -/
structure Chronicle (history : List TransitionRecord) (row : Option InvocationRecord) : Prop extends
    FaithfulHistory history (row.map InvocationRecord.state) where
  unarmed : ∀ entry ∈ history.getLast?, entry.arms = true →
    ∀ found, row = some found → found.paymentAttempt.isSome = true

theorem Chronicle.empty : Chronicle [] none :=
  ⟨⟨nofun, .nil, nofun, rfl⟩, nofun⟩

/-- A legal move extends the chronicle of its row. -/
theorem Chronicle.moved {history : List TransitionRecord} {old : Option InvocationRecord}
    {new : InvocationRecord} {entry : TransitionRecord} (h : Chronicle history old)
    (hmoved : Moved db db' old new entry) : Chronicle (history ++ [entry]) (some new) := by
  have hfollows : ∀ previous ∈ history.getLast?, Follows previous entry := by
    intro previous hprevious
    have hlast := h.last
    rw [Option.mem_def.1 hprevious, Option.map_some] at hlast
    refine ⟨hmoved.fromState.trans hlast.symm, fun harmed ↦ ?_⟩
    cases old with
    | none => cases hlast
    | some row =>
      by_contra harms
      rw [Bool.not_eq_false] at harms
      have hattempt := h.unarmed previous hprevious harmed row rfl
      rw [(hmoved.reservation.arms harms).2 row rfl] at hattempt
      cases hattempt
  refine ⟨⟨?_, ?_, ?_, ?_⟩, ?_⟩
  · intro head hhead
    cases history with
    | cons first rest => exact h.first head hhead
    | nil =>
      cases hhead
      have hstate : old.map InvocationRecord.state = none := h.last.symm
      rw [hmoved.fromState, hstate]
  · exact isChain_concat h.chain hfollows
  · intro other hother
    rcases List.mem_append.1 hother with hother | hother
    · exact h.legal other hother
    · rw [List.mem_singleton.1 hother, hmoved.fromState, hmoved.toState]
      exact hmoved.legal
  · rw [List.getLast?_concat]
    exact congrArg some hmoved.toState
  · intro last hlast harms found hfound
    rw [List.getLast?_concat] at hlast
    cases hlast
    cases hfound
    exact (hmoved.reservation.arms harms).1

/-- A chronicle depends on its row through what storing a receipt leaves. -/
theorem Chronicle.attached {history : List TransitionRecord} {row new : InvocationRecord}
    (h : Chronicle history (some row)) (hstanding : SameStanding row new) :
    Chronicle history (some new) := by
  refine ⟨⟨h.first, h.chain, h.legal, ?_⟩, fun last hlast harms found hfound ↦ ?_⟩
  · rw [h.last, Option.map_some, Option.map_some, hstanding.state]
  · cases hfound
    rw [hstanding.paymentAttempt]
    exact h.unarmed last hlast harms row rfl

/-- Every invocation has its chronicle in the log. -/
def Chronicled (db : Db) : Prop :=
  ∀ id, Chronicle (db.history id) (db.invocations.find? id)

theorem Chronicled.empty : Chronicled Db.empty := fun _ ↦ Chronicle.empty

theorem Chronicled.moved (h : Chronicled db) {old : Option InvocationRecord} {new : InvocationRecord}
    {entry : TransitionRecord} (hmoved : Moved db db' old new entry) : Chronicled db' := by
  intro id
  rw [history_append hmoved.transitions, hmoved.wrote.find, hmoved.invocationId]
  have hbefore := h id
  split
  · rename_i hid
    rw [← hid, hmoved.wrote.old_eq] at hbefore
    rw [← hid]
    exact hbefore.moved hmoved
  · rw [List.append_nil]
    exact hbefore

theorem Chronicled.attached (h : Chronicled db) {row new : InvocationRecord}
    (hwrote : Table.Wrote db.invocations db'.invocations (some row) new)
    (hstanding : SameStanding row new) (htransitions : db'.transitions = db.transitions) :
    Chronicled db' := by
  intro id
  have hbefore := h id
  rw [Db.history, htransitions, hwrote.find]
  split
  · rename_i hid
    rw [← hid, hwrote.old_eq] at hbefore
    rw [← hid]
    exact hbefore.attached hstanding
  · exact hbefore

theorem Chronicled.moves {allowed : TransitionRecord → Prop} (h : Chronicled db)
    (hmoves : Moves allowed db db') : Chronicled db' := by
  induction hmoves with
  | refl db => exact h
  | move moved _ _ ih => exact ih (h.moved moved)
  | attach wrote standing _ transitions _ ih => exact ih (h.attached wrote standing transitions)

/-- What a call does to the database: nothing, unless its transaction committed. -/
theorem perform_eq (db : Db) (request : ConnectionCall) :
    ((db.perform request).1 = .ok () ∧
      request.call.transaction request.now db = .ok ((), (db.perform request).2)) ∨
      (∃ error, (db.perform request).1 = .error error ∧ (db.perform request).2 = db) := by
  unfold Db.perform
  split
  · cases hrun : (request.call.transaction request.now).run db with
    | mk result db' =>
      rcases Transaction.run_eq hrun with ⟨⟨⟩, rfl, hok⟩ | ⟨error, rfl, -, rfl⟩
      · exact .inl ⟨rfl, hok⟩
      · exact .inr ⟨error, rfl, rfl⟩
  · exact .inr ⟨.unavailable, rfl, rfl⟩

theorem Chronicled.performAll (h : Chronicled db) (requests : List ConnectionCall) :
    Chronicled (db.performAll requests) := by
  induction requests generalizing db with
  | nil => exact h
  | cons request rest ih =>
    suffices hnext : Chronicled (db.perform request).2 from ih hnext
    rcases perform_eq db request with ⟨-, hok⟩ | ⟨_, -, hkept⟩
    · exact h.moves (transaction_moves hok)
    · rw [hkept]
      exact h

/-! ## The replay -/

/-- An amount reserved under a grant. -/
structure Posting where
  grantKey : GrantKey
  amount : ℕ

/-- The part of a posting under `key`. -/
def Posting.under (posting : Posting) (key : GrantKey) : ℕ :=
  if posting.grantKey = key then posting.amount else 0

def ReserveInput.posting (input : ReserveInput) : Posting :=
  ⟨input.grantKey, Decimal.amount input.amountAtomic⟩

def StoreCall.posting (call : StoreCall) : Option Posting :=
  call.reserveInput?.map ReserveInput.posting

/-- The log rows of a sequence of calls, each with the posting of the call that wrote it. -/
def Db.ledger (db : Db) : List ConnectionCall → List (TransitionRecord × Option Posting)
  | [] => []
  | request :: rest =>
    (((db.perform request).2.transitions.drop db.transitions.length).map fun entry ↦
      (entry, request.call.posting)) ++ (db.perform request).2.ledger rest

/-- The counters that a log determines. -/
structure Replay where
  reservation : String → Option Posting
  reserved : GrantKey → ℕ
  consumed : GrantKey → ℕ

namespace Replay

def empty : Replay := ⟨fun _ ↦ none, fun _ ↦ 0, fun _ ↦ 0⟩

def reserve (replay : Replay) (invocationId : String) (posting : Posting) : Replay where
  reservation := Function.update replay.reservation invocationId (some posting)
  reserved key := replay.reserved key + posting.under key
  consumed := replay.consumed

def release (replay : Replay) (invocationId : String) (posting : Posting) : Replay where
  reservation := Function.update replay.reservation invocationId none
  reserved key := replay.reserved key - posting.under key
  consumed := replay.consumed

def consume (replay : Replay) (invocationId : String) (posting : Posting) : Replay where
  reservation := Function.update replay.reservation invocationId none
  reserved key := replay.reserved key - posting.under key
  consumed key := replay.consumed key + posting.under key

/-- The effect of one log row. -/
def step (replay : Replay) (row : TransitionRecord × Option Posting) : Replay :=
  match row.1.fromState, row.1.toState with
  | some .RESERVED, .RESERVED => replay
  | _, .RESERVED => row.2.elim replay (replay.reserve row.1.invocationId)
  | _, .CONFIRMED => (replay.reservation row.1.invocationId).elim replay (replay.consume row.1.invocationId)
  | _, .FAILED => (replay.reservation row.1.invocationId).elim replay (replay.release row.1.invocationId)
  | _, .DENIED | _, .RECONCILIATION_REQUIRED => replay

end Replay

/-- What a row contributes to the counters of its grant. -/
def InvocationRecord.posting (row : InvocationRecord) : Posting :=
  ⟨row.grantKey, Decimal.amount row.amountAtomic⟩

def InvocationRecord.reservation (row : InvocationRecord) : Option Posting :=
  if row.isOpen then some row.posting else none

theorem held_eq (key : GrantKey) (row : InvocationRecord) :
    held key row = row.reservation.elim 0 fun posting ↦ posting.under key := by
  cases hopen : row.isOpen <;>
    simp [held, InvocationRecord.reservation, InvocationRecord.posting, Posting.under, hopen]

theorem spent_eq (key : GrantKey) (row : InvocationRecord) :
    spent key row = if row.isSettled then row.posting.under key else 0 := by
  unfold spent InvocationRecord.posting Posting.under
  cases row.isSettled with
  | false => simp
  | true => by_cases hkey : row.grantKey = key <;> simp [hkey]

/-- The replayed counters are the sums over the rows. -/
structure Replayed (db : Db) (replay : Replay) : Prop where
  reservation : ∀ id, replay.reservation id = (db.invocations.find? id).bind InvocationRecord.reservation
  reserved : ∀ key, replay.reserved key = db.invocations.sum (held key)
  consumed : ∀ key, replay.consumed key = db.invocations.sum (spent key)

namespace Replayed

variable {replay : Replay} {old : Option InvocationRecord} {new : InvocationRecord}

theorem empty : Replayed Db.empty .empty :=
  ⟨fun _ ↦ rfl, fun _ ↦ rfl, fun _ ↦ rfl⟩

/-- A write that leaves the contribution of its row. -/
theorem kept (h : Replayed db replay) (hwrote : Table.Wrote db.invocations db'.invocations old new)
    (hreservation : new.reservation = old.bind InvocationRecord.reservation)
    (hspent : ∀ key, old.elim 0 (spent key) = spent key new) : Replayed db' replay := by
  have hheld : ∀ key, old.elim 0 (held key) = held key new := by
    intro key
    rw [held_eq, hreservation]
    cases old with
    | none => rfl
    | some row => exact held_eq key row
  refine ⟨fun id ↦ ?_, fun key ↦ ?_, fun key ↦ ?_⟩
  · rw [h.reservation, hwrote.find]
    split
    · rename_i hid
      rw [← hid, hwrote.old_eq]
      exact hreservation.symm
    · rfl
  · have hsum := hwrote.sum (held key)
    rw [h.reserved]
    have := hheld key
    omega
  · have hsum := hwrote.sum (spent key)
    rw [h.consumed]
    have := hspent key
    omega

/-- A write that opens the reservation of its row. -/
theorem reserve (h : Replayed db replay) (hwrote : Table.Wrote db.invocations db'.invocations old new)
    (hold : ∀ key, old.elim 0 (held key) = 0 ∧ old.elim 0 (spent key) = 0)
    (hopen : new.isOpen = true) (hsettled : new.isSettled = false) :
    Replayed db' (replay.reserve new.invocationId new.posting) := by
  have hreservation : new.reservation = some new.posting := if_pos hopen
  refine ⟨fun id ↦ ?_, fun key ↦ ?_, fun key ↦ ?_⟩
  · simp only [Replay.reserve, Function.update_apply, hwrote.find, eq_comm (a := id)]
    split
    · exact hreservation.symm
    · exact h.reservation id
  · have hsum := hwrote.sum (held key)
    rw [(hold key).1, held_eq, hreservation, Option.elim] at hsum
    simp only [Replay.reserve, h.reserved]
    omega
  · have hsum := hwrote.sum (spent key)
    rw [(hold key).2, spent_eq_zero hsettled] at hsum
    simpa [Replay.reserve, h.consumed] using hsum.symm

variable {row : InvocationRecord}

theorem release (h : Replayed db replay)
    (hwrote : Table.Wrote db.invocations db'.invocations (some row) new)
    (hopen : row.reservation = some row.posting) (hspent : row.isSettled = false)
    (hreservation : new.reservation = none) (hsettled : new.isSettled = false) :
    Replayed db' (replay.release new.invocationId row.posting) := by
  refine ⟨fun id ↦ ?_, fun key ↦ ?_, fun key ↦ ?_⟩
  · simp only [Replay.release, Function.update_apply, hwrote.find, eq_comm (a := id)]
    split
    · exact hreservation.symm
    · exact h.reservation id
  · have hsum := hwrote.sum (held key)
    simp only [Option.elim, held_eq key row, held_eq key new, hopen, hreservation] at hsum
    simp only [Replay.release, h.reserved]
    omega
  · have hsum := hwrote.sum (spent key)
    simp only [Option.elim, spent_eq_zero hspent, spent_eq_zero hsettled] at hsum
    simpa [Replay.release, h.consumed] using hsum.symm

theorem consume (h : Replayed db replay)
    (hwrote : Table.Wrote db.invocations db'.invocations (some row) new)
    (hopen : row.reservation = some row.posting) (hspent : row.isSettled = false)
    (hreservation : new.reservation = none) (hsettled : new.isSettled = true)
    (hposting : new.posting = row.posting) :
    Replayed db' (replay.consume new.invocationId row.posting) := by
  refine ⟨fun id ↦ ?_, fun key ↦ ?_, fun key ↦ ?_⟩
  · simp only [Replay.consume, Function.update_apply, hwrote.find, eq_comm (a := id)]
    split
    · exact hreservation.symm
    · exact h.reservation id
  · have hsum := hwrote.sum (held key)
    simp only [Option.elim, held_eq key row, held_eq key new, hopen, hreservation] at hsum
    simp only [Replay.consume, h.reserved]
    omega
  · have hsum := hwrote.sum (spent key)
    rw [Option.elim, spent_eq_zero hspent, spent_eq key new, if_pos hsettled, hposting] at hsum
    simpa [Replay.consume, h.consumed] using hsum.symm

end Replayed

/-- The legal moves by what they do to a reservation. -/
theorem mayBecome_cases {fromState : Option InvocationState} {toState : InvocationState}
    (h : mayBecome fromState toState = true) :
    ((fromState = none ∨ fromState = some .FAILED) ∧ (toState = .RESERVED ∨ toState = .DENIED)) ∨
      (fromState = some .RESERVED ∧ (toState = .RESERVED ∨ toState = .RECONCILIATION_REQUIRED)) ∨
      ((fromState = some .RESERVED ∨ fromState = some .RECONCILIATION_REQUIRED) ∧
        (toState = .CONFIRMED ∨ toState = .FAILED)) := by
  revert h
  rcases fromState with _ | _ | _ | _ | _ | _ <;> cases toState <;> decide

theorem reservation_of_open {row : InvocationRecord} (h : row.isOpen = true) :
    row.reservation = some row.posting := if_pos h

theorem reservation_of_closed {row : InvocationRecord} (h : row.isOpen = false) :
    row.reservation = none := if_neg (by simp [h])

namespace Replayed

variable {replay : Replay} {old : Option InvocationRecord} {new : InvocationRecord}
  {entry : TransitionRecord}

/-- A decision on an invocation without a reservation. -/
theorem decided (h : Replayed db replay) (hmoved : Moved db db' old new entry) {posting : Option Posting}
    (hposting : entry.opens = 1 → posting = some new.posting)
    (hold : old.map InvocationRecord.state = none ∨ old.map InvocationRecord.state = some .FAILED)
    (hnew : new.state = .RESERVED ∨ new.state = .DENIED) :
    Replayed db' (replay.step (entry, posting)) := by
  have hweight : ∀ key, old.elim 0 (held key) = 0 ∧ old.elim 0 (spent key) = 0 := by
    intro key
    cases old with
    | none => exact ⟨rfl, rfl⟩
    | some row =>
      have hfailed : row.state = .FAILED := by simpa using hold
      exact ⟨held_eq_zero (by simp [InvocationRecord.isOpen, hfailed]),
        spent_eq_zero (by simp [InvocationRecord.isSettled, hfailed])⟩
  have hclosed : old.bind InvocationRecord.reservation = none := by
    cases old with
    | none => rfl
    | some row =>
      have hfailed : row.state = .FAILED := by simpa using hold
      exact reservation_of_closed (by simp [InvocationRecord.isOpen, hfailed])
  have hfrom : entry.fromState = none ∨ entry.fromState = some .FAILED := by
    rw [hmoved.fromState]
    exact hold
  rcases hnew with hnew | hnew
  · have hto : entry.toState = .RESERVED := hmoved.toState.trans hnew
    have hopens : entry.opens = 1 := by
      rcases hfrom with hfrom | hfrom <;> simp [TransitionRecord.opens, hfrom, hto]
    have hstep : replay.step (entry, posting) = replay.reserve new.invocationId new.posting := by
      rw [hposting hopens, ← hmoved.invocationId]
      rcases hfrom with hfrom | hfrom <;> simp [Replay.step, hfrom, hto]
    rw [hstep]
    exact h.reserve hmoved.wrote hweight (by simp [InvocationRecord.isOpen, hnew])
      (by simp [InvocationRecord.isSettled, hnew])
  · have hto : entry.toState = .DENIED := hmoved.toState.trans hnew
    have hstep : replay.step (entry, posting) = replay := by
      rcases hfrom with hfrom | hfrom <;> simp [Replay.step, hfrom, hto]
    rw [hstep]
    refine h.kept hmoved.wrote ?_ fun key ↦ ?_
    · rw [hclosed]
      exact reservation_of_closed (by simp [InvocationRecord.isOpen, hnew])
    · rw [(hweight key).2, spent_eq_zero (by simp [InvocationRecord.isSettled, hnew])]

/-- An attempt recorded or an outcome left open keeps the reservation. -/
theorem suspended {row : InvocationRecord} (h : Replayed db replay)
    (hmoved : Moved db db' (some row) new entry) (posting : Option Posting) (hrow : row.state = .RESERVED)
    (hnew : new.state = .RESERVED ∨ new.state = .RECONCILIATION_REQUIRED) :
    Replayed db' (replay.step (entry, posting)) := by
  have hopen : row.isOpen = true := by simp [InvocationRecord.isOpen, hrow]
  have hfrom : entry.fromState = some .RESERVED := by
    rw [hmoved.fromState, Option.map_some, hrow]
  have hstep : replay.step (entry, posting) = replay := by
    rcases hnew with hnew | hnew <;> simp [Replay.step, hfrom, hmoved.toState, hnew]
  have hstays : new.isOpen = true ∧ new.isSettled = false := by
    rcases hnew with hnew | hnew <;> simp [InvocationRecord.isOpen, InvocationRecord.isSettled, hnew]
  have hposting : new.posting = row.posting := by
    simp only [InvocationRecord.posting, hmoved.reservation.grantKey row rfl,
      hmoved.reservation.amountAtomic row rfl hopen]
  rw [hstep]
  refine h.kept hmoved.wrote ?_ fun key ↦ ?_
  · rw [reservation_of_open hstays.1, hposting]
    exact (reservation_of_open hopen).symm
  · rw [spent_eq_zero hstays.2]
    exact spent_eq_zero (by simp [InvocationRecord.isSettled, hrow])

/-- An open reservation is consumed or released. -/
theorem settled {row : InvocationRecord} (h : Replayed db replay)
    (hmoved : Moved db db' (some row) new entry) (posting : Option Posting)
    (hrow : row.state = .RESERVED ∨ row.state = .RECONCILIATION_REQUIRED)
    (hnew : new.state = .CONFIRMED ∨ new.state = .FAILED) :
    Replayed db' (replay.step (entry, posting)) := by
  have hopen : row.isOpen = true ∧ row.isSettled = false := by
    rcases hrow with hrow | hrow <;> simp [InvocationRecord.isOpen, InvocationRecord.isSettled, hrow]
  have hposting : new.posting = row.posting := by
    simp only [InvocationRecord.posting, hmoved.reservation.grantKey row rfl,
      hmoved.reservation.amountAtomic row rfl hopen.1]
  have hreserved : replay.reservation new.invocationId = some row.posting := by
    rw [h.reservation, hmoved.wrote.old_eq]
    exact reservation_of_open hopen.1
  have hclosed : new.reservation = none := by
    refine reservation_of_closed ?_
    rcases hnew with hnew | hnew <;> simp [InvocationRecord.isOpen, hnew]
  have hfrom := hmoved.fromState
  rcases hnew with hnew | hnew
  · have hstep : replay.step (entry, posting) = replay.consume new.invocationId row.posting := by
      rcases hrow with hrow | hrow <;>
        simp [Replay.step, hfrom, hrow, hmoved.toState, hnew, hmoved.invocationId, hreserved]
    rw [hstep]
    exact h.consume hmoved.wrote (reservation_of_open hopen.1) hopen.2 hclosed
      (by simp [InvocationRecord.isSettled, hnew]) hposting
  · have hstep : replay.step (entry, posting) = replay.release new.invocationId row.posting := by
      rcases hrow with hrow | hrow <;>
        simp [Replay.step, hfrom, hrow, hmoved.toState, hnew, hmoved.invocationId, hreserved]
    rw [hstep]
    exact h.release hmoved.wrote (reservation_of_open hopen.1) hopen.2 hclosed
      (by simp [InvocationRecord.isSettled, hnew])

theorem moved (h : Replayed db replay) (hmoved : Moved db db' old new entry) {posting : Option Posting}
    (hposting : entry.opens = 1 → posting = some new.posting) :
    Replayed db' (replay.step (entry, posting)) := by
  rcases mayBecome_cases hmoved.legal with ⟨hold, hnew⟩ | ⟨hold, hnew⟩ | ⟨hold, hnew⟩
  · exact h.decided hmoved hposting hold hnew
  · cases old with
    | none => cases hold
    | some row => exact h.suspended hmoved posting (Option.some.inj hold) hnew
  · cases old with
    | none => rcases hold with hold | hold <;> cases hold
    | some row =>
      exact h.settled hmoved posting (hold.imp Option.some.inj Option.some.inj) hnew

theorem attached {row : InvocationRecord} (h : Replayed db replay)
    (hwrote : Table.Wrote db.invocations db'.invocations (some row) new)
    (hstanding : SameStanding row new) : Replayed db' replay := by
  have hposting : new.posting = row.posting := by
    simp only [InvocationRecord.posting, hstanding.grantKey, hstanding.amountAtomic]
  have hopen : new.isOpen = row.isOpen := by simp [InvocationRecord.isOpen, hstanding.state]
  have hsettled : new.isSettled = row.isSettled := by simp [InvocationRecord.isSettled, hstanding.state]
  refine h.kept hwrote ?_ fun key ↦ ?_
  · rw [InvocationRecord.reservation, hopen, hposting]
    rfl
  · rw [spent_eq key new, hsettled, hposting]
    exact spent_eq key row

/-- The calls that open no reservation are replayed whatever they are annotated with. -/
theorem moves (h : Replayed db replay) (posting : Option Posting)
    (hmoves : Moves (fun entry ↦ entry.opens = 0) db db') :
    ∃ entries, db'.transitions = db.transitions ++ entries ∧
      Replayed db' ((entries.map fun entry ↦ (entry, posting)).foldl Replay.step replay) := by
  induction hmoves generalizing replay with
  | refl db => exact ⟨[], (List.append_nil _).symm, h⟩
  | @move _ _ _ _ _ entry moved permitted _ ih =>
    have hclosed : entry.opens ≠ 1 := by simp [permitted]
    obtain ⟨entries, htransitions, hreplayed⟩ := ih (h.moved moved fun hopens ↦ absurd hopens hclosed)
    refine ⟨entry :: entries, ?_, hreplayed⟩
    rw [htransitions, moved.transitions, List.append_assoc, List.singleton_append]
  | attach wrote standing _ transitions _ ih =>
    obtain ⟨entries, htransitions, hreplayed⟩ := ih (h.attached wrote standing)
    exact ⟨entries, htransitions.trans (congrArg (· ++ entries) transitions), hreplayed⟩

end Replayed

/-- A reservation's log row carries the posting of its input. -/
theorem Tallied.decided_posting (h : Tallied rule keyOf db) {input : ReserveInput}
    (hinput : InputTallied rule keyOf input) {now : ℤ} {new : InvocationRecord} {entry : TransitionRecord}
    (hdecided : Decided input now (db.invocations.find? input.invocationId) new entry) :
    new.posting = input.posting := by
  obtain ⟨state, reasonCodes, rfl, -⟩ := hdecided.written
  have hfacts := h.written hinput rfl hdecided.found state reasonCodes now
  rw [InvocationRecord.posting, ReserveInput.posting, hfacts.grantKey, hfacts.amount_eq]

/-- Replaying the log rows of one committed call. -/
theorem Replayed.transaction [rule.Lawful] {replay : Replay} (h : Replayed db replay) (htallied : Tallied rule keyOf db)
    {call : StoreCall} {now : ℤ} (hinput : ∀ input, call.reserveInput? = some input → InputTallied rule keyOf input)
    (hcall : call.transaction now db = .ok ((), db')) :
    ∃ entries, db'.transitions = db.transitions ++ entries ∧
      Replayed db' ((entries.map fun entry ↦ (entry, call.posting)).foldl Replay.step replay) := by
  cases hreserve : call.reserveInput? with
  | none => exact h.moves call.posting ((transaction_moves hcall).weaken fun entry hclosed ↦ hclosed hreserve)
  | some input =>
    cases call with
    | reserve _ evaluate =>
      cases hreserve
      obtain ⟨result, hresult⟩ := discard_ok hcall
      rcases (reserve_ok hresult).moved with rfl | ⟨new, entry, hmoved, hdecided⟩
      · exact ⟨[], (List.append_nil _).symm, h⟩
      · refine ⟨[entry], hmoved.transitions, h.moved hmoved fun _ ↦ ?_⟩
        rw [htallied.decided_posting (hinput input rfl) hdecided]
        rfl
    | _ => cases hreserve

/-- Replaying the log of every sequence of calls, from any replayed database. -/
theorem Replayed.performAll [rule.Lawful] {replay : Replay} {requests : List ConnectionCall} (h : Replayed db replay)
    (htallied : Tallied rule keyOf db)
    (hinput : ∀ request ∈ requests, ∀ input, request.call.reserveInput? = some input →
      InputTallied rule keyOf input) :
    (db.performAll requests).transitions = db.transitions ++ (db.ledger requests).map Prod.fst ∧
      Replayed (db.performAll requests) ((db.ledger requests).foldl Replay.step replay) := by
  induction requests generalizing db replay with
  | nil => exact ⟨(List.append_nil _).symm, h⟩
  | cons request rest ih =>
    have hnext : ∃ entries, (db.perform request).2.transitions = db.transitions ++ entries ∧
        Replayed (db.perform request).2
          ((entries.map fun entry ↦ (entry, request.call.posting)).foldl Replay.step replay) := by
      rcases perform_eq db request with ⟨-, hok⟩ | ⟨_, -, hkept⟩
      · exact h.transaction htallied (hinput request (by simp)) hok
      · rw [hkept]
        exact ⟨[], (List.append_nil _).symm, h⟩
    obtain ⟨entries, htransitions, hreplayed⟩ := hnext
    obtain ⟨hlog, hrest⟩ := ih hreplayed (htallied.perform (hinput request (by simp)))
      fun other hother ↦ hinput other (by simp [hother])
    have hdrop : (db.perform request).2.transitions.drop db.transitions.length = entries := by
      rw [htransitions, List.drop_left]
    refine ⟨?_, ?_⟩
    · change ((db.perform request).2.performAll rest).transitions = _
      rw [hlog, htransitions, Db.ledger, hdrop, List.map_append, List.map_map, List.append_assoc]
      congr 2
      exact (List.map_id entries).symm
    · rw [Db.ledger, hdrop, List.foldl_append]
      exact hrest

/-- The replayed counters of every grant are the stored ones. -/
def ReplaysCounters (requests : List ConnectionCall) : Prop :=
  ∀ key grant, (Db.empty.performAll requests).grants.find? key = some grant →
    grant.reservedAtomic = (((Db.empty.ledger requests).foldl Replay.step .empty).reserved key).repr ∧
    grant.consumedAtomic = (((Db.empty.ledger requests).foldl Replay.step .empty).consumed key).repr

/-- The transition log after every sequence of store calls.  Replaying it takes that the reservations
of one invocation id and fingerprint name one grant, which the fingerprint guarantees. -/
theorem transitions_faithful (requests : List ConnectionCall) :
    (∀ invocationId, FaithfulHistory ((Db.empty.performAll requests).history invocationId)
      (((Db.empty.performAll requests).invocations.find? invocationId).map InvocationRecord.state)) ∧
    (∀ request error, ((Db.empty.performAll requests).perform request).1 = .error error →
      ((Db.empty.performAll requests).perform request).2 = Db.empty.performAll requests) ∧
    (GrantsAgree requests →
      (Db.empty.performAll requests).transitions = (Db.empty.ledger requests).map Prod.fst ∧
      ReplaysCounters requests) := by
  refine ⟨fun id ↦ (Chronicled.empty.performAll requests id).toFaithfulHistory, fun request error herror ↦ ?_,
    fun hagree ↦ ?_⟩
  · rcases perform_eq (Db.empty.performAll requests) request with ⟨hok, -⟩ | ⟨_, -, hkept⟩
    · rw [hok] at herror
      cases herror
    · exact hkept
  · have hinput : ∀ request ∈ requests, ∀ input, request.call.reserveInput? = some input →
        InputTallied unlimited (namedGrant requests) input := fun request hmem input hreserve ↦
      ⟨namedGrant_of_mem hagree hmem hreserve, trivial⟩
    obtain ⟨hlog, hreplayed⟩ := Replayed.empty.performAll Tallied.empty hinput
    refine ⟨hlog, fun key grant hgrant ↦ ?_⟩
    have htallied := (Tallied.empty.performAll hinput).grant key grant hgrant
    rw [hreplayed.reserved, hreplayed.consumed]
    exact ⟨htallied.reserved_eq, htallied.consumed_eq⟩

theorem transitions_faithful_retriedReservation :
    ((Db.empty.performAll retriedReservation).history "invocation").map TransitionRecord.toState =
        [.RESERVED, .FAILED, .RESERVED] ∧
      (Db.empty.performAll retriedReservation).transitions =
        (Db.empty.ledger retriedReservation).map Prod.fst :=
  ⟨by decide, ((transitions_faithful retriedReservation).2.2 retriedReservation_agree).1⟩

/-- A retry that names a second grant under the id and fingerprint of a released reservation: the row keeps its first
grant, and the failure takes the amount of another reservation back. -/
def divertedReservation : List ConnectionCall :=
  [⟨0, .reserve reportReservation fun _ ↦ some .allowed, 1, true⟩,
    ⟨1, .recoverInterruptedInvocations "restarted", 2, true⟩,
    ⟨0, .reserve { reportReservation with invocationId := "other", fingerprint := "other" }
      fun _ ↦ some .allowed, 3, true⟩,
    ⟨0, .reserve { reportReservation with grant := ⟨"issuer", "second", "permit", "20"⟩ }
      fun _ ↦ some .allowed, 4, true⟩,
    ⟨0, .fail "invocation" "not submitted", 5, true⟩]

/-- Without the agreement of the grants the log does not determine the counters. -/
theorem divertedReservation_misposted : ¬ ∀ requests, ReplaysCounters requests := by
  intro h
  have hsome : ((Db.empty.performAll divertedReservation).grants.find? ("issuer", "grant")).isSome = true := by
    decide
  obtain ⟨grant, hgrant⟩ := Option.isSome_iff_exists.1 hsome
  have hstored : ((Db.empty.performAll divertedReservation).grants.find? ("issuer", "grant")).map
      GrantRecord.reservedAtomic = some "0" := by decide
  have hreplayed : ((Db.empty.ledger divertedReservation).foldl Replay.step .empty).reserved
      ("issuer", "grant") = 5 := by
    decide
  have hreserved := (h divertedReservation _ grant hgrant).1
  rw [hgrant, Option.map_some, hreserved, hreplayed] at hstored
  revert hstored
  decide

end VirtualHaibin.Authority
