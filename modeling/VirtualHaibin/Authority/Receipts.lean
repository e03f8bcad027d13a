import VirtualHaibin.Authority.Alone
import VirtualHaibin.Authority.Joining

/-!
# Decisions and their receipts

A decided invocation never changes but for its receipt, which is stored once.  Receipts are signed
lazily, by any process and with its key, for a row read earlier; since decided rows stay, what they
state is what the row states, and every caller gets the stored one.
-/

namespace VirtualHaibin.Authority

open Foundation Mandate Payments Evidence

def InvocationRecord.isDecided (row : InvocationRecord) : Bool :=
  row.state = .DENIED || row.state = .CONFIRMED

/-- Everything of a row stays, but for a receipt it did not have. -/
structure InvocationRecord.Kept (row row' : InvocationRecord) : Prop where
  same : row' = { row with receipt := row'.receipt, updatedAt := row'.updatedAt }
  receipt : ∀ receipt, row.receipt = some receipt → row'.receipt = some receipt

namespace InvocationRecord.Kept

variable {row row' row'' : InvocationRecord}

theorem refl (row : InvocationRecord) : Kept row row := ⟨rfl, fun _ h ↦ h⟩

theorem state_eq (h : Kept row row') : row'.state = row.state := by
  rw [h.same]

theorem isDecided_eq (h : Kept row row') : row'.isDecided = row.isDecided := by
  rw [isDecided, isDecided, h.state_eq]

theorem trans (h : Kept row row') (h' : Kept row' row'') : Kept row row'' := by
  refine ⟨?_, fun receipt hreceipt ↦ h'.receipt receipt (h.receipt receipt hreceipt)⟩
  calc row'' = { row' with receipt := row''.receipt, updatedAt := row''.updatedAt } := h'.same
    _ = { row with receipt := row''.receipt, updatedAt := row''.updatedAt } := by rw [h.same]

theorem attached (receipt : SignedAuthorizationReceipt) (now : ℤ) (row : InvocationRecord) :
    Kept row (attachedRow receipt now row) := by
  unfold attachedRow
  split
  · rename_i hfresh
    refine ⟨rfl, fun other hother ↦ ?_⟩
    simp [hother] at hfresh
  · exact refl row

/-- What is signed for a row does not depend on its receipt. -/
theorem signReceipt_eq (h : Kept row row') (platform : Platform) (options : AuthorityServiceOptions) :
    signReceipt platform options row' = signReceipt platform options row := by
  rw [h.same]
  rfl

end InvocationRecord.Kept

/-- The receipt states what the row states. -/
structure Truthful (platform : Platform) (row : InvocationRecord) (receipt : SignedAuthorizationReceipt) :
    Prop where
  invocationId : receipt.invocationId = row.invocationId
  grantId : receipt.grantId = row.grantId
  agent : receipt.agent = row.agent
  permitDigest : receipt.permitDigest = row.request.permitDigest
  requestFingerprint : receipt.requestFingerprint = row.fingerprint
  service : receipt.service = row.request.service
  capability : receipt.capability = row.request.capability
  network : receipt.network = row.request.network
  mint : receipt.mint = row.request.mint
  recipient : receipt.recipient = row.request.recipient
  amountAtomic : receipt.amountAtomic = row.amountAtomic
  operation : receipt.operation = row.request.operation
  operationDigest : receipt.operationDigest = computeOperationDigest platform row.request.operation
  reasonCodes : receipt.reasonCodes = row.reasonCodes
  decidedAt : receipt.decidedAt = row.decidedAt
  paymentTransactionId : receipt.paymentTransactionId = row.paymentTransactionId
  allow_iff : receipt.decision = "ALLOW" ↔ row.state = .CONFIRMED

theorem signReceipt_truthful {platform : Platform} {options : AuthorityServiceOptions}
    {row : InvocationRecord} {receipt : SignedAuthorizationReceipt}
    (h : signReceipt platform options row = some receipt) : Truthful platform row receipt := by
  unfold signReceipt signAuthorizationReceipt at h
  split at h
  · cases h
    refine ⟨rfl, rfl, rfl, rfl, rfl, rfl, rfl, rfl, rfl, rfl, rfl, rfl, rfl, rfl, rfl, rfl, ?_⟩
    change (if row.state = .CONFIRMED then "ALLOW" else "DENY") = "ALLOW" ↔ row.state = .CONFIRMED
    by_cases hstate : row.state = .CONFIRMED <;> simp [hstate]
  · cases h

variable {platform : Platform} {options : ℕ → AuthorityServiceOptions} {sys sys' : System} {action : Action}

/-- A step leaves a decided row, or stores its receipt. -/
theorem RowStep.kept_of_decided {invocationId : String} {row : InvocationRecord}
    {new : Option InvocationRecord} (h : RowStep platform options sys invocationId (some row) new)
    (hdecided : row.isDecided = true) : ∃ row', new = some row' ∧ row.Kept row' := by
  generalize hold : some row = old at h
  cases h with
  | same => exact ⟨row, hold.symm, .refl row⟩
  | updated terms change =>
    cases hold
    cases change with
    | moved isOpen receipt =>
      exfalso
      cases hstate : row.state <;>
        simp [InvocationRecord.isDecided, InvocationRecord.isOpen, hstate] at hdecided isOpen
    | filed signing same signed new_eq => exact ⟨_, rfl, new_eq ▸ .attached _ _ row⟩
  | decided call invocationId_eq retry =>
    cases hold
    have hfailed := (retryingFailed_iff.1 (retry row rfl)).1
    simp [InvocationRecord.isDecided, hfailed] at hdecided

/-- Decided rows stay. -/
def Db.Keeps (db db' : Db) : Prop :=
  ∀ invocationId row, db.invocations.find? invocationId = some row → row.isDecided = true →
    ∃ row', db'.invocations.find? invocationId = some row' ∧ row.Kept row'

theorem Db.Keeps.refl (db : Db) : db.Keeps db := fun _ row hfind _ ↦ ⟨row, hfind, .refl row⟩

theorem System.step_keeps (h : sys.step platform options action = some sys') : sys.db.Keeps sys'.db := by
  intro invocationId row hfind hdecided
  have hrow := System.step_row h invocationId
  rw [hfind] at hrow
  exact hrow.kept_of_decided hdecided

/-- Decided rows stay over every run. -/
theorem run_keeps {allowed : System → Action → Prop} {labels : List Action}
    (hrun : Run (System.step platform options) allowed sys labels sys') : sys.db.Keeps sys'.db := by
  induction hrun with
  | start => exact .refl _
  | next _ _ hstep ih =>
    intro invocationId row hfind hdecided
    obtain ⟨row', hfind', hkept⟩ := ih invocationId row hfind hdecided
    obtain ⟨row'', hfind'', hkept'⟩ := System.step_keeps hstep invocationId row' hfind'
      (hkept.isDecided_eq.trans hdecided)
    exact ⟨row'', hfind'', hkept.trans hkept'⟩

/-! ## Receipts in flight -/

/-- A row read earlier: only a decided one has a receipt, and a decided one is still there. -/
structure Db.Snapshot (db : Db) (row : InvocationRecord) : Prop where
  decided : ∀ receipt, row.receipt = some receipt → row.isDecided = true
  kept : row.isDecided = true → ∃ row', db.invocations.find? row.invocationId = some row' ∧ row.Kept row'

/-- The stored receipt of an invocation. -/
def Db.HasReceipt (db : Db) (invocationId : String) (receipt : SignedAuthorizationReceipt) : Prop :=
  ∃ row, db.invocations.find? invocationId = some row ∧ row.receipt = some receipt

/-- What is known of a receipt that a call is about to sign or has returned. -/
def StageReceipted (db : Db) (invocationId : String) : Stage → Prop
  | .known (some row) => row.invocationId = invocationId ∧ db.Snapshot row
  | .signing row _ => row.invocationId = invocationId ∧ row.isDecided = true ∧ db.Snapshot row
  | .done (.returned result) => db.HasReceipt invocationId result.receipt
  | _ => True

structure Receipted (platform : Platform) (options : ℕ → AuthorityServiceOptions) (sys : System) : Prop where
  rows : ∀ invocationId row receipt, sys.db.invocations.find? invocationId = some row →
    row.receipt = some receipt →
      row.isDecided = true ∧ ∃ process, signReceipt platform (options process) row = some receipt
  calls : ∀ id call, sys.calls id = some call →
    StageReceipted sys.db call.auth.request.invocationId call.stage
  runs : ∀ process row rest, sys.runs process = some (.receipting row rest) →
    row.isDecided = true ∧ sys.db.Snapshot row

theorem receipted_initial : Receipted platform options .initial where
  rows _ _ _ h := nomatch h
  calls _ _ h := nomatch h
  runs _ _ _ h := nomatch h

theorem Db.Snapshot.later {db db' : Db} {row : InvocationRecord} (h : db.Snapshot row) (hkeeps : db.Keeps db') :
    db'.Snapshot row := by
  refine ⟨h.decided, fun hdecided ↦ ?_⟩
  obtain ⟨row', hfind, hkept⟩ := h.kept hdecided
  obtain ⟨row'', hfind', hkept'⟩ := hkeeps _ row' hfind (hkept.isDecided_eq.trans hdecided)
  exact ⟨row'', hfind', hkept.trans hkept'⟩

variable {db db' : Db}

/-- Rows with a receipt are decided. -/
def Db.ReceiptsDecided (db : Db) : Prop :=
  ∀ invocationId row receipt, db.invocations.find? invocationId = some row → row.receipt = some receipt →
    row.isDecided = true

theorem Db.snapshot_of_find {invocationId : String} {row : InvocationRecord} (h : db.ReceiptsDecided)
    (hfind : db.invocations.find? invocationId = some row) : db.Snapshot row := by
  have hid : row.invocationId = invocationId := Table.key_of_find? hfind
  refine ⟨fun receipt ↦ h invocationId row receipt hfind, fun _ ↦ ⟨row, ?_, .refl row⟩⟩
  rw [hid]
  exact hfind

theorem StageReceipted.later {invocationId : String} {stage : Stage} (h : StageReceipted db invocationId stage)
    (hdecided : db.ReceiptsDecided) (hkeeps : db.Keeps db') : StageReceipted db' invocationId stage := by
  cases stage with
  | known found =>
    cases found with
    | none => trivial
    | some row => exact ⟨h.1, h.2.later hkeeps⟩
  | signing row replay => exact ⟨h.1, h.2.1, h.2.2.later hkeeps⟩
  | done outcome =>
    cases outcome with
    | failed failure => trivial
    | returned result =>
      obtain ⟨row, hfind, hreceipt⟩ := h
      obtain ⟨row', hfind', hkept⟩ := hkeeps invocationId row hfind (hdecided _ _ _ hfind hreceipt)
      exact ⟨row', hfind', hkept.receipt _ hreceipt⟩
  | _ => trivial

theorem ensureReceipt_receipted {invocationId : String} {row : InvocationRecord}
    (hid : row.invocationId = invocationId) (h : db.Snapshot row) (processOptions : AuthorityServiceOptions)
    (replay : Bool) : StageReceipted db invocationId (ensureReceipt processOptions row replay) := by
  unfold ensureReceipt
  split
  · rename_i receipt hreceipt
    obtain ⟨row', hfind, hkept⟩ := h.kept (h.decided receipt hreceipt)
    exact ⟨row', hid ▸ hfind, hkept.receipt receipt hreceipt⟩
  · split
    · rename_i hstate
      exact ⟨hid, by simpa [InvocationRecord.isDecided] using hstate, h⟩
    · trivial

theorem resolveExisting_receipted {invocationId : String} {row : InvocationRecord}
    (hid : row.invocationId = invocationId) (h : db.Snapshot row) (processOptions : AuthorityServiceOptions)
    (fingerprint : String) :
    StageReceipted db invocationId (resolveExisting processOptions row fingerprint) := by
  unfold resolveExisting
  split
  · trivial
  · split
    all_goals first
      | exact ensureReceipt_receipted hid h processOptions true
      | trivial

theorem decide_receipted {invocationId : String} (processOptions : AuthorityServiceOptions)
    (auth : AuthenticatedRequest) (decidedAt : ℤ) :
    StageReceipted db invocationId (decide platform processOptions auth decidedAt) := by
  unfold decide
  dsimp only
  repeat' split
  all_goals trivial

/-- The row that an answered reservation reports is the stored one. -/
theorem afterReserve_receipted {processOptions : AuthorityServiceOptions} {auth : AuthenticatedRequest}
    {decidedAt : ℤ} {terms : ChallengeTerms} {evaluate : BudgetEvaluator} {now : ℤ} {result : ReserveResult}
    (heffect : ReserveEffect db db' (reserveInput auth decidedAt terms) evaluate now result)
    (hdecided : db'.ReceiptsDecided) :
    StageReceipted db' auth.request.invocationId
      (afterReserve platform processOptions auth terms (.ok result)) := by
  cases result with
  | existing row =>
    obtain ⟨rfl, hfind, -⟩ := heffect
    exact resolveExisting_receipted (Table.key_of_find? hfind) (Db.snapshot_of_find hdecided hfind) _ _
  | grant_conflict grant => trivial
  | denied new =>
    obtain ⟨existing, hexisting, hretry, hdenied⟩ := heffect
    obtain ⟨pinned, grant, reserved, consumed, reasonCodes, hpinned, -, -, rfl, hwritten⟩ := hdenied.effect
    refine ensureReceipt_receipted ?_ (Db.snapshot_of_find hdecided hwritten.wrote.find_self) _ _
    exact ReserveInput.written_invocationId fun row hrow ↦ Table.key_of_find? (hexisting.trans hrow)
  | reserved new =>
    unfold afterReserve startPayment
    dsimp only
    repeat' split
    all_goals trivial

theorem Progress.receipted {processOptions : AuthorityServiceOptions} {auth : AuthenticatedRequest}
    {stage stage' : Stage} {event : CallEvent}
    (h : Progress platform processOptions db auth stage event db' stage')
    (hstage : StageReceipted db auth.request.invocationId stage) (hdecided : db'.ReceiptsDecided) :
    StageReceipted db' auth.request.invocationId stage' := by
  cases h with
  | resolved known => exact resolveExisting_receipted hstage.1 hstage.2 _ _
  | decided now retry => exact decide_receipted _ _ _
  | reserved effect => exact afterReserve_receipted effect hdecided
  | @confirmed settlement result now row db' entry found consumed =>
    have hid : (confirmedRow row ⟨settlement.transactionId, some settlement, some result⟩ now).invocationId =
        auth.request.invocationId := found.id_eq
    exact ensureReceipt_receipted hid (Db.snapshot_of_find hdecided consumed.wrote.find_self) _ _
  | @attached row found replay receipt stored now db' signed find stores wrote grants transitions =>
    refine ⟨_, ?_, stores⟩
    rw [← hstage.1, ← Table.key_of_find? find, ← attachedRow_invocationId receipt now found]
    exact wrote.find_self
  | _ => trivial

/-- A process that is about to store a receipt signs for a decided row that is still there. -/
theorem Receipted.signing (h : Receipted platform options sys) {process : ℕ} {row : InvocationRecord}
    (hsigning : sys.Signing process row) : row.isDecided = true ∧ sys.db.Snapshot row := by
  rcases hsigning with ⟨id, auth, replay, -, hcall⟩ | ⟨rest, hrun⟩
  · exact (h.calls id _ hcall).2
  · exact h.runs process row rest hrun

/-- Only decided rows have receipts after a step, and each was signed for its row. -/
theorem Receipted.step_rows (h : Receipted platform options sys)
    (hstep : sys.step platform options action = some sys') {invocationId : String} {row : InvocationRecord}
    {receipt : SignedAuthorizationReceipt} (hfind : sys'.db.invocations.find? invocationId = some row)
    (hreceipt : row.receipt = some receipt) :
    row.isDecided = true ∧ ∃ process, signReceipt platform (options process) row = some receipt := by
  have hrow := System.step_row hstep invocationId
  rw [hfind] at hrow
  generalize hold : sys.db.invocations.find? invocationId = old at hrow
  generalize hnew : some row = new at hrow
  cases hrow with
  | same =>
    subst hnew
    exact h.rows invocationId row receipt hold hreceipt
  | @updated before after terms change =>
    cases hnew
    cases change with
    | moved isOpen kept =>
      rw [kept] at hreceipt
      have hbefore := (h.rows invocationId before receipt hold hreceipt).1
      cases hstate : before.state <;>
        simp [InvocationRecord.isDecided, InvocationRecord.isOpen, hstate] at hbefore isOpen
    | @filed process snapshot signedReceipt now signing same signed new_eq =>
      obtain ⟨hdecided, hsnapshot⟩ := h.signing signing
      obtain ⟨current, hcurrent, hkept⟩ := hsnapshot.kept hdecided
      rw [same, Table.key_of_find? hold, hold] at hcurrent
      cases hcurrent
      have hfiled : before.Kept row := new_eq ▸ InvocationRecord.Kept.attached signedReceipt now before
      have hafter := hkept.trans hfiled
      refine ⟨hafter.isDecided_eq.trans hdecided, ?_⟩
      cases hbefore : before.receipt with
      | some earlier =>
        have hsame := hfiled.receipt earlier hbefore
        rw [hreceipt] at hsame
        cases hsame
        obtain ⟨-, signer, hsigner⟩ := h.rows invocationId before receipt hold hbefore
        exact ⟨signer, (hfiled.signReceipt_eq platform (options signer)).trans hsigner⟩
      | none =>
        have hstored : row.receipt = some signedReceipt := by
          have hbeforeDecided := hkept.isDecided_eq.trans hdecided
          simp only [InvocationRecord.isDecided] at hbeforeDecided
          rw [new_eq, attachedRow, hbefore, hbeforeDecided]
          rfl
        rw [hreceipt] at hstored
        cases hstored
        exact ⟨process, (hafter.signReceipt_eq platform (options process)).trans signed⟩
  | @decided id auth decidedAt terms existing state reasonCodes now call invocationId_eq retry =>
    cases hnew
    cases old with
    | none => cases hreceipt
    | some before =>
      have hbefore := (h.rows invocationId before receipt hold hreceipt).1
      simp [InvocationRecord.isDecided, (retryingFailed_iff.1 (retry before rfl)).1] at hbefore

theorem admitted_receipted {invocationId : String} (hdecided : db.ReceiptsDecided) (access : Option ℤ)
    (pending : Option Pending) (auth : AuthenticatedRequest) (hid : auth.request.invocationId = invocationId) :
    StageReceipted db invocationId (admitted db access pending auth) := by
  subst hid
  unfold admitted
  split
  · unfold earlyLookup
    split
    · rename_i row hlookup
      have hselect : row = db.invocations.find? auth.request.invocationId := by
        cases access with
        | none => cases hlookup
        | some now =>
          cases hlookup
          rfl
      subst hselect
      cases hfind : db.invocations.find? auth.request.invocationId with
      | none => trivial
      | some found => exact ⟨Table.key_of_find? hfind, Db.snapshot_of_find hdecided hfind⟩
    · trivial
  · split <;> trivial

theorem replayed_receipted {invocationId : String} {outcome : Outcome}
    (h : StageReceipted db invocationId (.done outcome)) :
    StageReceipted db invocationId (.done (replayed outcome)) := by
  cases outcome with
  | returned result => exact h
  | failed failure => trivial

theorem Receipted.step_call (h : Receipted platform options sys) (hjoined : Joined sys)
    (hstep : sys.step platform options action = some sys') (hdecided : sys'.db.ReceiptsDecided) {id : CallId}
    {call : Call} (hcall : sys'.calls id = some call) :
    StageReceipted sys'.db call.auth.request.invocationId call.stage := by
  have hbefore : sys.db.ReceiptsDecided := fun _ _ _ hfind hreceipt ↦ (h.rows _ _ _ hfind hreceipt).1
  have hkeeps := System.step_keeps hstep
  have horigin := System.step_call hstep hcall
  generalize sys'.db = db' at horigin hdecided hkeeps ⊢
  cases horigin with
  | kept found => exact (h.calls id _ found).later hbefore hkeeps
  | admitted serving authenticated => exact admitted_receipted hdecided _ _ _ rfl
  | progressed found progress => exact progress.receipted (h.calls id _ found) hdecided
  | transmitted found => trivial
  | @delivered auth leaderAuth leader outcome found leaderDone =>
    obtain ⟨leading, hleading, hid, -⟩ := hjoined.waiting id auth leader found
    rw [leaderDone] at hleading
    cases hleading
    have hleader := h.calls _ _ leaderDone
    rw [hid] at hleader
    exact replayed_receipted hleader

theorem nextLookup_ne_receipting (rest : List Lookup) (row : InvocationRecord) (more : List Lookup) :
    nextLookup rest ≠ some (.receipting row more) := by
  cases rest <;> exact nofun

theorem Receipted.step_run (h : Receipted platform options sys)
    (hstep : sys.step platform options action = some sys') (hdecided : sys'.db.ReceiptsDecided) {process : ℕ}
    {row : InvocationRecord} {rest : List Lookup} (hrun : sys'.runs process = some (.receipting row rest)) :
    row.isDecided = true ∧ sys'.db.Snapshot row := by
  have hkeeps := System.step_keeps hstep
  have hkept : sys.runs process = some (.receipting row rest) → row.isDecided = true ∧ sys'.db.Snapshot row :=
    fun hbefore ↦ ⟨(h.runs process row rest hbefore).1, (h.runs process row rest hbefore).2.later hkeeps⟩
  cases System.step_cases hstep with
  | crashed other =>
    dsimp only at hrun
    rw [Function.update_apply] at hrun
    split at hrun
    · cases hrun
    · exact hkept hrun
  | admitted serving unused authenticated =>
    rw [System.accept_kept.runs] at hrun
    exact hkept hrun
  | @reconciled other event run db' serving progress =>
    dsimp only at hrun hdecided ⊢
    rw [Function.update_apply] at hrun
    split at hrun
    · rename_i hsame
      subst hsame
      generalize sys.runs process = before at progress
      cases progress with
      | listed => exact absurd hrun (nextLookup_ne_receipting _ _ _)
      | decided decides => cases hrun
      | skipped more unresolved => exact absurd hrun (nextLookup_ne_receipting _ _ _)
      | @resolved lookup outcome more now found db' hfound reconciled =>
        cases outcome with
        | failed reason => exact absurd hrun (nextLookup_ne_receipting _ _ _)
        | confirmed settlement =>
          unfold afterResolve at hrun
          split at hrun
          · cases hrun
            refine ⟨rfl, Db.snapshot_of_find hdecided (reconciled_wrote reconciled).find_self⟩
          · exact absurd hrun (nextLookup_ne_receipting _ _ _)
      | attached signed find stores wrote grants transitions =>
        exact absurd hrun (nextLookup_ne_receipting _ _ _)
    · exact hkept hrun
  | _ => exact hkept hrun

theorem Receipted.step (h : Receipted platform options sys) (hjoined : Joined sys)
    (hstep : sys.step platform options action = some sys') : Receipted platform options sys' := by
  have hdecided : sys'.db.ReceiptsDecided := fun _ _ _ hfind hreceipt ↦ (h.step_rows hstep hfind hreceipt).1
  exact ⟨fun _ _ _ hfind hreceipt ↦ h.step_rows hstep hfind hreceipt,
    fun _ _ hcall ↦ h.step_call hjoined hstep hdecided hcall,
    fun _ _ _ hrun ↦ h.step_run hstep hdecided hrun⟩

theorem Receipted.of_run {allowed : System → Action → Prop} {labels : List Action}
    (hrun : Run (System.step platform options) allowed .initial labels sys) :
    Receipted platform options sys := by
  induction hrun with
  | start => exact receipted_initial
  | next hbefore _ hstep ih => exact ih.step (Joined.of_run hbefore) hstep

/-- What every caller gets is the stored receipt. -/
theorem Receipted.returned (h : Receipted platform options sys) {id : CallId} {auth : AuthenticatedRequest}
    {result : AuthorizeResult} (hcall : sys.calls id = some ⟨auth, .done (.returned result)⟩) :
    sys.db.HasReceipt auth.request.invocationId result.receipt :=
  h.calls id _ hcall

/-- Two callers of one invocation, at any two times, got one receipt. -/
theorem Receipted.returned_unique (h : Receipted platform options sys) (h' : Receipted platform options sys')
    (hkeeps : sys.db.Keeps sys'.db) {id id' : CallId} {auth auth' : AuthenticatedRequest}
    {result result' : AuthorizeResult} (hcall : sys.calls id = some ⟨auth, .done (.returned result)⟩)
    (hcall' : sys'.calls id' = some ⟨auth', .done (.returned result')⟩)
    (hinvocation : auth'.request.invocationId = auth.request.invocationId) :
    result'.receipt = result.receipt := by
  obtain ⟨row, hfind, hreceipt⟩ := h.returned hcall
  obtain ⟨row', hfind', hreceipt'⟩ := h'.returned hcall'
  obtain ⟨kept, hkeptFind, hkept⟩ := hkeeps _ row hfind (h.rows _ _ _ hfind hreceipt).1
  rw [hinvocation, hkeptFind] at hfind'
  cases hfind'
  rw [hkept.receipt _ hreceipt] at hreceipt'
  exact (Option.some.inj hreceipt').symm

/-- Decisions and receipts over every run: a decided row stays but for a receipt it did not have, a
receipt states what its row states, only decided rows have one, and every caller gets that one. -/
theorem receipts_immutable_truthful {labels more : List Action}
    (hrun : Run (System.step platform options) (fun _ _ ↦ True) .initial labels sys)
    (hmore : Run (System.step platform options) (fun _ _ ↦ True) sys more sys') :
    (∀ invocationId row, sys.db.invocations.find? invocationId = some row → row.isDecided = true →
      ∃ row', sys'.db.invocations.find? invocationId = some row' ∧
        row' = { row with receipt := row'.receipt, updatedAt := row'.updatedAt } ∧
        ∀ receipt, row.receipt = some receipt → row'.receipt = some receipt) ∧
    (∀ invocationId row receipt, sys.db.invocations.find? invocationId = some row →
      row.receipt = some receipt →
        (row.state = .DENIED ∨ row.state = .CONFIRMED) ∧ Truthful platform row receipt ∧
        ∃ process, signReceipt platform (options process) row = some receipt) ∧
    (∀ id auth result, sys.calls id = some ⟨auth, .done (.returned result)⟩ →
      sys.db.HasReceipt auth.request.invocationId result.receipt) ∧
    ∀ id auth result id' auth' result', sys.calls id = some ⟨auth, .done (.returned result)⟩ →
      sys'.calls id' = some ⟨auth', .done (.returned result')⟩ →
      auth'.request.invocationId = auth.request.invocationId → result'.receipt = result.receipt := by
  have hreceipted := Receipted.of_run hrun
  have hreceipted' := Receipted.of_run (hrun.append hmore)
  have hkeeps := run_keeps hmore
  refine ⟨fun invocationId row hfind hdecided ↦ ?_, fun invocationId row receipt hfind hreceipt ↦ ?_,
    fun id auth result hcall ↦ hreceipted.returned hcall,
    fun id auth result id' auth' result' ↦ hreceipted.returned_unique hreceipted' hkeeps⟩
  · obtain ⟨row', hfind', hkept⟩ := hkeeps invocationId row hfind hdecided
    exact ⟨row', hfind', hkept.same, hkept.receipt⟩
  · obtain ⟨hdecided, process, hsigned⟩ := hreceipted.rows invocationId row receipt hfind hreceipt
    exact ⟨by simpa [InvocationRecord.isDecided] using hdecided, signReceipt_truthful hsigned,
      process, hsigned⟩

/-- The paid purchase, and a restart after it. -/
theorem receipts_immutable_truthful_returned :
    Sample.receiptedDb.HasReceipt "invocation" Sample.receipt ∧
      Truthful Sample.platform Sample.receipted Sample.receipt := by
  have hrun : Run (System.step Sample.platform fun _ ↦ Sample.options) (fun _ _ ↦ True) .initial
      (Sample.confirming ++ [.call Sample.id (.store (some 4200))])
      ((Sample.pending.sent Sample.credential).withCall Sample.id Sample.auth Sample.receiptedDb
        (.done (.returned (resultOf Sample.options Sample.confirmed Sample.receipt false)))) :=
    Sample.returned_run.mono trivial (fun _ _ _ _ _ _ ↦ trivial) fun _ _ _ _ ↦ trivial
  obtain ⟨-, hreceipts, hreturned, -⟩ :=
    receipts_immutable_truthful hrun ((Run.start.next trivial rfl).next trivial rfl :
      Run _ _ _ [.crash 0, .start 1] _)
  exact ⟨hreturned Sample.id Sample.auth _ System.withCall_calls,
    (hreceipts "invocation" Sample.receipted Sample.receipt rfl rfl).2.1⟩

end VirtualHaibin.Authority
