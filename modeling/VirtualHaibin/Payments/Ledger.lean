import VirtualHaibin.Payments.Provider

/-!
# The ledger behind the pinned RPC

A truthful RPC answers every call from the ledger of that moment, and the ledger grows between the
calls of one lookup.  A transaction lands only up to the last block height its blockhash is valid for.
The lookup reads the newest transactions of the payer first and the block height last, so what lands
between the two reads, and what newer transactions of the payer push off the page, is missed by an
expiry verdict.
-/

namespace VirtualHaibin.Payments

open Foundation Foundation.Checked Program

/-- A transaction on the ledger, with the height of its block. -/
structure LandedTransaction where
  /-- The first signature. -/
  id : String
  rpc : RpcTransaction
  accounts : List String
  height : ℤ
  /-- Where its blockhash expires. -/
  lastValidBlockHeight : ℤ
  included : height ≤ lastValidBlockHeight

/-- The transactions, oldest first, and the current block height. -/
structure Ledger where
  height : ℤ
  transactions : Table LandedTransaction.id

/-- The newest transactions of an account, as many as one page of the history holds. -/
def Ledger.page (ledger : Ledger) (address : String) : List LandedTransaction :=
  (ledger.transactions.rows.reverse.filter fun tx ↦ address ∈ tx.accounts).take 50

/-- Later ledgers keep what landed; what lands anew lands in a later block. -/
def Ledger.Grows (ledger later : Ledger) : Prop :=
  ledger.height ≤ later.height ∧ ∃ landed, later.transactions.rows = ledger.transactions.rows ++ landed ∧
    ∀ tx ∈ landed, ledger.height ≤ tx.height

/-- The ledger at the calls of a lookup, one after the other, and ever after. -/
structure LedgerHistory where
  ledger : ℕ → Ledger
  grows : ∀ n, (ledger n).Grows (ledger (n + 1))

/-- The signature of an entry of the history. -/
def entrySignature (entry : Json) : Option String := (object? (some entry)).bind fun record ↦ text record "signature"

/-- What a truthful RPC may answer; a failed call has no answer to be true. -/
def Ledger.Answers (ledger : Ledger) : Program.Event ProviderAnswer → Prop
  | ⟨.getSignaturesForAddress address, some (Except.ok history)⟩ => ∃ entries, history = .arr entries ∧
      entries.map entrySignature = (ledger.page address).map fun tx ↦ some tx.id
  | ⟨.getTransaction signature, some (Except.ok tx)⟩ =>
      tx = (ledger.transactions.find? signature).map LandedTransaction.rpc
  | ⟨.getBlockHeight, some (Except.ok height)⟩ => height = .finite ledger.height
  | _ => True

/-- Every call is answered from the ledger of its moment. -/
def LedgerHistory.Truthful (history : LedgerHistory) (calls : Trace) : Prop :=
  ∀ n event, calls[n]? = some event → (history.ledger n).Answers event

def LandedTransaction.Carries (tx : LandedTransaction) (attempt : PaymentAttempt) : Prop :=
  ∃ signatures, tx.rpc.signatures = some signatures ∧ attempt.payerSignature ∈ signatures

/-- A transaction that carries the payer signature of the attempt is on the ledger. -/
def Ledger.Landed (ledger : Ledger) (attempt : PaymentAttempt) : Prop :=
  ∃ tx ∈ ledger.transactions.rows, tx.Carries attempt

/-- A transaction that carries the payer signature is among the newest of the payer. -/
def Ledger.Shows (ledger : Ledger) (attempt : PaymentAttempt) : Prop :=
  ∃ tx ∈ ledger.page attempt.payer, tx.Carries attempt

/-- The payer signature covers the blockhash, hence its expiry. -/
def LedgerHistory.Binds (history : LedgerHistory) (attempt : PaymentAttempt) : Prop :=
  ∀ n, ∀ tx ∈ (history.ledger n).transactions.rows, tx.Carries attempt →
    Decimal.bigInt attempt.lastValidBlockHeight = some tx.lastValidBlockHeight

/-- The blockhash of the attempt may still be valid, or was until recently. -/
def Ledger.WithinMargin (options : ProviderOptions) (ledger : Ledger) (attempt : PaymentAttempt) : Prop :=
  ∃ lastValid, Decimal.bigInt attempt.lastValidBlockHeight = some lastValid ∧
    ledger.height ≤ lastValid + options.expiryMarginBlocks

namespace Ledger

@[refl] theorem Grows.refl (ledger : Ledger) : ledger.Grows ledger :=
  ⟨le_refl _, [], (List.append_nil _).symm, by simp⟩

theorem Grows.trans {first second third : Ledger} (h : first.Grows second) (h' : second.Grows third) :
    first.Grows third := by
  obtain ⟨hheight, landed, hrows, hlater⟩ := h
  obtain ⟨hheight', landed', hrows', hlater'⟩ := h'
  refine ⟨hheight.trans hheight', landed ++ landed', ?_, ?_⟩
  · rw [hrows', hrows, List.append_assoc]
  · intro tx hmem
    rcases List.mem_append.1 hmem with hmem | hmem
    · exact hlater tx hmem
    · exact hheight.trans (hlater' tx hmem)

theorem Grows.mem {ledger later : Ledger} (h : ledger.Grows later) {tx : LandedTransaction}
    (hmem : tx ∈ ledger.transactions.rows) : tx ∈ later.transactions.rows := by
  obtain ⟨-, landed, hrows, -⟩ := h
  rw [hrows]
  exact List.mem_append_left _ hmem

/-- A transaction of a later ledger was there before or landed since. -/
theorem Grows.mem_or_le {ledger later : Ledger} (h : ledger.Grows later) {tx : LandedTransaction}
    (hmem : tx ∈ later.transactions.rows) : tx ∈ ledger.transactions.rows ∨ ledger.height ≤ tx.height := by
  obtain ⟨-, landed, hrows, hlater⟩ := h
  rw [hrows] at hmem
  exact (List.mem_append.1 hmem).imp_right (hlater tx)

theorem mem_of_mem_page {ledger : Ledger} {address : String} {tx : LandedTransaction}
    (h : tx ∈ ledger.page address) : tx ∈ ledger.transactions.rows :=
  List.mem_reverse.1 (List.mem_filter.1 (List.mem_of_mem_take h)).1

end Ledger

theorem LedgerHistory.grows_of_le (history : LedgerHistory) {n m : ℕ} (h : n ≤ m) :
    (history.ledger n).Grows (history.ledger m) := by
  induction m, h using Nat.le_induction with
  | base => exact .refl _
  | succ m _ ih => exact ih.trans (history.grows m)

/-- What is on the ledger is what the RPC finds under its id at every later call. -/
theorem LedgerHistory.find?_of_mem (history : LedgerHistory) {n m : ℕ} (h : n ≤ m) {tx : LandedTransaction}
    (hmem : tx ∈ (history.ledger n).transactions.rows) : (history.ledger m).transactions.find? tx.id = some tx :=
  Table.find?_of_mem ((history.grows_of_le h).mem hmem)

/-- Past the height its blockhash is valid for, a transaction that has not landed never lands. -/
theorem LedgerHistory.not_landed_of_lt (history : LedgerHistory) {attempt : PaymentAttempt}
    (hbinds : history.Binds attempt) {n : ℕ} {lastValid : ℤ}
    (hvalid : Decimal.bigInt attempt.lastValidBlockHeight = some lastValid)
    (hpast : lastValid < (history.ledger n).height) (hnot : ¬ (history.ledger n).Landed attempt) (m : ℕ) :
    ¬ (history.ledger m).Landed attempt := by
  rintro ⟨tx, hmem, hcarries⟩
  rcases Nat.le_total m n with hle | hle
  · exact hnot ⟨tx, (history.grows_of_le hle).mem hmem, hcarries⟩
  · rcases (history.grows_of_le hle).mem_or_le hmem with hbefore | hafter
    · exact hnot ⟨tx, hbefore, hcarries⟩
    · have hbound : lastValid = tx.lastValidBlockHeight :=
        Option.some.inj (hvalid.symm.trans (hbinds m tx hmem hcarries))
      have hincluded := tx.included
      omega

/-! ## What a truthful RPC shows a lookup -/

theorem mem_addCandidate {found next : OrderedSet String} {entry : Json} (h : addCandidate found entry = .ok next)
    (signature : String) : signature ∈ next.rows ↔ signature ∈ found.rows ∨ entrySignature entry = some signature := by
  unfold addCandidate at h
  cases entry with
  | null => cases h
  | obj record =>
    cases h
    show _ ↔ _ ∨ text record "signature" = some signature
    cases text record "signature" with
    | none => simp
    | some other => simp [eq_comm]
  | _ =>
    cases h
    simp [entrySignature, object?]

theorem mem_candidates {entries : List Json} {first found : OrderedSet String}
    (h : entries.foldlM addCandidate first = .ok found) (signature : String) :
    signature ∈ found.rows ↔ signature ∈ first.rows ∨ some signature ∈ entries.map entrySignature := by
  induction entries generalizing first with
  | nil =>
    cases h
    simp
  | cons entry rest ih =>
    rw [List.foldlM_cons, bind_eq_ok] at h
    obtain ⟨next, hnext, h⟩ := h
    rw [ih h, mem_addCandidate hnext, List.map_cons, List.mem_cons, or_assoc, eq_comm (a := some signature)]

variable {platform : Platform} {options : ProviderOptions}

/-- The candidates of a reconciliation are the ids of one page of the payer. -/
theorem mem_candidates_iff {ledger : Ledger} {address : String} {answer : Json} {found : OrderedSet String}
    (hanswers : ledger.Answers ⟨.getSignaturesForAddress address, some (Except.ok answer)⟩)
    (h : candidates none answer = .ok found) (signature : String) :
    signature ∈ found.rows ↔ ∃ tx ∈ ledger.page address, tx.id = signature := by
  obtain ⟨entries, rfl, hentries⟩ := hanswers
  rw [mem_candidates h, hentries, List.mem_map]
  simp [Table.empty]

theorem carries_iff (platform : Platform) {tx : LandedTransaction} {attempt : PaymentAttempt} :
    tx.Carries attempt ↔
      checkSettledTransaction platform (some tx.rpc) attempt.settlementFacts ≠ .ok .notThisPayment := by
  rw [Ne, checkSettledTransaction_notThisPayment_iff]
  unfold LandedTransaction.Carries
  push Not
  constructor
  · rintro ⟨signatures, hsignatures, hmem⟩
    exact ⟨tx.rpc, signatures, rfl, hsignatures, hmem⟩
  · rintro ⟨rpc, signatures, hrpc, hsignatures, hmem⟩
    obtain rfl := Option.some.inj hrpc
    exact ⟨signatures, hsignatures, hmem⟩

section

variable {history : LedgerHistory} {attempt : PaymentAttempt} {answer : Json} {found : OrderedSet String}
  {checking rest : Trace}

/-- A candidate was fetched after the page was read. -/
theorem LedgerHistory.Truthful.fetched {first : Program.Event ProviderAnswer} {calls : Trace}
    (htruthful : history.Truthful (first :: calls)) {signature : String} {tx : Option RpcTransaction}
    (hmem : (⟨.getTransaction signature, some (Except.ok tx)⟩ : Program.Event ProviderAnswer) ∈ calls)
    {landed : LandedTransaction} (hpage : landed ∈ (history.ledger 0).transactions.rows) (hid : landed.id = signature) :
    tx = some landed.rpc := by
  obtain ⟨n, hn⟩ := List.getElem?_of_mem hmem
  have hanswer : tx = ((history.ledger (n + 1)).transactions.find? signature).map LandedTransaction.rpc :=
    htruthful (n + 1) ⟨.getTransaction signature, some (Except.ok tx)⟩ (by rwa [List.getElem?_cons_succ])
  rw [hanswer, ← hid, history.find?_of_mem (Nat.zero_le _) hpage]
  rfl

variable (htruthful : history.Truthful (⟨.getSignaturesForAddress attempt.payer, some (Except.ok answer)⟩ ::
  (checking ++ rest))) (hfound : candidates none answer = .ok found)

include htruthful hfound

/-- If no candidate decides, the payment was not on the page. -/
theorem not_shows_of_undecided
    (h : Plays (checkCandidates platform attempt none found.rows).run checking (some (.ok none))) :
    ¬ (history.ledger 0).Shows attempt := by
  rintro ⟨tx, hpage, hcarries⟩
  have hcandidate : tx.id ∈ found.rows := (mem_candidates_iff (htruthful 0 _ rfl) hfound _).2 ⟨tx, hpage, rfl⟩
  obtain ⟨shown, hmem, hother⟩ := checkCandidates_none h tx.id hcandidate
  obtain rfl := htruthful.fetched (List.mem_append_left _ hmem) (Ledger.mem_of_mem_page hpage) rfl
  exact (carries_iff platform).1 hcarries hother

/-- If a candidate decides, it carries the payment and was on the page. -/
theorem shows_of_decided {result : SettlementLookup}
    (h : Plays (checkCandidates platform attempt none found.rows).run checking (some (.ok (some result)))) :
    (history.ledger 0).Shows attempt := by
  obtain ⟨signature, hcandidate, tx, check, hmem, hcheck, hdecides⟩ := checkCandidates_some h
  obtain ⟨landed, hpage, hid⟩ := (mem_candidates_iff (htruthful 0 _ rfl) hfound _).1 hcandidate
  obtain rfl := htruthful.fetched (List.mem_append_left _ hmem) (Ledger.mem_of_mem_page hpage) hid
  refine ⟨landed, hpage, (carries_iff platform).2 fun hother ↦ ?_⟩
  obtain rfl : check = .notThisPayment := Except.ok.inj (hcheck.symm.trans hother)
  cases result with
  | inconclusive detail =>
    obtain ⟨_, hcheck⟩ := hdecides
    cases hcheck
  | failed_onchain => cases hdecides
  | confirmed =>
    obtain ⟨hcheck, -⟩ := hdecides
    cases hcheck
  | expired => exact hdecides
  | pending => exact hdecides

end

theorem bigIntOfNumber_int {height value : ℤ}
    (h : bigIntOfNumber platform (.finite height) = .ok value) : value = height := by
  unfold bigIntOfNumber at h
  rw [guardThat_bind_eq_ok] at h
  obtain ⟨-, h⟩ := h
  cases h
  exact Rat.num_intCast height

/-! ## Expiry -/

/-- An expiry verdict is final exactly if the payment was on the page the lookup read first, or had not
landed when it read the block height, or the verdict was not reached for want of blocks. -/
theorem expired_final_iff {history : LedgerHistory} {attempt : PaymentAttempt} (hbinds : history.Binds attempt)
    {calls : Trace} {result : SettlementLookup}
    (h : Plays (lookupSettlement platform options attempt).run calls (some (.ok result)))
    (htruthful : history.Truthful calls) :
    ((∃ height, result = .expired height) → ∀ n, ¬ (history.ledger n).Landed attempt) ↔
      (history.ledger 0).Shows attempt ∨ ¬ (history.ledger (calls.length - 1)).Landed attempt ∨
        (history.ledger (calls.length - 1)).WithinMargin options attempt := by
  obtain ⟨answer, found, checking, rest, hfound, rfl, hdecision⟩ := lookup_ok h
  rcases hdecision with ⟨rfl, hdecided⟩ | ⟨read, height, lastValid, rfl, hundecided, hheight, hvalid, hresult⟩
  · -- A candidate decided, so there is no expiry and the payment was on the page.
    have hshows := shows_of_decided htruthful hfound hdecided
    obtain ⟨_, _, _, _, _, _, hdecides⟩ := checkCandidates_some hdecided
    refine ⟨fun _ ↦ .inl hshows, fun _ ⟨height, hexpired⟩ ↦ ?_⟩
    subst hexpired
    exact hdecides.elim
  · have hnot := not_shows_of_undecided htruthful hfound hundecided
    have hlast : (⟨.getSignaturesForAddress attempt.payer, some (Except.ok answer)⟩ ::
        (checking ++ [⟨.getBlockHeight, some (Except.ok read)⟩]) : Trace).length - 1 = checking.length + 1 := by
      simp
    rw [hlast]
    have hread : read = .finite (history.ledger (checking.length + 1)).height :=
      htruthful (checking.length + 1) ⟨.getBlockHeight, some (Except.ok read)⟩ (by simp)
    subst hread
    obtain rfl := bigIntOfNumber_int hheight
    constructor
    · intro hfinal
      by_cases hpast : lastValid + options.expiryMarginBlocks < (history.ledger (checking.length + 1)).height
      · rw [if_pos hpast] at hresult
        exact .inr (.inl (hfinal ⟨_, hresult⟩ _))
      · exact .inr (.inr ⟨lastValid, hvalid, not_lt.1 hpast⟩)
    · rintro (hshows | hmissing | ⟨bound, hbound, hwithin⟩) ⟨shown, hexpired⟩
      · exact absurd hshows hnot
      · rw [hexpired] at hresult
        split at hresult
        · rename_i hpast
          exact history.not_landed_of_lt hbinds hvalid (by omega) hmissing
        · cases hresult
      · obtain rfl := Option.some.inj (hvalid.symm.trans hbound)
        rw [hexpired, if_neg (not_lt.2 hwithin)] at hresult
        cases hresult

namespace Sample

/-- The page is empty and the height far past the expiry of the attempt. -/
def expiring : Trace :=
  [⟨.getSignaturesForAddress wallet, some (Except.ok (.arr []))⟩,
    ⟨.getBlockHeight, some (Except.ok (.finite ((930 : ℤ) : ℚ)))⟩]

theorem expiring_plays : Plays (lookupSettlement payments providerOptions attempt).run expiring
    (some (.ok (.expired (930 : ℤ).repr))) := by
  have hvalid : Decimal.bigInt attempt.lastValidBlockHeight = some 900 := by decide
  have hheight : bigIntOfNumber payments (.finite ((930 : ℤ) : ℚ)) = .ok 930 := by
    simp [bigIntOfNumber]
  refine Plays.then (@Plays.performed _ ProviderAnswer (.getSignaturesForAddress _) (Except.ok (.arr []))) ?_
  refine (plays_compute_ok.2 ⟨rfl, show candidates none (.arr []) = .ok .empty from rfl⟩).then ?_
  refine plays_then.2 (.inr (.inr ⟨none, [], _, rfl, plays_ok.2 ⟨rfl, rfl⟩, ?_⟩))
  refine Plays.then (@Plays.performed _ ProviderAnswer .getBlockHeight (Except.ok (.finite _))) ?_
  refine (plays_compute_ok.2 ⟨rfl, hheight⟩).then ?_
  refine (plays_compute_ok.2 ⟨rfl, required_eq_ok.2 hvalid⟩).then ?_
  rw [if_pos (by decide)]
  exact plays_ok.2 ⟨rfl, rfl⟩

/-- An earlier payment of the same payer. -/
def earlier : LandedTransaction where
  id := "earlier"
  rpc := { rpc (some .null) with signatures := some ["earlier", "another payer signature"] }
  accounts := [facilitator, wallet]
  height := 600
  lastValidBlockHeight := 610
  included := by decide

def unlanded : LedgerHistory where
  ledger _ := ⟨930, ⟨[earlier], by simp⟩⟩
  grows _ := .refl _

/-- The page shows the earlier payment, and the height is far past the expiry of the attempt. -/
def searching : Trace :=
  [⟨.getSignaturesForAddress wallet, some (Except.ok (.arr [.obj [("signature", .str "earlier")]]))⟩,
    ⟨.getTransaction "earlier", some (Except.ok (some earlier.rpc))⟩,
    ⟨.getBlockHeight, some (Except.ok (.finite ((930 : ℤ) : ℚ)))⟩]

theorem earlier_other : ¬ earlier.Carries attempt := by
  rintro ⟨signatures, hsignatures, hmem⟩
  obtain rfl := Option.some.inj hsignatures
  revert hmem
  decide

theorem searching_plays : Plays (lookupSettlement payments providerOptions attempt).run searching
    (some (.ok (.expired (930 : ℤ).repr))) := by
  have hvalid : Decimal.bigInt attempt.lastValidBlockHeight = some 900 := by decide
  have hheight : bigIntOfNumber payments (.finite ((930 : ℤ) : ℚ)) = .ok 930 := by
    simp [bigIntOfNumber]
  have hcandidates : candidates none (.arr [.obj [("signature", .str "earlier")]]) =
      .ok (OrderedSet.add .empty "earlier") := rfl
  have hother : checkSettledTransaction payments (some earlier.rpc) attempt.settlementFacts = .ok .notThisPayment := by
    by_contra hcarries
    exact earlier_other ((carries_iff payments).2 hcarries)
  refine Plays.then (@Plays.performed _ ProviderAnswer (.getSignaturesForAddress _) (Except.ok (.arr _))) ?_
  refine (plays_compute_ok.2 ⟨rfl, hcandidates⟩).then ?_
  refine plays_then.2 (.inr (.inr ⟨none, [_], _, rfl, ?_, ?_⟩))
  · refine Plays.then (@Plays.performed _ ProviderAnswer (.getTransaction _) (Except.ok (some earlier.rpc))) ?_
    exact (plays_compute_ok.2 ⟨rfl, hother⟩).then (plays_ok.2 ⟨rfl, rfl⟩)
  · refine Plays.then (@Plays.performed _ ProviderAnswer .getBlockHeight (Except.ok (.finite _))) ?_
    refine (plays_compute_ok.2 ⟨rfl, hheight⟩).then ?_
    refine (plays_compute_ok.2 ⟨rfl, required_eq_ok.2 hvalid⟩).then ?_
    rw [if_pos (by decide)]
    exact plays_ok.2 ⟨rfl, rfl⟩

theorem searching_truthful : unlanded.Truthful searching := by
  intro n event hevent
  rcases n with _ | _ | _ | n
  · obtain rfl := Option.some.inj hevent
    exact ⟨[.obj [("signature", .str "earlier")]], rfl, rfl⟩
  · obtain rfl := Option.some.inj hevent
    rfl
  · obtain rfl := Option.some.inj hevent
    rfl
  · cases hevent

/-- Lands in the last block but four that its blockhash is valid for. -/
def late : LandedTransaction where
  id := facilitatorSignature
  rpc := rpc (some .null)
  accounts := [facilitator, wallet]
  height := 895
  lastValidBlockHeight := 900
  included := by decide

/-- The payment lands and expires after the history was read. -/
def overtaken : LedgerHistory where
  ledger
    | 0 => ⟨890, .empty⟩
    | _ + 1 => ⟨930, ⟨[late], by simp⟩⟩
  grows
    | 0 => ⟨by decide, [late], rfl, by simp [late]⟩
    | _ + 1 => .refl _

theorem late_carries : late.Carries attempt := ⟨_, rfl, by simp [attempt]⟩

theorem overtaken_binds : overtaken.Binds attempt := by
  intro n tx hmem _
  cases n with
  | zero => cases hmem
  | succ n =>
    obtain rfl := List.mem_singleton.1 hmem
    decide

theorem expiring_truthful {history : LedgerHistory} (hfirst : (history.ledger 0).page wallet = [])
    (hsecond : (history.ledger 1).height = 930) : history.Truthful expiring := by
  intro n event hevent
  match n with
  | 0 =>
    obtain rfl := Option.some.inj hevent
    exact ⟨[], rfl, by rw [hfirst]; rfl⟩
  | 1 =>
    obtain rfl := Option.some.inj hevent
    show _ = Number.finite _
    rw [hsecond]
  | _ + 2 => cases hevent

end Sample

/-- An attempt that never landed, of a payer whose earlier payment did, is reported expired and stays off the ledger. -/
theorem expired_final_unlanded :
    Plays (lookupSettlement Sample.payments Sample.providerOptions Sample.attempt).run Sample.searching
        (some (.ok (.expired (930 : ℤ).repr))) ∧
      Sample.earlier ∈ (Sample.unlanded.ledger 0).page Sample.attempt.payer ∧
        ∀ n, ¬ (Sample.unlanded.ledger n).Landed Sample.attempt := by
  have hother : ∀ n, ∀ tx ∈ (Sample.unlanded.ledger n).transactions.rows, ¬ tx.Carries Sample.attempt := by
    intro n tx hmem
    obtain rfl := List.mem_singleton.1 hmem
    exact Sample.earlier_other
  have hmissing : ¬ (Sample.unlanded.ledger 2).Landed Sample.attempt := fun ⟨tx, hmem, hcarries⟩ ↦
    hother 2 tx hmem hcarries
  exact ⟨Sample.searching_plays, List.mem_singleton_self Sample.earlier,
    (expired_final_iff (fun n tx hmem hcarries ↦ absurd hcarries (hother n tx hmem)) Sample.searching_plays
      Sample.searching_truthful).2 (.inr (.inl hmissing)) ⟨_, rfl⟩⟩

/-- The history was read before the payment landed and the height after it had expired: the lookup
reports an expiry of a payment that is on the ledger. -/
theorem expired_overtaken :
    ¬ ∀ (platform : Platform) (options : ProviderOptions) (attempt : PaymentAttempt) (history : LedgerHistory)
      (calls : Trace) (height : String), history.Binds attempt → history.Truthful calls →
        Plays (lookupSettlement platform options attempt).run calls (some (.ok (.expired height))) →
          ∀ n, ¬ (history.ledger n).Landed attempt := by
  intro h
  refine h _ _ _ Sample.overtaken _ _ Sample.overtaken_binds (Sample.expiring_truthful rfl rfl)
    Sample.expiring_plays 1 ?_
  exact ⟨Sample.late, List.mem_singleton_self _, Sample.late_carries⟩

end VirtualHaibin.Payments
