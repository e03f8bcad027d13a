import VirtualHaibin.Payments.Types

/-!
# The payment transaction

The check of a signed transfer before it is transmitted, and the offline check of the payer's own
signature.  Both decode the wire bytes and fail closed: a decoding exception is a rejection.
-/

namespace VirtualHaibin.Payments

open Foundation Foundation.Checked

def TOKEN_PROGRAM : String := "TokenkegQfeZyiNwAJbNbGKPFXCWuBvf9Ss623VQ5DA"
def TOKEN_2022_PROGRAM : String := "TokenzQdBNbLqP5VEhdkAS6EPFLC1PHnBqCXEpPxuEb"
def COMPUTE_BUDGET_PROGRAM : String := "ComputeBudget111111111111111111111111111111"
def MEMO_PROGRAM : String := "MemoSq4gqABAXKb96qnH8TysNcWxMyWCqXgDLGmfcHr"

def TRANSFER_CHECKED : ℕ := 12

/-- `SetComputeUnitLimit` and `SetComputeUnitPrice` only. -/
def ALLOWED_COMPUTE_BUDGET : List ℕ := [2, 3]

def MAX_MEMO_BYTES : ℕ := 256

@[ext] structure ExpectedExactPayment where
  payer : String
  feePayer : String
  asset : String
  payTo : String
  amountAtomic : String
  blockhash : String

structure ValidTransaction where
  payerSignature : String
  tokenProgram : String

def undecodable (message : String) : String :=
  "transaction could not be decoded or checked: " ++ message

/-- `DataView.getBigUint64` in little-endian order. -/
def littleEndian (bytes : List ℕ) : ℕ := bytes.foldr (fun byte value ↦ byte + 256 * value) 0

/-- The one allowed token instruction. -/
def checkTransfer (platform : Platform) (expected : ExpectedExactPayment) (program : String)
    (data : List ℕ) (accounts : List (Option String)) : Except String Unit := do
  guardThat (data.length = 10 && data.head? = some TRANSFER_CHECKED)
    "token instruction is not TransferChecked"
  match accounts with
  | [source, mint, destination, authority] =>
    guardThat (littleEndian ((data.drop 1).take 8) = Decimal.amount expected.amountAtomic)
      "transfer amount does not match the authorized amount"
    guardThat (mint = some expected.asset) "transfer mint does not match the authorized asset"
    guardThat (authority = some expected.payer) "transfer authority is not the payment wallet"
    let payToAccount ← (platform.associatedTokenAddress expected.payTo expected.asset program).mapError
      undecodable
    guardThat (destination = some payToAccount) "transfer destination is not payTo's token account"
    let payerAccount ← (platform.associatedTokenAddress expected.payer expected.asset program).mapError
      undecodable
    guardThat (source = some payerAccount) "transfer source is not the payment wallet's token account"
  | _ => .error "TransferChecked has unexpected accounts"

/-- One instruction; the state is the program of the transfer seen so far. -/
def checkInstruction (platform : Platform) (expected : ExpectedExactPayment) (accounts : List String)
    (transfer : Option String) (instruction : WireInstruction) : Except String (Option String) := do
  let program := accounts[instruction.programAddressIndex]?
  let instructionAccounts := instruction.accountIndices.map fun index ↦ accounts[index]?
  if program = some COMPUTE_BUDGET_PROGRAM then
    guardThat (instructionAccounts.isEmpty && instruction.data.head?.any fun kind ↦
      kind ∈ ALLOWED_COMPUTE_BUDGET) "unexpected compute-budget instruction"
    return transfer
  else if program = some MEMO_PROGRAM then
    guardThat (instructionAccounts.isEmpty && instruction.data.length ≤ MAX_MEMO_BYTES)
      "unexpected memo instruction"
    return transfer
  else
    let tokenProgram ← required (program.filter fun name ↦ name = TOKEN_PROGRAM || name = TOKEN_2022_PROGRAM)
      ("unexpected program " ++ program.getD "(invalid index)")
    guardThat transfer.isNone "more than one token instruction"
    checkTransfer platform expected tokenProgram instruction.data instructionAccounts
    return some tokenProgram

def WireTransaction.signature? (transaction : WireTransaction) (signer : String) : Option String :=
  ((transaction.signatures.find? fun entry ↦ entry.1 = signer).map Prod.snd).join

def versionText : Option ℕ → String
  | none => "legacy"
  | some version => version.repr

def validateExactPaymentTransaction (platform : Platform) (transactionBase64 : Option String)
    (expected : ExpectedExactPayment) : Except String ValidTransaction := do
  let encoded ← required (transactionBase64.filter fun text ↦ text ≠ "") "payment payload has no transaction"
  guardThat (expected.feePayer ≠ expected.payer) "payment wallet must not be the fee payer"
  guardThat (isCanonicalAtomicAmount expected.amountAtomic) "expected amount is not a canonical integer"
  let transaction ← (platform.decodeTransaction encoded).mapError undecodable
  guardThat (transaction.version = some 0)
    ("unexpected transaction message version " ++ versionText transaction.version)
  guardThat (transaction.addressTableLookups = 0) "address lookup tables are not allowed"
  guardThat (transaction.lifetimeToken = expected.blockhash)
    "transaction is not bound to the authority-fetched blockhash"
  guardThat (transaction.staticAccounts[0]? = some expected.feePayer)
    "fee payer is not the challenge's facilitator fee payer"
  guardThat (transaction.numSignerAccounts = 2 && transaction.staticAccounts[1]? = some expected.payer)
    "signers must be exactly the facilitator fee payer and the payment wallet"
  guardThat (transaction.signatures.length = 2 &&
      (transaction.signatures.map Prod.fst).contains expected.feePayer &&
      (transaction.signatures.map Prod.fst).contains expected.payer)
    "unexpected signature set"
  let payerSignature ← required (WireTransaction.signature? transaction expected.payer)
    "transaction is not signed by the payment wallet"
  let transfer ← transaction.instructions.foldlM
    (checkInstruction platform expected transaction.staticAccounts) none
  let tokenProgram ← required transfer "no token transfer"
  return { payerSignature, tokenProgram }

/-- Whether `payer` signed exactly the message bytes of the transaction. -/
def verifyTransactionPayerSignature (platform : Platform) (transactionBase64 payer : String) : Bool :=
  match platform.decodeTransaction transactionBase64 with
  | .error _ => false
  | .ok transaction =>
    match WireTransaction.signature? transaction payer with
    | none => false
    | some signature =>
      platform.isAddress payer && platform.importsKey payer &&
        platform.verifySignature payer signature transaction.messageBytes

/-! ## What an accepted transaction does -/

/-- A transaction instruction that moves exactly the expected amount between the token accounts of
the payer and the recipient. -/
structure TransfersExactly (platform : Platform) (expected : ExpectedExactPayment)
    (transaction : WireTransaction) (instruction : WireInstruction) (program : String) : Prop where
  program_eq : transaction.staticAccounts[instruction.programAddressIndex]? = some program
  program_mem : program = TOKEN_PROGRAM ∨ program = TOKEN_2022_PROGRAM
  kind : instruction.data.head? = some TRANSFER_CHECKED
  amount : littleEndian ((instruction.data.drop 1).take 8) = Decimal.amount expected.amountAtomic
  accounts : ∃ payerAccount payToAccount,
    platform.associatedTokenAddress expected.payer expected.asset program = .ok payerAccount ∧
    platform.associatedTokenAddress expected.payTo expected.asset program = .ok payToAccount ∧
    instruction.accountIndices.map (fun index ↦ transaction.staticAccounts[index]?) =
      [some payerAccount, some expected.asset, some payToAccount, some expected.payer]

/-- The whole of what an accepted token instruction is. -/
structure IsAuthorizedTransfer (platform : Platform) (expected : ExpectedExactPayment)
    (transaction : WireTransaction) (instruction : WireInstruction) (program : String) : Prop
    extends TransfersExactly platform expected transaction instruction program where
  length_eq : instruction.data.length = 10

/-- An instruction without accounts: a compute unit limit or price, or a short memo. -/
inductive IsAuxiliary (transaction : WireTransaction) (instruction : WireInstruction) : Prop
  | computeBudget
      (program : transaction.staticAccounts[instruction.programAddressIndex]? = some COMPUTE_BUDGET_PROGRAM)
      (accounts : instruction.accountIndices = [])
      (kind : ∃ kind ∈ ALLOWED_COMPUTE_BUDGET, instruction.data.head? = some kind)
  | memo (program : transaction.staticAccounts[instruction.programAddressIndex]? = some MEMO_PROGRAM)
      (accounts : instruction.accountIndices = []) (short : instruction.data.length ≤ MAX_MEMO_BYTES)

variable {platform : Platform} {expected : ExpectedExactPayment}

theorem checkTransfer_eq_ok {program : String} {data : List ℕ} {accounts : List (Option String)} :
    checkTransfer platform expected program data accounts = .ok () ↔
      (data.length = 10 ∧ data.head? = some TRANSFER_CHECKED) ∧
      littleEndian ((data.drop 1).take 8) = Decimal.amount expected.amountAtomic ∧
      ∃ payerAccount payToAccount,
        platform.associatedTokenAddress expected.payer expected.asset program = .ok payerAccount ∧
        platform.associatedTokenAddress expected.payTo expected.asset program = .ok payToAccount ∧
        accounts = [some payerAccount, some expected.asset, some payToAccount, some expected.payer] := by
  unfold checkTransfer
  rw [guardThat_bind_eq_ok, Bool.and_eq_true, decide_eq_true_eq, decide_eq_true_eq]
  refine and_congr_right fun _ ↦ ?_
  split
  · simp only [guardThat_bind_eq_ok, guardThat_eq_ok, Mandate.mapError_bind_eq_ok, decide_eq_true_eq]
    constructor
    · rintro ⟨hamount, rfl, rfl, payToAccount, hpayTo, rfl, payerAccount, hpayer, rfl⟩
      exact ⟨hamount, payerAccount, payToAccount, hpayer, hpayTo, rfl⟩
    · rintro ⟨hamount, payerAccount, payToAccount, hpayer, hpayTo, haccounts⟩
      obtain ⟨rfl, rfl, rfl, rfl⟩ : _ ∧ _ ∧ _ ∧ _ := by simpa using haccounts
      exact ⟨hamount, rfl, rfl, payToAccount, hpayTo, rfl, payerAccount, hpayer, rfl⟩
  · rename_i hshape
    constructor
    · intro herror
      cases herror
    · rintro ⟨-, payerAccount, payToAccount, -, -, rfl⟩
      exact absurd rfl (hshape _ _ _ _)

theorem isAuthorizedTransfer_iff {transaction : WireTransaction} {instruction : WireInstruction}
    {program : String} :
    IsAuthorizedTransfer platform expected transaction instruction program ↔
      transaction.staticAccounts[instruction.programAddressIndex]? = some program ∧
      (program = TOKEN_PROGRAM ∨ program = TOKEN_2022_PROGRAM) ∧
      checkTransfer platform expected program instruction.data
        (instruction.accountIndices.map fun index ↦ transaction.staticAccounts[index]?) = .ok () := by
  rw [checkTransfer_eq_ok]
  constructor
  · intro h
    exact ⟨h.program_eq, h.program_mem, ⟨h.length_eq, h.kind⟩, h.amount, h.accounts⟩
  · rintro ⟨hprogram, hmem, ⟨hlength, hkind⟩, hamount, haccounts⟩
    exact ⟨⟨hprogram, hmem, hkind, hamount, haccounts⟩, hlength⟩

/-- The three kinds of programs exclude each other, so the checks of the loop are alternatives. -/
theorem checkInstruction_storesOnce (transaction : WireTransaction) :
    StoresOnce (checkInstruction platform expected transaction.staticAccounts) (IsAuxiliary transaction)
      (IsAuthorizedTransfer platform expected transaction) := by
  intro transfer instruction next
  have hmemoBudget : MEMO_PROGRAM ≠ COMPUTE_BUDGET_PROGRAM := by decide
  have htoken (program : String) (h : program = TOKEN_PROGRAM ∨ program = TOKEN_2022_PROGRAM) :
      program ≠ COMPUTE_BUDGET_PROGRAM ∧ program ≠ MEMO_PROGRAM := by
    rcases h with rfl | rfl <;> decide
  unfold checkInstruction
  simp only
  split
  · rename_i hbudget
    simp only [guardThat_bind_eq_ok, pure_eq_ok, Except.ok.injEq, Bool.and_eq_true, List.isEmpty_iff,
      List.map_eq_nil_iff, Option.any_eq_true, decide_eq_true_eq]
    constructor
    · rintro ⟨⟨haccounts, kind, hkind, hmem⟩, rfl⟩
      exact .inl ⟨.computeBudget hbudget haccounts ⟨kind, hmem, hkind⟩, rfl⟩
    · rintro (⟨⟨-, haccounts, kind, hmem, hkind⟩ | ⟨hmemo, -, -⟩, rfl⟩ | ⟨-, program, hstores, -⟩)
      · exact ⟨⟨haccounts, kind, hkind, hmem⟩, rfl⟩
      · exact absurd (Option.some.inj (hmemo.symm.trans hbudget)) hmemoBudget
      · exact absurd (Option.some.inj (hstores.program_eq.symm.trans hbudget)) (htoken _ hstores.program_mem).1
  · rename_i hbudget
    split
    · rename_i hmemo
      simp only [guardThat_bind_eq_ok, pure_eq_ok, Except.ok.injEq, Bool.and_eq_true, List.isEmpty_iff,
        List.map_eq_nil_iff, decide_eq_true_eq]
      constructor
      · rintro ⟨⟨haccounts, hshort⟩, rfl⟩
        exact .inl ⟨.memo hmemo haccounts hshort, rfl⟩
      · rintro (⟨⟨hprogram, -, -⟩ | ⟨-, haccounts, hshort⟩, rfl⟩ | ⟨-, program, hstores, -⟩)
        · exact absurd hprogram hbudget
        · exact ⟨⟨haccounts, hshort⟩, rfl⟩
        · exact absurd (Option.some.inj (hstores.program_eq.symm.trans hmemo)) (htoken _ hstores.program_mem).2
    · rename_i hmemo
      simp only [required_bind_eq_ok, guardThat_bind_eq_ok, filter_eq_some, Bool.or_eq_true,
        decide_eq_true_eq, Option.isNone_iff_eq_none]
      simp only [bind_eq_ok, pure_eq_ok, Except.ok.injEq]
      constructor
      · rintro ⟨program, ⟨hprogram, hmem⟩, hnone, ⟨⟩, htransfer, rfl⟩
        exact .inr ⟨hnone, program, isAuthorizedTransfer_iff.2 ⟨hprogram, hmem, htransfer⟩, rfl⟩
      · rintro (⟨⟨hprogram, -, -⟩ | ⟨hprogram, -, -⟩, -⟩ | ⟨hnone, program, hstores, rfl⟩)
        · exact absurd hprogram hbudget
        · exact absurd hprogram hmemo
        · obtain ⟨hprogram, hmem, htransfer⟩ := isAuthorizedTransfer_iff.1 hstores
          exact ⟨program, ⟨hprogram, hmem⟩, hnone, (), htransfer, rfl⟩

/-- What `validateExactPaymentTransaction` establishes of the transaction it accepts. -/
structure PaysExactly (platform : Platform) (expected : ExpectedExactPayment) (encoded : String)
    (payerSignature : String) (transaction : WireTransaction) : Prop where
  decoded : platform.decodeTransaction encoded = .ok transaction
  feePayer_ne : expected.feePayer ≠ expected.payer
  amount_canonical : isCanonicalAtomicAmount expected.amountAtomic = true
  blockhash : transaction.lifetimeToken = expected.blockhash
  feePayer : transaction.staticAccounts[0]? = some expected.feePayer
  signed : WireTransaction.signature? transaction expected.payer = some payerSignature
  transfer : ∃ instruction ∈ transaction.instructions, ∃ program,
    TransfersExactly platform expected transaction instruction program

theorem mem_signatures_of_signature? {transaction : WireTransaction} {signer signature : String}
    (h : WireTransaction.signature? transaction signer = some signature) :
    (signer, some signature) ∈ transaction.signatures := by
  unfold WireTransaction.signature? at h
  cases hfind : transaction.signatures.find? fun entry ↦ entry.1 = signer with
  | none => simp [hfind] at h
  | some entry =>
    have hsigner : entry.1 = signer := by simpa using List.find?_some hfind
    have hsignature : entry.2 = some signature := by simpa [hfind] using h
    rw [← hsigner, ← hsignature]
    exact List.mem_of_find?_eq_some hfind

theorem signature?_of_mem {transaction : WireTransaction} {signer signature : String}
    (hnodup : (transaction.signatures.map Prod.fst).Nodup)
    (h : (signer, some signature) ∈ transaction.signatures) :
    WireTransaction.signature? transaction signer = some signature := by
  unfold WireTransaction.signature?
  cases hfind : transaction.signatures.find? fun entry ↦ entry.1 = signer with
  | none => exact absurd (List.find?_eq_none.1 hfind _ h) (by simp)
  | some entry =>
    have hsigner : entry.1 = signer := by simpa using List.find?_some hfind
    have hentry : entry = (signer, some signature) :=
      List.inj_on_of_nodup_map hnodup (List.mem_of_find?_eq_some hfind) h hsigner
    simp [hentry]

/-- Two keys of which both are expected are the expected ones. -/
theorem perm_signers_iff {keys : List String} {feePayer payer : String} (hne : feePayer ≠ payer) :
    keys.Perm [feePayer, payer] ↔ keys.length = 2 ∧ feePayer ∈ keys ∧ payer ∈ keys := by
  constructor
  · intro h
    exact ⟨h.length_eq, h.mem_iff.2 (by simp), h.mem_iff.2 (by simp)⟩
  · rintro ⟨hlength, hfeePayer, hpayer⟩
    have hnodup : [feePayer, payer].Nodup := by simpa using hne
    have hsubset : [feePayer, payer] ⊆ keys := by
      simpa [List.cons_subset] using ⟨hfeePayer, hpayer⟩
    exact ((List.subperm_of_subset hnodup hsubset).perm_of_length_le (by simp [hlength])).symm

/-- The transaction carries the authorized transfer and nothing else of value. -/
structure AuthorizedTransaction (platform : Platform) (expected : ExpectedExactPayment)
    (transaction : WireTransaction) (valid : ValidTransaction) : Prop where
  feePayer_ne : expected.feePayer ≠ expected.payer
  amount_canonical : isCanonicalAtomicAmount expected.amountAtomic = true
  version_eq : transaction.version = some 0
  lookups_eq : transaction.addressTableLookups = 0
  lifetime_eq : transaction.lifetimeToken = expected.blockhash
  feePayer_eq : transaction.staticAccounts[0]? = some expected.feePayer
  payer_eq : transaction.staticAccounts[1]? = some expected.payer
  signers_eq : transaction.numSignerAccounts = 2
  /-- The keys of the signature map, each once. -/
  signatures_perm : (transaction.signatures.map Prod.fst).Perm [expected.feePayer, expected.payer]
  signed : (expected.payer, some valid.payerSignature) ∈ transaction.signatures
  instructions_eq : ∃ before instruction after, transaction.instructions = before ++ instruction :: after ∧
    IsAuthorizedTransfer platform expected transaction instruction valid.tokenProgram ∧
    ∀ other ∈ before ++ after, IsAuxiliary transaction other

theorem validateExactPaymentTransaction_eq_ok {transactionBase64 : Option String} {valid : ValidTransaction} :
    validateExactPaymentTransaction platform transactionBase64 expected = .ok valid ↔
      ∃ encoded transaction, transactionBase64 = some encoded ∧ encoded ≠ "" ∧
        platform.decodeTransaction encoded = .ok transaction ∧
        AuthorizedTransaction platform expected transaction valid := by
  unfold validateExactPaymentTransaction
  simp only [required_bind_eq_ok, guardThat_bind_eq_ok, Mandate.mapError_bind_eq_ok, filter_eq_some,
    decide_eq_true_eq, Bool.and_eq_true, List.contains_iff_mem, and_assoc]
  constructor
  · rintro ⟨encoded, rfl, hnonempty, hfeePayer, hcanonical, transaction, hdecoded, hversion, hlookups,
      hlifetime, hfirst, hsigners, hsecond, hlength, hmem, hmem', payerSignature, hsigned, h⟩
    rw [bind_eq_ok] at h
    obtain ⟨transfer, hinstructions, h⟩ := h
    rw [required_bind_eq_ok] at h
    obtain ⟨tokenProgram, rfl, h⟩ := h
    cases h
    exact ⟨encoded, transaction, rfl, hnonempty, hdecoded, {
      feePayer_ne := hfeePayer, amount_canonical := hcanonical, version_eq := hversion,
      lookups_eq := hlookups, lifetime_eq := hlifetime, feePayer_eq := hfirst, payer_eq := hsecond,
      signers_eq := hsigners
      signatures_perm := (perm_signers_iff hfeePayer).2 ⟨by simpa using hlength, hmem, hmem'⟩
      signed := mem_signatures_of_signature? hsigned
      instructions_eq := ((checkInstruction_storesOnce transaction).foldlM_none _).1 hinstructions }⟩
  · rintro ⟨encoded, transaction, rfl, hnonempty, hdecoded, h⟩
    obtain ⟨hlength, hmem, hmem'⟩ := (perm_signers_iff h.feePayer_ne).1 h.signatures_perm
    have hnodup : (transaction.signatures.map Prod.fst).Nodup :=
      h.signatures_perm.nodup_iff.2 (by simpa using h.feePayer_ne)
    refine ⟨encoded, rfl, hnonempty, h.feePayer_ne, h.amount_canonical, transaction, hdecoded,
      h.version_eq, h.lookups_eq, h.lifetime_eq, h.feePayer_eq, h.signers_eq, h.payer_eq,
      by simpa using hlength, hmem, hmem', valid.payerSignature, signature?_of_mem hnodup h.signed, ?_⟩
    rw [((checkInstruction_storesOnce transaction).foldlM_none _).2 h.instructions_eq]
    rfl

theorem validateExactPaymentTransaction_ok {transactionBase64 : Option String} {valid : ValidTransaction}
    (h : validateExactPaymentTransaction platform transactionBase64 expected = .ok valid) :
    ∃ encoded transaction, transactionBase64 = some encoded ∧
      PaysExactly platform expected encoded valid.payerSignature transaction := by
  obtain ⟨encoded, transaction, hencoded, -, hdecoded, hauthorized⟩ :=
    validateExactPaymentTransaction_eq_ok.1 h
  obtain ⟨before, instruction, after, hinstructions, htransfer, -⟩ := hauthorized.instructions_eq
  have hnodup : (transaction.signatures.map Prod.fst).Nodup :=
    hauthorized.signatures_perm.nodup_iff.2 (by simpa using hauthorized.feePayer_ne)
  exact ⟨encoded, transaction, hencoded, {
    decoded := hdecoded, feePayer_ne := hauthorized.feePayer_ne
    amount_canonical := hauthorized.amount_canonical, blockhash := hauthorized.lifetime_eq
    feePayer := hauthorized.feePayer_eq, signed := signature?_of_mem hnodup hauthorized.signed
    transfer := ⟨instruction, by simp [hinstructions], valid.tokenProgram, htransfer.toTransfersExactly⟩ }⟩

/-- Exactly the authorized transfers are accepted, with the signature and the token program they
carry.  Anything else is refused with a reason: the source validates inside one `try`, and what its `catch` returns
for an exception of the decoder is `.error` here like the refusals of its own. -/
theorem validateExactPaymentTransaction_exact (platform : Platform) (transactionBase64 : Option String)
    (expected : ExpectedExactPayment) :
    (∀ valid, validateExactPaymentTransaction platform transactionBase64 expected = .ok valid ↔
      ∃ encoded transaction, transactionBase64 = some encoded ∧ encoded ≠ "" ∧
        platform.decodeTransaction encoded = .ok transaction ∧
        AuthorizedTransaction platform expected transaction valid) ∧
    ((∃ valid, validateExactPaymentTransaction platform transactionBase64 expected = .ok valid) ∨
      ∃ reason, validateExactPaymentTransaction platform transactionBase64 expected = .error reason) := by
  refine ⟨fun valid ↦ validateExactPaymentTransaction_eq_ok, ?_⟩
  cases validateExactPaymentTransaction platform transactionBase64 expected with
  | error reason => exact .inr ⟨reason, rfl⟩
  | ok valid => exact .inl ⟨valid, rfl⟩

end VirtualHaibin.Payments
