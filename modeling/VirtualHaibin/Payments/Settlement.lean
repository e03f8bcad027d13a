import VirtualHaibin.Payments.X402

/-!
# Settled transactions

The check of a transaction the RPC reports against the recorded facts of a payment.  It reads the
parsed JSON of the RPC where the check before transmission reads the wire bytes; on a faithful
rendering the two agree.
-/

namespace VirtualHaibin.Payments

open Foundation Foundation.Checked

/-- The `parsed` part of an instruction; an absent `info` reads like an empty one. -/
structure ParsedInstruction where
  type : Option String
  info : List (String × Json)

structure RpcInstruction where
  parsed : Option ParsedInstruction

structure RpcMessage where
  recentBlockhash : Option String
  instructions : Option (List RpcInstruction)

/-- The subset of a `getTransaction` response that the check reads. -/
structure RpcTransaction where
  slot : Option Number
  /-- `meta.err`; `none` without a `meta` or an `err`. -/
  err : Option Json
  signatures : Option (List String)
  message : Option RpcMessage

@[ext] structure ExpectedSettlement where
  payer : String
  payerSignature : String
  asset : String
  payTo : String
  amountAtomic : String
  blockhash : String

inductive SettledTransactionCheck where
  | notThisPayment
  | factsMismatch (transactionId detail : String)
  | failedOnchain (transactionId error : String)
  | settled (transactionId : String) (slot : Option String)
  deriving DecidableEq

/-- `String(value)` of a number. -/
def numberText (platform : Platform) : Number → String
  | .finite value => platform.stringify (some (.num (.finite value)))
  | .infinite negative => if negative then "-Infinity" else "Infinity"

def isPresent : Option Json → Bool
  | none | some .null => false
  | _ => true

/-- Whether an instruction moves exactly the expected amount to one of two token accounts. -/
def RpcInstruction.moves (instruction : RpcInstruction) (expected : ExpectedSettlement)
    (destination destination2022 : String) : Bool :=
  match instruction.parsed with
  | none => false
  | some parsed =>
    parsed.type = some "transferChecked" && text parsed.info "mint" = some expected.asset &&
      text parsed.info "authority" = some expected.payer &&
      (text parsed.info "destination" = some destination ||
        text parsed.info "destination" = some destination2022) &&
      (object? (Json.member parsed.info "tokenAmount")).bind (fun amount ↦ text amount "amount") =
        some expected.amountAtomic

/-- Shared by the reconciliation of the authority and by the evidence verifier. -/
def checkSettledTransaction (platform : Platform) (tx : Option RpcTransaction)
    (expected : ExpectedSettlement) : Except String SettledTransactionCheck :=
  match tx with
  | none => .ok .notThisPayment
  | some tx =>
    match tx.signatures.filter fun signatures ↦ signatures.contains expected.payerSignature with
    | none => .ok .notThisPayment
    | some signatures => do
      let transactionId := signatures.head?.getD expected.payerSignature
      let destination ← platform.associatedTokenAddress expected.payTo expected.asset TOKEN_PROGRAM
      let destination2022 ← platform.associatedTokenAddress expected.payTo expected.asset TOKEN_2022_PROGRAM
      let factsMatch := (tx.message.bind RpcMessage.recentBlockhash) = some expected.blockhash &&
        ((tx.message.bind RpcMessage.instructions).getD []).any fun instruction ↦
          instruction.moves expected destination destination2022
      if !factsMatch then
        return .factsMismatch transactionId
          s!"transaction {transactionId} carries the payer signature but its facts do not match"
      else if isPresent tx.err then
        return .failedOnchain transactionId (platform.stringify tx.err)
      else return .settled transactionId (tx.slot.map (numberText platform))

/-- Another payment is a transaction without the payer signature, or none at all. -/
theorem checkSettledTransaction_notThisPayment_iff {platform : Platform} {tx : Option RpcTransaction}
    {expected : ExpectedSettlement} : checkSettledTransaction platform tx expected = .ok .notThisPayment ↔
      ∀ rpc signatures, tx = some rpc → rpc.signatures = some signatures → expected.payerSignature ∉ signatures := by
  unfold checkSettledTransaction
  cases tx with
  | none => simp
  | some rpc =>
    dsimp only
    split
    · rename_i hnone
      refine ⟨fun _ other signatures hother hsignatures hmem ↦ ?_, fun _ ↦ rfl⟩
      obtain rfl := Option.some.inj hother
      rw [hsignatures] at hnone
      simp [hmem] at hnone
    · rename_i signatures hsome
      obtain ⟨hsignatures, hmem⟩ := filter_eq_some.1 hsome
      refine ⟨fun h ↦ ?_, fun h ↦ absurd (List.contains_iff_mem.1 hmem) (h rpc signatures rfl hsignatures)⟩
      rw [bind_eq_ok] at h
      obtain ⟨destination, -, h⟩ := h
      rw [bind_eq_ok] at h
      obtain ⟨destination2022, -, h⟩ := h
      split_ifs at h <;> cases h

/-! ## Faithful renderings -/

/-- A `TransferChecked` instruction of a token program, between four accounts. -/
structure IsTransfer (transaction : WireTransaction) (instruction : WireInstruction)
    (source mint destination authority : String) : Prop where
  program : ∃ program, transaction.staticAccounts[instruction.programAddressIndex]? = some program ∧
    (program = TOKEN_PROGRAM ∨ program = TOKEN_2022_PROGRAM)
  kind : instruction.data.head? = some TRANSFER_CHECKED
  accounts : instruction.accountIndices.map (fun index ↦ transaction.staticAccounts[index]?) =
    [some source, some mint, some destination, some authority]

/-- The amount bytes of a transfer. -/
def transferAmount (instruction : WireInstruction) : ℕ :=
  littleEndian ((instruction.data.drop 1).take 8)

/-- A transfer as parsed JSON, its amount in decimal. -/
structure ShowsTransfer (rendered : RpcInstruction) (mint destination authority : String) (amount : ℕ) :
    Prop where
  parsed : ∃ parsed, rendered.parsed = some parsed ∧ parsed.type = some "transferChecked" ∧
    text parsed.info "mint" = some mint ∧ text parsed.info "destination" = some destination ∧
    text parsed.info "authority" = some authority ∧
    ∃ tokenAmount, Json.member parsed.info "tokenAmount" = some (.obj tokenAmount) ∧
      text tokenAmount "amount" = some amount.repr

/-- The parsed JSON of a landed transaction: its signatures, its blockhash, and each of its
transfers among the instructions, whatever the others are and wherever they stand. -/
structure Renders (transaction : WireTransaction) (rpc : RpcTransaction) : Prop where
  signatures : ∃ signatures, rpc.signatures = some signatures ∧
    ∀ signer signature, (signer, some signature) ∈ transaction.signatures → signature ∈ signatures
  message : ∃ message instructions, rpc.message = some message ∧
    message.recentBlockhash = some transaction.lifetimeToken ∧ message.instructions = some instructions ∧
    ∀ instruction ∈ transaction.instructions, ∀ source mint destination authority,
      IsTransfer transaction instruction source mint destination authority →
        ∃ rendered ∈ instructions,
          ShowsTransfer rendered mint destination authority (transferAmount instruction)

/-- Deriving a token account fails for malformed addresses only, whatever the token program. -/
def DerivesTokenAccounts (platform : Platform) : Prop :=
  ∀ owner mint program account, platform.associatedTokenAddress owner mint program = .ok account →
    ∀ other ∈ [TOKEN_PROGRAM, TOKEN_2022_PROGRAM],
      ∃ account', platform.associatedTokenAddress owner mint other = .ok account'

theorem ShowsTransfer.moves {rendered : RpcInstruction} {expected : ExpectedSettlement}
    {destination destination' destination2022 : String} {amount : ℕ}
    (h : ShowsTransfer rendered expected.asset destination expected.payer amount)
    (hamount : amount.repr = expected.amountAtomic)
    (hdestination : destination = destination' ∨ destination = destination2022) :
    rendered.moves expected destination' destination2022 = true := by
  obtain ⟨parsed, hparsed, htype, hmint, hdest, hauthority, tokenAmount, htoken, hshown⟩ := h.parsed
  have hreaches : destination = destination' ∨ destination = destination2022 := hdestination
  simp [RpcInstruction.moves, hparsed, htype, hmint, hdest, hauthority, htoken, object?, hshown, hamount,
    hreaches]

/-- The facts of a payment under the signature that its payer gave. -/
def ExpectedExactPayment.settlement (expected : ExpectedExactPayment) (payerSignature : String) :
    ExpectedSettlement where
  payer := expected.payer
  payerSignature := payerSignature
  asset := expected.asset
  payTo := expected.payTo
  amountAtomic := expected.amountAtomic
  blockhash := expected.blockhash

variable {platform : Platform}

section

variable (expected : ExpectedExactPayment) (payerSignature : String)

@[simp] theorem settlement_payTo : (expected.settlement payerSignature).payTo = expected.payTo := rfl
@[simp] theorem settlement_asset : (expected.settlement payerSignature).asset = expected.asset := rfl
@[simp] theorem settlement_blockhash :
    (expected.settlement payerSignature).blockhash = expected.blockhash := rfl
@[simp] theorem settlement_payerSignature :
    (expected.settlement payerSignature).payerSignature = payerSignature := rfl

end

/-- A transaction accepted before transmission is found again, with the outcome it landed with. -/
theorem checkSettledTransaction_of_paysExactly {expected : ExpectedExactPayment} {encoded : String}
    {payerSignature : String} {transaction : WireTransaction} {rpc : RpcTransaction}
    (hderives : DerivesTokenAccounts platform)
    (hpays : PaysExactly platform expected encoded payerSignature transaction)
    (hrenders : Renders transaction rpc) :
    ∃ transactionId, rpc.signatures.bind List.head? = some transactionId ∧
      checkSettledTransaction platform (some rpc) (expected.settlement payerSignature) =
        .ok (if isPresent rpc.err then .failedOnchain transactionId (platform.stringify rpc.err)
          else .settled transactionId (rpc.slot.map (numberText platform))) := by
  obtain ⟨signatures, hsignatures, hcontains⟩ := hrenders.signatures
  obtain ⟨message, instructions, hmessage, hblockhash, hinstructions, hshown⟩ := hrenders.message
  obtain ⟨instruction, hmem, program, htransfer⟩ := hpays.transfer
  obtain ⟨payerAccount, payToAccount, hpayer, hpayTo, haccounts⟩ := htransfer.accounts
  obtain ⟨destination, hdestination⟩ := hderives _ _ _ _ hpayTo TOKEN_PROGRAM (by simp)
  obtain ⟨destination2022, hdestination2022⟩ := hderives _ _ _ _ hpayTo TOKEN_2022_PROGRAM (by simp)
  have hsigned : payerSignature ∈ signatures :=
    hcontains _ _ (mem_signatures_of_signature? hpays.signed)
  obtain ⟨rendered, hrendered, hshows⟩ := hshown instruction hmem _ _ _ _
    ⟨⟨program, htransfer.program_eq, htransfer.program_mem⟩, htransfer.kind, haccounts⟩
  have hamount : (transferAmount instruction).repr = expected.amountAtomic := by
    rw [transferAmount, htransfer.amount, repr_amount hpays.amount_canonical]
  have hreaches : payToAccount = destination ∨ payToAccount = destination2022 := by
    rcases htransfer.program_mem with rfl | rfl
    · exact .inl (Except.ok.inj (hpayTo.symm.trans hdestination))
    · exact .inr (Except.ok.inj (hpayTo.symm.trans hdestination2022))
  have hmoves : rendered.moves (expected.settlement payerSignature) destination destination2022 = true :=
    hshows.moves hamount hreaches
  have hany : (instructions.any fun instruction ↦
      instruction.moves (expected.settlement payerSignature) destination destination2022) = true :=
    List.any_eq_true.2 ⟨rendered, hrendered, hmoves⟩
  have hfilter : (some signatures).filter (fun signatures ↦
      signatures.contains (expected.settlement payerSignature).payerSignature) = some signatures :=
    Option.filter_some_pos (by simpa using hsigned)
  obtain ⟨transactionId, hhead⟩ : ∃ transactionId, signatures.head? = some transactionId := by
    cases signatures with
    | nil => simp at hsigned
    | cons first rest => exact ⟨first, rfl⟩
  refine ⟨transactionId, by rw [hsignatures]; exact hhead, ?_⟩
  simp only [checkSettledTransaction, hsignatures, hfilter, hdestination, hdestination2022, ok_bind,
    hmessage, Option.bind_some, hblockhash, hpays.blockhash, hinstructions, Option.getD_some, hany, hhead,
    settlement_payTo, settlement_asset, settlement_blockhash]
  cases isPresent rpc.err <;> rfl

/-! ## What is reported as settled -/

/-- A `transferChecked` of exactly the expected amount, from the payer to the destination. -/
structure ParsedInstruction.Transfers (parsed : ParsedInstruction) (expected : ExpectedSettlement)
    (destination : String) : Prop where
  type_eq : parsed.type = some "transferChecked"
  mint_eq : text parsed.info "mint" = some expected.asset
  authority_eq : text parsed.info "authority" = some expected.payer
  destination_eq : text parsed.info "destination" = some destination
  amount_eq : ∃ amount, Json.member parsed.info "tokenAmount" = some (.obj amount) ∧
    text amount "amount" = some expected.amountAtomic

/-- An instruction that pays a token account of the recipient. -/
def RpcInstruction.Pays (platform : Platform) (expected : ExpectedSettlement)
    (instruction : RpcInstruction) : Prop :=
  ∃ parsed program destination, instruction.parsed = some parsed ∧
    (program = TOKEN_PROGRAM ∨ program = TOKEN_2022_PROGRAM) ∧
    platform.associatedTokenAddress expected.payTo expected.asset program = .ok destination ∧
    parsed.Transfers expected destination

/-- The reported transaction carries the payment: the payer's signature, the recorded blockhash and
the transfer. -/
structure CarriesPayment (platform : Platform) (tx : RpcTransaction) (expected : ExpectedSettlement) : Prop where
  signed : ∃ signatures, tx.signatures = some signatures ∧ expected.payerSignature ∈ signatures
  blockhash : tx.message.bind RpcMessage.recentBlockhash = some expected.blockhash
  transfer : ∃ instructions, tx.message.bind RpcMessage.instructions = some instructions ∧
    ∃ instruction ∈ instructions, instruction.Pays platform expected

/-- Both token accounts of the recipient can be derived. -/
def TokenAccountsDerived (platform : Platform) (expected : ExpectedSettlement) : Prop :=
  ∀ program ∈ [TOKEN_PROGRAM, TOKEN_2022_PROGRAM],
    ∃ destination, platform.associatedTokenAddress expected.payTo expected.asset program = .ok destination

theorem moves_iff {instruction : RpcInstruction} {expected : ExpectedSettlement}
    {destination destination2022 : String} :
    instruction.moves expected destination destination2022 = true ↔
      ∃ parsed, instruction.parsed = some parsed ∧
        (parsed.Transfers expected destination ∨ parsed.Transfers expected destination2022) := by
  unfold RpcInstruction.moves
  cases instruction.parsed with
  | none => simp
  | some parsed =>
    simp only [Bool.and_eq_true, Bool.or_eq_true, decide_eq_true_eq, Option.bind_eq_some_iff,
      object?_eq_some, Option.some.injEq, exists_eq_left']
    constructor
    · rintro ⟨⟨⟨⟨htype, hmint⟩, hauthority⟩, hdestination | hdestination⟩, hamount⟩
      · exact .inl ⟨htype, hmint, hauthority, hdestination, hamount⟩
      · exact .inr ⟨htype, hmint, hauthority, hdestination, hamount⟩
    · rintro (h | h)
      · exact ⟨⟨⟨⟨h.type_eq, h.mint_eq⟩, h.authority_eq⟩, .inl h.destination_eq⟩, h.amount_eq⟩
      · exact ⟨⟨⟨⟨h.type_eq, h.mint_eq⟩, h.authority_eq⟩, .inr h.destination_eq⟩, h.amount_eq⟩

/-- One of the two token accounts is reached exactly if some derived token account is. -/
theorem any_moves_iff {instructions : List RpcInstruction} {expected : ExpectedSettlement}
    {destination destination2022 : String}
    (hdestination : platform.associatedTokenAddress expected.payTo expected.asset TOKEN_PROGRAM =
      .ok destination)
    (hdestination2022 : platform.associatedTokenAddress expected.payTo expected.asset TOKEN_2022_PROGRAM =
      .ok destination2022) :
    (instructions.any fun instruction ↦ instruction.moves expected destination destination2022) = true ↔
      ∃ instruction ∈ instructions, instruction.Pays platform expected := by
  rw [List.any_eq_true]
  refine exists_congr fun instruction ↦ and_congr_right fun _ ↦ moves_iff.trans ?_
  constructor
  · rintro ⟨parsed, hparsed, htransfers | htransfers⟩
    · exact ⟨parsed, _, _, hparsed, .inl rfl, hdestination, htransfers⟩
    · exact ⟨parsed, _, _, hparsed, .inr rfl, hdestination2022, htransfers⟩
  · rintro ⟨parsed, program, reached, hparsed, rfl | rfl, hreached, htransfers⟩
    · exact ⟨parsed, hparsed, .inl (Except.ok.inj (hreached.symm.trans hdestination) ▸ htransfers)⟩
    · exact ⟨parsed, hparsed, .inr (Except.ok.inj (hreached.symm.trans hdestination2022) ▸ htransfers)⟩

theorem signatures_filter_eq_some {tx : RpcTransaction} {signature : String} {signatures : List String} :
    (tx.signatures.filter fun signatures ↦ signatures.contains signature) = some signatures ↔
      tx.signatures = some signatures ∧ signature ∈ signatures := by
  rw [filter_eq_some, List.contains_iff_mem]

/-- A transaction is settled exactly if it carries the payment and no error is reported. -/
theorem checkSettledTransaction_settled_iff {tx : RpcTransaction} {expected : ExpectedSettlement} :
    (∃ transactionId slot, checkSettledTransaction platform (some tx) expected =
        .ok (.settled transactionId slot)) ↔
      CarriesPayment platform tx expected ∧ TokenAccountsDerived platform expected ∧
        isPresent tx.err = false := by
  constructor
  · rintro ⟨transactionId, slot, h⟩
    unfold checkSettledTransaction at h
    simp only at h
    split at h
    · cases h
    · rename_i signatures hsignatures
      rw [bind_eq_ok] at h
      obtain ⟨destination, hdestination, h⟩ := h
      rw [bind_eq_ok] at h
      obtain ⟨destination2022, hdestination2022, h⟩ := h
      split_ifs at h with hfacts herr <;> cases h
      simp only [Bool.not_eq_true', Bool.not_eq_false, Bool.and_eq_true, decide_eq_true_eq,
        any_moves_iff hdestination hdestination2022] at hfacts
      obtain ⟨hblockhash, instruction, hmem, hpays⟩ := hfacts
      refine ⟨⟨⟨signatures, signatures_filter_eq_some.1 hsignatures⟩, hblockhash, ?_⟩, ?_, by simpa using herr⟩
      · cases hinstructions : tx.message.bind RpcMessage.instructions with
        | none => simp [hinstructions] at hmem
        | some instructions => exact ⟨instructions, rfl, instruction, by simpa [hinstructions] using hmem, hpays⟩
      · simp [TokenAccountsDerived, hdestination, hdestination2022]
  · rintro ⟨hcarries, hderived, herr⟩
    obtain ⟨signatures, hsignatures⟩ := hcarries.signed
    obtain ⟨instructions, hinstructions, hpays⟩ := hcarries.transfer
    obtain ⟨destination, hdestination⟩ := hderived TOKEN_PROGRAM (by simp)
    obtain ⟨destination2022, hdestination2022⟩ := hderived TOKEN_2022_PROGRAM (by simp)
    have hany := (any_moves_iff hdestination hdestination2022).2 hpays
    refine ⟨signatures.head?.getD expected.payerSignature, tx.slot.map (numberText platform), ?_⟩
    simp only [checkSettledTransaction, signatures_filter_eq_some.2 hsignatures, hdestination,
      hdestination2022, ok_bind, hcarries.blockhash, hinstructions, Option.getD_some, hany, herr]
    rfl

/-- A payment counts as settled only if it is carried and its success was reported. -/
def SettledOnSuccess (platform : Platform) (tx : Option RpcTransaction) (expected : ExpectedSettlement) : Prop :=
  ∀ transactionId slot, checkSettledTransaction platform tx expected = .ok (.settled transactionId slot) →
    ∃ reported, tx = some reported ∧ CarriesPayment platform reported expected ∧ reported.err = some .null

/-- The check holds a payment to its reported success unless the outcome of a transaction that
carries it is missing: then it is settled as well. -/
theorem settledOnSuccess_iff (platform : Platform) (tx : Option RpcTransaction) (expected : ExpectedSettlement) :
    SettledOnSuccess platform tx expected ↔
      ∀ reported, tx = some reported → CarriesPayment platform reported expected →
        TokenAccountsDerived platform expected → reported.err.isSome := by
  constructor
  · rintro h reported rfl hcarries hderived
    by_contra hnone
    have herr : reported.err = none := by simpa using hnone
    obtain ⟨transactionId, slot, hsettled⟩ :=
      checkSettledTransaction_settled_iff.2 ⟨hcarries, hderived, by rw [herr]; rfl⟩
    obtain ⟨other, hother, -, hsuccess⟩ := h transactionId slot hsettled
    obtain rfl := Option.some.inj hother
    rw [herr] at hsuccess
    cases hsuccess
  · intro h transactionId slot hsettled
    cases tx with
    | none => cases hsettled
    | some reported =>
      obtain ⟨hcarries, hderived, herr⟩ := checkSettledTransaction_settled_iff.1 ⟨_, _, hsettled⟩
      refine ⟨reported, rfl, hcarries, ?_⟩
      obtain ⟨error, herror⟩ := Option.isSome_iff_exists.1 (h reported rfl hcarries hderived)
      rw [herror] at herr ⊢
      cases error <;> first | rfl | cases herr

/-- The facts reconciliation and the evidence verifier compare, read off the recorded attempt. -/
def PaymentAttempt.settlementFacts (attempt : PaymentAttempt) : ExpectedSettlement :=
  attempt.expected.settlement attempt.payerSignature

/-- The outcome of a landed transaction: settled without an error, failed on chain with one. -/
structure Classifies (platform : Platform) (rpc : RpcTransaction) (check : Except String SettledTransactionCheck) :
    Prop where
  settled : isPresent rpc.err = false → ∃ transactionId, rpc.signatures.bind List.head? = some transactionId ∧
    check = .ok (.settled transactionId (rpc.slot.map (numberText platform)))
  failed : isPresent rpc.err = true → ∃ transactionId, rpc.signatures.bind List.head? = some transactionId ∧
    check = .ok (.failedOnchain transactionId (platform.stringify rpc.err))

/-- Both checkers agree on every transaction the first one accepts, hence on every attempt that
was prepared for transmission. -/
theorem checkSettledTransaction_agrees (hderives : DerivesTokenAccounts platform) :
    (∀ transactionBase64 expected valid,
      validateExactPaymentTransaction platform transactionBase64 expected = .ok valid →
        ∃ encoded transaction, transactionBase64 = some encoded ∧
          platform.decodeTransaction encoded = .ok transaction ∧
          ∀ rpc, Renders transaction rpc → Classifies platform rpc
            (checkSettledTransaction platform (some rpc) (expected.settlement valid.payerSignature))) ∧
    ∀ pins request challenge requirement answers attempt,
      prepareAttempt platform pins request challenge requirement answers = .ok attempt →
        ∃ encoded transaction, attempt.transactionBase64 = some encoded ∧
          platform.decodeTransaction encoded = .ok transaction ∧
          ∀ rpc, Renders transaction rpc → Classifies platform rpc
            (checkSettledTransaction platform (some rpc) attempt.settlementFacts) := by
  have haccepted (transactionBase64 : Option String) (expected : ExpectedExactPayment)
      (valid : ValidTransaction)
      (h : validateExactPaymentTransaction platform transactionBase64 expected = .ok valid) :
      ∃ encoded transaction, transactionBase64 = some encoded ∧
        platform.decodeTransaction encoded = .ok transaction ∧
        ∀ rpc, Renders transaction rpc → Classifies platform rpc
          (checkSettledTransaction platform (some rpc) (expected.settlement valid.payerSignature)) := by
    obtain ⟨encoded, transaction, htransaction, hpays⟩ := validateExactPaymentTransaction_ok h
    refine ⟨encoded, transaction, htransaction, hpays.decoded, fun rpc hrenders ↦ ?_⟩
    obtain ⟨transactionId, hid, hcheck⟩ := checkSettledTransaction_of_paysExactly hderives hpays hrenders
    exact ⟨fun hnone ↦ ⟨transactionId, hid, by rw [hcheck, hnone]; rfl⟩,
      fun hsome ↦ ⟨transactionId, hid, by rw [hcheck, hsome]; rfl⟩⟩
  refine ⟨haccepted, fun pins request challenge requirement answers attempt hprepared ↦ ?_⟩
  obtain ⟨valid, hvalid, hsignature⟩ := (prepareAttempt_ok hprepared).transaction
  obtain ⟨encoded, transaction, hencoded, hdecoded, hclassifies⟩ := haccepted _ _ valid hvalid
  refine ⟨encoded, transaction, hencoded, hdecoded, fun rpc hrenders ↦ ?_⟩
  rw [PaymentAttempt.settlementFacts, hsignature]
  exact hclassifies rpc hrenders

theorem checkInstruction_of_transfer {expected : ExpectedExactPayment} {accounts : List String}
    {instruction : WireInstruction} {program : String}
    (hprogram : accounts[instruction.programAddressIndex]? = some program)
    (hmem : program = TOKEN_PROGRAM ∨ program = TOKEN_2022_PROGRAM)
    (htransfer : checkTransfer platform expected program instruction.data
      (instruction.accountIndices.map fun index ↦ accounts[index]?) = .ok ()) :
    checkInstruction platform expected accounts none instruction = .ok (some program) := by
  have hbudget : program ≠ COMPUTE_BUDGET_PROGRAM := by rcases hmem with rfl | rfl <;> decide
  have hmemo : program ≠ MEMO_PROGRAM := by rcases hmem with rfl | rfl <;> decide
  have hfilter : (some program).filter (fun name ↦ name = TOKEN_PROGRAM || name = TOKEN_2022_PROGRAM) =
      some program := Option.filter_some_pos (by simpa using hmem)
  simp [checkInstruction, hprogram, hbudget, hmemo, hfilter, htransfer]

namespace Sample

def wallet : String := "BfzUUfbzGo6VeYAaX2XnAPCtbAdiFjps17JZwLm9EXpp"
def facilitator : String := "B6LLDbkbdApYEdFRq2bQHrpMNFN4FnF5tYP2qXKSb8Aa"
def merchant : String := "A8EToeowHXLHyWbDRT8ZY8yiyxzJ8e2tvy4BBeuuLEQg"
def mint : String := "98dbyh5fhkGniSjDD8EmxX68Q5z6mHCLRYv9FWLmYtEN"
def blockhash : String := "4ruaGCyaofHWGxPFXFVjuEJCdfBGZ2wCtEx6LzdzVqtV"
def walletAccount : String := "ayRDHT9FkDiypL9KLSicoWBYAxYqTQJrQZ4zQeiKuKs"
def merchantAccount : String := "BmeMfTQPGB9TK6QrwcP5LuLREod5uSUPudFbP65ndzr6"

def payerSignature : String :=
  "5QhyENarm1dhvgkGUXFJRasgkn4in6VXG9mKscTpvNPhsg5BFKfLSAz1hhXiZfyZLxJF3LXMZNvFyoxYm8bQDkfK"

def facilitatorSignature : String :=
  "5odY3TkK2rdXbwBSHuwJLotfzpmZRxmtueYypf1saV5SjUX12oDGqPHv4hWVPYVkdL6pMp7p2D9aAi9hjdLgoQUn"

def transactionBase64 : String :=
  "AgAAAAAAAAAAAAAAAAAAAAAAAAAAAAAAAAAAAAAAAAAAAAAAAAAAAAAAAAAAAAAAAAAAAAAAAAAAAAAAAAAAAADcgu+K/v954" ++
  "WJCR2V7CZ/VH4K/r8Ob8yxOI6ZaEjeuLr3MSh49lUA50EO7L+SVnHowQLO/LmOFVJC9TnqfKyoKgAIBAweV8qGd3foQLI7h2oWP" ++
  "to4eyOeHhyG+NmYfhoDF5ZPnx56R7P+Tk0RsxpF6DczzJ1ivk9Z2Oa6Xi2hXpKbNlcjVCLP1Roe7jEQPLeElcWRmwwiDK8e8sLl" ++
  "YoCgw0ktYm1agBKnphcCBKLEFYENL7QCA7WygtXjmC4G+EkLT8HeMU3jR8sLTJoJIKsjoCIz3H7SjesEdg3TyyB923bBPaUPrBt" ++
  "324ddloZPZy+FGzut5rBy0he1fWzeROoz1hX7/AKkDBkZv5SEXMv/srbpyw5vnvIzlu8X3EmssQ5s6QAAAADlb9yf5qsXoCRFZE" ++
  "HP8+cgm9CiAQTHKCJvro4aUIXSaAgYABQIgTgAABQQCBAMBCgwFAAAAAAAAAAYA"

/-- Five units from the wallet to the merchant, behind a compute unit limit. -/
def transaction : WireTransaction where
  version := some 0
  numSignerAccounts := 2
  staticAccounts := [facilitator, wallet, walletAccount, merchantAccount, mint, TOKEN_PROGRAM,
    COMPUTE_BUDGET_PROGRAM]
  lifetimeToken := blockhash
  addressTableLookups := 0
  instructions := [⟨6, [], [2, 32, 78, 0, 0]⟩, ⟨5, [2, 4, 3, 1], [12, 5, 0, 0, 0, 0, 0, 0, 0, 6]⟩]
  signatures := [(facilitator, none), (wallet, some payerSignature)]
  messageBytes :=
    "800201030795f2a19dddfa102c8ee1da858fb68e1ec8e7878721be36661f8680c5e593e7c79e91ecff9393446cc6917a0d" ++
    "ccf32758af93d67639ae978b6857a4a6cd95c8d508b3f54687bb8c440f2de125716466c308832bc7bcb0b958a02830d24b" ++
    "589b56a004a9e985c08128b10560434bed0080ed6ca0b578e60b81be1242d3f0778c5378d1f2c2d32682482ac8e8088cf7" ++
    "1fb4a37ac11d8374f2c81f76ddb04f6943eb06ddf6e1d765a193d9cbe146ceeb79ac1cb485ed5f5b37913a8cf5857eff00" ++
    "a90306466fe5211732ffecadba72c39be7bc8ce5bbc5f7126b2c439b3a40000000395bf727f9aac5e80911591073fcf9c8" ++
    "26f428804131ca089beba3869421749a0206000502204e00000504020403010a0c05000000000000000600"

def expected : ExpectedExactPayment where
  payer := wallet
  feePayer := facilitator
  asset := mint
  payTo := merchant
  amountAtomic := "5"
  blockhash := blockhash

/-- The token accounts of the two owners under either program. -/
def tokenAccount (owner asset program : String) : Except String String :=
  if asset = mint ∧ owner = wallet ∧ program = TOKEN_PROGRAM then .ok walletAccount
  else if asset = mint ∧ owner = wallet ∧ program = TOKEN_2022_PROGRAM then
    .ok "4b5JD1UQeoykQEaAhLGsPMCV9fqHHNPkBYwJiHdhQWEW"
  else if asset = mint ∧ owner = merchant ∧ program = TOKEN_PROGRAM then .ok merchantAccount
  else if asset = mint ∧ owner = merchant ∧ program = TOKEN_2022_PROGRAM then
    .ok "8KNNoNH6PgiHkZXBphqa89cpriWKRBKVmZpQL4aHw3Pv"
  else .error "Unknown token account."

def payments : Platform :=
  { Platform.plain with
    decodeTransaction := fun encoded ↦
      if encoded = transactionBase64 then .ok transaction else .error "Unreadable transaction."
    associatedTokenAddress := tokenAccount }

theorem derivesTokenAccounts : DerivesTokenAccounts payments := by
  intro owner asset program account h other hother
  have hknown : asset = mint ∧ (owner = wallet ∨ owner = merchant) := by
    simp only [payments, tokenAccount] at h
    split_ifs at h <;> simp_all
  simp only [List.mem_cons, List.not_mem_nil, or_false] at hother
  obtain ⟨rfl, rfl | rfl⟩ := hknown <;> rcases hother with rfl | rfl <;> exact ⟨_, rfl⟩

theorem validates : validateExactPaymentTransaction payments (some transactionBase64) expected =
    .ok ⟨payerSignature, TOKEN_PROGRAM⟩ := by
  have hencoded : transactionBase64 ≠ "" :=
    fun hempty ↦ absurd (String.append_eq_empty_iff.1 hempty).2 (by simp)
  have hsigners : facilitator ≠ wallet := by decide
  have hcanonical : isCanonicalAtomicAmount "5" = true := by decide
  have hwallet : payments.associatedTokenAddress wallet mint TOKEN_PROGRAM = .ok walletAccount := by
    simp [payments, tokenAccount]
  have hmerchant : payments.associatedTokenAddress merchant mint TOKEN_PROGRAM = .ok merchantAccount := by
    have hne : merchant ≠ wallet := by decide
    simp [payments, tokenAccount, hne]
  have hamount : Decimal.amount "5" = 5 := by decide
  have htransfer : checkTransfer payments expected TOKEN_PROGRAM [12, 5, 0, 0, 0, 0, 0, 0, 0, 6]
      [some walletAccount, some mint, some merchantAccount, some wallet] = .ok () := by
    simp [checkTransfer, TRANSFER_CHECKED, littleEndian, expected, hamount, hwallet, hmerchant, Except.mapError]
  have hlast : checkInstruction payments expected transaction.staticAccounts none
      ⟨5, [2, 4, 3, 1], [12, 5, 0, 0, 0, 0, 0, 0, 0, 6]⟩ = .ok (some TOKEN_PROGRAM) :=
    checkInstruction_of_transfer rfl (.inl rfl) htransfer
  have hinstructions : transaction.instructions.foldlM
      (checkInstruction payments expected transaction.staticAccounts) none = .ok (some TOKEN_PROGRAM) := by
    have hfirst : checkInstruction payments expected transaction.staticAccounts none
        ⟨6, [], [2, 32, 78, 0, 0]⟩ = .ok none := by
      simp [checkInstruction, transaction, ALLOWED_COMPUTE_BUDGET]
    show (checkInstruction _ _ _ none _ >>= fun _ ↦ _) = _
    rw [hfirst, ok_bind]
    show (checkInstruction _ _ _ none _ >>= fun _ ↦ _) = _
    rw [hlast, ok_bind]
    rfl
  have hsigned : WireTransaction.signature? transaction wallet = some payerSignature := by
    simp [WireTransaction.signature?, transaction, hsigners]
  simp only [validateExactPaymentTransaction, required_bind_eq_ok, guardThat_bind_eq_ok,
    Mandate.mapError_bind_eq_ok, filter_eq_some, decide_eq_true_eq]
  refine ⟨transactionBase64, ⟨rfl, by simpa using hencoded⟩, hsigners, hcanonical, transaction,
    by simp [payments], rfl, rfl, rfl, rfl, by simp [transaction, expected], ?_, payerSignature, hsigned, ?_⟩
  · simp [transaction, expected]
  · rw [hinstructions]
    rfl

/-- The landed transaction as the RPC shows it: the facilitator has signed as well. -/
def rpc (err : Option Json) : RpcTransaction where
  slot := some (.finite 77)
  err := err
  signatures := some [facilitatorSignature, payerSignature]
  message := some {
    recentBlockhash := some blockhash
    instructions := some [⟨none⟩, ⟨some ⟨some "transferChecked",
      [("source", .str walletAccount), ("mint", .str mint), ("destination", .str merchantAccount),
        ("authority", .str wallet),
        ("tokenAmount", .obj [("amount", .str "5"), ("decimals", .int 6), ("uiAmountString", .str "0.000005")])]⟩⟩] }

theorem renders (err : Option Json) : Renders transaction (rpc err) where
  signatures := ⟨_, rfl, fun signer signature h ↦ by
    simp only [transaction, List.mem_cons, Prod.mk.injEq, reduceCtorEq, and_false, Option.some.injEq,
      List.not_mem_nil, or_false, false_or] at h
    simp [h.2]⟩
  message := ⟨_, _, rfl, rfl, rfl, fun instruction hmem source asset destination authority htransfer ↦ by
    simp only [transaction, List.mem_cons, List.not_mem_nil, or_false] at hmem
    rcases hmem with rfl | rfl
    · exact absurd htransfer.kind (by decide)
    · have haccounts := htransfer.accounts
      simp only [transaction, List.map_cons, List.map_nil, List.cons.injEq, and_true] at haccounts
      obtain ⟨-, hmint, hdestination, hauthority⟩ := haccounts
      obtain rfl : mint = asset := by simpa using hmint
      obtain rfl : merchantAccount = destination := by simpa using hdestination
      obtain rfl : wallet = authority := by simpa using hauthority
      refine ⟨_, List.mem_cons_of_mem _ List.mem_cons_self, ⟨_, rfl, rfl, rfl, rfl, rfl, _, rfl, ?_⟩⟩
      decide⟩

end Sample

/-- A landed transaction without `meta`: nothing says that it succeeded, and it is settled. -/
theorem settledOnSuccess_unreported :
    ¬ SettledOnSuccess Sample.payments (some (Sample.rpc none))
      (Sample.expected.settlement Sample.payerSignature) := by
  intro h
  obtain ⟨encoded, transaction, hencoded, hpays⟩ := validateExactPaymentTransaction_ok Sample.validates
  obtain rfl : transaction = Sample.transaction := by
    obtain rfl := Option.some.inj hencoded
    simpa [Sample.payments, eq_comm] using hpays.decoded
  obtain ⟨transactionId, -, hcheck⟩ :=
    checkSettledTransaction_of_paysExactly Sample.derivesTokenAccounts hpays (Sample.renders none)
  obtain ⟨reported, hreported, -, hsuccess⟩ := h _ _ hcheck
  obtain rfl := Option.some.inj hreported
  cases hsuccess

theorem checkSettledTransaction_agrees_sample :
    checkSettledTransaction Sample.payments (some (Sample.rpc none))
        (Sample.expected.settlement Sample.payerSignature) =
      .ok (.settled Sample.facilitatorSignature (some (numberText Sample.payments (.finite 77)))) ∧
    checkSettledTransaction Sample.payments (some (Sample.rpc (some (.str "InsufficientFunds"))))
        (Sample.expected.settlement Sample.payerSignature) =
      .ok (.failedOnchain Sample.facilitatorSignature
        (Sample.payments.stringify (some (.str "InsufficientFunds")))) := by
  obtain ⟨encoded, transaction, hencoded, hdecoded, hclassifies⟩ :=
    (checkSettledTransaction_agrees Sample.derivesTokenAccounts).1 _ _ _ Sample.validates
  obtain rfl : transaction = Sample.transaction := by
    obtain rfl := Option.some.inj hencoded
    simpa [Sample.payments, eq_comm] using hdecoded
  obtain ⟨settledId, hsettled, hcheck⟩ := (hclassifies _ (Sample.renders none)).settled rfl
  obtain ⟨failedId, hfailed, hcheck'⟩ :=
    (hclassifies _ (Sample.renders (some (.str "InsufficientFunds")))).failed rfl
  obtain rfl := Option.some.inj hsettled
  obtain rfl := Option.some.inj hfailed
  exact ⟨hcheck, hcheck'⟩

end VirtualHaibin.Payments
