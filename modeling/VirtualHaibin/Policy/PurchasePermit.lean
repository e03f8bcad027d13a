import VirtualHaibin.Mandate.Request

/-!
# Policy evaluation

The two pure evaluators: a purchase request against the terms of a verified permit, and a
requested operation against the permitted one.  Both collect every violation in a fixed order.
-/

namespace VirtualHaibin.Policy

open Foundation Mandate

/-- Every reason code that can stand in a decision, of the policy and of the challenge checks. -/
inductive ReasonCode where
  | PERMIT_EXPIRED
  | SERVICE_MISMATCH
  | CAPABILITY_MISMATCH
  | NETWORK_MISMATCH
  | MINT_MISMATCH
  | RECIPIENT_MISMATCH
  | INVALID_AMOUNT
  | PER_CALL_LIMIT_EXCEEDED
  | TOTAL_BUDGET_EXCEEDED
  | OPERATION_METHOD_MISMATCH
  | OPERATION_RESOURCE_MISMATCH
  | OPERATION_NOT_AUTHORIZED
  | OPERATION_ARGUMENT_NOT_AUTHORIZED
  | SETTLEMENT_PROFILE_UNAVAILABLE
  | PAID_SERVICE_NOT_CONFIGURED
  | CHALLENGE_NOT_PAYMENT_REQUIRED
  | CHALLENGE_REDIRECT
  | CHALLENGE_MALFORMED
  | UNSUPPORTED_PAYMENT_PROTOCOL
  | UNSUPPORTED_PAYMENT_SCHEME
  | CHALLENGE_NETWORK_MISMATCH
  | ASSET_NOT_ALLOWED
  | CHALLENGE_RESOURCE_MISMATCH
  | CHALLENGE_FEE_PAYER_INVALID
  | CHALLENGE_REQUEST_MISMATCH
  deriving DecidableEq, Repr

def ReasonCode.name : ReasonCode → String
  | PERMIT_EXPIRED => "PERMIT_EXPIRED"
  | SERVICE_MISMATCH => "SERVICE_MISMATCH"
  | CAPABILITY_MISMATCH => "CAPABILITY_MISMATCH"
  | NETWORK_MISMATCH => "NETWORK_MISMATCH"
  | MINT_MISMATCH => "MINT_MISMATCH"
  | RECIPIENT_MISMATCH => "RECIPIENT_MISMATCH"
  | INVALID_AMOUNT => "INVALID_AMOUNT"
  | PER_CALL_LIMIT_EXCEEDED => "PER_CALL_LIMIT_EXCEEDED"
  | TOTAL_BUDGET_EXCEEDED => "TOTAL_BUDGET_EXCEEDED"
  | OPERATION_METHOD_MISMATCH => "OPERATION_METHOD_MISMATCH"
  | OPERATION_RESOURCE_MISMATCH => "OPERATION_RESOURCE_MISMATCH"
  | OPERATION_NOT_AUTHORIZED => "OPERATION_NOT_AUTHORIZED"
  | OPERATION_ARGUMENT_NOT_AUTHORIZED => "OPERATION_ARGUMENT_NOT_AUTHORIZED"
  | SETTLEMENT_PROFILE_UNAVAILABLE => "SETTLEMENT_PROFILE_UNAVAILABLE"
  | PAID_SERVICE_NOT_CONFIGURED => "PAID_SERVICE_NOT_CONFIGURED"
  | CHALLENGE_NOT_PAYMENT_REQUIRED => "CHALLENGE_NOT_PAYMENT_REQUIRED"
  | CHALLENGE_REDIRECT => "CHALLENGE_REDIRECT"
  | CHALLENGE_MALFORMED => "CHALLENGE_MALFORMED"
  | UNSUPPORTED_PAYMENT_PROTOCOL => "UNSUPPORTED_PAYMENT_PROTOCOL"
  | UNSUPPORTED_PAYMENT_SCHEME => "UNSUPPORTED_PAYMENT_SCHEME"
  | CHALLENGE_NETWORK_MISMATCH => "CHALLENGE_NETWORK_MISMATCH"
  | ASSET_NOT_ALLOWED => "ASSET_NOT_ALLOWED"
  | CHALLENGE_RESOURCE_MISMATCH => "CHALLENGE_RESOURCE_MISMATCH"
  | CHALLENGE_FEE_PAYER_INVALID => "CHALLENGE_FEE_PAYER_INVALID"
  | CHALLENGE_REQUEST_MISMATCH => "CHALLENGE_REQUEST_MISMATCH"

def ReasonCode.all : List ReasonCode :=
  [.PERMIT_EXPIRED, .SERVICE_MISMATCH, .CAPABILITY_MISMATCH, .NETWORK_MISMATCH, .MINT_MISMATCH, .RECIPIENT_MISMATCH,
    .INVALID_AMOUNT, .PER_CALL_LIMIT_EXCEEDED, .TOTAL_BUDGET_EXCEEDED, .OPERATION_METHOD_MISMATCH,
    .OPERATION_RESOURCE_MISMATCH, .OPERATION_NOT_AUTHORIZED, .OPERATION_ARGUMENT_NOT_AUTHORIZED,
    .SETTLEMENT_PROFILE_UNAVAILABLE, .PAID_SERVICE_NOT_CONFIGURED, .CHALLENGE_NOT_PAYMENT_REQUIRED,
    .CHALLENGE_REDIRECT, .CHALLENGE_MALFORMED, .UNSUPPORTED_PAYMENT_PROTOCOL, .UNSUPPORTED_PAYMENT_SCHEME,
    .CHALLENGE_NETWORK_MISMATCH, .ASSET_NOT_ALLOWED, .CHALLENGE_RESOURCE_MISMATCH, .CHALLENGE_FEE_PAYER_INVALID,
    .CHALLENGE_REQUEST_MISMATCH]

theorem ReasonCode.mem_all (code : ReasonCode) : code ∈ ReasonCode.all := by
  cases code <;> decide

theorem ReasonCode.name_injective : Function.Injective ReasonCode.name := by
  have hnodup : (ReasonCode.all.map ReasonCode.name).Nodup := by decide +kernel
  exact fun code other h ↦ List.inj_on_of_nodup_map hnodup (ReasonCode.mem_all code) (ReasonCode.mem_all other) h

/-- One violated rule and its message. -/
structure Denial where
  reasonCode : ReasonCode
  message : String

structure Decision where
  denials : List Denial

def Decision.allowed (decision : Decision) : Bool := decision.denials.isEmpty
def Decision.reasons (decision : Decision) : List String := decision.denials.map Denial.message
def Decision.reasonCodes (decision : Decision) : List ReasonCode := decision.denials.map Denial.reasonCode

/-- A rule that denies when it is violated. -/
def denyIf (violated : Bool) (reasonCode : ReasonCode) (message : String) : List Denial :=
  if violated then [⟨reasonCode, message⟩] else []

/-- The request values the evaluator reads; `now` is always supplied by the callers. -/
structure PurchaseRequestV1 where
  service : String
  capability : String
  network : String
  mint : String
  recipient : String
  amountAtomic : String
  alreadySpentAtomic : String
  now : ℤ

/-- The rules before the amounts are read. -/
def termDenials (permit : UnsignedPurchasePermitV2) (request : PurchaseRequestV1) : List Denial :=
  denyIf (permit.expiresAt < request.now) .PERMIT_EXPIRED "Purchase permit has expired." ++
  denyIf (request.service ≠ permit.service) .SERVICE_MISMATCH
    s!"Service \"{request.service}\" is not authorized by this permit." ++
  denyIf (request.capability ≠ permit.capability) .CAPABILITY_MISMATCH
    s!"Capability \"{request.capability}\" is not authorized by this permit." ++
  denyIf (request.network ≠ permit.network) .NETWORK_MISMATCH
    s!"Network \"{request.network}\" is not authorized by this permit." ++
  denyIf (request.mint ≠ permit.mint) .MINT_MISMATCH
    s!"Mint \"{request.mint}\" is not authorized by this permit." ++
  denyIf (request.recipient ≠ permit.recipient) .RECIPIENT_MISMATCH
    s!"Recipient \"{request.recipient}\" is not authorized by this permit."

/-- The amount rules: an amount that is not canonical or not positive ends the evaluation. -/
def amountDenials (permit : UnsignedPurchasePermitV2) (request : PurchaseRequestV1) : List Denial :=
  if !isCanonicalAtomicAmount request.amountAtomic || !isCanonicalAtomicAmount request.alreadySpentAtomic then
    [⟨.INVALID_AMOUNT, "Requested amount must be a canonical non-negative integer string."⟩]
  else if Decimal.amount request.amountAtomic = 0 then
    [⟨.INVALID_AMOUNT, "Requested amount must be positive."⟩]
  else
    denyIf (Decimal.amount permit.maxPerCallAtomic < Decimal.amount request.amountAtomic)
      .PER_CALL_LIMIT_EXCEEDED "Requested amount exceeds the per-call spending limit." ++
    denyIf (Decimal.amount permit.maxTotalAtomic <
        Decimal.amount request.alreadySpentAtomic + Decimal.amount request.amountAtomic)
      .TOTAL_BUDGET_EXCEEDED "Requested amount exceeds the total delegated budget."

theorem amountDenials_codes {permit : UnsignedPurchasePermitV2} {request : PurchaseRequestV1} :
    ∀ denial ∈ amountDenials permit request, denial.reasonCode ∈
      [.INVALID_AMOUNT, .PER_CALL_LIMIT_EXCEEDED, ReasonCode.TOTAL_BUDGET_EXCEEDED] := by
  intro denial hdenial
  unfold amountDenials at hdenial
  split at hdenial
  · obtain rfl := List.mem_singleton.1 hdenial
    simp
  · split at hdenial
    · obtain rfl := List.mem_singleton.1 hdenial
      simp
    · simp only [denyIf, List.mem_append, List.mem_ite_nil_right, List.mem_singleton] at hdenial
      rcases hdenial with ⟨-, rfl⟩ | ⟨-, rfl⟩ <;> simp

def evaluatePurchasePermit (permit : UnsignedPurchasePermitV2) (request : PurchaseRequestV1) : Decision :=
  ⟨termDenials permit request ++ amountDenials permit request⟩

def evaluateExactOperation (permitted requested : ExactOperationV1) : Decision :=
  ⟨denyIf (requested.method ≠ permitted.method) .OPERATION_METHOD_MISMATCH
      s!"Method \"{requested.method}\" is not the human-approved method." ++
    denyIf (requested.resource ≠ permitted.resource) .OPERATION_RESOURCE_MISMATCH
      s!"Resource \"{requested.resource}\" is not the human-approved resource." ++
    denyIf (requested.operation ≠ permitted.operation) .OPERATION_NOT_AUTHORIZED
      s!"Operation \"{requested.operation}\" was not approved by the human." ++
    denyIf (requested.datasetId ≠ permitted.datasetId) .OPERATION_ARGUMENT_NOT_AUTHORIZED
      s!"datasetId \"{requested.datasetId}\" was not approved by the human."⟩

theorem denyIf_eq_nil {violated : Bool} {reasonCode : ReasonCode} {message : String} :
    denyIf violated reasonCode message = [] ↔ violated = false := by
  cases violated <;> simp [denyIf]

/-- What the purchase terms of an allowed request are. -/
theorem evaluatePurchasePermit_eq_nil {permit : UnsignedPurchasePermitV2} {request : PurchaseRequestV1} :
    (evaluatePurchasePermit permit request).denials = [] ↔
      request.now ≤ permit.expiresAt ∧ request.service = permit.service ∧
      request.capability = permit.capability ∧ request.network = permit.network ∧
      request.mint = permit.mint ∧ request.recipient = permit.recipient ∧
      isCanonicalAtomicAmount request.amountAtomic = true ∧
      isCanonicalAtomicAmount request.alreadySpentAtomic = true ∧
      0 < Decimal.amount request.amountAtomic ∧
      Decimal.amount request.amountAtomic ≤ Decimal.amount permit.maxPerCallAtomic ∧
      Decimal.amount request.alreadySpentAtomic + Decimal.amount request.amountAtomic ≤
        Decimal.amount permit.maxTotalAtomic := by
  have hterms : termDenials permit request = [] ↔
      request.now ≤ permit.expiresAt ∧ request.service = permit.service ∧
      request.capability = permit.capability ∧ request.network = permit.network ∧
      request.mint = permit.mint ∧ request.recipient = permit.recipient := by
    simp [termDenials, denyIf_eq_nil]
  have hamounts : amountDenials permit request = [] ↔
      isCanonicalAtomicAmount request.amountAtomic = true ∧
      isCanonicalAtomicAmount request.alreadySpentAtomic = true ∧
      0 < Decimal.amount request.amountAtomic ∧
      Decimal.amount request.amountAtomic ≤ Decimal.amount permit.maxPerCallAtomic ∧
      Decimal.amount request.alreadySpentAtomic + Decimal.amount request.amountAtomic ≤
        Decimal.amount permit.maxTotalAtomic := by
    unfold amountDenials
    split
    · rename_i hmalformed
      simp only [Bool.or_eq_true, Bool.not_eq_true'] at hmalformed
      simp only [List.cons_ne_nil, false_iff]
      rintro ⟨hcanonical, hspent, -⟩
      rcases hmalformed with h | h <;> simp_all
    · rename_i hcanonical
      simp only [Bool.or_eq_true, Bool.not_eq_true', not_or, Bool.not_eq_false] at hcanonical
      split
      · rename_i hzero
        simp [hzero]
      · rename_i hpositive
        simp [denyIf_eq_nil, hcanonical, Nat.pos_of_ne_zero hpositive]
  simp only [evaluatePurchasePermit, List.append_eq_nil_iff, hterms, hamounts, and_assoc]

theorem evaluateExactOperation_eq_nil {permitted requested : ExactOperationV1} :
    (evaluateExactOperation permitted requested).denials = [] ↔ requested = permitted := by
  simp [evaluateExactOperation, denyIf_eq_nil, ExactOperationV1.ext_iff]

theorem reasonCodes_eq_nil {decision : Decision} : decision.reasonCodes = [] ↔ decision.denials = [] := by
  simp [Decision.reasonCodes]

end VirtualHaibin.Policy
