import VirtualHaibin.Approver.Approve
import VirtualHaibin.Foundation.TextDecoder

/-!
# The approval server

One request to the approval boundary.  Only a `POST` to `/approvals` that presents the approval code makes it
sign, and it signs the permit of the approval in the body.
-/

namespace VirtualHaibin.Approver

open Foundation Foundation.Checked Mandate

def MAX_BODY_BYTES : ℕ := 4 * 1024

structure ApproverServerOptions where
  /-- The address of the issuer key. -/
  issuer : String
  approvalCode : String
  terms : ApprovalTerms
  allowedOrigin : String

/-- A request, with the bytes of its body. -/
structure IncomingMessage where
  method : String
  url : String
  header : String → Option String
  body : List ℕ

structure HttpInputError where
  message : String
  statusCode : ℕ

inductive ApproverLogEntry where
  | approval_rejected (reasonCode : String)
  /-- The permit by its identifiers only. -/
  | permit_issued (grantId issuer authorizedAgent operation datasetId maxPerCallAtomic maxTotalAtomic : String)
    (expiresAt : ℤ)
  | internal_error (error : String)

structure ServerResponse where
  statusCode : ℕ
  headers : List (String × String)
  payload : Option Json

/-- `Buffer.toString("utf8")`, which keeps a byte order mark. -/
def utf8Text (bytes : List ℕ) : String := String.ofList (TextDecoder.decodeFrom none bytes)

def readJsonBody (platform : Platform) (body : List ℕ) : Except HttpInputError Json := do
  guardThat (body.length ≤ MAX_BODY_BYTES) ⟨"Request body too large.", 413⟩
  required (platform.parseJson (utf8Text body)) ⟨"Request body must be valid JSON.", 400⟩

def presentsApprovalCode (options : ApproverServerOptions) (request : IncomingMessage) : Bool :=
  match request.header "authorization" with
  | none => false
  | some header =>
    "Bearer ".toList.isPrefixOf header.toList &&
      TextDecoder.encode (String.ofList (header.toList.drop "Bearer ".length)) = TextDecoder.encode options.approvalCode

/-- Why no permit was issued. -/
inductive ApprovalFailure where
  | codeRequired
  | input (error : HttpInputError)
  | internal (message : String)

/-- The approval of a request that asks for one. -/
def approve (platform : Platform) (options : ApproverServerOptions) (request : IncomingMessage) (now : ℤ)
    (grantId : String) : Except ApprovalFailure SignedPurchasePermitV2 := do
  guardThat (presentsApprovalCode options request) .codeRequired
  let body ← (readJsonBody platform request.body).mapError .input
  let approval ← (parseApprovalRequest platform body options.terms).mapError fun message ↦ .input ⟨message, 400⟩
  (issuePermit platform approval options.terms options.issuer now grantId).mapError .internal

def ApprovalTerms.toJson (terms : ApprovalTerms) : Json :=
  .obj [("service", .str terms.service), ("capability", .str terms.capability), ("network", .str terms.network),
    ("mint", .str terms.mint), ("recipient", .str terms.recipient), ("maxPerCallAtomic", .str terms.maxPerCallAtomic),
    ("maxTotalAtomic", .str terms.maxTotalAtomic), ("ttlMs", .int terms.ttlMs), ("method", .str terms.method),
    ("resource", .str terms.resource)]

def sendJson (options : ApproverServerOptions) (request : IncomingMessage) (statusCode : ℕ) (payload : Json) :
    ServerResponse where
  statusCode := statusCode
  headers := (if request.header "origin" = some options.allowedOrigin then
    [("access-control-allow-origin", options.allowedOrigin), ("vary", "origin")] else []) ++
      [("content-type", "application/json; charset=utf-8")]
  payload := some payload

def preflight (options : ApproverServerOptions) (request : IncomingMessage) : ServerResponse where
  statusCode := 204
  headers := if request.header "origin" = some options.allowedOrigin then
    [("access-control-allow-origin", options.allowedOrigin), ("access-control-allow-headers",
      "content-type, authorization"), ("access-control-allow-methods", "POST"), ("vary", "origin")] else []
  payload := none

/-- The response to a request, its log entries, and the permit it made the server sign. -/
structure Served where
  response : ServerResponse
  log : List ApproverLogEntry
  issued : Option SignedPurchasePermitV2

def permitIssued (permit : SignedPurchasePermitV2) : ApproverLogEntry :=
  .permit_issued permit.grantId permit.issuer permit.authorizedAgent permit.operation.operation
    permit.operation.datasetId permit.maxPerCallAtomic permit.maxTotalAtomic permit.expiresAt

def answerApproval (options : ApproverServerOptions) (request : IncomingMessage) :
    Except ApprovalFailure SignedPurchasePermitV2 → Served
  | .ok permit => ⟨sendJson options request 201 (.obj [("permit", permit.toJson)]), [permitIssued permit], some permit⟩
  | .error .codeRequired =>
    ⟨sendJson options request 401 (.obj [("error", .str "A valid human approval code is required."),
      ("reasonCode", .str "APPROVAL_CODE_REQUIRED")]), [.approval_rejected "APPROVAL_CODE_REQUIRED"], none⟩
  | .error (.input error) =>
    ⟨sendJson options request error.statusCode (.obj [("error", .str error.message)]), [], none⟩
  | .error (.internal message) =>
    ⟨sendJson options request 500 (.obj [("error", .str "Internal approver error.")]), [.internal_error message], none⟩

def serve (platform : Platform) (options : ApproverServerOptions) (request : IncomingMessage) (now : ℤ)
    (grantId : String) : Served :=
  if request.method = "OPTIONS" then ⟨preflight options request, [], none⟩
  else if request.method = "GET" && request.url = "/health" then
    ⟨sendJson options request 200 (.obj [("service", .str "virtual-haibin-approver"), ("status", .str "ok"),
      ("issuer", .str options.issuer), ("terms", options.terms.toJson)]), [], none⟩
  else if request.method = "POST" && request.url = "/approvals" then
    answerApproval options request (approve platform options request now grantId)
  else ⟨sendJson options request 404 (.obj [("error", .str "Not found")]), [], none⟩

/-- What it takes to be issued a permit, and which one it is. -/
structure Approves (platform : Platform) (options : ApproverServerOptions) (request : IncomingMessage) (now : ℤ)
    (grantId : String) (approval : ApprovalRequest) (permit : SignedPurchasePermitV2) : Prop where
  asked : request.method = "POST" ∧ request.url = "/approvals"
  code : presentsApprovalCode options request = true
  small : request.body.length ≤ MAX_BODY_BYTES
  named : ∃ record, platform.parseJson (utf8Text request.body) = some (.obj record) ∧ CarriesApproval record approval
  agent_key : platform.isAddress approval.agent = true
  unsigned_eq : permit.toUnsignedPurchasePermitV2 = approvedPermit approval options.terms options.issuer now grantId
  valid : permit.toUnsignedPurchasePermitV2.Valid platform
  signature_eq : permit.signature = platform.signBytes options.issuer
    (canonicalizeUnsignedPurchasePermit platform permit.toUnsignedPurchasePermitV2)

variable {platform : Platform} {options : ApproverServerOptions} {request : IncomingMessage} {now : ℤ}
  {grantId : String} {permit : SignedPurchasePermitV2}

theorem readJsonBody_eq_ok {body : List ℕ} {value : Json} :
    readJsonBody platform body = .ok value ↔
      body.length ≤ MAX_BODY_BYTES ∧ platform.parseJson (utf8Text body) = some value := by
  rw [readJsonBody, guardThat_bind_eq_ok, required_eq_ok, decide_eq_true_eq]

theorem issuePermit_eq_ok {approval : ApprovalRequest} {terms : ApprovalTerms} {issuer : String} :
    issuePermit platform approval terms issuer now grantId = .ok permit ↔
      permit.toUnsignedPurchasePermitV2 = approvedPermit approval terms issuer now grantId ∧
        permit.toUnsignedPurchasePermitV2.Valid platform ∧
        permit.signature = platform.signBytes issuer
          (canonicalizeUnsignedPurchasePermit platform permit.toUnsignedPurchasePermitV2) := by
  rw [issuePermit, signPurchasePermitV2_eq_ok]
  constructor
  · rintro ⟨hvalid, -, rfl⟩
    exact ⟨rfl, hvalid, rfl⟩
  · rintro ⟨hunsigned, hvalid, hsignature⟩
    rw [hunsigned] at hvalid hsignature
    refine ⟨hvalid, rfl, ?_⟩
    cases permit
    cases hunsigned
    cases hsignature
    rfl

theorem answerApproval_issued {result : Except ApprovalFailure SignedPurchasePermitV2} :
    (answerApproval options request result).issued = some permit ↔ result = .ok permit := by
  cases result with
  | ok other => simp [answerApproval]
  | error failure => cases failure <;> simp [answerApproval]

theorem approve_eq_ok : approve platform options request now grantId = .ok permit ↔
    presentsApprovalCode options request = true ∧ ∃ body, readJsonBody platform request.body = .ok body ∧
      ∃ approval, parseApprovalRequest platform body options.terms = .ok approval ∧
        issuePermit platform approval options.terms options.issuer now grantId = .ok permit := by
  rw [approve, guardThat_bind_eq_ok, mapError_bind_eq_ok]
  simp only [mapError_bind_eq_ok, mapError_eq_ok]

/-- No other route signs. -/
theorem serve_signs : (serve platform options request now grantId).issued = some permit ↔
    (request.method = "POST" ∧ request.url = "/approvals") ∧
      approve platform options request now grantId = .ok permit := by
  unfold serve
  split
  · rename_i hmethod
    simp [hmethod]
  · split
    · rename_i hhealth
      simp only [Bool.and_eq_true, decide_eq_true_eq] at hhealth
      simp [hhealth.1]
    · split
      · rename_i hpost
        simp only [Bool.and_eq_true, decide_eq_true_eq] at hpost
        rw [answerApproval_issued]
        exact ⟨fun h ↦ ⟨hpost, h⟩, And.right⟩
      · rename_i hpost
        simp only [Bool.and_eq_true, decide_eq_true_eq] at hpost
        simp [hpost]

/-- A permit is issued exactly to a request with the code that names an agent, an operation and a dataset, and it
is the permit of these under the fixed terms. -/
theorem serve_issued : (serve platform options request now grantId).issued = some permit ↔
    ∃ approval, Approves platform options request now grantId approval permit := by
  rw [serve_signs, approve_eq_ok]
  simp only [readJsonBody_eq_ok, parseApprovalRequest_eq_ok, issuePermit_eq_ok]
  constructor
  · rintro ⟨hasked, hcode, body, ⟨hsmall, hread⟩, approval, ⟨record, rfl, hcarries, haddress, -⟩, hunsigned, hvalid,
      hsignature⟩
    exact ⟨approval, hasked, hcode, hsmall, ⟨record, hread, hcarries⟩, haddress, hunsigned, hvalid, hsignature⟩
  · rintro ⟨approval, h⟩
    obtain ⟨record, hread, hcarries⟩ := h.named
    have hoperation : (approval.exactOperation options.terms).Valid := by
      have hvalid := h.valid.operation_valid
      rw [h.unsigned_eq] at hvalid
      exact hvalid
    exact ⟨h.asked, h.code, .obj record, ⟨h.small, hread⟩, approval, ⟨record, rfl, hcarries, h.agent_key, hoperation⟩,
      h.unsigned_eq, h.valid, h.signature_eq⟩

end VirtualHaibin.Approver
