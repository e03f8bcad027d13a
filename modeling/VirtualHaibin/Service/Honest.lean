import VirtualHaibin.Authority.Alone
import VirtualHaibin.Authority.Executing
import VirtualHaibin.Authority.Issuing
import VirtualHaibin.Payments.Provider
import VirtualHaibin.Service.App

/-!
# An honest purchase at the service

The authority's payment provider sends the request of its operation to an integrated service.  The
service lets it through with the authority's own digests, and the authority keeps the acknowledgement
that comes back with the report.
-/

namespace VirtualHaibin.Service

open Foundation Foundation.Checked Foundation.Schema Mandate Payments Evidence
open Foundation.Program (Plays)
open Authority (AuthenticatedRequest Authenticated AuthorityServiceOptions AuthorizationBound Payment PaymentAllowed
  PaymentBound)

/-- The limit of `express.json`, 4 kb. -/
def MAX_BODY_BYTES : ℕ := 4096

/-- A body that is UTF-8 and sent as `application/json` is handed on as `JSON.parse` reads it. -/
structure BodyParser.ReadsJson (platform : Platform) (parser : BodyParser) : Prop where
  reads : ∀ request record, request.header "content-type" = some "application/json" → request.rawBody ≠ [] →
    TextDecoder.encode (TextDecoder.decode request.rawBody) = request.rawBody →
    parser request = .ok (some (.obj record)) →
    platform.parseJson (TextDecoder.decode request.rawBody) = some (.obj record)
  accepts : ∀ request record, request.header "content-type" = some "application/json" → request.rawBody ≠ [] →
    request.rawBody.length ≤ MAX_BODY_BYTES →
    TextDecoder.encode (TextDecoder.decode request.rawBody) = request.rawBody →
    platform.parseJson (TextDecoder.decode request.rawBody) = some (.obj record) →
    parser request = .ok (some (.obj record))

section

variable {platform : Platform} {report : ReportRequest}

/-- The body of an operation is read as its two members. -/
theorem operationRequestBody_reads (hback : platform.ReadsBack) (operation : ExactOperationV1) :
    ∃ record, platform.parseJson (operationRequestBody platform operation) = some (.obj record) ∧
      ∀ name, Option.Rel Json.Same (Json.member record name)
        (Json.member [("operation", .str operation.operation), ("datasetId", .str operation.datasetId)] name) := by
  obtain ⟨value, hvalue, hsame⟩ := hback.canonical
    (.obj [("operation", .str operation.operation), ("datasetId", .str operation.datasetId)])
    (Json.distinct_obj.2 ⟨by simp, by simp [Json.Distinct]⟩) (by simp [Json.Exact, Json.numbers, Json.numbersMembers])
  cases hsame with
  | obj hmembers => exact ⟨_, hvalue, hmembers⟩

theorem operationRequestBody_ne_empty (hback : platform.ReadsBack) (operation : ExactOperationV1) :
    operationRequestBody platform operation ≠ "" := by
  intro hempty
  obtain ⟨record, hrecord, -⟩ := operationRequestBody_reads hback operation
  rw [hempty, hback.empty] at hrecord
  cases hrecord

/-- The body of an operation stands for that operation and no other. -/
theorem parseReportRequest_operation (hback : platform.ReadsBack) {operation : ExactOperationV1} {value : Json}
    (hvalue : platform.parseJson (operationRequestBody platform operation) = some value) :
    parseReportRequest (some value) = some report ↔ report.operation.name = operation.operation ∧
      report.datasetId = operation.datasetId ∧ report.datasetId ∈ DATASETS.map Prod.fst := by
  obtain ⟨record, hrecord, hmembers⟩ := operationRequestBody_reads hback operation
  obtain rfl := Option.some.inj (hrecord.symm.trans hvalue)
  have hmember (name text : String)
      (hother : Json.member [("operation", .str operation.operation), ("datasetId", .str operation.datasetId)] name =
        some (.str text)) : Json.member record name = some (.str text) := by
    obtain ⟨found, hfound, hsame⟩ := Json.Same.value_of_member' hmembers hother
    cases hsame
    exact hfound
  have hoperation := hmember "operation" _ rfl
  have hdataset := hmember "datasetId" _ rfl
  have hnames (name : String) : name ∈ record.map Prod.fst ↔ name = "datasetId" ∨ name = "operation" := by
    rw [Json.Same.mem_names hmembers]
    simp [or_comm]
  rw [parseReportRequest_eq_some]
  constructor
  · rintro ⟨found, hfound, -, hname, hid, hknown⟩
    cases hfound
    exact ⟨Json.str.inj (Option.some.inj (hname.symm.trans hoperation)),
      Json.str.inj (Option.some.inj (hid.symm.trans hdataset)), hknown⟩
  · rintro ⟨hname, hid, hknown⟩
    exact ⟨record, rfl, hnames, hname ▸ hoperation, hid ▸ hdataset, hknown⟩

end

/-- What the authority asks its payment provider to execute. -/
def executeInput (platform : Platform) (payment : Payment) (authorization : SignedServiceAuthorizationV1) :
    ExecuteInput where
  request := payment.paidRequest
  challenge := payment.challenge
  requirement := payment.requirement
  reference := payment.invocation.invocationId
  serviceAuthorizationHeader := some (encodeServiceHeader platform authorization.toJson)

/-- A request of the payment provider, as it arrives. -/
structure Delivered (platform : Platform) (sent : Payments.HttpRequest) (request : HttpRequest) : Prop where
  method_eq : request.method = "POST"
  path_eq : platform.pathname sent.url = some request.path
  header_eq : ∀ name value, sent.header name = [value] → request.header name = some value
  body_eq : request.rawBody = TextDecoder.encode sent.body

/-- The library writes the credential into its one header. -/
def CredentialHeader (encoded : List (String × String)) : Prop :=
  ∃ name credential, encoded = [(name, credential)] ∧ sameHeader name "payment-signature" = true ∧ credential ≠ ""

/-- The service knows the authority, asks the price of the permit, and the authority pins its key. -/
structure Integrated (platform : Platform) (options : AuthorityServiceOptions) (serviceOptions : ServiceAppOptions)
    (auth : AuthenticatedRequest) : Prop where
  authority : KeyPair platform options.authorityAddress
  service : KeyPair platform serviceOptions.serviceAddress
  encoded : Field 64 BASE58 serviceOptions.serviceAddress
  signer_eq : serviceOptions.serviceSigner = serviceOptions.serviceAddress
  trusted : options.trustedServiceKeys auth.permit.service = some serviceOptions.serviceAddress
  resource_eq : auth.permit.operation.resource = REPORT_RESOURCE
  dataset_mem : auth.permit.operation.datasetId ∈ DATASETS.map Prod.fst
  asset_eq : serviceOptions.price.asset = auth.permit.mint
  payTo_eq : serviceOptions.price.payTo = auth.permit.recipient
  amount_eq : serviceOptions.price.amountAtomic = auth.request.amountAtomic

/-- What the check of the service finds in a request of the authority. -/
def honestCheck (platform : Platform) (payment : Payment) (authorization : SignedServiceAuthorizationV1) :
    ServiceAuthorizationCheck :=
  ⟨authorization, payment.paidRequest.sha256, serviceAuthorizationDigest platform authorization⟩

/-- The body and the header are within their bounds. -/
structure Deliverable (platform : Platform) (payment : Payment) (authorization : SignedServiceAuthorizationV1) :
    Prop where
  body_small : (TextDecoder.encode payment.paidRequest.body).length ≤ MAX_BODY_BYTES
  body_unmarked : payment.paidRequest.body.toList.head? ≠ some (Char.ofNat 0xFEFF)
  fits : authorization.Fits
  header_short : Text.utf16Length (encodeServiceHeader platform authorization.toJson) ≤ MAX_HEADER_CHARS

section

variable {platform : Platform} {options : AuthorityServiceOptions} {serviceOptions : ServiceAppOptions}
  {parser : BodyParser} {auth : AuthenticatedRequest} {payment : Payment}
  {authorization : SignedServiceAuthorizationV1} {encoded : List (String × String)} {request : HttpRequest}

/-- An empty header is refused. -/
theorem decodeHeader_ne_empty {header : String} {value : Json} (h : decodeHeader platform header = .ok value) :
    header ≠ "" := by
  simp only [decodeHeader, guardThat_bind_eq_ok, Bool.and_eq_true, decide_eq_true_eq] at h
  exact h.1.1.1

/-- Within the bound an authorization is read back from its header. -/
theorem decodeServiceAuthorizationHeader_self (hback : platform.ReadsBack) (hfits : authorization.Fits)
    (hshort : Text.utf16Length (encodeServiceHeader platform authorization.toJson) ≤ MAX_HEADER_CHARS) :
    encodeServiceHeader platform authorization.toJson ≠ "" ∧
      decodeServiceAuthorizationHeader platform (encodeServiceHeader platform authorization.toJson) =
        .ok authorization := by
  have hdecoded := decodeServiceAuthorizationHeader_fits hback hfits
  rw [if_pos hshort] at hdecoded
  obtain ⟨value, hvalue, -⟩ := bind_eq_ok.1 hdecoded
  exact ⟨decodeHeader_ne_empty hvalue, hdecoded⟩

theorem decodeServiceAcknowledgementHeader_self {acknowledgement : SignedServiceAcknowledgementV1}
    (hback : platform.ReadsBack) (hfits : acknowledgement.Fits)
    (hshort : Text.utf16Length (encodeServiceHeader platform acknowledgement.toJson) ≤ MAX_HEADER_CHARS) :
    decodeServiceAcknowledgementHeader platform (encodeServiceHeader platform acknowledgement.toJson) =
      .ok acknowledgement := by
  rw [decodeServiceAcknowledgementHeader_fits hback hfits, if_pos hshort]

/-- The headers that the authority's input sets, beside the credential. -/
theorem header_executeInput (hencoded : CredentialHeader encoded) :
    (Payments.paidRequest (executeInput platform payment authorization) encoded).header "content-type" =
        ["application/json"] ∧
      (Payments.paidRequest (executeInput platform payment authorization) encoded).header "x-vh-invocation-id" =
        [payment.invocation.invocationId] ∧
      (Payments.paidRequest (executeInput platform payment authorization) encoded).header "x-vh-authorization" =
        [encodeServiceHeader platform authorization.toJson] ∧
      ∃ credential, credential ≠ "" ∧
        (Payments.paidRequest (executeInput platform payment authorization) encoded).header "payment-signature" =
          [credential] := by
  obtain ⟨name, credential, rfl, hname, hcredential⟩ := hencoded
  have hrows : (plainHeaders (executeInput platform payment authorization)).rows =
      [("accept", "application/json"), ("content-type", "application/json"),
        ("x-vh-invocation-id", payment.invocation.invocationId),
        ("x-vh-authorization", encodeServiceHeader platform authorization.toJson)] := by
    rfl
  have hother {other : String} (h : sameHeader "payment-signature" other = false) : sameHeader name other = false := by
    simp only [sameHeader, decide_eq_true_eq, decide_eq_false_iff_not] at hname h ⊢
    rwa [hname]
  have hplain {other : String} (h : sameHeader "payment-signature" other = false) :
      (Payments.paidRequest (executeInput platform payment authorization) [(name, credential)]).header other =
        ((plainHeaders (executeInput platform payment authorization)).rows.filter fun entry ↦
          sameHeader entry.1 other).map Prod.snd := by
    unfold Payments.HttpRequest.header Payments.paidRequest
    rw [header_spread _ (by simpa using hother h)]
  refine ⟨?_, ?_, ?_, credential, hcredential, ?_⟩
  · rw [hplain (by decide), hrows]
    simp +decide
  · rw [hplain (by decide), hrows]
    simp +decide
  · rw [hplain (by decide), hrows]
    simp +decide
  · have hfresh : name ∉ (plainHeaders (executeInput platform payment authorization)).keys := by
      intro hmem
      have hkeys : name ∈ ["accept", "content-type", "x-vh-invocation-id", "x-vh-authorization"] := by
        simpa [OrderedMap.keys, hrows] using hmem
      have hnone : ∀ key ∈ ["accept", "content-type", "x-vh-invocation-id", "x-vh-authorization"],
          sameHeader key "payment-signature" = false := by decide
      rw [hnone name hkeys] at hname
      cases hname
    unfold Payments.HttpRequest.header Payments.paidRequest spread
    rw [List.foldl_cons, List.foldl_nil, OrderedMap.rows_set_of_not_mem hfresh, hrows]
    simp +decide [hname]

/-- The permit allows one of the operations of the service. -/
theorem exists_report {operation : ExactOperationV1} (h : operation.Valid)
    (hresource : operation.resource = REPORT_RESOURCE)
    (hdataset : operation.datasetId ∈ DATASETS.map Prod.fst) (hmethod : request.method = "POST") :
    ∃ report : ReportRequest, report.operation.name = operation.operation ∧ report.datasetId = operation.datasetId ∧
      report.datasetId ∈ DATASETS.map Prod.fst ∧ received request report = operation := by
  have hmem := h.operation_mem
  have hpost : operation.method = "POST" := by simpa [OPERATION_METHODS] using h.method_mem
  simp only [REPORT_OPERATIONS, List.mem_cons, List.not_mem_nil, or_false] at hmem
  rcases hmem with hname | hname
  · refine ⟨⟨.summarize, operation.datasetId⟩, hname.symm, rfl, hdataset, ?_⟩
    simp [received, ExactOperationV1.ext_iff, hmethod, hpost, hresource, hname, Operation.name]
  · refine ⟨⟨.«export», operation.datasetId⟩, hname.symm, rfl, hdataset, ?_⟩
    simp [received, ExactOperationV1.ext_iff, hmethod, hpost, hresource, hname, Operation.name]

/-- The check of the service admits the authority's request, with the authority's own digests. -/
theorem admits_honest (hback : platform.ReadsBack)
    (hallowed : PaymentAllowed platform options auth.permit auth.request auth.agentSignature payment.paidRequest
      payment.requirement)
    (hsigned : AuthorizationBound platform options auth payment authorization)
    (hintegrated : Integrated platform options serviceOptions auth)
    (hdeliverable : Deliverable platform payment authorization) (hencoded : CredentialHeader encoded)
    (hdelivered : Delivered platform
      (Payments.paidRequest (executeInput platform payment authorization) encoded) request)
    {now : ℤ} (hearly : authorization.issuedAt - 30000 ≤ now) (hlate : now ≤ authorization.expiresAt) :
    (authorizationContext serviceOptions request options.authorityAddress now).Admits platform
      (honestCheck platform payment authorization) := by
  obtain ⟨signedAt, hunsigned, hsignature⟩ := hsigned.unsigned
  obtain ⟨hcontentType, hinvocation, hheader, -⟩ := @header_executeInput platform payment authorization _ hencoded
  have hurl : authorization.url = payment.paidRequest.url := congrArg (·.url) hunsigned
  have hsha256 : authorization.requestSha256 = payment.paidRequest.sha256 := congrArg (·.requestSha256) hunsigned
  have hdecoded := TextDecoder.decode_encode hdeliverable.body_unmarked
  have hraw : request.rawBody = TextDecoder.encode payment.paidRequest.body := hdelivered.body_eq
  rw [honestCheck]
  exact {
    header := by
      obtain ⟨hne, hdecodes⟩ :=
        decodeServiceAuthorizationHeader_self hback hdeliverable.fits hdeliverable.header_short
      exact ⟨_, hdelivered.header_eq _ _ hheader, hne, hdecodes⟩
    signed := by
      have hauthority : authorization.authority = options.authorityAddress := congrArg (·.authority) hunsigned
      rw [verifyServiceAuthorizationSignature, hsignature, hauthority]
      exact hintegrated.authority.verifyPinned _
    not_early := hearly
    not_late := hlate
    method_eq := hdelivered.method_eq
    path_eq := by
      rw [hurl]
      exact hdelivered.path_eq
    body := by
      show TextDecoder.encode (TextDecoder.decode request.rawBody) = request.rawBody
      rw [hraw, hdecoded]
    requestSha256_eq := by
      show payment.paidRequest.sha256 =
        computePaidRequestDigest platform authorization.url (TextDecoder.decode request.rawBody)
      rw [hraw, hdecoded, hurl]
      exact hallowed.sha256_eq
    authorized_sha256 := hsha256
    invocationId_eq := by
      have hid : authorization.invocationId = payment.invocation.invocationId := congrArg (·.invocationId) hunsigned
      rw [hid]
      exact hdelivered.header_eq _ _ hinvocation
    asset_eq := by
      have hasset : authorization.payment.asset = payment.requirement.asset := congrArg (·.payment.asset) hunsigned
      exact hasset.trans (hallowed.asset_paid.trans hintegrated.asset_eq.symm)
    payTo_eq := by
      have hpayTo : authorization.payment.payTo = payment.requirement.payTo := congrArg (·.payment.payTo) hunsigned
      exact hpayTo.trans (hallowed.payTo_paid.trans hintegrated.payTo_eq.symm)
    amount_eq := by
      have hamount : authorization.payment.amountAtomic = payment.requirement.amountAtomic :=
        congrArg (·.payment.amountAtomic) hunsigned
      exact hamount.trans (hallowed.amount_paid.trans hintegrated.amount_eq.symm)
    digest_eq := rfl }

/-- Whatever scenarios are set, the service lets the authority's request through, for the operation of the
permit. -/
theorem receive_honest (hback : platform.ReadsBack) (hreads : BodyParser.ReadsJson platform parser)
    (hallowed : PaymentAllowed platform options auth.permit auth.request auth.agentSignature payment.paidRequest
      payment.requirement)
    (hsigned : AuthorizationBound platform options auth payment authorization)
    (hintegrated : Integrated platform options serviceOptions auth)
    (hdeliverable : Deliverable platform payment authorization) (hencoded : CredentialHeader encoded)
    (hdelivered : Delivered platform
      (Payments.paidRequest (executeInput platform payment authorization) encoded) request) :
    ∃ report, received request report = auth.permit.operation ∧ ∀ (scenarios : OrderedMap String Scenario) (now : ℤ),
      authorization.issuedAt - 30000 ≤ now → now ≤ authorization.expiresAt →
      receive platform parser serviceOptions scenarios request (some options.authorityAddress) now =
        .checked report (honestCheck platform payment authorization) := by
  obtain ⟨hcontentType, -, -, credential, hcredential, hpayer⟩ :=
    @header_executeInput platform payment authorization _ hencoded
  have hvalid := (verifyPurchasePermitV2_verified hallowed.permit_verifies).valid.operation_valid
  obtain ⟨report, hname, hid, hknown, hreceived⟩ :=
    exists_report hvalid hintegrated.resource_eq hintegrated.dataset_mem hdelivered.method_eq
  have hraw : request.rawBody = TextDecoder.encode payment.paidRequest.body := hdelivered.body_eq
  have hdecoded : TextDecoder.decode request.rawBody = operationRequestBody platform auth.permit.operation := by
    rw [hraw, TextDecoder.decode_encode hdeliverable.body_unmarked, hallowed.body_eq]
  obtain ⟨record, hrecord, -⟩ := operationRequestBody_reads hback auth.permit.operation
  have hnonempty : request.rawBody ≠ [] := by
    intro hempty
    rw [hempty] at hdecoded
    exact operationRequestBody_ne_empty hback _ hdecoded.symm
  have hparsed : parser request = .ok (some (.obj record)) := by
    apply hreads.accepts request record (hdelivered.header_eq _ _ hcontentType) hnonempty
    · rw [hraw]
      exact hdeliverable.body_small
    · rw [hdecoded, ← hallowed.body_eq, hraw]
    · rw [hdecoded]
      exact hrecord
  have hreport : parseReportRequest (some (.obj record)) = some report :=
    (parseReportRequest_operation hback hrecord).2 ⟨hname, hid, hknown⟩
  have hpays : request.isPaid = true := by
    rw [HttpRequest.isPaid, hdelivered.header_eq _ _ hpayer]
    simpa using hcredential
  refine ⟨report, hreceived, fun scenarios now hearly hlate ↦ ?_⟩
  have hchecked := checkServiceAuthorization_eq_ok.2
    (admits_honest hback hallowed hsigned hintegrated hdeliverable hencoded hdelivered hearly hlate)
  rw [receive, hparsed]
  simp only [hreport, hpays, if_true, hchecked]

theorem operation_bounded {operation : ExactOperationV1} (h : operation.Valid)
    (hresource : operation.resource = REPORT_RESOURCE) (hdataset : operation.datasetId ∈ DATASETS.map Prod.fst) :
    ExactOperationV1.Fits operation where
  method := by
    rw [show operation.method = "POST" by simpa [OPERATION_METHODS] using h.method_mem]
    decide
  resource := by
    rw [hresource]
    decide
  operation := by
    have hmem := h.operation_mem
    simp only [REPORT_OPERATIONS, List.mem_cons, List.not_mem_nil, or_false] at hmem
    rcases hmem with hname | hname <;> rw [hname] <;> decide
  datasetId := by
    simp only [DATASETS, List.map_cons, List.map_nil, List.mem_cons, List.not_mem_nil, or_false] at hdataset
    rcases hdataset with hid | hid <;> rw [hid] <;> decide

/-- Digests are sixty-four hexadecimal digits. -/
structure HexDigests (platform : Platform) : Prop where
  text : ∀ text, Text.isDigest (platform.sha256Hex text) = true
  bytes : ∀ bytes, Text.isDigest (platform.sha256HexOfBytes bytes) = true

/-- The acknowledgement of a service that signs with its published key. -/
def acknowledgementOf (platform : Platform) (serviceOptions : ServiceAppOptions) (request : HttpRequest)
    (report : ReportRequest) (check : ServiceAuthorizationCheck) (paid : GatePayment) (fulfilledAt : ℤ) :
    SignedServiceAcknowledgementV1 :=
  let unsigned := unsignedAcknowledgement platform serviceOptions request report check (some paid) fulfilledAt
  { unsigned with
    signature := platform.signBytes serviceOptions.serviceAddress
      (statementText platform SERVICE_ACKNOWLEDGEMENT_DOMAIN unsigned.members) }

theorem fulfil_eq {report : ReportRequest} {check : ServiceAuthorizationCheck} {paid : GatePayment} {fulfilledAt : ℤ}
    (hsigner : serviceOptions.serviceSigner = serviceOptions.serviceAddress) :
    fulfil platform serviceOptions request report (some check) (some paid) fulfilledAt =
      .responded ⟨200, none, reportBody platform request report (some paid), some (encodeServiceHeader platform
        (acknowledgementOf platform serviceOptions request report check paid fulfilledAt).toJson)⟩ := by
  have hservice : serviceOptions.serviceSigner =
      (unsignedAcknowledgement platform serviceOptions request report check (some paid) fulfilledAt).service := hsigner
  have hsign : signServiceAcknowledgement platform
      (unsignedAcknowledgement platform serviceOptions request report check (some paid) fulfilledAt)
      serviceOptions.serviceSigner =
        some (acknowledgementOf platform serviceOptions request report check paid fulfilledAt) := by
    rw [signServiceAcknowledgement, if_pos hservice, acknowledgementOf, hsigner]
  simp only [fulfil, hsign]

variable {report : ReportRequest} {settlement : ConfirmedSettlement} {protocol : Option String} {fulfilledAt : ℤ}

/-- The acknowledgement is within the evidence schema. -/
theorem acknowledgementOf_fits (hhex : HexDigests platform)
    (hallowed : PaymentAllowed platform options auth.permit auth.request auth.agentSignature payment.paidRequest
      payment.requirement)
    (hsigned : AuthorizationBound platform options auth payment authorization)
    (hintegrated : Integrated platform options serviceOptions auth)
    (hdeliverable : Deliverable platform payment authorization)
    (hreceived : received request report = auth.permit.operation)
    (htransaction : Field 128 BASE58 settlement.transactionId) (hfulfilled : SafeFrom 1 fulfilledAt)
    (hbytes : SafeFrom 0 (TextDecoder.encode
      (reportBody platform request report (some ⟨protocol, some settlement.transactionId⟩))).length) :
    (acknowledgementOf platform serviceOptions request report (honestCheck platform payment authorization)
      ⟨protocol, some settlement.transactionId⟩ fulfilledAt).Fits := by
  obtain ⟨signedAt, hunsigned, -⟩ := hsigned.unsigned
  have hvalid := (verifyPurchasePermitV2_verified hallowed.permit_verifies).valid.operation_valid
  have hfits := hdeliverable.fits
  have hsha256 : authorization.requestSha256 = payment.paidRequest.sha256 := congrArg (·.requestSha256) hunsigned
  have hasset : authorization.payment.asset = serviceOptions.price.asset :=
    (congrArg (·.payment.asset) hunsigned).trans (hallowed.asset_paid.trans hintegrated.asset_eq.symm)
  have hpayTo : authorization.payment.payTo = serviceOptions.price.payTo :=
    (congrArg (·.payment.payTo) hunsigned).trans (hallowed.payTo_paid.trans hintegrated.payTo_eq.symm)
  have hamount : authorization.payment.amountAtomic = serviceOptions.price.amountAtomic :=
    (congrArg (·.payment.amountAtomic) hunsigned).trans (hallowed.amount_paid.trans hintegrated.amount_eq.symm)
  have hrequest : Field 64 HEX64 payment.paidRequest.sha256 := hsha256 ▸ hfits.requestSha256
  have hprice : Bounded 64 serviceOptions.price.asset ∧ Bounded 64 serviceOptions.price.payTo ∧
      Field 20 ATOMIC serviceOptions.price.amountAtomic :=
    ⟨hasset ▸ hfits.asset, hpayTo ▸ hfits.payTo, hamount ▸ hfits.amountAtomic⟩
  exact {
    service := hintegrated.encoded
    invocationId := hfits.invocationId
    authorizationDigest := digest_fits (hhex.text _)
    requestSha256 := hrequest
    received := by
      show ExactOperationV1.Fits (received request report)
      rw [hreceived]
      exact operation_bounded hvalid hintegrated.resource_eq hintegrated.dataset_mem
    transaction := by
      rintro id hid
      cases hid
      exact htransaction
    asset := hprice.1
    payTo := hprice.2.1
    amountAtomic := hprice.2.2
    httpStatus := by
      show SafeFrom 100 200
      exact ⟨by decide, by decide, by decide⟩
    sha256 := digest_fits (hhex.bytes _)
    bytes := hbytes
    fulfilledAt := hfulfilled
    signature := hintegrated.service.encoded _ }

/-- What the provider makes of an answer: the bytes of the body, and the acknowledgement in its header. -/
structure PaidResult.Carries (platform : Platform) (result : PaidResult) (body header : String) : Prop where
  httpStatus_eq : result.httpStatus = 200
  sha256_eq : result.sha256 = platform.sha256HexOfBytes (TextDecoder.encode body)
  bytes_eq : result.bytes = (TextDecoder.encode body).length
  header_eq : result.serviceAcknowledgementHeader = some header

/-- A provider that read the body of the answer returns a result that carries it. -/
theorem carries_of_settle {providerOptions : ProviderOptions} {rounds : ℕ} {attempt : PaymentAttempt}
    {response : Payments.HttpResponse} {trace : Trace} {execution : PaymentExecution} {body header : String}
    (h : Plays (settle platform providerOptions rounds attempt response).run trace (some (.ok execution)))
    (hread : ∀ bytes, (⟨.readBody response, some (Except.ok bytes)⟩ : Program.Event ProviderAnswer) ∈ trace →
      bytes = TextDecoder.encode body)
    (hheader : response.header "x-vh-service-acknowledgement" = some header)
    (hshort : Text.utf16Length header ≤ MAX_HEADER_CHARS) :
    PaidResult.Carries platform execution.result body header := by
  obtain ⟨bytes, hmem, hresult⟩ := settle_result h
  obtain rfl := hread bytes hmem
  have hkept : (some header).filter (fun text ↦ Text.utf16Length text ≤ MAX_ACKNOWLEDGEMENT_CHARS) = some header :=
    (Option.filter_eq_some_iff ..).2 ⟨rfl, decide_eq_true hshort⟩
  rw [hresult, hheader, hkept]
  unfold summarizeResult
  dsimp only
  split <;> exact ⟨rfl, rfl, rfl, rfl⟩

/-- The authority keeps the acknowledgement of its request. -/
theorem acceptAcknowledgement_honest (hback : platform.ReadsBack) (hhex : HexDigests platform)
    (hallowed : PaymentAllowed platform options auth.permit auth.request auth.agentSignature payment.paidRequest
      payment.requirement)
    (hpayment : PaymentBound platform options auth payment)
    (hsigned : AuthorizationBound platform options auth payment authorization)
    (hintegrated : Integrated platform options serviceOptions auth)
    (hdeliverable : Deliverable platform payment authorization)
    (hreceived : received request report = auth.permit.operation)
    (htransaction : Field 128 BASE58 settlement.transactionId) (hfulfilled : SafeFrom 1 fulfilledAt)
    (hbytes : SafeFrom 0 (TextDecoder.encode
      (reportBody platform request report (some ⟨protocol, some settlement.transactionId⟩))).length)
    {header : String} (hheader : header = encodeServiceHeader platform
      (acknowledgementOf platform serviceOptions request report (honestCheck platform payment authorization)
        ⟨protocol, some settlement.transactionId⟩ fulfilledAt).toJson)
    (hshort : Text.utf16Length header ≤ MAX_HEADER_CHARS) {result : PaidResult}
    (hresult : PaidResult.Carries platform result
      (reportBody platform request report (some ⟨protocol, some settlement.transactionId⟩)) header) :
    Authority.acceptAcknowledgement platform options auth.permit payment authorization settlement result = result := by
  obtain ⟨-, hrequest⟩ := hpayment.invocation_eq
  obtain ⟨signedAt, hunsigned, -⟩ := hsigned.unsigned
  have hdecoded : decodeServiceAcknowledgementHeader platform header =
      .ok (acknowledgementOf platform serviceOptions request report (honestCheck platform payment authorization)
        ⟨protocol, some settlement.transactionId⟩ fulfilledAt) := by
    subst hheader
    exact decodeServiceAcknowledgementHeader_self hback (acknowledgementOf_fits hhex hallowed hsigned hintegrated
      hdeliverable hreceived htransaction hfulfilled hbytes) hshort
  have hperformed : received request report = payment.invocation.request.operation := by
    rw [hreceived, hrequest, hallowed.operation_eq]
  have hasset : serviceOptions.price.asset = payment.requirement.asset :=
    hintegrated.asset_eq.trans hallowed.asset_paid.symm
  have hpayTo : serviceOptions.price.payTo = payment.requirement.payTo :=
    hintegrated.payTo_eq.trans hallowed.payTo_paid.symm
  have hamount : serviceOptions.price.amountAtomic = payment.requirement.amountAtomic :=
    hintegrated.amount_eq.trans hallowed.amount_paid.symm
  have hverified : verifyServiceAcknowledgementSignature platform (acknowledgementOf platform serviceOptions request
      report (honestCheck platform payment authorization) ⟨protocol, some settlement.transactionId⟩ fulfilledAt)
      serviceOptions.serviceAddress = true :=
    hintegrated.service.verifyPinned _
  have hmatches : Authority.acknowledgementMatches platform payment authorization settlement result
      serviceOptions.serviceAddress (acknowledgementOf platform serviceOptions request report
        (honestCheck platform payment authorization) ⟨protocol, some settlement.transactionId⟩ fulfilledAt) = true := by
    simp only [Authority.acknowledgementMatches, Bool.and_eq_true, decide_eq_true_eq]
    exact ⟨⟨⟨⟨⟨⟨⟨⟨⟨⟨⟨hverified, congrArg (·.invocationId) hunsigned⟩, rfl⟩, rfl⟩, hperformed⟩, hasset⟩, hpayTo⟩,
      hamount⟩, rfl⟩, hresult.sha256_eq.symm⟩, hresult.bytes_eq.symm⟩, hresult.httpStatus_eq.symm⟩
  rw [Authority.acceptAcknowledgement, hresult.header_eq]
  simp only [Option.filter_some, hintegrated.trusted, hdecoded, hmatches, if_true]
  rw [← hresult.header_eq]

end

/-! ## The exchange -/

/-- What the service and the authority make of a paid request that the authority transmitted. -/
structure Agreed (platform : Platform) (parser : BodyParser) (options : AuthorityServiceOptions)
    (serviceOptions : ServiceAppOptions) (auth : AuthenticatedRequest) (payment : Payment)
    (authorization : SignedServiceAuthorizationV1) (attempt : PaymentAttempt) (request : HttpRequest)
    (report : ReportRequest) : Prop where
  /-- The service is asked for the operation of the permit. -/
  received_eq : received request report = auth.permit.operation
  /-- It lets the request through with the digests the authority computed. -/
  admitted : ∀ (app : ServiceApp) (id : ℕ) (now : ℤ), app.requests id = none →
    authorization.issuedAt - 30000 ≤ now → now ≤ authorization.issuedAt + SERVICE_AUTHORIZATION_TTL_MS →
    app.step platform parser serviceOptions (.post id request (some options.authorityAddress) now) =
      some (app.setRequest id request (.checked report (honestCheck platform payment authorization)))
  /-- It acknowledges the report that it sends back. -/
  acknowledged : ∀ (app : ServiceApp) (id : ℕ) (scenario : Scenario) (paid : GatePayment) (now : ℤ),
    app.requests id = some (request, .gated scenario report (some (honestCheck platform payment authorization))) →
    scenarioFor app.scenarios request ≠ .lost_response →
    app.step platform parser serviceOptions (.next id (some paid) now) = some (app.setRequest id request
      (.responded ⟨200, none, reportBody platform request report (some paid), some (encodeServiceHeader platform
        (acknowledgementOf platform serviceOptions request report (honestCheck platform payment authorization)
          paid now).toJson)⟩))
  /-- The authority keeps what comes back with the transaction that settled. -/
  kept : ∀ (db : Authority.Db) (settlement : ConfirmedSettlement) (protocol : Option String) (now : ℤ)
    (result : PaidResult) (header : String), Field 128 BASE58 settlement.transactionId → SafeFrom 1 now →
    header = encodeServiceHeader platform (acknowledgementOf platform serviceOptions request report
      (honestCheck platform payment authorization) ⟨protocol, some settlement.transactionId⟩ now).toJson →
    Text.utf16Length header ≤ MAX_HEADER_CHARS →
    PaidResult.Carries platform result
      (reportBody platform request report (some ⟨protocol, some settlement.transactionId⟩)) header →
    SafeFrom 0 result.bytes →
    Authority.callStep platform options db auth (.transmitted payment authorization attempt)
      (.executed settlement result) = some (db, .confirming settlement result)

/-- In every run, an integrated service lets a transmitted request through for the operation of its permit,
and the authority keeps the acknowledgement it sends back. -/
theorem agreed_of_transmitted {platform : Platform} {options : ℕ → AuthorityServiceOptions}
    {digests : Authority.Digests} {labels : List Authority.Action} {sys : Authority.System} {parser : BodyParser}
    {serviceOptions : ServiceAppOptions} {auth : AuthenticatedRequest} {payment : Payment}
    {authorization : SignedServiceAuthorizationV1} {attempt : PaymentAttempt} {encoded : List (String × String)}
    {request : HttpRequest} {id : Authority.CallId} (hback : platform.ReadsBack) (hhex : HexDigests platform)
    (hreads : BodyParser.ReadsJson platform parser)
    (hrun : Run (Authority.System.step platform options) (Authority.Honoured platform options digests) .initial labels
      sys) (hcall : sys.calls id = some ⟨auth, .transmitted payment authorization attempt⟩)
    (hintegrated : Integrated platform (options id.process) serviceOptions auth)
    (hdeliverable : Deliverable platform payment authorization) (hencoded : CredentialHeader encoded)
    (hdelivered : Delivered platform
      (Payments.paidRequest (executeInput platform payment authorization) encoded) request) :
    ∃ report, Agreed platform parser (options id.process) serviceOptions auth payment authorization attempt request
      report := by
  have hbound := (Authority.Bound.of_run hrun).calls id _ hcall
  obtain ⟨authenticatedAt, hauthenticated⟩ := hbound.authenticated
  obtain ⟨hpayment, hsigned, -⟩ := hbound.stage
  have hallowed := hpayment.allowed hauthenticated
  obtain ⟨signedAt, hunsigned, -⟩ := hsigned.unsigned
  have hexpires : authorization.expiresAt = authorization.issuedAt + SERVICE_AUTHORIZATION_TTL_MS := by
    rw [congrArg (·.expiresAt) hunsigned, congrArg (·.issuedAt) hunsigned]
    rfl
  obtain ⟨report, hreceived, hreceives⟩ :=
    receive_honest hback hreads hallowed hsigned hintegrated hdeliverable hencoded hdelivered
  refine ⟨report, hreceived, fun app rid now hfresh hearly hlate ↦ ?_,
    fun app rid scenario paid now hgated hscenario ↦ ?_,
    fun db settlement protocol now result header htransaction hnow hheader hshort hresult hbytes ↦ ?_⟩
  · simp only [ServiceApp.step, hfresh]
    rw [hreceives _ _ hearly (hexpires ▸ hlate)]
  · simp only [ServiceApp.step, hgated, if_neg hscenario, fulfil_eq hintegrated.signer_eq]
  · have hkept := acceptAcknowledgement_honest hback hhex hallowed hpayment hsigned hintegrated hdeliverable hreceived
      htransaction hnow (hresult.bytes_eq ▸ hbytes) hheader hshort hresult
    simp only [Authority.callStep, hkept]

/-- The authority keeps what its provider returns of the answer of the service. -/
theorem Agreed.kept_of_settle {platform : Platform} {parser : BodyParser} {options : AuthorityServiceOptions}
    {serviceOptions : ServiceAppOptions} {auth : AuthenticatedRequest} {payment : Payment}
    {authorization : SignedServiceAuthorizationV1} {attempt : PaymentAttempt} {request : HttpRequest}
    {report : ReportRequest} {providerOptions : ProviderOptions} {rounds : ℕ} {response : Payments.HttpResponse}
    {trace : Trace} {execution : PaymentExecution} {protocol : Option String} {now : ℤ} {header : String}
    (h : Agreed platform parser options serviceOptions auth payment authorization attempt request report)
    (hplays : Plays (settle platform providerOptions rounds attempt response).run trace (some (.ok execution)))
    (hread : ∀ bytes, (⟨.readBody response, some (Except.ok bytes)⟩ : Program.Event ProviderAnswer) ∈ trace →
      bytes = TextDecoder.encode
        (reportBody platform request report (some ⟨protocol, some execution.settlement.transactionId⟩)))
    (hanswered : response.header "x-vh-service-acknowledgement" = some header)
    (hheader : header = encodeServiceHeader platform (acknowledgementOf platform serviceOptions request report
      (honestCheck platform payment authorization) ⟨protocol, some execution.settlement.transactionId⟩ now).toJson)
    (hshort : Text.utf16Length header ≤ MAX_HEADER_CHARS)
    (htransaction : Field 128 BASE58 execution.settlement.transactionId) (hnow : SafeFrom 1 now)
    (hbytes : SafeFrom 0 execution.result.bytes) (db : Authority.Db) :
    Authority.callStep platform options db auth (.transmitted payment authorization attempt)
      (Authority.outcomeEvent (.ok execution)) = some (db, .confirming execution.settlement execution.result) :=
  h.kept db execution.settlement protocol now execution.result header htransaction hnow hheader hshort
    (carries_of_settle hplays hread hanswered hshort) hbytes

/-! ## A purchase of the report -/

namespace Sample

def issuer : String := "c7MJph7DxeigQigEJEGpiDodw64GHCgAJLyt8AWsshe"
def agent : String := "FHKAx15ZgUH1KrMmBPk59btP2yFajJUYKmbZt3zKc3RG"
def authority : String := "HtJ8NsRc5bTkjyuRXpsGT6c2aF8Xu5JVg6aNJP7PN5Yg"
def serviceKey : String := "98zkJzGDFM6FuVWTMS51DnSE61urodHCBtCLBcyHf6uP"

def operation : ExactOperationV1 := ⟨"POST", REPORT_RESOURCE, "summarize", "dataset-a"⟩

def unsignedPermit : UnsignedPurchasePermitV2 where
  domain := PURCHASE_PERMIT_DOMAIN
  grantId := "grant"
  issuer := issuer
  authorizedAgent := agent
  service := SERVICE_ID
  capability := CAPABILITY
  network := "devnet"
  mint := Payments.Sample.mint
  recipient := Payments.Sample.merchant
  maxPerCallAtomic := "5"
  maxTotalAtomic := "20"
  issuedAt := 1000
  expiresAt := 100000
  operation := operation

def permit : SignedPurchasePermitV2 :=
  { unsignedPermit with
    signature := "3whLuB6aywP7qLTcEZetkG7n984njBfwjLX9Xub3rJzGcR4ay5wW9D6oXRYGKi5euUXpYRAVye13rVh1cSH7rQqj" }

def permitDigest : String := "c48473559660cfbecde2bd84266eae272f32bd55c52542b2bd2d68034282eec9"
def operationDigest : String := "dc56af88660a59d8d0577910b397dc870d59b91f08c5bb2250f66826128e986d"
def fingerprint : String := "2fed7b4bdc034f974b19d00aa4c2647af51e04742e3d5d42f35088ee18c87130"
def paidDigest : String := "4f12ec588814060019e60dca5964a3cc48302239e1ed85ea36f614bf80425ea0"
def url : String := "https://reports.example/api/v1/report"

def purchase : AuthorizationRequestV2 where
  protocol := AUTHORIZATION_REQUEST_PROTOCOL
  audience := "authority"
  grantId := "grant"
  permitDigest := permitDigest
  invocationId := "invocation"
  service := SERVICE_ID
  capability := CAPABILITY
  network := "devnet"
  mint := Payments.Sample.mint
  recipient := Payments.Sample.merchant
  amountAtomic := "5"
  issuedAt := 2000
  operation := operation

def agentSignature : AgentRequestSignature where
  signature := "9LRJ2YyE3W9QxmZLfaCLUbeFecenfiVr6XgXemcvfD9JyDpcNCxmQoyVJLiA5b3m2xShvk2rKpidHMfUoZ68jD2"

def options : AuthorityServiceOptions where
  authoritySigner := authority
  authorityAddress := authority
  audience := "authority"
  issuerEntitlement := ⟨issuer, ["devnet"]⟩
  trustedServiceKeys := fun name ↦ if name = SERVICE_ID then some serviceKey else none
  paymentProvider := ⟨Evidence.Sample.profile, Payments.Sample.wallet⟩
  paidServices := fun key ↦
    if key = Authority.paidServiceKey SERVICE_ID CAPABILITY then some ⟨SERVICE_ID, CAPABILITY, url⟩ else none
  settlementProfiles := fun name ↦ if name = "devnet" then some Evidence.Sample.profile else none
  maxRequestAgeMs := 300000
  maxFutureSkewMs := 30000

def auth : AuthenticatedRequest := ⟨permit, purchase, agentSignature, operationDigest, fingerprint⟩

def body : String := "\x7b\"datasetId\":\"dataset-a\",\"operation\":\"summarize\"\x7d"

def paidRequest : PaidRequest := ⟨url, body, paidDigest⟩

def requirement : PaymentRequirement :=
  { Authority.Sample.requirement with resourceUrl := some url }

def raw : Json :=
  .obj [("x402Version", .int 2), ("resource", .obj [("url", .str url)]),
    ("accepts", .arr [.obj [("scheme", .str "exact"), ("network", .str "devnet-x402"),
      ("asset", .str Payments.Sample.mint), ("payTo", .str Payments.Sample.merchant), ("amount", .str "5"),
      ("extra", .obj [("feePayer", .str Payments.Sample.facilitator)])]])]

def challenge : PaymentChallenge := ⟨[requirement], paidDigest, raw⟩

def unsignedAuthorization : UnsignedServiceAuthorizationV1 where
  authority := authority
  invocationId := "invocation"
  grantId := "grant"
  url := url
  requestSha256 := paidDigest
  operationDigest := operationDigest
  payment := ⟨"devnet-x402", Payments.Sample.mint, Payments.Sample.merchant, "5"⟩
  issuedAt := 3000
  expiresAt := 123000

def serviceAuthorization : SignedServiceAuthorizationV1 :=
  { unsignedAuthorization with
    signature := "3VLU6WdMiaxbsYTektNXNVv1EP7ZsLQvC37BpgUuzBgoqur3SgA3DWXzPbKCdzqS39phvANtqN6Tz5BK63a3GnCb" }

def attempt : PaymentAttempt :=
  { Authority.Sample.attempt with resourceUrl := url, requestSha256 := paidDigest }

def hashed : List (Message × String) :=
  [(.permitDigestV2 permit, permitDigest), (.operation operation, operationDigest),
    (.fingerprint (Authority.fingerprintInput permit purchase operationDigest), fingerprint),
    (.paidRequest url body, paidDigest)]

def signed : List ((String × Message) × String) :=
  [((issuer, .unsignedPermitV2 unsignedPermit), permit.signature),
    ((agent, .requestV2 purchase), agentSignature.signature),
    ((authority, .serviceAuthorization unsignedAuthorization), serviceAuthorization.signature)]

theorem hashed_hex : ∀ entry ∈ hashed, Text.isDigest entry.2 = true := by
  intro entry hentry
  simp only [hashed, List.mem_cons, List.not_mem_nil, or_false] at hentry
  rcases hentry with rfl | rfl | rfl | rfl <;> exact Text.inClass_ofList rfl

theorem signed_base58 : ∀ entry ∈ signed, Field 128 BASE58 entry.2 := by
  intro entry hentry
  simp only [signed, List.mem_cons, List.not_mem_nil, or_false] at hentry
  rcases hentry with rfl | rfl | rfl <;> exact base58_fits (Text.inClass_ofList rfl)

/-- Canonical JSON and headers are read back, and the report has its own digest. -/
noncomputable def base : Platform :=
  { Payments.Sample.payments with
    pathname := fun text ↦ if text = url then some REPORT_RESOURCE else none
    parseJson := Evidence.Sample.transport.parseJson
    parseBase64Url := Evidence.Sample.transport.parseBase64Url
    sha256HexOfBytes := fun _ ↦ otherDigest }

noncomputable def recording : Recording where
  base := base
  addresses := [issuer, agent, authority, serviceKey, Payments.Sample.mint, Payments.Sample.merchant]
  digests := recordDigests hashed (by simp [hashed])
  signatures := recordSignatures signed (by simp [signed])
  digests_hex := hashed_hex
  signatures_base58 := signed_base58

noncomputable def platform : Platform := recording.platform

theorem readsBack : platform.ReadsBack where
  header := Evidence.Sample.transport_readsBack.header
  empty := Evidence.Sample.transport_readsBack.empty
  canonical := Evidence.Sample.transport_readsBack.canonical

theorem recorded_hashed : recording.digests.rows = hashed := rfl

theorem recorded_signed : recording.signatures.rows = signed := rfl

theorem hash_recorded (entry : Message × String) (h : entry ∈ hashed) :
    platform.sha256Hex (entry.1.text platform) = entry.2 :=
  Recording.sha256Hex_of_mem (show entry ∈ recording.digests.rows from recorded_hashed ▸ h)

theorem signed_recorded {key : String} (message : Message) {signature : String}
    (hkey : key ∈ recording.addresses) (h : ((key, message), signature) ∈ signed) :
    platform.verifySignature key signature (message.text platform) = true :=
  Recording.verifySignature_of_mem message hkey (recorded_signed ▸ h)

theorem known (key : String) (h : key ∈ [issuer, agent, authority, serviceKey, Payments.Sample.mint,
    Payments.Sample.merchant]) : KeyPair platform key :=
  Recording.keyPair h

theorem permit_verified : SignedPurchasePermitV2.Verified platform permit where
  valid := {
    domain_eq := rfl
    grantId_pattern := by decide
    issuer_key := (known issuer (by simp)).isAddress
    agent_key := (known agent (by simp)).isAddress
    service_pattern := by decide
    capability_pattern := by decide
    network_mem := by decide
    mint_key := (known Payments.Sample.mint (by simp)).isAddress
    recipient_key := (known Payments.Sample.merchant (by simp)).isAddress
    maxPerCall_canonical := by decide
    maxTotal_canonical := by decide
    maxPerCall_range := by decide
    maxTotal_range := by decide
    maxPerCall_le := by decide
    issuedAt_safe := by decide
    expiresAt_safe := by decide
    issuedAt_lt := by decide
    operation_valid := ⟨by decide, by decide, by decide, by decide⟩ }
  isSignature := Recording.isSignature_of_mem (((issuer, .unsignedPermitV2 unsignedPermit), permit.signature))
    (by simp [recorded_signed, signed])
  importsKey := (known issuer (by simp)).importsKey
  signed := signed_recorded (.unsignedPermitV2 unsignedPermit) (by simp [recording, permit, unsignedPermit])
    (by simp [signed, permit, unsignedPermit])

theorem request_valid : purchase.Valid where
  protocol_eq := rfl
  audience_pattern := by decide
  grantId_pattern := by decide
  invocationId_pattern := by decide
  permitDigest_pattern := Text.inClass_ofList rfl
  service_bounded := by decide
  capability_bounded := by decide
  network_bounded := by decide
  mint_bounded := by decide
  recipient_bounded := by decide
  amount_canonical := by decide
  issuedAt_safe := by decide
  operation_valid := permit_verified.valid.operation_valid

theorem request_verified : verifyAuthorizationRequestSignature platform purchase agentSignature.toJson agent = true :=
  verifyAuthorizationRequestSignature_toJson.2 ⟨Recording.isSignature_of_mem
    (((agent, .requestV2 purchase), agentSignature.signature)) (by simp [recorded_signed, signed]),
    (known agent (by simp)).isAddress, (known agent (by simp)).importsKey,
    signed_recorded (.requestV2 purchase) (by simp [recording]) (by simp [signed])⟩

theorem permit_hashed : computePermitDigest platform permit = permitDigest :=
  hash_recorded (.permitDigestV2 permit, permitDigest) (by simp [hashed])

theorem operation_hashed : computeOperationDigest platform operation = operationDigest :=
  hash_recorded (.operation operation, operationDigest) (by simp [hashed])

theorem fingerprint_hashed :
    Authority.computeRequestFingerprint platform permit purchase operationDigest = fingerprint :=
  hash_recorded (.fingerprint (Authority.fingerprintInput permit purchase operationDigest), fingerprint)
    (by simp [hashed])

theorem paidRequest_hashed : computePaidRequestDigest platform url body = paidDigest :=
  hash_recorded (.paidRequest url body, paidDigest) (by simp [hashed])

def input : Authority.AuthorizeRequestInput where
  permit := permit.toJson
  authorizationRequest := purchase
  agentSignature := some agentSignature.toJson
  valid := request_valid

theorem authenticated : Authority.authenticate platform options input 2500 = .ok auth := by
  have hpermit : verifyPurchasePermitV2 platform input.permit = .ok permit :=
    verifyPurchasePermitV2_toJson permit_verified
  have hsignature : Authority.normalizedSignature input.agentSignature = agentSignature.signature := by
    simp [Authority.normalizedSignature, input, AgentRequestSignature.toJson, signatureJson, object?, text,
      Json.member]
  unfold Authority.authenticate
  simp only [guardThat_bind_eq_ok, mapError_bind_eq_ok]
  refine ⟨by simp [input, Authority.isNullish, AgentRequestSignature.toJson, signatureJson], permit, hpermit,
    by decide, request_verified, by decide, by decide, ?_, by decide, ?_⟩
  · rw [permit_hashed]
    rfl
  · have hoperation : computeOperationDigest platform input.authorizationRequest.operation = operationDigest :=
      operation_hashed
    have hfingerprint : Authority.computeRequestFingerprint platform permit input.authorizationRequest
        operationDigest = fingerprint := fingerprint_hashed
    simp only [hsignature, hoperation, hfingerprint]
    rfl

def id : Authority.CallId := ⟨0, 0⟩

def terms : Authority.ChallengeTerms := ⟨some paidRequest, some challenge, some requirement, []⟩

def payment (row : Authority.InvocationRecord) : Payment := ⟨row, paidRequest, challenge, requirement⟩

theorem body_eq : operationRequestBody platform operation = body := by
  decide +kernel

theorem outbound : Authority.outboundRequest platform options purchase = some paidRequest := by
  have hregistered : options.paidServices (Authority.paidServiceKey purchase.service purchase.capability) =
      some ⟨SERVICE_ID, CAPABILITY, url⟩ := rfl
  rw [Authority.outboundRequest, hregistered, Option.bind_some, Authority.buildPaidRequest_eq_some]
  refine ⟨rfl, by decide, ?_⟩
  have hbody : operationRequestBody platform purchase.operation = body := body_eq
  simp only [createPaidRequest, hbody, paidRequest_hashed]
  rfl

theorem decided : Authority.decide platform options auth 2600 =
    .fetching 2600 Evidence.Sample.profile paidRequest := by
  have hallowed : Authority.requestAllowed auth 2600 = true := by decide
  have houtbound : Authority.outboundRequest platform options auth.request = some paidRequest := outbound
  have hprofile : (options.settlementProfiles auth.permit.network).filter (fun found ↦
      found.name = options.paymentProvider.settlementProfile) = some Evidence.Sample.profile := by
    rfl
  simp only [Authority.decide, hallowed, houtbound, hprofile, if_true]

/-- The row of the reservation. -/
def reserved : Authority.InvocationRecord := (Authority.reserveInput auth 2600 terms).row .RESERVED [] 2700

def reservedDb : Authority.Db where
  grants := ⟨[{
    issuer := issuer, grantId := "grant", permitDigest := permitDigest, maxTotalAtomic := "20", reservedAtomic := "5",
    consumedAtomic := "0", createdAt := 2700, updatedAt := 2700 }], by simp⟩
  invocations := ⟨[reserved], by simp⟩
  transitions := [⟨"invocation", none, .RESERVED, none, 2700⟩]

theorem resuming_step : Authority.callStep platform options .empty auth (.known none) (.resume 2600) =
    some (.empty, .fetching 2600 Evidence.Sample.profile paidRequest) :=
  congrArg (fun stage ↦ some (Authority.Db.empty, stage)) decided

theorem fetching_step : Authority.callStep platform options .empty auth
    (.fetching 2600 Evidence.Sample.profile paidRequest) (.challenge (.challenge challenge)) =
      some (.empty, .reserving 2600 terms) := by
  rfl

theorem reserves : Authority.Db.empty.access (some 2700) (Authority.reserve (Authority.reserveInput auth 2600 terms)
    (Authority.evaluate auth 2600 terms)) = (.ok (.reserved reserved), reservedDb) := by
  rfl

theorem reserving_step : Authority.callStep platform options .empty auth (.reserving 2600 terms)
    (.store (some 2700)) = some (reservedDb, .budgeting (payment reserved)) := by
  have houtbound : Authority.outboundRequest platform options reserved.request = some paidRequest := outbound
  have hstart : Authority.startPayment platform options (payment reserved) = .budgeting (payment reserved) := by
    simp [Authority.startPayment, Authority.outboundMatchesAuthorization, payment, houtbound]
  simp only [Authority.callStep, reserves]
  exact congrArg (fun stage ↦ some (reservedDb, stage)) hstart

theorem budgeting_step : Authority.callStep platform options reservedDb auth (.budgeting (payment reserved))
    (.store (some 2800)) = some (reservedDb, .authorizing (payment reserved)) := by
  rfl

theorem authorizing_step : Authority.callStep platform options reservedDb auth (.authorizing (payment reserved))
    (.signed 3000) = some (reservedDb, .building (payment reserved) serviceAuthorization) := by
  have hunsigned : Authority.unsignedServiceAuthorization platform options auth.permit (payment reserved) 3000 =
      unsignedAuthorization := by
    have hoperation : computeOperationDigest platform (payment reserved).invocation.request.operation =
        operationDigest := operation_hashed
    rw [Authority.unsignedServiceAuthorization, hoperation]
    rfl
  have hsigned : platform.signBytes authority ((Message.serviceAuthorization unsignedAuthorization).text platform) =
      serviceAuthorization.signature := Recording.sign_of_mem (recorded_signed ▸ by simp [signed])
  have hsign : signServiceAuthorization platform unsignedAuthorization options.authoritySigner =
      some serviceAuthorization := by
    rw [signServiceAuthorization, if_pos (show options.authoritySigner = unsignedAuthorization.authority from rfl)]
    exact congrArg (fun signature ↦ some (SignedServiceAuthorizationV1.mk unsignedAuthorization signature)) hsigned
  simp only [Authority.callStep, hunsigned, hsign, Option.map_some]

def attempted : Authority.InvocationRecord := Authority.attemptedRow attempt serviceAuthorization 3200 reserved

def attemptedDb : Authority.Db where
  grants := reservedDb.grants
  invocations := ⟨[attempted], by simp⟩
  transitions := reservedDb.transitions ++ [⟨"invocation", some .RESERVED, .RESERVED,
    some s!"payment attempt {attempt.payerSignature}", 3200⟩]

theorem building_step : Authority.callStep platform options reservedDb auth
    (.building (payment reserved) serviceAuthorization) (.submit attempt (some 3200)) =
      some (attemptedDb, .recorded (payment reserved) serviceAuthorization attempt) := by
  rfl

theorem prepares : prepareAttempt platform options.paymentProvider paidRequest challenge requirement
    Authority.Sample.answers = .ok attempt := by
  have hfresh : freshBlockhash platform Evidence.Sample.profile Authority.Sample.answers.blockhash =
      .ok ⟨Payments.Sample.blockhash, 900⟩ := by
    simp [freshBlockhash, Authority.Sample.answers, number, text, Json.member, Json.int, Evidence.Sample.profile]
  have hmatches : paidRequestMatches platform paidRequest challenge.requestSha256 = true := by
    simp [paidRequestMatches, paidRequest, challenge, paidRequest_hashed]
  have horiginal : originalMatches challenge.raw requirement = true := by
    simp [originalMatches, challenge, raw, requirement, Authority.Sample.requirement, Json.member, text]
  simp only [prepareAttempt, required_bind_eq_ok, guardThat_bind_eq_ok, filter_eq_some]
  refine ⟨hmatches, horiginal, Payments.Sample.facilitator, ⟨rfl, by decide⟩, ?_⟩
  rw [bind_eq_ok]
  refine ⟨_, hfresh, ?_⟩
  rw [bind_eq_ok]
  exact ⟨some Payments.Sample.transactionBase64, rfl, (mapError_bind_eq_ok).2 ⟨_, Payments.Sample.validates, rfl⟩⟩

def digests : Authority.Digests where
  contentOf _ := Authority.fingerprintInput permit purchase operationDigest
  permitOf _ := permit
  operationOf _ := operation

/-- The purchase is the pending one for its invocation. -/
def pending : Authority.System := Authority.Sample.started.setPending 0 "invocation" (some ⟨fingerprint, 0⟩)

abbrev Honest := Authority.Honoured platform (fun _ ↦ options) digests

/-- The actions before the signature of the service authorization. -/
def budgeted : List Authority.Action :=
  [.start 0, .recover 0 (some 1000), .arrive id input 2500 (some 2500)] ++ [.call id (.resume 2600)] ++
  [.call id (.challenge (.challenge challenge))] ++ [.call id (.store (some 2700))] ++
  [.call id (.store (some 2800))]

theorem arrived_run : Run (Authority.System.step platform fun _ ↦ options) Honest .initial
    [.start 0, .recover 0 (some 1000), .arrive id input 2500 (some 2500)]
    (pending.withCall id auth .empty (.known none)) := by
  have hstarted : Run (Authority.System.step platform fun _ ↦ options) Honest .initial
      [.start 0, .recover 0 (some 1000)] Authority.Sample.started :=
    (Run.start.next ⟨trivial, trivial⟩ rfl).next ⟨trivial, trivial⟩ rfl
  have harrives : Authority.Sample.started.step platform (fun _ ↦ options) (.arrive id input 2500 (some 2500)) =
      some (pending.withCall id auth .empty (.known none)) :=
    Authority.System.withCall_arrive rfl rfl authenticated rfl
  refine hstarted.next ⟨?_, trivial⟩ harrives
  intro other hother
  rw [authenticated] at hother
  cases hother
  exact ⟨rfl, rfl, rfl⟩

theorem budgeted_run : Run (Authority.System.step platform fun _ ↦ options) Honest .initial budgeted
    (pending.withCall id auth reservedDb (.authorizing (payment reserved))) :=
  Authority.run_call (Authority.run_call (Authority.run_call (Authority.run_call arrived_run
    ⟨trivial, trivial⟩ resuming_step) ⟨trivial, trivial⟩ fetching_step) ⟨trivial, trivial⟩ reserving_step)
    ⟨trivial, trivial⟩ budgeting_step

theorem building_run : Run (Authority.System.step platform fun _ ↦ options) Honest .initial
    (budgeted ++ [.call id (.signed 3000)])
    (pending.withCall id auth reservedDb (.building (payment reserved) serviceAuthorization)) :=
  Authority.run_call budgeted_run ⟨trivial, trivial⟩ authorizing_step

def credential : Authority.Credential := ⟨id, auth, payment reserved, serviceAuthorization, attempt⟩

theorem recorded_run : Run (Authority.System.step platform fun _ ↦ options) Honest .initial
    (budgeted ++ [.call id (.signed 3000)] ++ [.call id (.submit attempt (some 3200))])
    (pending.withCall id auth attemptedDb (.recorded (payment reserved) serviceAuthorization attempt)) := by
  refine Authority.run_call building_run ⟨trivial, ?_⟩ building_step
  intro other payment authorization hcall
  rw [Authority.System.withCall_calls] at hcall
  cases hcall
  exact ⟨Authority.Sample.answers, prepares⟩

theorem transmitted_run : Run (Authority.System.step platform fun _ ↦ options) Honest .initial
    (budgeted ++ [.call id (.signed 3000)] ++ [.call id (.submit attempt (some 3200))] ++ [.transmit id])
    ((pending.sent credential).withCall id auth attemptedDb
      (.transmitted (payment reserved) serviceAuthorization attempt)) :=
  recorded_run.next ⟨trivial, trivial⟩ (Authority.System.withCall_transmit _ _ _)

def serviceOptions : ServiceAppOptions where
  serviceSigner := serviceKey
  serviceAddress := serviceKey
  price := ⟨"devnet-x402", Payments.Sample.mint, Payments.Sample.merchant, "5"⟩

def encoded : List (String × String) := [("PAYMENT-SIGNATURE", "credential")]

theorem credentialHeader : CredentialHeader encoded :=
  ⟨"PAYMENT-SIGNATURE", "credential", rfl, by decide, by decide⟩

noncomputable def sent : Payments.HttpRequest :=
  Payments.paidRequest (executeInput platform (payment reserved) serviceAuthorization) encoded

noncomputable def request : HttpRequest where
  method := "POST"
  path := REPORT_RESOURCE
  header := fun name ↦ (sent.header name).head?
  rawBody := TextDecoder.encode body

theorem delivered : Delivered platform sent request where
  method_eq := rfl
  path_eq := by
    show (if url = url then some REPORT_RESOURCE else none) = some REPORT_RESOURCE
    rw [if_pos rfl]
  header_eq name value hvalue := by
    show (sent.header name).head? = some value
    rw [hvalue]
    rfl
  body_eq := rfl

/-- `express.json`, strict, on bodies in UTF-8. -/
noncomputable def parser : BodyParser := fun request ↦
  if request.header "content-type" ≠ some "application/json" then .ok none
  else if request.rawBody = [] then .ok (some (.obj []))
  else if MAX_BODY_BYTES < request.rawBody.length then .error 413
  else
    match platform.parseJson (TextDecoder.decode request.rawBody) with
    | some (.obj record) => .ok (some (.obj record))
    | some (.arr items) => .ok (some (.arr items))
    | _ => .error 400

theorem parser_readsJson : BodyParser.ReadsJson platform parser where
  reads request record hcontentType hnonempty _ hparsed := by
    unfold parser at hparsed
    rw [if_neg (not_not.2 hcontentType), if_neg hnonempty] at hparsed
    split at hparsed
    · cases hparsed
    · split at hparsed
      · rename_i found hfound
        cases hparsed
        exact hfound
      · cases hparsed
      · cases hparsed
  accepts request record hcontentType hnonempty hsmall _ hread := by
    unfold parser
    rw [if_neg (not_not.2 hcontentType), if_neg hnonempty, if_neg (Nat.not_lt.2 hsmall), hread]

theorem hexDigests : HexDigests platform where
  text := Recording.sha256Hex_isDigest recording
  bytes bytes := by
    show Text.isDigest otherDigest = true
    decide

theorem integrated : Integrated platform options serviceOptions auth where
  authority := known authority (by simp)
  service := known serviceKey (by simp)
  encoded := base58_fits (Text.inClass_ofList rfl)
  signer_eq := rfl
  trusted := rfl
  resource_eq := rfl
  dataset_mem := by decide
  asset_eq := rfl
  payTo_eq := rfl
  amount_eq := rfl

theorem serviceAuthorization_fits : serviceAuthorization.Fits where
  authority := base58_fits (Text.inClass_ofList rfl)
  invocationId := by decide
  grantId := by decide
  url := by decide
  requestSha256 := digest_fits (Text.inClass_ofList rfl)
  operationDigest := digest_fits (Text.inClass_ofList rfl)
  network := by decide
  asset := by decide
  payTo := by decide
  amountAtomic := ⟨by decide, by decide⟩
  issuedAt := by decide
  expiresAt := by decide
  signature := base58_fits (Text.inClass_ofList rfl)

theorem deliverable : Deliverable platform (payment reserved) serviceAuthorization where
  body_small := by
    show (TextDecoder.encode body).length ≤ MAX_BODY_BYTES
    decide +kernel
  body_unmarked := by decide
  fits := serviceAuthorization_fits
  header_short := by
    have hsize : String.utf8Len serviceAuthorization.toJson.normal.render ≤ 1000 := by decide +kernel
    show Text.utf16Length (Base64Url.encodeText (String.ofList serviceAuthorization.toJson.normal.render)) ≤ 4096
    rw [utf16Length_encodeText, String.utf8ByteSize_ofList]
    omega

/-- The service lets the transmitted request through and acknowledges it, and the authority keeps that. -/
theorem agreed_of_transmitted_report : ∃ report, Agreed platform parser options serviceOptions auth
    (payment reserved) serviceAuthorization attempt request report :=
  agreed_of_transmitted readsBack hexDigests parser_readsJson transmitted_run
    Authority.System.withCall_calls integrated deliverable credentialHeader delivered

end Sample

end VirtualHaibin.Service
