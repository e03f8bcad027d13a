import VirtualHaibin.Platform
import VirtualHaibin.Foundation.Checked

/-!
# The exact operation

One concrete operation: an HTTP `POST` to a report resource with a two-field JSON body.  The
human's permit, the agent's request and the outbound HTTP request all carry it.
-/

namespace VirtualHaibin.Mandate

open Foundation Foundation.Checked

def EXACT_OPERATION_DOMAIN : String := "virtual-haibin/exact-operation"
def OPERATION_METHODS : List String := ["POST"]
def REPORT_OPERATIONS : List String := ["summarize", "export"]
def OPERATION_FIELDS : List String := ["method", "resource", "operation", "datasetId"]

/-- The enumerated fields are texts because the evidence parser carries any bounded text in them
and leaves the enumeration to the permit's own validation. -/
@[ext] structure ExactOperationV1 where
  method : String
  resource : String
  operation : String
  datasetId : String
  deriving DecidableEq

def isSegmentChar (c : Char) : Bool := c.isAlphanum || c = '_' || c = '-'

/-- `/^(\/[A-Za-z0-9_-]{1,32}){1,8}$/` -/
def RESOURCE_PATTERN (text : String) : Bool :=
  match text.toList.splitOn '/' with
  | [] :: segments =>
    decide (1 ≤ segments.length) && decide (segments.length ≤ 8) &&
      segments.all fun segment ↦
        decide (1 ≤ segment.length) && decide (segment.length ≤ 32) && segment.all isSegmentChar
  | _ => false

def isIdentifierEdge (c : Char) : Bool := ('a' ≤ c && c ≤ 'z') || c.isDigit

/-- `/^[a-z0-9](?:[a-z0-9-]{0,62}[a-z0-9])?$/` -/
def DATASET_ID_PATTERN (text : String) : Bool :=
  Text.inClass (fun c ↦ isIdentifierEdge c || c = '-') 1 64 text &&
    text.toList.head?.any isIdentifierEdge && text.toList.getLast?.any isIdentifierEdge

/-- Strict structural validation; the failure is the message. -/
def validateExactOperation (candidate : Option Json) : Except String ExactOperationV1 := do
  let record ← required (object? candidate) "operation must be a JSON object."
  match unknownMember record OPERATION_FIELDS with
  | some unknownField => .error s!"operation has unexpected field {Text.quote unknownField}."
  | none =>
    let method ← required ((text record "method").filter fun value ↦ value ∈ OPERATION_METHODS)
      "operation.method must be one of: POST."
    let resource ← required ((text record "resource").filter RESOURCE_PATTERN)
      "operation.resource must be an absolute path of [A-Za-z0-9_-] segments."
    let operation ← required ((text record "operation").filter fun value ↦ value ∈ REPORT_OPERATIONS)
      "operation.operation must be one of: summarize, export."
    let datasetId ← required ((text record "datasetId").filter DATASET_ID_PATTERN)
      "operation.datasetId must be a lowercase identifier of [a-z0-9-]."
    return { method, resource, operation, datasetId }

namespace ExactOperationV1

/-- What `validateExactOperation` establishes of the operation it returns. -/
structure Valid (operation : ExactOperationV1) : Prop where
  method_mem : operation.method ∈ OPERATION_METHODS
  resource_pattern : RESOURCE_PATTERN operation.resource = true
  operation_mem : operation.operation ∈ REPORT_OPERATIONS
  datasetId_pattern : DATASET_ID_PATTERN operation.datasetId = true

/-- The four security-relevant fields in source order. -/
def toJson (operation : ExactOperationV1) : Json :=
  .obj [("method", .str operation.method), ("resource", .str operation.resource),
    ("operation", .str operation.operation), ("datasetId", .str operation.datasetId)]

end ExactOperationV1

/-- An object with the four members of an operation and no other. -/
structure CarriesOperation (record : List (String × Json)) (operation : ExactOperationV1) : Prop where
  known : ∀ name ∈ record.map Prod.fst, name ∈ OPERATION_FIELDS
  method_eq : Json.member record "method" = some (.str operation.method)
  resource_eq : Json.member record "resource" = some (.str operation.resource)
  operation_eq : Json.member record "operation" = some (.str operation.operation)
  datasetId_eq : Json.member record "datasetId" = some (.str operation.datasetId)

/-- Exactly the strict objects with valid members are operations. -/
theorem validateExactOperation_eq_ok {candidate : Option Json} {operation : ExactOperationV1} :
    validateExactOperation candidate = .ok operation ↔
      ∃ record, candidate = some (.obj record) ∧ CarriesOperation record operation ∧ operation.Valid := by
  unfold validateExactOperation
  rw [required_bind_eq_ok]
  simp only [object?_eq_some]
  refine exists_congr fun record ↦ and_congr_right fun _ ↦ ?_
  split
  · rename_i name hunknown
    refine ⟨fun h ↦ (nomatch h), fun h ↦ ?_⟩
    rw [unknownMember_eq_none.2 h.1.known] at hunknown
    cases hunknown
  · rename_i hknown
    simp only [required_bind_eq_ok, filter_eq_some, pure_eq_ok, Except.ok.injEq, text_eq_some,
      decide_eq_true_eq]
    constructor
    · rintro ⟨method, ⟨hmethod, hmethod'⟩, resource, ⟨hresource, hresource'⟩, kind, ⟨hkind, hkind'⟩,
        datasetId, ⟨hdatasetId, hdatasetId'⟩, rfl⟩
      exact ⟨⟨unknownMember_eq_none.1 hknown, hmethod, hresource, hkind, hdatasetId⟩,
        hmethod', hresource', hkind', hdatasetId'⟩
    · rintro ⟨hcarries, hvalid⟩
      exact ⟨_, ⟨hcarries.method_eq, hvalid.method_mem⟩, _, ⟨hcarries.resource_eq, hvalid.resource_pattern⟩,
        _, ⟨hcarries.operation_eq, hvalid.operation_mem⟩, _, ⟨hcarries.datasetId_eq, hvalid.datasetId_pattern⟩,
        rfl⟩

theorem validateExactOperation_valid {candidate : Option Json} {operation : ExactOperationV1}
    (h : validateExactOperation candidate = .ok operation) : operation.Valid := by
  obtain ⟨_, _, _, hvalid⟩ := validateExactOperation_eq_ok.1 h
  exact hvalid

/-- A valid operation survives a trip through its own JSON. -/
theorem validateExactOperation_toJson {operation : ExactOperationV1} (h : operation.Valid) :
    validateExactOperation (some operation.toJson) = .ok operation :=
  validateExactOperation_eq_ok.2 ⟨_, rfl, ⟨fun _ hname ↦ hname, rfl, rfl, rfl, rfl⟩, h⟩

/-- Lowercase hex SHA-256 over the domain-separated canonical JSON of the operation. -/
def computeOperationDigest (platform : Platform) (operation : ExactOperationV1) : String :=
  platform.sha256Hex (EXACT_OPERATION_DOMAIN ++ ":v1\n" ++ platform.canonicalize operation.toJson)

/-- The exact JSON body sent to the paid service. -/
def operationRequestBody (platform : Platform) (operation : ExactOperationV1) : String :=
  platform.canonicalize
    (.obj [("operation", .str operation.operation), ("datasetId", .str operation.datasetId)])

def operationsEqual (a b : ExactOperationV1) : Bool :=
  a.method = b.method && a.resource = b.resource && a.operation = b.operation && a.datasetId = b.datasetId

@[simp] theorem operationsEqual_iff {a b : ExactOperationV1} : operationsEqual a b = true ↔ a = b := by
  simp [operationsEqual, ExactOperationV1.ext_iff, and_assoc]

end VirtualHaibin.Mandate
