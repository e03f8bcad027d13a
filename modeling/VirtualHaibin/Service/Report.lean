import VirtualHaibin.Mandate.Operation
import VirtualHaibin.Foundation.Same
import Mathlib.Data.List.Dedup
import Mathlib.Data.List.Sort

/-!
# The paid report

The one operation of the service: a strict body, a synthetic dataset, and a report that either lists
the rows or adds them up.
-/

namespace VirtualHaibin.Service

open Foundation Foundation.Checked Mandate

def SERVICE_ID : String := "mock-dataset-reports"
def CAPABILITY : String := "reports.generate"
def REPORT_RESOURCE : String := "/api/v1/report"

inductive Operation where
  | summarize
  | «export»
  deriving DecidableEq

def Operation.name : Operation → String
  | .summarize => "summarize"
  | .«export» => "export"

def OPERATIONS : List Operation := [.summarize, .«export»]

structure ReportRequest where
  operation : Operation
  datasetId : String
  deriving DecidableEq

structure DatasetRow where
  region : String
  revenue : ℕ
  deriving DecidableEq

def DATASETS : List (String × List DatasetRow) :=
  [("dataset-a", [⟨"north", 120⟩, ⟨"south", 95⟩, ⟨"east", 143⟩]),
    ("dataset-b", [⟨"west", 88⟩, ⟨"central", 131⟩])]

/-- `Object.keys(record).sort()`; a name that is repeated is one key. -/
def sortedKeys (record : List (String × Json)) : List String :=
  (record.map Prod.fst).dedup.insertionSort (· ≤ ·)

/-- Strict body validation: exactly an operation and a dataset. -/
def parseReportRequest (body : Option Json) : Option ReportRequest := do
  let record ← object? body
  let keys := sortedKeys record
  if keys.length ≠ 2 || keys[0]? ≠ some "datasetId" || keys[1]? ≠ some "operation" then none
  else
    let operation ← (text record "operation").bind fun name ↦ OPERATIONS.find? fun operation ↦ operation.name = name
    let datasetId ← (text record "datasetId").filter fun name ↦ name ∈ DATASETS.map Prod.fst
    return ⟨operation, datasetId⟩

def DatasetRow.toJson (row : DatasetRow) : Json := .obj [("region", .str row.region), ("revenue", .int row.revenue)]

def runReport (report : ReportRequest) : Json :=
  let rows := ((DATASETS.find? fun entry ↦ entry.1 = report.datasetId).map Prod.snd).getD []
  match report.operation with
  | .«export» =>
    .obj [("kind", .str "export"), ("rowCount", .int rows.length), ("rows", .arr (rows.map DatasetRow.toJson))]
  | .summarize =>
    let sorted := rows.insertionSort fun a b ↦ b.revenue ≤ a.revenue
    .obj [("kind", .str "summary"), ("rowCount", .int rows.length),
      ("totalRevenue", .int (rows.foldl (fun sum row ↦ sum + row.revenue) 0)),
      ("topRegion", Json.orNull .str (sorted.head?.map DatasetRow.region))]

theorem find_operation {name : String} {operation : Operation} :
    (OPERATIONS.find? fun operation ↦ operation.name = name) = some operation ↔ operation.name = name := by
  constructor
  · intro h
    simpa using List.find?_some h
  · rintro rfl
    cases operation <;> rfl

/-- The keys of a body that passes. -/
theorem sortedKeys_eq {record : List (String × Json)} :
    sortedKeys record = ["datasetId", "operation"] ↔
      ∀ name, name ∈ record.map Prod.fst ↔ name = "datasetId" ∨ name = "operation" := by
  have hnodup : (record.map Prod.fst).dedup.Nodup := List.nodup_dedup _
  constructor
  · intro h name
    have hmem : name ∈ sortedKeys record ↔ name ∈ record.map Prod.fst := by
      rw [sortedKeys, List.mem_insertionSort, List.mem_dedup]
    rw [← hmem, h]
    simp
  · intro h
    have hperm : (record.map Prod.fst).dedup.Perm ["datasetId", "operation"] := by
      rw [List.perm_ext_iff_of_nodup hnodup (by decide)]
      intro name
      rw [List.mem_dedup, h]
      simp
    obtain ⟨a, b, heq⟩ := List.length_eq_two.1 hperm.length_eq
    rw [heq] at hperm hnodup
    have ha : a = "datasetId" ∨ a = "operation" := by simpa using hperm.subset (List.mem_cons_self ..)
    have hb : b = "datasetId" ∨ b = "operation" := by
      simpa using hperm.subset (List.mem_cons_of_mem a (List.mem_singleton_self b))
    have hne : a ≠ b := by simpa using hnodup
    rw [sortedKeys, heq]
    rcases ha with rfl | rfl <;> rcases hb with rfl | rfl <;> first | exact absurd rfl hne | decide

theorem keys_iff {keys : List String} :
    (keys.length ≠ 2 || keys[0]? ≠ some "datasetId" || keys[1]? ≠ some "operation") = false ↔
      keys = ["datasetId", "operation"] := by
  constructor
  · intro h
    simp only [Bool.or_eq_false_iff, decide_eq_false_iff_not, not_not, ne_eq] at h
    obtain ⟨⟨hlength, hfirst⟩, hsecond⟩ := h
    obtain ⟨a, b, rfl⟩ := List.length_eq_two.1 hlength
    simp only [List.getElem?_cons_zero, Option.some.injEq, List.getElem?_cons_succ] at hfirst hsecond
    rw [hfirst, hsecond]
  · rintro rfl
    decide

/-- Exactly the bodies with one known operation on one known dataset and nothing else pass. -/
theorem parseReportRequest_eq_some {body : Option Json} {report : ReportRequest} :
    parseReportRequest body = some report ↔ ∃ record, body = some (.obj record) ∧
      (∀ name, name ∈ record.map Prod.fst ↔ name = "datasetId" ∨ name = "operation") ∧
      Json.member record "operation" = some (.str report.operation.name) ∧
      Json.member record "datasetId" = some (.str report.datasetId) ∧
      report.datasetId ∈ DATASETS.map Prod.fst := by
  unfold parseReportRequest
  simp only [Option.bind_eq_bind, Option.bind_eq_some_iff, object?_eq_some]
  refine exists_congr fun record ↦ and_congr_right fun _ ↦ ?_
  rw [← sortedKeys_eq, ← keys_iff]
  split
  · rename_i hbad
    rw [hbad]
    simp
  · rename_i hgood
    simp only [Bool.not_eq_true] at hgood
    simp only [hgood, true_and, Option.bind_eq_some_iff, text_eq_some, find_operation, filter_eq_some,
      decide_eq_true_eq, Option.pure_def, Option.some.injEq]
    constructor
    · rintro ⟨operation, ⟨name, hname, rfl⟩, datasetId, ⟨hdataset, hknown⟩, rfl⟩
      exact ⟨hname, hdataset, hknown⟩
    · rintro ⟨hname, hdataset, hknown⟩
      exact ⟨_, ⟨_, hname, rfl⟩, _, ⟨hdataset, hknown⟩, rfl⟩

end VirtualHaibin.Service
