import CortexGateway.Core.Calendar
import CortexGateway.Core.Text
import CortexGateway.Database.Tables

/-! # Analytics

`app/observability/analytics_service.py`: the filters every query shares, and
the aggregates the database computes.  Rows and groups that a query leaves
unordered come in the order the rows were stored. -/
set_option autoImplicit false
namespace CortexGateway

/-- `str.upper` on ASCII letters. -/
def upper (s : String) : String := String.ofList (s.toList.map Char.toUpper)

/-- The optional filters of `_apply_common_filters`. -/
structure AnalyticsFilter where
  teamId : Option String := none
  provider : Option String := none
  model : Option String := none
  status : Option String := none
  requestId : Option String := none
  fromDt : Option Datetime := none
  toDt : Option Datetime := none

/-- `if wanted: stmt.where(column == wanted)`. -/
def wantedColumn (wanted column : Option String) : Bool :=
  wanted.all fun value => value = "" || column = some value

def applyCommonFilters (organizationId : String) (filter : AnalyticsFilter)
    (rows : List RequestLogRow) : List RequestLogRow :=
  (rows.filter fun row => row.organizationId = some organizationId).filter fun row =>
    wantedColumn filter.teamId row.teamId && wantedColumn filter.provider row.provider &&
      wantedColumn filter.model row.model && wantedColumn filter.status (some row.status) &&
      wantedColumn filter.requestId (some row.requestId) &&
      (filter.fromDt.all fun start => start ≤ row.createdAt) &&
      filter.toDt.all fun stop => row.createdAt < stop

/-! ## Aggregates -/

/-- The groups of GROUP BY, each with its rows. -/
def groupRows {κ : Type} [DecidableEq κ] (key : RequestLogRow → κ) (rows : List RequestLogRow) :
    List (κ × List RequestLogRow) :=
  (rows.map key).dedup.map fun value => (value, rows.filter fun row => key row = value)

/-- `sum(column)`: null when every value is. -/
def sumOf {α : Type} [AddMonoid α] (column : RequestLogRow → Option α)
    (rows : List RequestLogRow) : Option α :=
  match rows.filterMap column with
  | [] => none
  | value :: values => some (value + values.sum)

def avgOf (column : RequestLogRow → Option ℚ) (rows : List RequestLogRow) : Option ℚ :=
  (sumOf column rows).map fun sum => sum / (rows.filterMap column).length

/-- `percentile_cont(fraction)` of values in ascending order. -/
def percentileCont (fraction : ℚ) (values : List ℚ) : ℚ :=
  let position := fraction * ((values.length : ℚ) - 1)
  let below := ⌊position⌋.toNat
  let above := ⌈position⌉.toNat
  let low := values.getD below 0
  low + (position - below) * (values.getD above 0 - low)

/-- `round(x, 2) if x else None`. -/
def roundedOrNone (value : Option ℚ) : Option ℚ :=
  value.bind fun x => if x = 0 then none else some (roundTo x 2)

/-- Descending, nulls last. -/
def DescNullsLast : Option ℚ → Option ℚ → Prop
  | some x, some y => y ≤ x
  | none, some _ => False
  | _, none => True

instance : DecidableRel DescNullsLast
  | some x, some y => inferInstanceAs (Decidable (y ≤ x))
  | none, some _ => isFalse id
  | some _, none => isTrue trivial
  | none, none => isTrue trivial

/-- Ascending; nulls come last. -/
def AscNullsLast : Option String → Option String → Prop
  | some x, some y => x ≤ y
  | none, some _ => False
  | _, none => True

instance : DecidableRel AscNullsLast
  | some x, some y => inferInstanceAs (Decidable (x ≤ y))
  | none, some _ => isFalse id
  | some _, none => isTrue trivial
  | none, none => isTrue trivial

structure CostGroupItem where
  groupKey : String
  totalCost : ℚ
  requestCount : ℕ
  totalTokens : ℤ
  deriving DecidableEq

structure LatencyGroupItem where
  provider : Option String
  requestCount : ℕ
  avgLatencyMs : Option ℚ
  p50LatencyMs : Option ℚ
  p95LatencyMs : Option ℚ
  p99LatencyMs : Option ℚ
  deriving DecidableEq

structure ErrorGroupItem where
  provider : Option String
  errorCode : Option String
  count : ℕ
  deriving DecidableEq

structure FallbackGroupItem where
  fromProvider : Option String
  toProvider : Option String
  count : ℕ
  deriving DecidableEq

structure BudgetEventItem where
  budgetAction : Option String
  budgetPolicyApplied : Option String
  eventCount : ℕ
  deriving DecidableEq

structure TimeseriesBucket where
  timestamp : String
  requestCount : ℕ
  successCount : ℕ
  errorCount : ℕ
  totalCost : ℚ
  avgLatencyMs : Option ℚ
  deriving DecidableEq

namespace AnalyticsService

def maxPageSize : ℕ := 200

section Queries
variable (rows : List RequestLogRow) (organizationId : String) (filter : AnalyticsFilter)

/-- The page, newest first, and the number of all matching rows. -/
def listRequests (page pageSize : ℕ) : List RequestLogItem × ℕ :=
  let found := applyCommonFilters organizationId filter rows
  let pageSize := min pageSize maxPageSize
  let sorted := found.insertionSort fun row other => other.createdAt ≤ row.createdAt
  (((sorted.drop ((page - 1) * pageSize)).take pageSize).map RequestLogRow.toRequestLogItem,
    found.length)

/-- `_GROUP_BY_COLUMNS`; anything else groups by provider. -/
def groupByColumn (groupBy : String) (row : RequestLogRow) : Option String :=
  if groupBy = "model" then row.model
  else if groupBy = "team" then row.teamId
  else row.provider

def aggregateCosts (groupBy : String) : List CostGroupItem :=
  let groups := groupRows (groupByColumn groupBy) (applyCommonFilters organizationId filter rows)
  let sorted := groups.insertionSort fun group other =>
    DescNullsLast (sumOf (·.actualCost) group.2) (sumOf (·.actualCost) other.2)
  sorted.map fun (key, group) =>
    { groupKey := if key.getD "" = "" then "unknown" else key.getD ""
      totalCost := (sumOf (·.actualCost) group).getD 0
      requestCount := group.length
      totalTokens := (sumOf (·.totalTokens) group).getD 0 }

def aggregateLatency : List LatencyGroupItem :=
  let found := (applyCommonFilters organizationId filter rows).filter (·.latencyMs.isSome)
  let sorted := (groupRows (·.provider) found).insertionSort fun group other =>
    AscNullsLast group.1 other.1
  sorted.map fun (provider, group) =>
    let values := (group.filterMap (·.latencyMs)).insertionSort (· ≤ ·)
    { provider := provider
      requestCount := group.length
      avgLatencyMs := roundedOrNone (avgOf (·.latencyMs) group)
      p50LatencyMs := roundedOrNone (some (percentileCont (50/100) values))
      p95LatencyMs := roundedOrNone (some (percentileCont (95/100) values))
      p99LatencyMs := roundedOrNone (some (percentileCont (99/100) values)) }

/-- Groups counted, the largest first. -/
def countedGroups {κ : Type} [DecidableEq κ] (key : RequestLogRow → κ)
    (found : List RequestLogRow) : List (κ × ℕ) :=
  ((groupRows key found).map fun (value, group) => (value, group.length)).insertionSort
    fun group other => other.2 ≤ group.2

def aggregateErrors : List ErrorGroupItem :=
  let found := (applyCommonFilters organizationId filter rows).filter (·.errorCode.isSome)
  (countedGroups (fun row => (row.provider, row.errorCode)) found).map
    fun ((provider, errorCode), count) => ⟨provider, errorCode, count⟩

def aggregateFallbacks : List FallbackGroupItem :=
  let found := (applyCommonFilters organizationId filter rows).filter (·.failoverTriggered)
  (countedGroups (fun row => (row.failoverFromProvider, row.failoverToProvider)) found).map
    fun ((fromProvider, toProvider), count) => ⟨fromProvider, toProvider, count⟩

def aggregateBudgetEvents (policy : Option String) : List BudgetEventItem :=
  let found := (applyCommonFilters organizationId filter rows).filter fun row =>
    row.budgetAction.isSome && row.budgetAction ≠ some "none" &&
      wantedColumn (policy.map upper) row.budgetPolicyApplied
  (countedGroups (fun row => (row.budgetAction, row.budgetPolicyApplied)) found).map
    fun ((budgetAction, budgetPolicyApplied), count) => ⟨budgetAction, budgetPolicyApplied, count⟩

def timeseries (bucket : String) : List TimeseriesBucket :=
  let groups := groupRows (fun row => row.createdAt.trunc bucket)
    (applyCommonFilters organizationId filter rows)
  let sorted := groups.insertionSort fun group other => group.1 ≤ other.1
  sorted.map fun (ts, group) =>
    { timestamp := ts.isoformat
      requestCount := group.length
      successCount := group.countP (·.status = "success")
      errorCount := group.countP (·.status = "failure")
      totalCost := (sumOf (·.actualCost) group).getD 0
      avgLatencyMs := roundedOrNone (avgOf (·.latencyMs) group) }

end Queries
end AnalyticsService

theorem applyCommonFilters_rowsOf (db : Database) (organizationId : String)
    (filter : AnalyticsFilter) :
    applyCommonFilters organizationId filter (db.rowsOf organizationId).requestLogs =
      applyCommonFilters organizationId filter db.requestLogs := by
  simp [applyCommonFilters, Database.rowsOf]

end CortexGateway
