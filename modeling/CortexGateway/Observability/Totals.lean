import CortexGateway.Lib.Grouping
import CortexGateway.Observability.Analytics

/-! # Reports add up

Every report counts each matching row once: whatever the dimension and whatever
the bucket, the groups add up to the matching rows, and reports over adjacent
ranges add up to the report over both.  The pages of the request log list each
matching row once, newest first. -/
set_option autoImplicit false
namespace CortexGateway
open Grouping

/-- What a report adds up to. -/
@[ext] structure Totals where
  requests : ℕ
  cost : ℚ
  deriving DecidableEq

/-- The column, null as zero. -/
def total {μ : Type} [AddCommMonoid μ] (column : RequestLogRow → Option μ)
    (rows : List RequestLogRow) : μ :=
  (rows.map fun row => (column row).getD 0).sum

namespace Totals

def ofRows (rows : List RequestLogRow) : Totals := ⟨rows.length, total (·.actualCost) rows⟩

def ofCosts (items : List CostGroupItem) : Totals :=
  ⟨(items.map CostGroupItem.requestCount).sum, (items.map CostGroupItem.totalCost).sum⟩

def ofSeries (buckets : List TimeseriesBucket) : Totals :=
  ⟨(buckets.map TimeseriesBucket.requestCount).sum, (buckets.map TimeseriesBucket.totalCost).sum⟩

def add (first second : Totals) : Totals :=
  ⟨first.requests + second.requests, first.cost + second.cost⟩

end Totals

section Sums
variable {κ μ : Type} [DecidableEq κ] [AddCommMonoid μ]

theorem sum_filterMap (column : RequestLogRow → Option μ) (rows : List RequestLogRow) :
    (rows.filterMap column).sum = total column rows := by
  induction rows with
  | nil => rfl
  | cons row rest ih =>
      rw [total, List.map_cons, List.sum_cons, ← total, ← ih]
      cases held : column row with
      | none => rw [List.filterMap_cons_none held, Option.getD_none, zero_add]
      | some value => rw [List.filterMap_cons_some held, List.sum_cons, Option.getD_some]

/-- `coalesce(sum(column), 0)`. -/
theorem sumOf_getD (column : RequestLogRow → Option μ) (rows : List RequestLogRow) :
    (sumOf column rows).getD 0 = total column rows := by
  rw [← sum_filterMap]
  unfold sumOf
  cases rows.filterMap column with
  | nil => rfl
  | cons value values => exact List.sum_cons.symm

/-- The order of the groups does not matter to their sum. -/
theorem sum_sorted {Group : Type} (groups : List Group) (order : Group → Group → Prop)
    [DecidableRel order] (amount : Group → μ) :
    ((groups.insertionSort order).map amount).sum = (groups.map amount).sum :=
  ((List.perm_insertionSort order groups).map amount).sum_eq

/-- The items of a report, one for each group, in any order. -/
theorem sum_report (key : RequestLogRow → κ) (rows : List RequestLogRow)
    (order : κ × List RequestLogRow → κ × List RequestLogRow → Prop) [DecidableRel order]
    {Item : Type} (item : κ × List RequestLogRow → Item) (column : Item → μ)
    (amount : RequestLogRow → μ)
    (sums : ∀ group, column (item group) = (group.2.map amount).sum) :
    ((((groupRows key rows).insertionSort order).map item).map column).sum =
      (rows.map amount).sum := by
  rw [List.map_map, sum_sorted]
  simp only [Function.comp_def, sums]
  exact sum_groups key amount rows

theorem length_eq_sum (rows : List RequestLogRow) : rows.length = (rows.map fun _ => 1).sum := by
  simp

theorem countP_eq_sum (p : RequestLogRow → Bool) (rows : List RequestLogRow) :
    rows.countP p = (rows.map fun row => if p row then 1 else 0).sum := by
  induction rows with
  | nil => rfl
  | cons row rest ih => rw [List.countP_cons, ih, List.map_cons, List.sum_cons, add_comm]

theorem sum_countedGroups (key : RequestLogRow → κ) (found : List RequestLogRow) :
    ((AnalyticsService.countedGroups key found).map Prod.snd).sum = found.length := by
  rw [AnalyticsService.countedGroups, sum_sorted, List.map_map, length_eq_sum]
  refine (congrArg List.sum ?_).trans (sum_groups key (fun _ => 1) found)
  exact List.map_congr_left fun group _ => length_eq_sum group.2

end Sums

/-! ## The reports -/

namespace AnalyticsService
section Reports
variable (rows : List RequestLogRow) (organizationId : String) (filter : AnalyticsFilter)

theorem ofCosts_aggregateCosts (groupBy : String) :
    Totals.ofCosts (aggregateCosts rows organizationId filter groupBy) =
      .ofRows (applyCommonFilters organizationId filter rows) := by
  ext
  · change _ = (applyCommonFilters organizationId filter rows).length
    rw [length_eq_sum]
    exact sum_report _ _ _ _ _ _ fun group => length_eq_sum group.2
  · exact sum_report _ _ _ _ _ _ fun group => sumOf_getD _ group.2

theorem sum_totalTokens (groupBy : String) :
    ((aggregateCosts rows organizationId filter groupBy).map CostGroupItem.totalTokens).sum =
      total (·.totalTokens) (applyCommonFilters organizationId filter rows) :=
  sum_report _ _ _ _ _ _ fun group => sumOf_getD _ group.2

theorem ofSeries_timeseries (bucket : String) :
    Totals.ofSeries (timeseries rows organizationId filter bucket) =
      .ofRows (applyCommonFilters organizationId filter rows) := by
  ext
  · change _ = (applyCommonFilters organizationId filter rows).length
    rw [length_eq_sum]
    exact sum_report _ _ _ _ _ _ fun group => length_eq_sum group.2
  · exact sum_report _ _ _ _ _ _ fun group => sumOf_getD _ group.2

theorem sum_successCount (bucket : String) :
    ((timeseries rows organizationId filter bucket).map TimeseriesBucket.successCount).sum =
      (applyCommonFilters organizationId filter rows).countP (·.status = "success") := by
  rw [countP_eq_sum]
  exact sum_report _ _ _ _ _ _ fun group => countP_eq_sum _ group.2

theorem sum_errorCount (bucket : String) :
    ((timeseries rows organizationId filter bucket).map TimeseriesBucket.errorCount).sum =
      (applyCommonFilters organizationId filter rows).countP (·.status = "failure") := by
  rw [countP_eq_sum]
  exact sum_report _ _ _ _ _ _ fun group => countP_eq_sum _ group.2

/-- A range is cut in two at any instant within it. -/
theorem applyCommonFilters_tile (middle : Datetime)
    (from_le : ∀ start ∈ filter.fromDt, start ≤ middle)
    (le_to : ∀ stop ∈ filter.toDt, middle ≤ stop) :
    (applyCommonFilters organizationId { filter with toDt := some middle } rows ++
      applyCommonFilters organizationId { filter with fromDt := some middle } rows).Perm
      (applyCommonFilters organizationId filter rows) := by
  have earlier : applyCommonFilters organizationId { filter with toDt := some middle } rows =
      (applyCommonFilters organizationId filter rows).filter (·.createdAt < middle) := by
    simp only [applyCommonFilters]
    conv_rhs => rw [List.filter_filter]
    refine List.filter_congr fun row _ => ?_
    rw [Bool.eq_iff_iff]
    simp only [Bool.and_eq_true, Option.all_some, Option.all_eq_true, decide_eq_true_eq]
    constructor
    · rintro ⟨kept, before⟩
      exact ⟨before, kept, fun stop given => before.trans_le (le_to stop given)⟩
    · rintro ⟨before, kept, -⟩
      exact ⟨kept, before⟩
  have later : applyCommonFilters organizationId { filter with fromDt := some middle } rows =
      (applyCommonFilters organizationId filter rows).filter fun row =>
        !decide (row.createdAt < middle) := by
    simp only [applyCommonFilters]
    conv_rhs => rw [List.filter_filter]
    refine List.filter_congr fun row _ => ?_
    rw [Bool.eq_iff_iff]
    simp only [Bool.and_eq_true, Option.all_some, Option.all_eq_true, decide_eq_true_eq,
      Bool.not_eq_true', decide_eq_false_iff_not, not_lt]
    constructor
    · rintro ⟨⟨kept, since⟩, before⟩
      exact ⟨since, ⟨kept, fun start given => (from_le start given).trans since⟩, before⟩
    · rintro ⟨since, ⟨kept, -⟩, before⟩
      exact ⟨⟨kept, since⟩, before⟩
  rw [earlier, later]
  exact List.filter_append_perm _ _

theorem ofRows_tile (middle : Datetime) (from_le : ∀ start ∈ filter.fromDt, start ≤ middle)
    (le_to : ∀ stop ∈ filter.toDt, middle ≤ stop) :
    (Totals.ofRows (applyCommonFilters organizationId { filter with toDt := some middle } rows)).add
        (.ofRows (applyCommonFilters organizationId { filter with fromDt := some middle } rows)) =
      .ofRows (applyCommonFilters organizationId filter rows) := by
  have tiles := applyCommonFilters_tile rows organizationId filter middle from_le le_to
  ext
  · exact List.length_append.symm.trans tiles.length_eq
  · change total _ _ + total _ _ = total _ _
    rw [total, total, ← List.sum_append, ← List.map_append]
    exact (tiles.map _).sum_eq

/-- The cost report by any column, the time series by any bucket and the count of
the listing agree, and over adjacent ranges they add up; the reports of errors,
failovers and budget events count each of their rows once. -/
theorem reports_add_up (groupBy bucket : String) (page pageSize : ℕ) (policy : Option String) :
    let found := applyCommonFilters organizationId filter rows
    let costs := aggregateCosts rows organizationId filter groupBy
    let series := timeseries rows organizationId filter bucket
    (Totals.ofCosts costs = .ofRows found ∧ Totals.ofSeries series = .ofRows found ∧
      (listRequests rows organizationId filter page pageSize).2 = (Totals.ofRows found).requests ∧
      (costs.map CostGroupItem.totalTokens).sum = total (·.totalTokens) found) ∧
    ((series.map TimeseriesBucket.successCount).sum = found.countP (·.status = "success") ∧
      (series.map TimeseriesBucket.errorCount).sum = found.countP (·.status = "failure")) ∧
    (((aggregateErrors rows organizationId filter).map ErrorGroupItem.count).sum =
        found.countP (·.errorCode.isSome) ∧
      ((aggregateFallbacks rows organizationId filter).map FallbackGroupItem.count).sum =
        found.countP (·.failoverTriggered) ∧
      ((aggregateBudgetEvents rows organizationId filter policy).map
          BudgetEventItem.eventCount).sum =
        found.countP fun row => row.budgetAction.isSome && row.budgetAction ≠ some "none" &&
          wantedColumn (policy.map upper) row.budgetPolicyApplied) ∧
    ∀ middle, (∀ start ∈ filter.fromDt, start ≤ middle) → (∀ stop ∈ filter.toDt, middle ≤ stop) →
      (Totals.ofCosts (aggregateCosts rows organizationId { filter with toDt := some middle }
          groupBy)).add
        (.ofCosts (aggregateCosts rows organizationId { filter with fromDt := some middle }
          groupBy)) = .ofCosts costs := by
  refine ⟨⟨ofCosts_aggregateCosts .., ofSeries_timeseries .., rfl, sum_totalTokens ..⟩,
    ⟨sum_successCount .., sum_errorCount ..⟩, ⟨?_, ?_, ?_⟩, fun middle from_le le_to => ?_⟩
  · rw [aggregateErrors, List.map_map, List.countP_eq_length_filter]
    exact sum_countedGroups _ _
  · rw [aggregateFallbacks, List.map_map, List.countP_eq_length_filter]
    exact sum_countedGroups _ _
  · rw [aggregateBudgetEvents, List.map_map, List.countP_eq_length_filter]
    exact sum_countedGroups _ _
  · simp only [ofCosts_aggregateCosts]
    exact ofRows_tile rows organizationId filter middle from_le le_to

/-! ## The pages of the listing -/

theorem listRequests_page (number pageSize : ℕ) :
    (listRequests rows organizationId filter (number + 1) pageSize).1 =
      (page (min pageSize maxPageSize) number
        ((applyCommonFilters organizationId filter rows).insertionSort
          fun row other => other.createdAt ≤ row.createdAt)).map
        RequestLogRow.toRequestLogItem := rfl

/-- Rows of different instants are listed newest first, each on one page. -/
theorem pages_list_all {pageSize count : ℕ} (allowed : pageSize ≤ maxPageSize)
    (distinct : (applyCommonFilters organizationId filter rows).Pairwise fun row other =>
      row.createdAt ≠ other.createdAt)
    (enough : (applyCommonFilters organizationId filter rows).length ≤ count * pageSize) :
    let pages := (List.range count).flatMap fun number =>
      (listRequests rows organizationId filter (number + 1) pageSize).1
    pages.Perm ((applyCommonFilters organizationId filter rows).map
        RequestLogRow.toRequestLogItem) ∧
      pages.Pairwise fun item later => later.createdAt < item.createdAt := by
  set found := applyCommonFilters organizationId filter rows with found_eq
  set order : RequestLogRow → RequestLogRow → Prop := fun row other =>
    other.createdAt ≤ row.createdAt with order_eq
  have sorted_perm : (found.insertionSort order).Perm found := List.perm_insertionSort order found
  have pages_eq_sorted : ((List.range count).flatMap fun number =>
      (listRequests rows organizationId filter (number + 1) pageSize).1) =
        (found.insertionSort order).map RequestLogRow.toRequestLogItem := by
    simp only [listRequests_page, min_eq_left allowed]
    rw [← List.map_flatMap]
    exact congrArg (List.map _) (pages_eq pageSize _ (sorted_perm.length_eq.le.trans enough))
  have ordered : (found.insertionSort order).Pairwise order := List.pairwise_insertionSort order found
  have apart : (found.insertionSort order).Pairwise fun row other =>
      row.createdAt ≠ other.createdAt :=
    (sorted_perm.pairwise_iff fun different => different.symm).mpr distinct
  intro pages
  refine ⟨?_, ?_⟩
  · change (((List.range count).flatMap fun number =>
      (listRequests rows organizationId filter (number + 1) pageSize).1)).Perm _
    rw [pages_eq_sorted]
    exact sorted_perm.map _
  · change List.Pairwise _ ((List.range count).flatMap fun number =>
      (listRequests rows organizationId filter (number + 1) pageSize).1)
    rw [pages_eq_sorted, List.pairwise_map]
    exact (ordered.and apart).imp fun ⟨le, different⟩ => lt_of_le_of_ne le different.symm

end Reports

/-- A logged success of the organization. -/
def loggedAt (id : String) (createdAt : Datetime) : RequestLogRow :=
  { id := id
    requestId := "req-" ++ id
    teamId := some "team-1"
    organizationId := some "org-1"
    provider := some "groq"
    model := some "llama"
    routingMode := some "manual"
    status := "success"
    httpStatusCode := some 200
    latencyMs := some 120
    promptTokens := some 10
    completionTokens := some 20
    totalTokens := some 30
    estimatedCost := some (1/100)
    actualCost := some (1/200)
    retryCount := 0
    failoverTriggered := false
    failoverFromProvider := none
    failoverToProvider := none
    circuitBreakerState := none
    budgetPolicyApplied := none
    budgetAction := none
    errorCode := none
    traceId := none
    createdAt := createdAt }

def threeLogged : List RequestLogRow :=
  [loggedAt "a" (.ofDate .newYear), loggedAt "b" ((Datetime.ofDate .newYear).addDays 1),
    loggedAt "c" ((Datetime.ofDate .newYear).addDays 2)]

/-- Two pages of at most two rows. -/
theorem threeLogged_pages :
    let pages := (List.range 2).flatMap fun number =>
      (listRequests threeLogged "org-1" {} (number + 1) 2).1
    pages.Perm ((applyCommonFilters "org-1" {} threeLogged).map
        RequestLogRow.toRequestLogItem) ∧
      pages.Pairwise fun item later => later.createdAt < item.createdAt :=
  pages_list_all threeLogged "org-1" {} (by decide) (by decide +kernel) (by decide +kernel)

end AnalyticsService
end CortexGateway
