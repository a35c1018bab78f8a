import CortexGateway.Budget.Runs

/-! # The reserved column over the life of a budget

Every call runs on fresh values, and the row may roll over, be changed, be
deleted and be created again while requests are in flight.  A settling call
subtracts its estimate from whatever enabled row it finds; the ledger stays
true exactly when that row still carries the estimate. -/
set_option autoImplicit false
namespace CortexGateway.Budgeting
open Holds Transition

section Ledger
variable (teamId : String) (percent : ℕ)

/-- What a reservation weighs in the given period of the row. -/
def Reservation.heldIn (epoch : ℕ) (reservation : Reservation) : ℚ :=
  if reservation.epoch = some epoch then reservation.estimatedCost else 0

/-- Reserved is the sum of the estimates taken on this row in its current
period and not yet settled. -/
def TrueLedger (state : State) : Prop :=
  ∀ row ∈ state.budgets teamId,
    row.reserved = total (Reservation.heldIn state.epoch) state.inFlight

instance : DecidablePred (TrueLedger teamId) := fun state =>
  inferInstanceAs (Decidable (∀ row ∈ state.budgets teamId,
    row.reserved = total (Reservation.heldIn state.epoch) state.inFlight))

/-- An enabled row carries the estimate being settled, or clamps at zero; a
disabled row, which settling leaves alone, does not carry it. -/
def SettlesHeld (state : State) : Op → Prop
  | .settle request _ _ =>
      ∀ row ∈ state.budgets teamId, ∀ reservation ∈ inFlight? state.inFlight request,
        if row.enabled then
          reservation.epoch = some state.epoch ∨ reservation.estimatedCost = 0 ∨ row.reserved = 0
        else reservation.epoch ≠ some state.epoch ∨ reservation.estimatedCost = 0
  | _ => True

/-- Estimates are not negative. -/
def NonnegEstimates (_ : State) : Op → Prop
  | .checkAndReserve _ estimatedCost _ => 0 ≤ estimatedCost
  | _ => True

instance (state : State) (op : Op) : Decidable (NonnegEstimates state op) :=
  match op with
  | .checkAndReserve _ estimatedCost _ => inferInstanceAs (Decidable (0 ≤ estimatedCost))
  | .settle .. => isTrue trivial
  | .updateBudget .. => isTrue trivial
  | .deleteBudget => isTrue trivial
  | .createBudget .. => isTrue trivial

structure Booked (state : State) : Prop where
  distinct : (keys state.inFlight).Nodup
  known : ∀ entry ∈ state.inFlight, entry.1 ∈ state.served
  amounts : ∀ entry ∈ state.inFlight, 0 ≤ entry.2.estimatedCost
  past : ∀ entry ∈ state.inFlight, ∀ epoch ∈ entry.2.epoch, epoch ≤ state.epoch

theorem heldIn_nonneg {state : State} (frame : Booked state) :
    ∀ entry ∈ state.inFlight, 0 ≤ entry.2.heldIn state.epoch := by
  intro entry member
  unfold Reservation.heldIn
  split_ifs
  · exact frame.amounts entry member
  · exact le_refl 0

/-- Nothing taken so far belongs to a period that has not begun. -/
theorem heldIn_later {state : State} (frame : Booked state) (epoch : ℕ)
    (later : state.epoch < epoch) :
    total (Reservation.heldIn epoch) state.inFlight = 0 := by
  apply total_eq_zero
  intro entry member
  unfold Reservation.heldIn
  rw [if_neg]
  intro same
  have before := frame.past entry member epoch same
  omega

theorem booked_cons {state next : State} {request : ℕ} {reservation : Reservation}
    (frame : Booked state) (fresh : request ∉ state.served)
    (amount : 0 ≤ reservation.estimatedCost)
    (past : ∀ epoch ∈ reservation.epoch, epoch ≤ next.epoch) (epochs : state.epoch ≤ next.epoch)
    (book : next.inFlight = (request, reservation) :: state.inFlight)
    (served : next.served = request :: state.served) : Booked next := by
  refine ⟨?_, ?_, ?_, ?_⟩
  · rw [book]
    exact List.nodup_cons.mpr ⟨notMem_keys_inFlight fresh frame.known, frame.distinct⟩
  · rw [book, served]
    exact served_cons request reservation frame.known
  all_goals
    rw [book]
    intro entry member
    rcases List.mem_cons.mp member with rfl | member
  · exact amount
  · exact frame.amounts entry member
  · exact past
  · intro epoch taken
    exact (frame.past entry member epoch taken).trans epochs

theorem booked_keep {state next : State} (frame : Booked state)
    (book : next.inFlight = state.inFlight) (served : state.served ⊆ next.served)
    (epochs : state.epoch ≤ next.epoch) : Booked next := by
  refine ⟨?_, ?_, ?_, ?_⟩ <;> rw [book]
  · exact frame.distinct
  · exact fun entry member => served (frame.known entry member)
  · exact frame.amounts
  · exact fun entry member epoch taken => (frame.past entry member epoch taken).trans epochs

theorem epochAfter_le (state : State) (now : Datetime) :
    state.epoch ≤ state.epochAfter teamId now := by
  unfold State.epochAfter
  split
  · split_ifs
    · exact Nat.le_succ _
    · exact le_refl _
  · exact le_refl _

/-- Taking a reservation keeps the ledger true, across a rollover as well. -/
theorem ledger_checkAndReserve (state next : State) (request : ℕ) (estimatedCost : ℚ)
    (now : Datetime) (frame : Booked state) (law : TrueLedger teamId state)
    (nonneg : 0 ≤ estimatedCost)
    (stepped : step .perCall teamId percent state
      (.checkAndReserve request estimatedCost now) = some next) :
    TrueLedger teamId next ∧ Booked next := by
  obtain ⟨fresh, outcome⟩ := step_checkAndReserve_cases .perCall teamId percent state next
    request estimatedCost now stepped
  rcases outcome with ⟨row, found, -, -, rfl⟩ | ⟨row, session, found, -, -, rfl⟩ |
    ⟨unbudgeted, rfl⟩
  · constructor
    · intro after located
      simp only [State.admitted, setRow_self, Option.mem_some_iff] at located
      subst located
      simp only [State.admitted, total_cons, Reservation.heldIn, if_true]
      rw [add_comm]
      unfold reservedRow rolledOver State.epochAfter
      simp only [found]
      cases expired : row.isPeriodExpired now with
      | true =>
          have none := heldIn_later frame (state.epoch + 1) (Nat.lt_succ_self _)
          simp only [if_true]
          change (0 : ℚ) + estimatedCost =
            total (Reservation.heldIn (state.epoch + 1)) state.inFlight + estimatedCost
          rw [none]
      | false =>
          simp only [Bool.false_eq_true, if_false]
          change row.reserved + estimatedCost =
            total (Reservation.heldIn state.epoch) state.inFlight + estimatedCost
          rw [law row found]
    · apply booked_cons frame fresh nonneg _ (epochAfter_le teamId state now) rfl rfl
      intro epoch taken
      exact le_of_eq (Option.some.inj taken).symm
  · exact ⟨law, booked_keep frame rfl (fun _ => List.mem_cons_of_mem _) (le_refl _)⟩
  · constructor
    · intro row located
      simp only [State.admittedUnbudgeted, total_cons, Reservation.heldIn, reduceCtorEq, if_false,
        zero_add]
      exact law row located
    · have epochs : state.epoch ≤ (state.admittedUnbudgeted request estimatedCost).epoch := le_refl _
      apply booked_cons frame fresh nonneg _ epochs rfl rfl
      intro epoch taken
      cases taken

/-- Clamped subtraction of an estimate the row does not carry. -/
theorem clamp_eq_iff (reserved estimatedCost : ℚ) (reservedNonneg : 0 ≤ reserved)
    (nonneg : 0 ≤ estimatedCost) :
    max 0 (reserved - estimatedCost) = reserved ↔ estimatedCost = 0 ∨ reserved = 0 := by
  constructor
  · intro same
    rcases max_choice 0 (reserved - estimatedCost) with zero | difference
    · exact Or.inr (same.symm.trans zero)
    · refine Or.inl ?_
      rw [difference] at same
      linarith
  · rintro (zero | zero)
    · rw [zero, sub_zero]
      exact max_eq_right reservedNonneg
    · rw [zero, zero_sub]
      exact max_eq_left (neg_nonpos.mpr nonneg)

theorem booked_settled {state : State} (frame : Booked state) (request : ℕ)
    (settlement : Settlement) (estimatedCost : ℚ) (budgets : BudgetTable)
    (session : AsyncSession) :
    Booked (state.settled request settlement estimatedCost budgets session) := by
  have inside : ∀ entry ∈ close request state.inFlight, entry ∈ state.inFlight :=
    fun entry member => (mem_close.mp member).1
  exact ⟨keys_close_nodup request frame.distinct,
    fun entry member => frame.known entry (inside entry member),
    fun entry member => frame.amounts entry (inside entry member),
    fun entry member => frame.past entry (inside entry member)⟩

section Settle
variable (state : State) (request : ℕ) (settlement : Settlement) (now : Datetime)
variable (reservation : Reservation) (frame : Booked state) (law : TrueLedger teamId state)
variable (located : inFlight? state.inFlight request = some reservation)

include frame located

theorem total_settled :
    total (Reservation.heldIn state.epoch) (close request state.inFlight) =
      total (Reservation.heldIn state.epoch) state.inFlight - reservation.heldIn state.epoch :=
  total_close _ frame.distinct (inFlight?_mem located)

include law

/-- A settling call that finds no enabled row changes none. -/
theorem ledger_settle_unbudgeted (session : AsyncSession)
    (unbudgeted : ∀ row, state.budgets teamId = some row → row.enabled = false) :
    TrueLedger teamId (state.settled request settlement reservation.estimatedCost state.budgets
        session) ↔
      SettlesHeld teamId state (.settle request settlement now) := by
  have closed := total_settled state request reservation frame located
  cases found : state.budgets teamId with
  | none => simp [TrueLedger, SettlesHeld, State.settled, found]
  | some row =>
      have disabled := unbudgeted row found
      have ledger := law row found
      have guardNow : SettlesHeld teamId state (.settle request settlement now) ↔
          reservation.epoch ≠ some state.epoch ∨ reservation.estimatedCost = 0 := by
        simp [SettlesHeld, found, located, disabled]
      have lawNext : TrueLedger teamId (state.settled request settlement
          reservation.estimatedCost state.budgets session) ↔
          row.reserved = row.reserved - reservation.heldIn state.epoch := by
        simp only [TrueLedger, State.settled, found, Option.mem_some_iff, forall_eq', closed]
        rw [← ledger]
      rw [lawNext, guardNow, eq_comm, sub_eq_self, Reservation.heldIn, ite_eq_right_iff]
      exact imp_iff_not_or

/-- A settling call takes its estimate off the row, whatever period it was taken in. -/
theorem ledger_settle_enabled (session : AsyncSession) (row : Budget)
    (found : state.budgets teamId = some row) (enabled : row.enabled = true) :
    TrueLedger teamId (state.settled request settlement reservation.estimatedCost
        (setRow state.budgets teamId (some (stored
          (settlement.attrs row reservation.estimatedCost now) row row))) session) ↔
      SettlesHeld teamId state (.settle request settlement now) := by
  have closed := total_settled state request reservation frame located
  have member := inFlight?_mem located
  have nonneg : 0 ≤ reservation.estimatedCost := frame.amounts _ member
  have ledger := law row found
  have reservedNonneg : 0 ≤ row.reserved := by
    rw [ledger]
    exact total_nonneg _ _ (heldIn_nonneg frame)
  have guardNow : SettlesHeld teamId state (.settle request settlement now) ↔
      reservation.epoch = some state.epoch ∨ reservation.estimatedCost = 0 ∨
        row.reserved = 0 := by
    simp [SettlesHeld, found, located, enabled]
  have lawNext : TrueLedger teamId (state.settled request settlement
      reservation.estimatedCost (setRow state.budgets teamId (some (stored
        (settlement.attrs row reservation.estimatedCost now) row row))) session) ↔
      max 0 (row.reserved - reservation.estimatedCost) =
        row.reserved - reservation.heldIn state.epoch := by
    simp only [TrueLedger, State.settled, setRow_self, Option.mem_some_iff, forall_eq',
      stored_settled_current, Settlement.attrs_reserved, closed]
    rw [← ledger]
  rw [lawNext, guardNow]
  by_cases current : reservation.epoch = some state.epoch
  · have weight : reservation.heldIn state.epoch = reservation.estimatedCost := if_pos current
    have covered : reservation.heldIn state.epoch ≤ row.reserved := by
      rw [ledger]
      exact weight_le_total _ (heldIn_nonneg frame) member
    rw [weight] at covered ⊢
    exact iff_of_true (max_eq_right (sub_nonneg.mpr covered)) (Or.inl current)
  · have weight : reservation.heldIn state.epoch = 0 := if_neg current
    rw [weight, sub_zero, clamp_eq_iff _ _ reservedNonneg nonneg]
    simp [current]

end Settle

theorem ledger_settle (state next : State) (request : ℕ) (settlement : Settlement)
    (now : Datetime) (frame : Booked state) (law : TrueLedger teamId state)
    (stepped : step .perCall teamId percent state (.settle request settlement now) =
      some next) :
    (TrueLedger teamId next ↔ SettlesHeld teamId state (.settle request settlement now)) ∧
      Booked next := by
  obtain ⟨reservation, located⟩ := step_settle_inFlight .perCall teamId percent state next
    request settlement now stepped
  rcases unbudgeted_or_enabled teamId state.budgets with unbudgeted | ⟨row, found, enabled⟩
  · obtain ⟨session, rfl⟩ := step_settle_unbudgeted .perCall teamId percent state next request
      settlement now reservation located unbudgeted stepped
    exact ⟨ledger_settle_unbudgeted teamId state request settlement now reservation frame law
      located session unbudgeted, booked_settled frame ..⟩
  · obtain ⟨session, rfl⟩ := step_settle_enabled .perCall teamId percent state next request
      settlement now reservation row row located found enabled rfl stepped
    exact ⟨ledger_settle_enabled teamId state request settlement now reservation frame law
      located session row found enabled, booked_settled frame ..⟩

theorem ledger_updateBudget (state next : State) (data : BudgetUpdate) (now : Datetime)
    (frame : Booked state) (law : TrueLedger teamId state)
    (stepped : step .perCall teamId percent state (.updateBudget data now) = some next) :
    TrueLedger teamId next ∧ Booked next := by
  rcases step_updateBudget .perCall teamId percent state next data now stepped with
    ⟨-, rfl⟩ | ⟨row, found, rfl⟩
  · exact ⟨law, frame⟩
  · refine ⟨?_, booked_keep frame rfl (fun _ inside => inside) (le_refl _)⟩
    intro after located
    simp only [setRow_self, Option.mem_some_iff] at located
    subst located
    exact law row found

theorem ledger_deleteBudget (state next : State) (frame : Booked state)
    (stepped : step .perCall teamId percent state .deleteBudget = some next) :
    TrueLedger teamId next ∧ Booked next := by
  obtain ⟨gone, same⟩ := step_deleteBudget .perCall teamId percent state next stepped
  constructor
  · intro row located
    rw [gone] at located
    cases located
  · rw [same]
    exact booked_keep frame rfl (fun _ inside => inside) (le_refl _)

/-- A new row starts a new period, to which no request in flight belongs. -/
theorem ledger_createBudget (state next : State) (budgetId : String) (data : BudgetCreate)
    (now : Datetime) (frame : Booked state) (law : TrueLedger teamId state)
    (stepped : step .perCall teamId percent state (.createBudget budgetId data now) =
      some next) :
    TrueLedger teamId next ∧ Booked next := by
  rcases step_createBudget .perCall teamId percent state next budgetId data now stepped with
    rfl | ⟨absent, rfl⟩
  · exact ⟨law, frame⟩
  · refine ⟨?_, booked_keep frame rfl (fun _ inside => inside) (Nat.le_succ _)⟩
    intro row located
    simp only [setRow_self, Option.mem_some_iff] at located
    subst located
    exact (heldIn_later frame (state.epoch + 1) (Nat.lt_succ_self _)).symm

/-- Over the whole life of a budget the ledger is true exactly when every
settling call meets the row it reserved on, in the period it reserved in. -/
theorem trueLedger_iff_settlesHeld (budgets : BudgetTable)
    (unreserved : ∀ row ∈ budgets teamId, row.reserved = 0) (ops : List Op)
    (nonneg : StepsMeet (step .perCall teamId percent) NonnegEstimates (initial budgets) ops) :
    HoldsThroughout (step .perCall teamId percent) (TrueLedger teamId) (initial budgets) ops ↔
      StepsMeet (step .perCall teamId percent) (SettlesHeld teamId) (initial budgets) ops := by
  apply holdsThroughout_iff_stepsMeet (step .perCall teamId percent) (TrueLedger teamId) Booked
    NonnegEstimates (SettlesHeld teamId)
  · intro state op next frame law allowed stepped
    have always : TrueLedger teamId next ∧ Booked next →
        (TrueLedger teamId next ↔ True) ∧ (TrueLedger teamId next → Booked next) :=
      fun both => ⟨iff_of_true both.1 trivial, fun _ => both.2⟩
    cases op with
    | checkAndReserve request estimatedCost now =>
        exact always (ledger_checkAndReserve teamId percent state next request estimatedCost now
          frame law allowed stepped)
    | settle request settlement now =>
        obtain ⟨lawNext, frameNext⟩ := ledger_settle teamId percent state next request settlement
          now frame law stepped
        exact ⟨lawNext, fun _ => frameNext⟩
    | updateBudget data now =>
        exact always (ledger_updateBudget teamId percent state next data now frame law stepped)
    | deleteBudget =>
        exact always (ledger_deleteBudget teamId percent state next frame stepped)
    | createBudget budgetId data now =>
        exact always (ledger_createBudget teamId percent state next budgetId data now frame law
          stepped)
  · refine ⟨List.nodup_nil, ?_, ?_, ?_⟩ <;>
      intro entry member <;>
      cases member
  · exact unreserved
  · exact nonneg

end Ledger

/-! ## A request that outlives its period -/

def lifecycleBudget : Budget :=
  created "team-1" "budget-1" (tenDollars .daily .BLOCK) (.ofDate .aprilFirst)

def lifecycleTable : BudgetTable := setRow (fun _ => none) "team-1" (some lifecycleBudget)

/-- The first request reserves two dollars on April 1 and settles on April 3,
when the row has rolled over and carries the three dollars of the second. -/
def outlivesPeriod : List Op :=
  [.checkAndReserve 1 2 (.ofDate .aprilFirst),
    .checkAndReserve 2 3 (.ofDate ⟨2026, 4, 3, Date.aprilFirst.monthValid, by decide⟩),
    .settle 1 (.reconcile 2) (.ofDate ⟨2026, 4, 3, Date.aprilFirst.monthValid, by decide⟩)]

theorem outlivesPeriod_breaks_ledger :
    StepsMeet (step .perCall "team-1" 80) NonnegEstimates (initial lifecycleTable)
        outlivesPeriod ∧
      ¬ HoldsThroughout (step .perCall "team-1" 80) (TrueLedger "team-1")
        (initial lifecycleTable) outlivesPeriod ∧
      ((run (step .perCall "team-1" 80) (initial lifecycleTable) outlivesPeriod).bind
        fun final => (final.budgets "team-1").map Budget.reserved) = some 1 := by
  decide +kernel

/-- Both requests settle in the period they reserved in. -/
theorem trueLedger_withinPeriod :
    HoldsThroughout (step .perCall "team-1" 80) (TrueLedger "team-1") (initial lifecycleTable)
        [.checkAndReserve 1 2 (.ofDate ⟨2026, 4, 1, by decide, by decide⟩),
          .settle 1 (.reconcile 2) (.ofDate ⟨2026, 4, 1, by decide, by decide⟩),
          .checkAndReserve 2 3 (.ofDate ⟨2026, 4, 3, by decide, by decide⟩)] ↔
      StepsMeet (step .perCall "team-1" 80) (SettlesHeld "team-1") (initial lifecycleTable)
        [.checkAndReserve 1 2 (.ofDate ⟨2026, 4, 1, by decide, by decide⟩),
          .settle 1 (.reconcile 2) (.ofDate ⟨2026, 4, 1, by decide, by decide⟩),
          .checkAndReserve 2 3 (.ofDate ⟨2026, 4, 3, by decide, by decide⟩)] :=
  trueLedger_iff_settlesHeld "team-1" 80 lifecycleTable (by decide +kernel) _
    (by decide +kernel)

end CortexGateway.Budgeting
