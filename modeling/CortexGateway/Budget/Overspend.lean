import CortexGateway.Budget.Runs

/-! # No overspend inside a period

On fresh values the calls of any number of requests refine an account with
holds: `check_and_reserve` opens a hold that fits, `reconcile` turns it into a
charge, `release_reservation` drops it.  The bound of the account is the bound
of the row, and the account never meets a clamp. -/
set_option autoImplicit false
namespace CortexGateway.Budgeting
open Holds Transition

section Overspend
variable (teamId : String) (percent : ℕ) (limit : ℚ)

/-- Reserved is what is outstanding, and usage exceeds the limit only by what
was underestimated. -/
def NoOverspend (state : State) : Prop :=
  ∃ row, state.budgets teamId = some row ∧ row.limitAmount = limit ∧
    row.reserved = outstanding state ∧
    row.currentUsage + row.reserved ≤ limit + state.overrun ∧
    row.currentUsage ≤ limit + state.overrun

/-- Neither `max(0.0, ·)` of a settling call changes a value. -/
def ClampsIdle (state : State) : Op → Prop
  | .settle request settlement _ =>
      ∀ row ∈ state.budgets teamId, ∀ reservation ∈ inFlight? state.inFlight request,
        max 0 (row.reserved - reservation.estimatedCost) =
            row.reserved - reservation.estimatedCost ∧
          max 0 (row.currentUsage + settlement.actualCost) =
            row.currentUsage + settlement.actualCost
  | _ => True

/-- The account a row and the requests in flight represent. -/
def accountOf (row : Budget) (state : State) : Account ℕ ℚ :=
  ⟨row.currentUsage, weigh Reservation.estimatedCost state.inFlight, state.overrun⟩

theorem accountOf_held (row : Budget) (state : State) :
    (accountOf row state).held = outstanding state :=
  total_weigh _ _

structure Metered (state : State) (row : Budget) : Prop where
  stored : state.budgets teamId = some row
  enabled : row.enabled = true
  enforcing : row.policy.enforces = true
  limited : row.limitAmount = limit
  known : ∀ entry ∈ state.inFlight, entry.1 ∈ state.served
  ledger : row.reserved = outstanding state
  sound : (accountOf row state).Sound limit

/-- The move of the account a call makes, if it makes one. -/
def moveOf (state : State) : Op → Option (Move ℕ ℚ)
  | .checkAndReserve request estimatedCost _ => some (.hold request estimatedCost)
  | .settle request settlement _ =>
      (inFlight? state.inFlight request).map fun reservation =>
        match settlement with
        | .reconcile actualCost => .charge request reservation.estimatedCost actualCost
        | .release => .release request reservation.estimatedCost
  | _ => none

theorem refines_checkAndReserve (state next : State) (row : Budget) (request : ℕ)
    (estimatedCost : ℚ) (now : Datetime) (metered : Metered teamId limit state row)
    (within : WithinPeriod teamId state (.checkAndReserve request estimatedCost now))
    (stepped : step .perCall teamId percent state
      (.checkAndReserve request estimatedCost now) = some next) :
    ∃ after, Metered teamId limit next after ∧
      (accountOf after next = accountOf row state ∨
        (accountOf row state).step limit (.hold request estimatedCost) =
          some (accountOf after next)) := by
  obtain ⟨estimateNonneg, running⟩ := within
  have rowRunning : row.isPeriodExpired now = false := running row metered.stored
  obtain ⟨fresh, outcome⟩ := step_checkAndReserve_cases .perCall teamId percent state next
    request estimatedCost now stepped
  rcases outcome with ⟨row', found, -, admitted, rfl⟩ | ⟨row', session, found, -, -, rfl⟩ |
    ⟨unbudgeted, -⟩
  · obtain rfl : row = row' := Option.some.inj (metered.stored.symm.trans found)
    have storedRow := reservedRow_running row estimatedCost now rowRunning
    have absent : request ∉ keys (accountOf row state).book := by
      rw [accountOf, keys_weigh]
      exact notMem_keys_inFlight fresh metered.known
    have fits : (accountOf row state).charged + (accountOf row state).held + estimatedCost ≤
        limit := by
      have below : row.exceeds estimatedCost = false := by
        simpa [rejects, metered.enforcing, rolledOver_running row now rowRunning] using admitted
      rw [accountOf_held, ← metered.ledger]
      change row.currentUsage + row.reserved + estimatedCost ≤ limit
      simpa [Budget.exceeds, metered.limited] using below
    have moved : (accountOf row state).step limit (.hold request estimatedCost) = some
        (accountOf (reservedRow row estimatedCost now)
          (state.admitted teamId request estimatedCost now row)) := by
      simp only [Account.step]
      rw [if_pos ⟨absent, fits⟩, storedRow]
      rfl
    refine ⟨_, ⟨setRow_self .., ?_, ?_, ?_, ?_, ?_, ?_⟩, Or.inr moved⟩
    · rw [storedRow]
      exact metered.enabled
    · rw [storedRow]
      exact metered.enforcing
    · rw [storedRow]
      exact metered.limited
    · exact served_cons request _ metered.known
    · rw [storedRow]
      simp only [outstanding, State.admitted, total_cons]
      rw [metered.ledger, outstanding, add_comm]
    · exact Account.sound_step limit _ (.hold request estimatedCost) _ metered.sound
        estimateNonneg moved
  · refine ⟨row, ⟨metered.stored, metered.enabled, metered.enforcing, metered.limited, ?_,
      metered.ledger, metered.sound⟩, Or.inl rfl⟩
    exact fun entry member => List.mem_cons_of_mem _ (metered.known entry member)
  · have disabled := unbudgeted row metered.stored
    rw [metered.enabled] at disabled
    cases disabled

theorem clampsIdle_of_metered (state : State) (row : Budget) (op : Op)
    (metered : Metered teamId limit state row) (within : WithinPeriod teamId state op) :
    ClampsIdle teamId state op := by
  cases op with
  | settle request settlement now =>
      intro other found reservation located
      obtain rfl : row = other := Option.some.inj (metered.stored.symm.trans found)
      have member := mem_weigh Reservation.estimatedCost (inFlight?_mem located)
      have covered : reservation.estimatedCost ≤ row.reserved := by
        rw [metered.ledger, ← accountOf_held row state]
        exact weight_le_total id metered.sound.amounts member
      exact ⟨max_eq_right (sub_nonneg.mpr covered),
        max_eq_right (add_nonneg metered.sound.charged_nonneg within)⟩
  | checkAndReserve request estimatedCost now => trivial
  | updateBudget data now => trivial
  | deleteBudget => trivial
  | createBudget budgetId data now => trivial

theorem refines_settle (state next : State) (row : Budget) (request : ℕ)
    (settlement : Settlement) (now : Datetime) (metered : Metered teamId limit state row)
    (within : WithinPeriod teamId state (.settle request settlement now))
    (stepped : step .perCall teamId percent state (.settle request settlement now) =
      some next) :
    ∃ after, Metered teamId limit next after ∧
      ∃ move, moveOf state (.settle request settlement now) = some move ∧
        (accountOf row state).step limit move = some (accountOf after next) := by
  obtain ⟨reservation, located⟩ := step_settle_inFlight .perCall teamId percent state next
    request settlement now stepped
  have inside := inFlight?_mem located
  have member : (request, reservation.estimatedCost) ∈ (accountOf row state).book :=
    mem_weigh Reservation.estimatedCost inside
  obtain ⟨reservedIdle, usageIdle⟩ := clampsIdle_of_metered teamId limit state row _ metered
    within row metered.stored reservation located
  obtain ⟨session, rfl⟩ := step_settle_enabled .perCall teamId percent state next request
    settlement now reservation row row located metered.stored metered.enabled rfl stepped
  rw [stored_settled_current]
  obtain ⟨-, keptEnabled, keptLimit, keptPolicy, -⟩ :=
    stored_settled_frame settlement row row reservation.estimatedCost now
  rw [stored_settled_current] at keptEnabled keptLimit keptPolicy
  have usage := settlement.attrs_currentUsage row reservation.estimatedCost now
    metered.sound.charged_nonneg within
  have book : close request (accountOf row state).book =
      weigh Reservation.estimatedCost (close request state.inFlight) :=
    close_weigh _ request state.inFlight
  have moved : ∃ move, moveOf state (.settle request settlement now) = some move ∧
      move.Nonneg ∧ (accountOf row state).step limit move = some (accountOf
        (settlement.attrs row reservation.estimatedCost now)
        (state.settled request settlement reservation.estimatedCost (setRow state.budgets teamId
          (some (settlement.attrs row reservation.estimatedCost now))) session)) := by
    cases settlement with
    | reconcile actualCost =>
        refine ⟨.charge request reservation.estimatedCost actualCost, by simp [moveOf, located],
          within, ?_⟩
        simp only [Account.step]
        rw [if_pos member, book, accountOf, accountOf, usage]
        rfl
    | release =>
        refine ⟨.release request reservation.estimatedCost, by simp [moveOf, located],
          trivial, ?_⟩
        simp only [Account.step]
        rw [if_pos member, book, accountOf, accountOf, usage]
        simp [State.settled, Settlement.actualCost, Settlement.overrun]
  obtain ⟨move, chosen, nonneg, stepped⟩ := moved
  refine ⟨_, ⟨setRow_self .., ?_, ?_, ?_, ?_, ?_, ?_⟩, move, chosen, stepped⟩
  · rw [keptEnabled, metered.enabled]
  · rw [keptPolicy, metered.enforcing]
  · rw [keptLimit, metered.limited]
  · exact fun entry inClosed => metered.known entry (mem_close.mp inClosed).1
  · rw [Settlement.attrs_reserved, reservedIdle, metered.ledger]
    refine (total_close _ ?_ inside).symm
    have distinct := metered.sound.distinct
    rwa [accountOf, keys_weigh] at distinct
  · exact Account.sound_step limit _ move _ metered.sound nonneg stepped

theorem metered_step (state next : State) (op : Op)
    (metered : ∃ row, Metered teamId limit state row) (within : WithinPeriod teamId state op)
    (stepped : step .perCall teamId percent state op = some next) :
    ∃ row, Metered teamId limit next row := by
  obtain ⟨row, metered⟩ := metered
  cases op with
  | checkAndReserve request estimatedCost now =>
      obtain ⟨after, kept, -⟩ := refines_checkAndReserve teamId percent limit state next row
        request estimatedCost now metered within stepped
      exact ⟨after, kept⟩
  | settle request settlement now =>
      obtain ⟨after, kept, -⟩ := refines_settle teamId percent limit state next row request
        settlement now metered within stepped
      exact ⟨after, kept⟩
  | updateBudget data now => exact within.elim
  | deleteBudget => exact within.elim
  | createBudget budgetId data now => exact within.elim

theorem noOverspend_of_metered (state : State) (row : Budget)
    (metered : Metered teamId limit state row) : NoOverspend teamId limit state := by
  refine ⟨row, metered.stored, metered.limited, metered.ledger, ?_, ?_⟩
  · have bounded := metered.sound.bounded
    rw [accountOf_held, ← metered.ledger] at bounded
    exact bounded
  · exact Account.charged_le limit (accountOf row state) metered.sound

/-- In every run of requests under an enforcing policy, reserved is what is
outstanding, no clamp bites and the limit is exceeded only by underestimates. -/
theorem noOverspend_throughout (budgets : BudgetTable) (row : Budget)
    (found : budgets teamId = some row) (enabled : row.enabled = true)
    (enforcing : row.policy.enforces = true) (unreserved : row.reserved = 0)
    (usage : 0 ≤ row.currentUsage) (belowLimit : row.currentUsage ≤ row.limitAmount)
    (ops : List Op)
    (within : StepsMeet (step .perCall teamId percent) (WithinPeriod teamId)
      (initial budgets) ops) :
    HoldsThroughout (step .perCall teamId percent) (NoOverspend teamId row.limitAmount)
        (initial budgets) ops ∧
      StepsMeet (step .perCall teamId percent) (ClampsIdle teamId) (initial budgets) ops := by
  have start : ∃ row', Metered teamId row.limitAmount (initial budgets) row' := by
    refine ⟨row, found, enabled, enforcing, rfl, ?_, unreserved, List.nodup_nil, ?_, usage,
      le_refl 0, ?_⟩
    · intro entry member
      cases member
    · intro entry member
      cases member
    · change row.currentUsage + 0 ≤ row.limitAmount + 0
      linarith
  have throughout := holdsThroughout_of_steps (step .perCall teamId percent)
    (fun state => ∃ row', Metered teamId row.limitAmount state row') (WithinPeriod teamId)
    (fun state op next metered permitted stepped =>
      metered_step teamId percent row.limitAmount state next op metered permitted stepped)
    (initial budgets) start ops within
  constructor
  · exact throughout.imp _ fun state ⟨row', metered⟩ =>
      noOverspend_of_metered teamId row.limitAmount state row' metered
  · intro before op initially reached next taken stepped
    obtain ⟨row', metered⟩ := throughout before
      ((List.prefix_append before [op]).trans initially) reached taken
    exact clampsIdle_of_metered teamId row.limitAmount reached row' op metered
      (within before op initially reached next taken stepped)

end Overspend

def downgradeBudget : Budget :=
  created "team-1" "budget-1" (tenDollars .monthly .DOWNGRADE) (.ofDate .aprilFirst)

/-- Two requests fill the budget, a third is rejected at the limit, and the
first costs three dollars more than it held. -/
theorem noOverspend_underestimated :
    let march : Datetime := .ofDate ⟨2026, 4, 2, by decide, by decide⟩
    let ops : List Op := [.checkAndReserve 1 4 march, .checkAndReserve 2 6 march,
      .checkAndReserve 3 1 march, .settle 1 (.reconcile 7) march, .settle 2 .release march]
    let budgets : BudgetTable := setRow (fun _ => none) "team-1" (some downgradeBudget)
    HoldsThroughout (step .perCall "team-1" 80) (NoOverspend "team-1" 10) (initial budgets) ops ∧
      StepsMeet (step .perCall "team-1" 80) (ClampsIdle "team-1") (initial budgets) ops :=
  noOverspend_throughout "team-1" 80 (setRow (fun _ => none) "team-1" (some downgradeBudget))
    downgradeBudget (setRow_self ..) rfl rfl rfl (le_refl 0) (by decide +kernel) _
    (by decide +kernel)

end CortexGateway.Budgeting
