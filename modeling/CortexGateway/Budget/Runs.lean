import CortexGateway.Budget.Calls
import CortexGateway.Lib.Holds
import CortexGateway.Lib.Run

/-! # Runs of budget calls

The requests of one team interleave their calls, each call atomic under its
row lock.  A request calls `check_and_reserve` once; when admitted it stays in
flight until one settling call.  With `perRequest` it makes all its calls on
one session, which keeps the instance alive; with `perCall` every call loads
fresh values.  `epoch` counts the periods and the lives of the row and is read
by no call. -/
set_option autoImplicit false
namespace CortexGateway.Budgeting
open Holds

inductive SessionUse
  | perRequest
  | perCall
  deriving DecidableEq

/-- A request in flight; without an enabled budget it holds nothing. -/
structure Reservation where
  estimatedCost : ℚ
  epoch : Option ℕ
  deriving DecidableEq

structure State where
  budgets : BudgetTable
  sessions : ℕ → AsyncSession
  served : List ℕ
  inFlight : List (ℕ × Reservation)
  epoch : ℕ
  charged : ℚ
  overrun : ℚ

/-- The two calls that end a request. -/
inductive Settlement
  | reconcile (actualCost : ℚ)
  | release

namespace Settlement

def call (settlement : Settlement) (teamId : String) (estimatedCost : ℚ) (now : Datetime) :
    BudgetM Unit :=
  match settlement with
  | .reconcile actualCost => do let _ ← Budgeting.reconcile teamId estimatedCost actualCost now
  | .release => releaseReservation teamId estimatedCost now

def actualCost : Settlement → ℚ
  | .reconcile actualCost => actualCost
  | .release => 0

/-- What the request cost beyond what it held. -/
def overrun (settlement : Settlement) (estimatedCost : ℚ) : ℚ :=
  match settlement with
  | .reconcile actualCost => max 0 (actualCost - estimatedCost)
  | .release => 0

/-- The attributes the call computes from the copy it holds. -/
def attrs (settlement : Settlement) (copy : Budget) (estimatedCost : ℚ) (now : Datetime) :
    Budget :=
  match settlement with
  | .reconcile actualCost => reconciled copy estimatedCost actualCost now
  | .release => released copy estimatedCost now

end Settlement

inductive Op
  | checkAndReserve (request : ℕ) (estimatedCost : ℚ) (now : Datetime)
  | settle (request : ℕ) (settlement : Settlement) (now : Datetime)
  | updateBudget (data : BudgetUpdate) (now : Datetime)
  | deleteBudget
  | createBudget (budgetId : String) (data : BudgetCreate) (now : Datetime)

section System
variable (mode : SessionUse) (teamId : String) (percent : ℕ)

/-- The session a settling call runs on. -/
def State.settlingSession (state : State) (request : ℕ) : AsyncSession :=
  match mode with
  | .perRequest => state.sessions request
  | .perCall => .fresh

def State.keep (state : State) (request : ℕ) (store : Store) : State :=
  { state with
    budgets := store.budgets
    sessions := Function.update state.sessions request store.session }

/-- A rollover that is committed starts a new period. -/
def State.epochAfter (state : State) (now : Datetime) : ℕ :=
  match state.budgets teamId with
  | some row => if row.isPeriodExpired now then state.epoch + 1 else state.epoch
  | none => state.epoch

def inFlight? (book : List (ℕ × Reservation)) (request : ℕ) : Option Reservation :=
  (book.find? fun entry => entry.1 = request).map Prod.snd

def step (state : State) : Op → Option State
  | .checkAndReserve request estimatedCost now =>
      if request ∈ state.served then none
      else
        let state := { state with served := request :: state.served }
        match (checkAndReserve teamId estimatedCost percent now).run ⟨state.budgets, .fresh⟩ with
        | .ok (some _, _) store =>
            let epoch := state.epochAfter teamId now
            some { state.keep request store with
              inFlight := (request, ⟨estimatedCost, some epoch⟩) :: state.inFlight
              epoch := epoch }
        | .ok (none, _) store =>
            some { state.keep request store with
              inFlight := (request, ⟨estimatedCost, none⟩) :: state.inFlight }
        | .error _ store => some (state.keep request store)
  | .settle request settlement now =>
      (inFlight? state.inFlight request).map fun reservation =>
        let state := { state with
          inFlight := close request state.inFlight
          charged := state.charged + settlement.actualCost
          overrun := state.overrun + settlement.overrun reservation.estimatedCost }
        match (settlement.call teamId reservation.estimatedCost now).run
            ⟨state.budgets, state.settlingSession mode request⟩ with
        | .ok _ store => state.keep request store
        | .error _ store => state.keep request store
  | .updateBudget data now =>
      match (updateBudget teamId data now).run ⟨state.budgets, .fresh⟩ with
      | .ok _ store => some { state with budgets := store.budgets }
      | .error _ store => some { state with budgets := store.budgets }
  | .deleteBudget =>
      match (deleteBudget teamId).run ⟨state.budgets, .fresh⟩ with
      | .ok _ store => some { state with budgets := store.budgets }
      | .error _ store => some { state with budgets := store.budgets }
  | .createBudget budgetId data now =>
      match (createBudget teamId budgetId data now).run ⟨state.budgets, .fresh⟩ with
      | .ok _ store => some { state with budgets := store.budgets, epoch := state.epoch + 1 }
      | .error _ store => some { state with budgets := store.budgets }

/-- No request has been served yet. -/
def initial (budgets : BudgetTable) : State :=
  { budgets := budgets
    sessions := fun _ => .fresh
    served := []
    inFlight := []
    epoch := 0
    charged := 0
    overrun := 0 }

/-- The estimates in flight. -/
def outstanding (state : State) : ℚ := total Reservation.estimatedCost state.inFlight

/-- Requests only: no administration, no rollover, no negative amount. -/
def WithinPeriod (state : State) : Op → Prop
  | .checkAndReserve _ estimatedCost now =>
      0 ≤ estimatedCost ∧ ∀ row ∈ state.budgets teamId, row.isPeriodExpired now = false
  | .settle _ settlement _ => 0 ≤ settlement.actualCost
  | .updateBudget .. => False
  | .deleteBudget => False
  | .createBudget .. => False

instance (state : State) (op : Op) : Decidable (WithinPeriod teamId state op) :=
  match op with
  | .checkAndReserve _ estimatedCost now =>
      inferInstanceAs (Decidable (0 ≤ estimatedCost ∧ ∀ row ∈ state.budgets teamId,
        row.isPeriodExpired now = false))
  | .settle _ settlement _ => inferInstanceAs (Decidable (0 ≤ settlement.actualCost))
  | .updateBudget .. => isFalse id
  | .deleteBudget => isFalse id
  | .createBudget .. => isFalse id

/-! ## The settling call -/

@[simp] theorem Settlement.attrs_reserved (settlement : Settlement) (copy : Budget)
    (estimatedCost : ℚ) (now : Datetime) :
    (settlement.attrs copy estimatedCost now).reserved =
      max 0 (copy.reserved - estimatedCost) := by
  cases settlement <;> rfl

/-- With a usage and a cost that are not negative the clamp does nothing. -/
theorem Settlement.attrs_currentUsage (settlement : Settlement) (copy : Budget)
    (estimatedCost : ℚ) (now : Datetime) (usage : 0 ≤ copy.currentUsage)
    (cost : 0 ≤ settlement.actualCost) :
    (settlement.attrs copy estimatedCost now).currentUsage =
      copy.currentUsage + settlement.actualCost := by
  cases settlement with
  | reconcile actualCost => exact max_eq_right (add_nonneg usage cost)
  | release => exact (add_zero _).symm

/-- The columns no settling call touches. -/
theorem stored_settled_frame (settlement : Settlement) (copy row : Budget) (estimatedCost : ℚ)
    (now : Datetime) :
    let next := stored (settlement.attrs copy estimatedCost now) copy row
    next.id = row.id ∧ next.enabled = row.enabled ∧ next.limitAmount = row.limitAmount ∧
      next.policy = row.policy ∧ next.periodEnd = row.periodEnd := by
  cases settlement <;>
    simp [stored, Instance.flush, Settlement.attrs, reconciled, released]

@[simp] theorem stored_settled_current (settlement : Settlement) (row : Budget)
    (estimatedCost : ℚ) (now : Datetime) :
    stored (settlement.attrs row estimatedCost now) row row =
      settlement.attrs row estimatedCost now := by
  cases settlement with
  | reconcile actualCost => exact stored_reconciled_current row estimatedCost actualCost now
  | release => exact stored_released_current row estimatedCost now

theorem Settlement.call_enabled (settlement : Settlement) (estimatedCost : ℚ) (now : Datetime)
    (store : Store) (row copy : Budget) (found : store.budgets teamId = some row)
    (enabled : row.enabled = true) (loads : store.session.load row = ⟨some (.ofRow copy)⟩) :
    ∃ session, (settlement.call teamId estimatedCost now).run store =
      .ok () ⟨setRow store.budgets teamId
        (some (stored (settlement.attrs copy estimatedCost now) copy row)), session⟩ := by
  cases settlement with
  | reconcile actualCost =>
      have outcome := reconcile_enabled teamId estimatedCost actualCost now store row copy found
        enabled loads
      exact ⟨_, by simp only [Settlement.call, EStateM.run_bind, outcome]; rfl⟩
  | release =>
      exact ⟨_, releaseReservation_enabled teamId estimatedCost now store row copy found enabled
        loads⟩

theorem Settlement.call_unbudgeted (settlement : Settlement) (estimatedCost : ℚ) (now : Datetime)
    (store : Store)
    (unbudgeted : ∀ row, store.budgets teamId = some row → row.enabled = false) :
    (settlement.call teamId estimatedCost now).run store = .ok () store := by
  cases settlement with
  | reconcile actualCost =>
      have outcome := reconcile_unbudgeted teamId estimatedCost actualCost now store unbudgeted
      simp only [Settlement.call, EStateM.run_bind, outcome]
      rfl
  | release => exact releaseReservation_unbudgeted teamId estimatedCost now store unbudgeted

/-! ## What a step does -/

theorem inFlight?_mem {book : List (ℕ × Reservation)} {request : ℕ} {reservation : Reservation}
    (found : inFlight? book request = some reservation) : (request, reservation) ∈ book := by
  obtain ⟨entry, located, same⟩ := Option.map_eq_some_iff.mp found
  have key : entry.1 = request := by simpa using List.find?_some located
  have member := List.mem_of_find?_eq_some located
  rwa [← key, ← same]

/-- A request that was never served holds nothing. -/
theorem notMem_keys_inFlight {state : State} {request : ℕ} (fresh : request ∉ state.served)
    (known : ∀ entry ∈ state.inFlight, entry.1 ∈ state.served) :
    request ∉ keys state.inFlight := by
  intro again
  obtain ⟨entry, member, rfl⟩ := List.mem_map.mp again
  exact fresh (known entry member)

theorem served_cons {state : State} (request : ℕ) (reservation : Reservation)
    (known : ∀ entry ∈ state.inFlight, entry.1 ∈ state.served) :
    ∀ entry ∈ (request, reservation) :: state.inFlight, entry.1 ∈ request :: state.served := by
  intro entry member
  rcases List.mem_cons.mp member with rfl | member
  · exact List.mem_cons_self
  · exact List.mem_cons_of_mem _ (known entry member)

theorem unbudgeted_or_enabled (budgets : BudgetTable) :
    (∀ row, budgets teamId = some row → row.enabled = false) ∨
      ∃ row, budgets teamId = some row ∧ row.enabled = true := by
  by_cases budgeted : ∃ row, budgets teamId = some row ∧ row.enabled = true
  · exact Or.inr budgeted
  · refine Or.inl fun row found => ?_
    by_contra enabled
    exact budgeted ⟨row, found, by simpa using enabled⟩

def State.admitted (state : State) (request : ℕ) (estimatedCost : ℚ) (now : Datetime)
    (row : Budget) : State :=
  { state with
    budgets := setRow state.budgets teamId (some (reservedRow row estimatedCost now))
    sessions := Function.update state.sessions request
      ⟨some (.ofRow (reservedRow row estimatedCost now))⟩
    served := request :: state.served
    inFlight := (request, ⟨estimatedCost, some (state.epochAfter teamId now)⟩) :: state.inFlight
    epoch := state.epochAfter teamId now }

def State.rejected (state : State) (request : ℕ) (session : AsyncSession) : State :=
  { state with
    sessions := Function.update state.sessions request session
    served := request :: state.served }

def State.admittedUnbudgeted (state : State) (request : ℕ) (estimatedCost : ℚ) : State :=
  { state with
    sessions := Function.update state.sessions request .fresh
    served := request :: state.served
    inFlight := (request, ⟨estimatedCost, none⟩) :: state.inFlight }

theorem step_checkAndReserve_cases (state next : State) (request : ℕ) (estimatedCost : ℚ)
    (now : Datetime)
    (stepped : step mode teamId percent state (.checkAndReserve request estimatedCost now) =
      some next) :
    request ∉ state.served ∧
      ((∃ row, state.budgets teamId = some row ∧ row.enabled = true ∧
          rejects row estimatedCost now = false ∧
          next = state.admitted teamId request estimatedCost now row) ∨
        (∃ row session, state.budgets teamId = some row ∧ row.enabled = true ∧
          rejects row estimatedCost now = true ∧ next = state.rejected request session) ∨
        ((∀ row, state.budgets teamId = some row → row.enabled = false) ∧
          next = state.admittedUnbudgeted request estimatedCost)) := by
  by_cases again : request ∈ state.served
  · simp [step, again] at stepped
  refine ⟨again, ?_⟩
  rcases unbudgeted_or_enabled teamId state.budgets with unbudgeted | ⟨row, found, enabled⟩
  · have outcome := checkAndReserve_unbudgeted teamId estimatedCost percent now
      ⟨state.budgets, .fresh⟩ unbudgeted
    simp only [step, again, if_false, outcome, Option.some.injEq] at stepped
    exact Or.inr (Or.inr ⟨unbudgeted, stepped.symm⟩)
  · cases decision : rejects row estimatedCost now with
    | true =>
        have outcome := checkAndReserve_rejects teamId estimatedCost percent now
          ⟨state.budgets, .fresh⟩ row found enabled rfl decision
        simp only [step, again, if_false, outcome, Option.some.injEq] at stepped
        exact Or.inr (Or.inl ⟨row, _, found, enabled, decision, stepped.symm⟩)
    | false =>
        have outcome := checkAndReserve_admits teamId estimatedCost percent now
          ⟨state.budgets, .fresh⟩ row found enabled rfl decision
        simp only [step, again, if_false, outcome, Option.some.injEq] at stepped
        exact Or.inl ⟨row, found, enabled, decision, stepped.symm⟩

/-- The request leaves the book, and `budgets` is what its settling call stored. -/
def State.settled (state : State) (request : ℕ) (settlement : Settlement) (estimatedCost : ℚ)
    (budgets : BudgetTable) (session : AsyncSession) : State :=
  { state with
    budgets := budgets
    sessions := Function.update state.sessions request session
    inFlight := close request state.inFlight
    charged := state.charged + settlement.actualCost
    overrun := state.overrun + settlement.overrun estimatedCost }

theorem step_settle_inFlight (state next : State) (request : ℕ) (settlement : Settlement)
    (now : Datetime)
    (stepped : step mode teamId percent state (.settle request settlement now) = some next) :
    ∃ reservation, inFlight? state.inFlight request = some reservation := by
  obtain ⟨reservation, located, -⟩ := Option.map_eq_some_iff.mp stepped
  exact ⟨reservation, located⟩

theorem step_settle_returned (state next : State) (request : ℕ) (settlement : Settlement)
    (now : Datetime) (reservation : Reservation) (budgets : BudgetTable) (session : AsyncSession)
    (located : inFlight? state.inFlight request = some reservation)
    (outcome : (settlement.call teamId reservation.estimatedCost now).run
      ⟨state.budgets, state.settlingSession mode request⟩ = .ok () ⟨budgets, session⟩)
    (stepped : step mode teamId percent state (.settle request settlement now) = some next) :
    next = state.settled request settlement reservation.estimatedCost budgets session := by
  simp only [step, located, Option.map_some, Option.some.injEq] at stepped
  change (match (settlement.call teamId reservation.estimatedCost now).run
    ⟨state.budgets, state.settlingSession mode request⟩ with
    | .ok _ store => _
    | .error _ store => _) = next at stepped
  rw [outcome] at stepped
  exact stepped.symm

theorem step_settle_enabled (state next : State) (request : ℕ) (settlement : Settlement)
    (now : Datetime) (reservation : Reservation) (row copy : Budget)
    (located : inFlight? state.inFlight request = some reservation)
    (found : state.budgets teamId = some row) (enabled : row.enabled = true)
    (loads : (state.settlingSession mode request).load row = ⟨some (.ofRow copy)⟩)
    (stepped : step mode teamId percent state (.settle request settlement now) = some next) :
    ∃ session, next = state.settled request settlement reservation.estimatedCost
      (setRow state.budgets teamId (some (stored
        (settlement.attrs copy reservation.estimatedCost now) copy row))) session := by
  obtain ⟨session, outcome⟩ := settlement.call_enabled teamId reservation.estimatedCost now
    ⟨state.budgets, state.settlingSession mode request⟩ row copy found enabled loads
  exact ⟨session, step_settle_returned mode teamId percent state next request settlement now
    reservation _ session located outcome stepped⟩

theorem step_settle_unbudgeted (state next : State) (request : ℕ) (settlement : Settlement)
    (now : Datetime) (reservation : Reservation)
    (located : inFlight? state.inFlight request = some reservation)
    (unbudgeted : ∀ row, state.budgets teamId = some row → row.enabled = false)
    (stepped : step mode teamId percent state (.settle request settlement now) = some next) :
    ∃ session, next = state.settled request settlement reservation.estimatedCost
      state.budgets session := by
  have outcome := settlement.call_unbudgeted teamId reservation.estimatedCost now
    ⟨state.budgets, state.settlingSession mode request⟩ unbudgeted
  exact ⟨_, step_settle_returned mode teamId percent state next request settlement now
    reservation _ _ located outcome stepped⟩

theorem step_updateBudget (state next : State) (data : BudgetUpdate) (now : Datetime)
    (stepped : step mode teamId percent state (.updateBudget data now) = some next) :
    (state.budgets teamId = none ∧ next = state) ∨
      ∃ row, state.budgets teamId = some row ∧ next = { state with
        budgets := setRow state.budgets teamId (some (updated row data now)) } := by
  cases found : state.budgets teamId with
  | none =>
      have outcome := updateBudget_absent teamId data now ⟨state.budgets, .fresh⟩ found
      simp only [step, outcome, Option.some.injEq] at stepped
      exact Or.inl ⟨rfl, stepped.symm⟩
  | some row =>
      have outcome := updateBudget_present teamId data now ⟨state.budgets, .fresh⟩ row found rfl
      simp only [step, outcome, Option.some.injEq] at stepped
      exact Or.inr ⟨row, rfl, stepped.symm⟩

theorem step_deleteBudget (state next : State)
    (stepped : step mode teamId percent state .deleteBudget = some next) :
    next.budgets teamId = none ∧ next = { state with budgets := next.budgets } := by
  cases found : state.budgets teamId with
  | none =>
      have outcome := deleteBudget_absent teamId ⟨state.budgets, .fresh⟩ found
      simp only [step, outcome, Option.some.injEq] at stepped
      rw [← stepped]
      exact ⟨found, rfl⟩
  | some row =>
      have outcome := deleteBudget_present teamId ⟨state.budgets, .fresh⟩ row found rfl
      simp only [step, outcome, Option.some.injEq] at stepped
      rw [← stepped]
      exact ⟨setRow_self .., rfl⟩

theorem step_createBudget (state next : State) (budgetId : String) (data : BudgetCreate)
    (now : Datetime)
    (stepped : step mode teamId percent state (.createBudget budgetId data now) = some next) :
    next = state ∨ (state.budgets teamId = none ∧ next = { state with
      budgets := setRow state.budgets teamId (some (created teamId budgetId data now))
      epoch := state.epoch + 1 }) := by
  cases found : state.budgets teamId with
  | none =>
      have outcome := createBudget_absent teamId budgetId data now ⟨state.budgets, .fresh⟩ found
      simp only [step, outcome, Option.some.injEq] at stepped
      exact Or.inr ⟨rfl, stepped.symm⟩
  | some row =>
      have outcome := createBudget_present teamId budgetId data now
        ⟨state.budgets, .fresh⟩ row found rfl
      simp only [step, outcome, Option.some.injEq] at stepped
      exact Or.inl stepped.symm

/-- Rollover and creation set the usage to zero and reconciliation clamps it. -/
theorem usage_nonneg_step (state next : State) (op : Op)
    (nonneg : ∀ row ∈ state.budgets teamId, 0 ≤ row.currentUsage)
    (stepped : step .perCall teamId percent state op = some next) :
    ∀ row ∈ next.budgets teamId, 0 ≤ row.currentUsage := by
  intro after located
  cases op with
  | checkAndReserve request estimatedCost now =>
      rcases (step_checkAndReserve_cases .perCall teamId percent state next request estimatedCost
        now stepped).2 with ⟨row, found, -, -, rfl⟩ | ⟨row, session, -, -, -, rfl⟩ | ⟨-, rfl⟩
      · simp only [State.admitted, setRow_self, Option.mem_some_iff] at located
        subst located
        unfold reservedRow rolledOver
        split_ifs
        · exact le_refl 0
        · exact nonneg row found
      · exact nonneg after located
      · exact nonneg after located
  | settle request settlement now =>
      obtain ⟨reservation, found?⟩ := step_settle_inFlight .perCall teamId percent state next
        request settlement now stepped
      rcases unbudgeted_or_enabled teamId state.budgets with unbudgeted | ⟨row, found, enabled⟩
      · obtain ⟨session, rfl⟩ := step_settle_unbudgeted .perCall teamId percent state next request
          settlement now reservation found? unbudgeted stepped
        exact nonneg after located
      · obtain ⟨session, rfl⟩ := step_settle_enabled .perCall teamId percent state next request
          settlement now reservation row row found? found enabled rfl stepped
        simp only [State.settled, setRow_self, Option.mem_some_iff, stored_settled_current]
          at located
        subst located
        cases settlement with
        | reconcile actualCost => exact le_max_left _ _
        | release => exact nonneg row found
  | updateBudget data now =>
      rcases step_updateBudget .perCall teamId percent state next data now stepped with
        ⟨-, rfl⟩ | ⟨row, found, rfl⟩
      · exact nonneg after located
      · simp only [setRow_self, Option.mem_some_iff] at located
        subst located
        exact nonneg row found
  | deleteBudget =>
      rw [(step_deleteBudget .perCall teamId percent state next stepped).1] at located
      cases located
  | createBudget budgetId data now =>
      rcases step_createBudget .perCall teamId percent state next budgetId data now stepped with
        rfl | ⟨-, rfl⟩
      · exact nonneg after located
      · simp only [setRow_self, Option.mem_some_iff] at located
        subst located
        exact le_refl 0

theorem usage_nonneg_throughout (budgets : BudgetTable) (ops : List Op)
    (nonneg : ∀ row ∈ budgets teamId, 0 ≤ row.currentUsage) :
    Transition.HoldsThroughout (step .perCall teamId percent)
      (fun state => ∀ row ∈ state.budgets teamId, 0 ≤ row.currentUsage) (initial budgets) ops :=
  Transition.holdsThroughout_of_steps (step .perCall teamId percent) _ (fun _ _ => True)
    (fun state op next holds _ stepped =>
      usage_nonneg_step teamId percent state next op holds stepped)
    (initial budgets) nonneg ops fun _ _ _ _ _ _ _ => trivial

end System

end CortexGateway.Budgeting
