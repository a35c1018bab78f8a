import CortexGateway.Budget.Runs

/-! # Requests that keep their session

Every request makes both of its calls on one session and keeps the instance of
the first call alive.  Its settling call locks the stored row and computes from
the copy.  The totals of the row survive a run exactly when every settling
call finds the values it holds still stored. -/
set_option autoImplicit false
namespace CortexGateway.Budgeting
open Holds Transition

section LostUpdate
variable (teamId : String) (percent : ℕ)

/-- Usage is what was charged since `startUsage`, reserved what is in flight. -/
def NoLostUpdate (startUsage : ℚ) (state : State) : Prop :=
  ∀ row ∈ state.budgets teamId,
    row.currentUsage = startUsage + state.charged ∧ row.reserved = outstanding state

instance (startUsage : ℚ) : DecidablePred (NoLostUpdate teamId startUsage) := fun state =>
  inferInstanceAs (Decidable (∀ row ∈ state.budgets teamId,
    row.currentUsage = startUsage + state.charged ∧ row.reserved = outstanding state))

/-- The copy of a settling session agrees with the stored row on every column
the call is about to change. -/
def SettlesCurrent (state : State) : Op → Prop
  | .settle request settlement _ =>
      ∀ row ∈ state.budgets teamId, ∀ inst ∈ (state.sessions request).budget,
        ∀ reservation ∈ inFlight? state.inFlight request,
          (reservation.estimatedCost = 0 ∨ inst.attrs.reserved = row.reserved) ∧
            (settlement.actualCost = 0 ∨ inst.attrs.currentUsage = row.currentUsage)
  | _ => True

/-- The session of a request in flight holds a copy that includes its own hold. -/
def HoldsCopy (state : State) (row : Budget) (entry : ℕ × Reservation) : Prop :=
  ∃ copy, state.sessions entry.1 = ⟨some (.ofRow copy)⟩ ∧ copy.id = row.id ∧
    entry.2.estimatedCost ≤ copy.reserved ∧ 0 ≤ copy.currentUsage

structure Interleaved (startUsage : ℚ) (state : State) : Prop where
  distinct : (keys state.inFlight).Nodup
  known : ∀ entry ∈ state.inFlight, entry.1 ∈ state.served
  amounts : ∀ entry ∈ state.inFlight, 0 ≤ entry.2.estimatedCost
  charged : 0 ≤ startUsage + state.charged
  budgeted : ∃ row, state.budgets teamId = some row ∧ row.enabled = true ∧
    ∀ entry ∈ state.inFlight, HoldsCopy state row entry

/-- A column whose new value is computed from a copy moves by the difference
exactly if nothing changes or the copy is current. -/
theorem writeBack_add_iff (copy stored difference : ℚ) :
    writeBack copy (copy + difference) stored = stored + difference ↔
      difference = 0 ∨ copy = stored := by
  unfold writeBack
  by_cases unchanged : copy + difference = copy
  · have zero : difference = 0 := by linarith
    simp [zero]
  · have nonzero : difference ≠ 0 := by
      intro zero
      exact unchanged (by rw [zero, add_zero])
    rw [if_neg unchanged, add_left_inj]
    simp [nonzero]

/-- An admitted request holds a copy of the row it has just stored. -/
theorem interleaved_admitted (startUsage : ℚ) (state : State) (request : ℕ) (estimatedCost : ℚ)
    (now : Datetime) (frame : Interleaved teamId startUsage state)
    (law : NoLostUpdate teamId startUsage state) (fresh : request ∉ state.served) (row : Budget)
    (found : state.budgets teamId = some row) (running : row.isPeriodExpired now = false)
    (nonneg : 0 ≤ estimatedCost) :
    Interleaved teamId startUsage (state.admitted teamId request estimatedCost now row) := by
  obtain ⟨row', found', enabled, copies⟩ := frame.budgeted
  obtain rfl : row = row' := Option.some.inj (found.symm.trans found')
  obtain ⟨usage, ledger⟩ := law row found
  have stored := reservedRow_running row estimatedCost now running
  have heldNonneg : 0 ≤ outstanding state := total_nonneg _ _ frame.amounts
  refine ⟨List.nodup_cons.mpr ⟨notMem_keys_inFlight fresh frame.known, frame.distinct⟩,
    served_cons request _ frame.known, ?_, frame.charged, _, setRow_self .., ?_, ?_⟩
  · intro entry member
    rcases List.mem_cons.mp member with rfl | member
    · exact nonneg
    · exact frame.amounts entry member
  · rw [stored]
    exact enabled
  · intro entry member
    rcases List.mem_cons.mp member with rfl | member
    · refine ⟨_, Function.update_self .., rfl, ?_, ?_⟩
      · rw [stored]
        simp only
        linarith
      · rw [stored]
        exact usage ▸ frame.charged
    · obtain ⟨copy, session, sameId, holds, nonneg⟩ := copies entry member
      have other : entry.1 ≠ request := fun same => fresh (same ▸ frame.known entry member)
      refine ⟨copy, ?_, ?_, holds, nonneg⟩
      · simp only [State.admitted]
        rw [Function.update_of_ne other, session]
      · rw [sameId, stored]

theorem interleaved_rejected (startUsage : ℚ) (state : State) (request : ℕ)
    (session : AsyncSession) (frame : Interleaved teamId startUsage state)
    (fresh : request ∉ state.served) :
    Interleaved teamId startUsage (state.rejected request session) := by
  obtain ⟨row, found, enabled, copies⟩ := frame.budgeted
  refine ⟨frame.distinct, ?_, frame.amounts, frame.charged, row, found, enabled, ?_⟩
  · intro entry member
    exact List.mem_cons_of_mem _ (frame.known entry member)
  · intro entry member
    obtain ⟨copy, session', rest⟩ := copies entry member
    have other : entry.1 ≠ request := fun same => fresh (same ▸ frame.known entry member)
    refine ⟨copy, ?_, rest⟩
    simp only [State.rejected]
    rw [Function.update_of_ne other, session']

theorem step_checkAndReserve_law (startUsage : ℚ) (state next : State) (request : ℕ)
    (estimatedCost : ℚ) (now : Datetime) (frame : Interleaved teamId startUsage state)
    (law : NoLostUpdate teamId startUsage state)
    (within : WithinPeriod teamId state (.checkAndReserve request estimatedCost now))
    (stepped : step .perRequest teamId percent state
      (.checkAndReserve request estimatedCost now) = some next) :
    NoLostUpdate teamId startUsage next ∧ Interleaved teamId startUsage next := by
  obtain ⟨estimateNonneg, running⟩ := within
  obtain ⟨fresh, outcome⟩ := step_checkAndReserve_cases .perRequest teamId percent state next
    request estimatedCost now stepped
  rcases outcome with ⟨row, found, -, -, rfl⟩ | ⟨row, session, -, -, -, rfl⟩ |
    ⟨unbudgeted, -⟩
  · have rowRunning : row.isPeriodExpired now = false := running row found
    obtain ⟨usage, ledger⟩ := law row found
    refine ⟨?_, interleaved_admitted teamId startUsage state request estimatedCost now frame law
      fresh row found rowRunning estimateNonneg⟩
    intro after located
    simp only [State.admitted, setRow_self, Option.mem_some_iff] at located
    subst located
    rw [reservedRow_running row estimatedCost now rowRunning]
    refine ⟨usage, ?_⟩
    simp only [outstanding, State.admitted, total_cons]
    rw [ledger, outstanding, add_comm]
  · exact ⟨law, interleaved_rejected teamId startUsage state request session frame fresh⟩
  · obtain ⟨row, found, enabled, -⟩ := frame.budgeted
    rw [unbudgeted row found] at enabled
    cases enabled

/-- A request that settles takes its copy with it. -/
theorem interleaved_settled (startUsage : ℚ) (state : State) (request : ℕ)
    (settlement : Settlement) (now : Datetime) (estimatedCost : ℚ) (session : AsyncSession)
    (frame : Interleaved teamId startUsage state) (paid : 0 ≤ settlement.actualCost)
    (row copy : Budget) (found : state.budgets teamId = some row) :
    Interleaved teamId startUsage (state.settled request settlement estimatedCost
      (setRow state.budgets teamId
        (some (stored (settlement.attrs copy estimatedCost now) copy row))) session) := by
  obtain ⟨row', found', enabled, copies⟩ := frame.budgeted
  obtain rfl : row = row' := Option.some.inj (found.symm.trans found')
  obtain ⟨keptId, keptEnabled, -⟩ := stored_settled_frame settlement copy row estimatedCost now
  have inside : ∀ entry ∈ close request state.inFlight, entry ∈ state.inFlight :=
    fun entry member => (mem_close.mp member).1
  refine ⟨keys_close_nodup request frame.distinct,
    fun entry member => frame.known entry (inside entry member),
    fun entry member => frame.amounts entry (inside entry member), ?_, _, setRow_self .., ?_, ?_⟩
  · have before := frame.charged
    simp only [State.settled]
    linarith
  · rw [keptEnabled, enabled]
  · intro entry member
    obtain ⟨other, session', sameId, rest⟩ := copies entry (inside entry member)
    refine ⟨other, ?_, ?_, rest⟩
    · simp only [State.settled]
      rw [Function.update_of_ne (mem_close.mp member).2, session']
    · rw [sameId, keptId]

theorem step_settle_law (startUsage : ℚ) (state next : State) (request : ℕ)
    (settlement : Settlement) (now : Datetime) (frame : Interleaved teamId startUsage state)
    (law : NoLostUpdate teamId startUsage state)
    (within : WithinPeriod teamId state (.settle request settlement now))
    (stepped : step .perRequest teamId percent state (.settle request settlement now) =
      some next) :
    (NoLostUpdate teamId startUsage next ↔
        SettlesCurrent teamId state (.settle request settlement now)) ∧
      Interleaved teamId startUsage next := by
  obtain ⟨row, found, enabled, copies⟩ := frame.budgeted
  obtain ⟨usage, ledger⟩ := law row found
  obtain ⟨reservation, located⟩ := step_settle_inFlight .perRequest teamId percent state next
    request settlement now stepped
  have member := inFlight?_mem located
  obtain ⟨copy, session, sameId, holds, nonneg⟩ := copies _ member
  have loads : (state.settlingSession .perRequest request).load row = ⟨some (.ofRow copy)⟩ := by
    simp only [State.settlingSession]
    rw [session]
    exact load_ofRow copy row sameId
  obtain ⟨after, rfl⟩ := step_settle_enabled .perRequest teamId percent state next request
    settlement now reservation row copy located found enabled loads stepped
  have closed : total Reservation.estimatedCost (close request state.inFlight) =
      outstanding state - reservation.estimatedCost :=
    total_close _ frame.distinct member
  have reserved : (settlement.attrs copy reservation.estimatedCost now).reserved =
      copy.reserved + -reservation.estimatedCost := by
    rw [Settlement.attrs_reserved, max_eq_right (sub_nonneg.mpr holds), sub_eq_add_neg]
  have charge := settlement.attrs_currentUsage copy reservation.estimatedCost now nonneg within
  constructor
  · have lawNext : NoLostUpdate teamId startUsage (state.settled request settlement
        reservation.estimatedCost (setRow state.budgets teamId (some (stored
          (settlement.attrs copy reservation.estimatedCost now) copy row))) after) ↔
        writeBack copy.currentUsage (copy.currentUsage + settlement.actualCost)
            row.currentUsage = row.currentUsage + settlement.actualCost ∧
          writeBack copy.reserved (copy.reserved + -reservation.estimatedCost) row.reserved =
            row.reserved + -reservation.estimatedCost := by
      simp only [NoLostUpdate, State.settled, setRow_self, Option.mem_some_iff, forall_eq',
        stored, Instance.flush, reserved, charge, outstanding, closed, ledger, usage]
      rw [add_assoc, sub_eq_add_neg]
    have guardNow : SettlesCurrent teamId state (.settle request settlement now) ↔
        (reservation.estimatedCost = 0 ∨ copy.reserved = row.reserved) ∧
          (settlement.actualCost = 0 ∨ copy.currentUsage = row.currentUsage) := by
      simp [SettlesCurrent, found, session, located, Instance.ofRow]
    rw [lawNext, guardNow, writeBack_add_iff, writeBack_add_iff, neg_eq_zero, and_comm]
  · exact interleaved_settled teamId startUsage state request settlement now
      reservation.estimatedCost after frame within row copy found

/-- A run of one team's requests loses no update exactly when every settling
call computes from current values. -/
theorem noLostUpdate_iff_settlesCurrent (budgets : BudgetTable) (row : Budget)
    (found : budgets teamId = some row) (enabled : row.enabled = true)
    (unreserved : row.reserved = 0) (usage : 0 ≤ row.currentUsage) (ops : List Op)
    (within : StepsMeet (step .perRequest teamId percent) (WithinPeriod teamId)
      (initial budgets) ops) :
    HoldsThroughout (step .perRequest teamId percent) (NoLostUpdate teamId row.currentUsage)
        (initial budgets) ops ↔
      StepsMeet (step .perRequest teamId percent) (SettlesCurrent teamId)
        (initial budgets) ops := by
  apply holdsThroughout_iff_stepsMeet (step .perRequest teamId percent)
    (NoLostUpdate teamId row.currentUsage) (Interleaved teamId row.currentUsage)
    (WithinPeriod teamId) (SettlesCurrent teamId)
  · intro state op next frame law permitted stepped
    cases op with
    | checkAndReserve request estimatedCost now =>
        obtain ⟨lawNext, frameNext⟩ := step_checkAndReserve_law teamId percent row.currentUsage
          state next request estimatedCost now frame law permitted stepped
        exact ⟨iff_of_true lawNext trivial, fun _ => frameNext⟩
    | settle request settlement now =>
        obtain ⟨lawNext, frameNext⟩ := step_settle_law teamId percent row.currentUsage state next
          request settlement now frame law permitted stepped
        exact ⟨lawNext, fun _ => frameNext⟩
    | updateBudget data now => exact permitted.elim
    | deleteBudget => exact permitted.elim
    | createBudget budgetId data now => exact permitted.elim
  · refine ⟨List.nodup_nil, ?_, ?_, ?_, row, found, enabled, ?_⟩
    · intro entry member
      cases member
    · intro entry member
      cases member
    · simpa [initial] using usage
    · intro entry member
      cases member
  · intro other located
    obtain rfl : row = other := Option.some.inj (found.symm.trans located)
    simp [initial, outstanding, unreserved]
  · exact within

end LostUpdate

/-! ## Two overlapping requests -/

def aprilFirst : Datetime := .ofDate .aprilFirst

def unusedBudget : Budget :=
  created "team-1" "budget-1" (tenDollars .monthly .BLOCK) aprilFirst

def oneTeam : BudgetTable := setRow (fun _ => none) "team-1" (some unusedBudget)

/-- The second request reserves while the first is in flight, then both are reconciled. -/
def overlapping : List Op :=
  [.checkAndReserve 1 2 aprilFirst, .checkAndReserve 2 3 aprilFirst,
    .settle 1 (.reconcile 1) aprilFirst, .settle 2 (.reconcile 1) aprilFirst]

/-- After both, one of the two charges is forgotten and two dollars stay
reserved for nobody. -/
theorem overlapping_loses_updates :
    StepsMeet (step .perRequest "team-1" 80) (WithinPeriod "team-1") (initial oneTeam)
        overlapping ∧
      ¬ HoldsThroughout (step .perRequest "team-1" 80) (NoLostUpdate "team-1" 0)
        (initial oneTeam) overlapping ∧
      ((run (step .perRequest "team-1" 80) (initial oneTeam) overlapping).bind fun final =>
        (final.budgets "team-1").map fun row => (row.currentUsage, row.reserved)) =
        some (1, 2) := by
  decide +kernel

/-- Two requests one after the other. -/
theorem noLostUpdate_sequential :
    HoldsThroughout (step .perRequest "team-1" 80) (NoLostUpdate "team-1" 0) (initial oneTeam)
        [.checkAndReserve 1 2 aprilFirst, .settle 1 (.reconcile 1) aprilFirst,
          .checkAndReserve 2 3 aprilFirst, .settle 2 (.reconcile 1) aprilFirst] ↔
      StepsMeet (step .perRequest "team-1" 80) (SettlesCurrent "team-1") (initial oneTeam)
        [.checkAndReserve 1 2 aprilFirst, .settle 1 (.reconcile 1) aprilFirst,
          .checkAndReserve 2 3 aprilFirst, .settle 2 (.reconcile 1) aprilFirst] :=
  noLostUpdate_iff_settlesCurrent "team-1" 80 oneTeam unusedBudget (setRow_self ..) rfl rfl
    (le_refl 0) _ (by decide +kernel)

end CortexGateway.Budgeting
