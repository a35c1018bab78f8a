import CortexGateway.Budget.Periods
import CortexGateway.Budget.Runs
import CortexGateway.Lib.Exits

/-! # Rows that stay valid

Sessions hold copies of a row that other sessions have changed meanwhile, and a
flush mixes both column by column.  Whatever calls are made on whatever
sessions, in any order, the row stays valid. -/
set_option autoImplicit false
namespace CortexGateway.Budgeting
open Exits

/-- The row of a team; the id of a budget determines its period. -/
structure Budget.Valid (teamId : String) (periodOf : String → BudgetPeriod) (budget : Budget) :
    Prop where
  team : budget.teamId = teamId
  period : budget.period = periodOf budget.id
  limit : 0 ≤ budget.limitAmount
  usage : 0 ≤ budget.currentUsage
  reserved : 0 ≤ budget.reserved
  periodEnd : budget.periodEnd = computePeriodEnd budget.period budget.periodStart

/-- A loaded row, and what is to become of it: a rollover moves both ends of the period. -/
structure Instance.Sound (teamId : String) (periodOf : String → BudgetPeriod) (inst : Instance) :
    Prop where
  attrs : inst.attrs.Valid teamId periodOf
  committed : inst.committed.Valid teamId periodOf
  periods : (inst.attrs.periodStart = inst.committed.periodStart ∧
      inst.attrs.periodEnd = inst.committed.periodEnd) ∨
    (inst.committed.periodStart < inst.attrs.periodStart ∧
      inst.committed.periodEnd < inst.attrs.periodEnd)

structure Store.Sound (teamId : String) (periodOf : String → BudgetPeriod) (store : Store) :
    Prop where
  row : ∀ row ∈ store.budgets teamId, row.Valid teamId periodOf
  copy : ∀ inst ∈ store.session.budget, inst.Sound teamId periodOf

/-- The session holds an instance of the stored row. -/
structure Store.Loaded (teamId : String) (periodOf : String → BudgetPeriod) (store : Store) : Prop
    extends store.Sound teamId periodOf where
  same : ∀ row ∈ store.budgets teamId, ∀ inst ∈ store.session.budget, inst.attrs.id = row.id

section Rows
variable {teamId : String} {periodOf : String → BudgetPeriod} {budget : Budget}

theorem Budget.Valid.lt (valid : budget.Valid teamId periodOf) :
    budget.periodStart < budget.periodEnd := by
  rw [valid.periodEnd]
  exact lt_computePeriodEnd budget.period budget.periodStart

theorem valid_created {budgetId : String} {data : BudgetCreate} (now : Datetime)
    (named : data.period = periodOf budgetId) :
    (created teamId budgetId data now).Valid teamId periodOf :=
  ⟨rfl, named, data.limitNonneg, le_refl 0, le_refl 0, rfl⟩

theorem valid_updated (valid : budget.Valid teamId periodOf) (data : BudgetUpdate)
    (now : Datetime) : (updated budget data now).Valid teamId periodOf := by
  refine ⟨valid.team, valid.period, ?_, valid.usage, valid.reserved, valid.periodEnd⟩
  change 0 ≤ data.limitAmount.getD budget.limitAmount
  cases given : data.limitAmount with
  | none => exact valid.limit
  | some limit => exact (data.limitPositive limit given).le

theorem valid_rolledOver (valid : budget.Valid teamId periodOf) (now : Datetime) :
    (rolledOver budget now).Valid teamId periodOf := by
  unfold rolledOver
  split_ifs
  · exact ⟨valid.team, valid.period, valid.limit, le_refl 0, le_refl 0, rfl⟩
  · exact valid

/-- A rollover moves both ends of the period, or neither. -/
theorem rolledOver_periods (valid : budget.Valid teamId periodOf) (now : Datetime) :
    ((rolledOver budget now).periodStart = budget.periodStart ∧
      (rolledOver budget now).periodEnd = budget.periodEnd) ∨
    (budget.periodStart < (rolledOver budget now).periodStart ∧
      budget.periodEnd < (rolledOver budget now).periodEnd) := by
  unfold rolledOver
  split_ifs with expired
  · have due : budget.periodEnd ≤ now := by simpa [Budget.isPeriodExpired] using expired
    exact .inr ⟨valid.lt.trans_le due, due.trans_lt (lt_computePeriodEnd budget.period now)⟩
  · exact .inl ⟨rfl, rfl⟩

end Rows

/-! ## Instances -/

section Instances
variable {teamId : String} {periodOf : String → BudgetPeriod} {inst : Instance} {row : Budget}

theorem sound_ofRow (valid : row.Valid teamId periodOf) :
    (Instance.ofRow row).Sound teamId periodOf :=
  ⟨valid, valid, .inl ⟨rfl, rfl⟩⟩

theorem writeBack_nonneg {committed attr stored : ℚ} (attrNonneg : 0 ≤ attr)
    (storedNonneg : 0 ≤ stored) : 0 ≤ writeBack committed attr stored := by
  unfold writeBack
  split_ifs
  · exact storedNonneg
  · exact attrNonneg

/-- Flushing a sound instance onto the row it was loaded from, as it is by now. -/
theorem Instance.Sound.flush (sound : inst.Sound teamId periodOf)
    (valid : row.Valid teamId periodOf) (same : inst.attrs.id = row.id) :
    (inst.flush row).Valid teamId periodOf := by
  have period : inst.attrs.period = row.period := by
    rw [sound.attrs.period, valid.period, same]
  refine ⟨valid.team, valid.period, writeBack_nonneg sound.attrs.limit valid.limit,
    writeBack_nonneg sound.attrs.usage valid.usage,
    writeBack_nonneg sound.attrs.reserved valid.reserved, ?_⟩
  change writeBack inst.committed.periodEnd inst.attrs.periodEnd row.periodEnd =
    computePeriodEnd row.period
      (writeBack inst.committed.periodStart inst.attrs.periodStart row.periodStart)
  rcases sound.periods with ⟨sameStart, sameEnd⟩ | ⟨laterStart, laterEnd⟩
  · rw [writeBack, if_pos sameEnd, writeBack, if_pos sameStart]
    exact valid.periodEnd
  · rw [writeBack, if_neg laterEnd.ne', writeBack, if_neg laterStart.ne', ← period]
    exact sound.attrs.periodEnd

theorem sound_load {session : AsyncSession}
    (copies : ∀ inst ∈ session.budget, inst.Sound teamId periodOf)
    (valid : row.Valid teamId periodOf) :
    ∀ inst ∈ (session.load row).budget, inst.Sound teamId periodOf ∧ inst.attrs.id = row.id := by
  intro inst member
  unfold AsyncSession.load at member
  split at member
  · rename_i held heldSome
    split_ifs at member with kept
    · have isHeld : held = inst := Option.some.inj (heldSome.symm.trans member)
      exact ⟨copies inst member, isHeld ▸ kept.1⟩
    · cases member
      exact ⟨sound_ofRow valid, rfl⟩
  · cases member
    exact ⟨sound_ofRow valid, rfl⟩

end Instances

/-! ## Calls -/

section Calls
variable {teamId : String} {periodOf : String → BudgetPeriod}

/-- Any exception. -/
abbrev Whatever (_ : Exc) : Prop := True

theorem Store.Loaded.modify {store : Store} (loaded : store.Loaded teamId periodOf)
    (update : Instance → Instance)
    (sound : ∀ inst : Instance, inst.Sound teamId periodOf →
      (update inst).Sound teamId periodOf ∧ (update inst).attrs.id = inst.attrs.id) :
    Store.Loaded teamId periodOf { store with session := ⟨store.session.budget.map update⟩ } := by
  refine ⟨⟨loaded.row, fun inst member => ?_⟩, fun row located inst member => ?_⟩
  · obtain ⟨before, held, rfl⟩ := Option.map_eq_some_iff.mp member
    exact (sound before (loaded.copy before held)).1
  · obtain ⟨before, held, rfl⟩ := Option.map_eq_some_iff.mp member
    rw [(sound before (loaded.copy before held)).2]
    exact loaded.same row located before held

theorem readBudget_keeps (inv : Store → Prop) : Keeps inv Whatever readBudget := by
  intro store holds
  rw [ends_iff]
  unfold readBudget
  constructor
  · intro value after returned
    rw [EStateM.run_bind] at returned
    simp only [EStateM.run_get] at returned
    split at returned
    · split_ifs at returned
      · cases returned
      · cases returned
        exact holds
    · cases returned
  · intro exc after raised
    rw [EStateM.run_bind] at raised
    simp only [EStateM.run_get] at raised
    split at raised
    · split_ifs at raised
      · cases raised
        exact ⟨trivial, holds⟩
      · cases raised
    · cases raised
      exact ⟨trivial, holds⟩

theorem modifyBudget_keeps (update : Budget → Budget)
    (sound : ∀ inst : Instance, inst.Sound teamId periodOf →
      Instance.Sound teamId periodOf { inst with attrs := update inst.attrs } ∧
        (update inst.attrs).id = inst.attrs.id) :
    Keeps (Store.Loaded teamId periodOf) Whatever (modifyBudget update) :=
  keeps_modify _ fun _ loaded => loaded.modify _ sound

/-- A change of the attributes that leaves the period alone. -/
theorem sound_attrs {inst : Instance} (sound : inst.Sound teamId periodOf) {attrs : Budget}
    (valid : attrs.Valid teamId periodOf) (start : attrs.periodStart = inst.attrs.periodStart)
    (stop : attrs.periodEnd = inst.attrs.periodEnd) :
    Instance.Sound teamId periodOf { inst with attrs := attrs } :=
  ⟨valid, sound.committed, by
    rw [start, stop]
    exact sound.periods⟩

theorem rollback_keeps : Keeps (Store.Loaded teamId periodOf) Whatever rollback :=
  keeps_modify _ fun _ loaded => loaded.modify _ fun _ sound =>
    ⟨⟨sound.attrs, sound.committed, sound.periods⟩, rfl⟩

theorem commit_keeps : Keeps (Store.Loaded teamId periodOf) Whatever (commit teamId) := by
  refine keeps_modify _ fun store loaded => ?_
  cases held : store.session.budget with
  | none => exact loaded
  | some inst =>
      have sound := loaded.copy inst held
      refine ⟨⟨fun row located => ?_, fun other member => ?_⟩, fun row located other member => ?_⟩
      · simp only [setRow_self] at located
        obtain ⟨before, found, rfl⟩ := Option.map_eq_some_iff.mp located
        exact sound.flush (loaded.row before found) (loaded.same before found inst held)
      · cases member
        exact ⟨sound.attrs, sound.attrs, .inl ⟨rfl, rfl⟩⟩
      · simp only [setRow_self] at located
        obtain ⟨before, found, rfl⟩ := Option.map_eq_some_iff.mp located
        cases member
        exact loaded.same before found inst held

theorem refresh_keeps : Keeps (Store.Loaded teamId periodOf) Whatever (refresh teamId) := by
  refine keeps_modify _ fun store loaded => ?_
  refine ⟨⟨loaded.row, fun inst member => ?_⟩, fun row located inst member => ?_⟩
  · obtain ⟨row, found, rfl⟩ := Option.map_eq_some_iff.mp member
    exact sound_ofRow (loaded.row row found)
  · obtain ⟨other, found, rfl⟩ := Option.map_eq_some_iff.mp member
    cases located.symm.trans found
    rfl

theorem loaded_of_load {store : Store} {row : Budget} (sound : store.Sound teamId periodOf)
    (found : store.budgets teamId = some row) :
    Store.Loaded teamId periodOf { store with session := store.session.load row } := by
  have copies := sound_load sound.copy (sound.row row found)
  refine ⟨⟨sound.row, fun inst member => (copies inst member).1⟩, fun other located inst member => ?_⟩
  cases located.symm.trans found
  exact (copies inst member).2

/-- Locking the row loads it, or finds that there is no enabled one. -/
theorem selectForUpdate_ends {store : Store} (sound : store.Sound teamId periodOf) :
    Ends (selectForUpdate teamId) store
      (fun found after => if found then after.Loaded teamId periodOf else after.Sound teamId periodOf)
      fun _ _ => False := by
  rcases unbudgeted_or_enabled teamId store.budgets with unbudgeted | ⟨row, found, enabled⟩
  · unfold Ends
    rw [run_selectForUpdate_none teamId store unbudgeted]
    exact sound
  · unfold Ends
    rw [run_selectForUpdate teamId store row found enabled]
    exact loaded_of_load sound found

/-- What follows the lock. -/
theorem keeps_locked {α : Type} {skipped : BudgetM α} {rest : BudgetM α}
    (skips : Keeps (Store.Sound teamId periodOf) Whatever skipped)
    (keeps : Keeps (Store.Loaded teamId periodOf) Whatever rest) :
    Keeps (Store.Sound teamId periodOf) Whatever (do
      if !(← selectForUpdate teamId) then skipped else rest) := by
  intro store sound
  apply ends_bind
  refine (selectForUpdate_ends sound).mono ?_ fun _ _ => False.elim
  intro found after holds
  cases found with
  | false => exact skips after holds
  | true =>
      exact (keeps after holds).mono (fun _ _ loaded => loaded.toSound)
        fun _ _ raised => ⟨trivial, raised.2.toSound⟩

theorem applyRolloverIfNeeded_keeps (now : Datetime) :
    Keeps (Store.Loaded teamId periodOf) Whatever (applyRolloverIfNeeded now) := by
  refine keeps_bind (readBudget_keeps _) fun budget => ?_
  refine keeps_bind (modifyBudget_keeps _ fun inst sound => ⟨?_, rolledOver_id ..⟩) fun _ =>
    keeps_pure _
  refine ⟨valid_rolledOver sound.attrs now, sound.committed, ?_⟩
  rcases rolledOver_periods sound.attrs now with ⟨start, stop⟩ | ⟨start, stop⟩
  · rw [start, stop]
    exact sound.periods
  · refine .inr ?_
    rcases sound.periods with ⟨sameStart, sameEnd⟩ | ⟨laterStart, laterEnd⟩
    · exact ⟨sameStart ▸ start, sameEnd ▸ stop⟩
    · exact ⟨laterStart.trans start, laterEnd.trans stop⟩

theorem reserve_keeps {estimatedCost : ℚ} (nonneg : 0 ≤ estimatedCost) :
    Keeps (Store.Loaded teamId periodOf) Whatever (reserve estimatedCost) :=
  modifyBudget_keeps _ fun _ sound => ⟨sound_attrs sound
    ⟨sound.attrs.team, sound.attrs.period, sound.attrs.limit, sound.attrs.usage,
      add_nonneg sound.attrs.reserved nonneg, sound.attrs.periodEnd⟩ rfl rfl, rfl⟩

/-- An admitted reservation is committed and read back. -/
theorem admit_keeps {estimatedCost : ℚ} (nonneg : 0 ≤ estimatedCost) (now : Datetime)
    (warning : Bool) :
    Keeps (Store.Loaded teamId periodOf) Whatever (do
      reserve estimatedCost
      modifyBudget fun budget => { budget with updatedAt := now }
      commit teamId
      refresh teamId
      return (some (← readBudget), warning)) := by
  refine keeps_bind (reserve_keeps nonneg) fun _ => ?_
  refine keeps_bind (modifyBudget_keeps _ fun _ sound => ⟨sound_attrs sound
    ⟨sound.attrs.team, sound.attrs.period, sound.attrs.limit, sound.attrs.usage,
      sound.attrs.reserved, sound.attrs.periodEnd⟩ rfl rfl, rfl⟩) fun _ => ?_
  exact keeps_bind commit_keeps fun _ => keeps_bind refresh_keeps fun _ =>
    keeps_bind (readBudget_keeps _) fun _ => keeps_pure _

theorem checkAndReserve_keeps {estimatedCost : ℚ} (nonneg : 0 ≤ estimatedCost) (percent : ℕ)
    (now : Datetime) :
    Keeps (Store.Sound teamId periodOf) Whatever
      (checkAndReserve teamId estimatedCost percent now) := by
  have admits : ∀ warning, Keeps (Store.Loaded teamId periodOf) Whatever _ :=
    admit_keeps nonneg now
  unfold checkAndReserve
  refine keeps_locked (keeps_pure _) ?_
  refine keeps_bind (applyRolloverIfNeeded_keeps now) fun _ => ?_
  refine keeps_bind (readBudget_keeps _) fun budget => ?_
  dsimp only
  cases budget.policy with
  | BLOCK =>
      split_ifs
      · exact keeps_bind rollback_keeps fun _ => keeps_bind (readBudget_keeps _) fun _ =>
          keeps_bind (readBudget_keeps _) fun _ => keeps_bind (keeps_throw _ trivial) fun _ =>
            admits false
      · exact admits false
  | WARN => exact admits _
  | DOWNGRADE =>
      split_ifs
      · exact keeps_bind rollback_keeps fun _ => keeps_bind (readBudget_keeps _) fun _ =>
          keeps_bind (keeps_throw _ trivial) fun _ => admits false
      · exact admits false

theorem reconcile_keeps (estimatedCost actualCost : ℚ) (now : Datetime) :
    Keeps (Store.Sound teamId periodOf) Whatever
      (reconcile teamId estimatedCost actualCost now) := by
  unfold reconcile
  refine keeps_locked (keeps_pure _) ?_
  refine keeps_bind (modifyBudget_keeps _ fun _ sound => ⟨sound_attrs sound
    ⟨sound.attrs.team, sound.attrs.period, sound.attrs.limit, le_max_left _ _, le_max_left _ _,
      sound.attrs.periodEnd⟩ rfl rfl, rfl⟩) fun _ => ?_
  exact keeps_bind commit_keeps fun _ => keeps_bind refresh_keeps fun _ =>
    keeps_bind (readBudget_keeps _) fun _ => keeps_pure _

theorem releaseReservation_keeps (estimatedCost : ℚ) (now : Datetime) :
    Keeps (Store.Sound teamId periodOf) Whatever
      (releaseReservation teamId estimatedCost now) := by
  unfold releaseReservation
  refine keeps_locked (keeps_pure _) ?_
  exact keeps_bind (modifyBudget_keeps _ fun _ sound => ⟨sound_attrs sound
    ⟨sound.attrs.team, sound.attrs.period, sound.attrs.limit, sound.attrs.usage, le_max_left _ _,
      sound.attrs.periodEnd⟩ rfl rfl, rfl⟩) fun _ => commit_keeps

theorem getBudget_keeps (inv : Store → Prop) : Keeps inv Whatever (getBudget teamId) := by
  intro store holds
  exact holds

/-- The change that follows the query. -/
theorem applyUpdate_keeps (data : BudgetUpdate) (now : Datetime) :
    Keeps (Store.Loaded teamId periodOf) Whatever (do
      modifyBudget (updated · data now)
      commit teamId
      refresh teamId
      readBudget) :=
  keeps_bind (modifyBudget_keeps _ fun _ sound => ⟨sound_attrs sound
    (valid_updated sound.attrs data now) rfl rfl, rfl⟩) fun _ =>
    keeps_bind commit_keeps fun _ => keeps_bind refresh_keeps fun _ => readBudget_keeps _

theorem updateBudget_keeps (data : BudgetUpdate) (now : Datetime) :
    Keeps (Store.Sound teamId periodOf) Whatever (updateBudget teamId data now) := by
  intro store sound
  unfold updateBudget
  apply ends_bind
  have queried : Ends (get : BudgetM Store) store (fun value after => value = store ∧ after = store)
      fun _ _ => False := ⟨rfl, rfl⟩
  refine queried.mono ?_ fun _ _ => False.elim
  rintro value after ⟨rfl, rfl⟩
  split
  · rename_i row found
    apply ends_bind
    exact (applyUpdate_keeps data now _ (loaded_of_load sound found)).mono
      (fun _ _ loaded => loaded.toSound) fun _ _ raised => ⟨trivial, raised.2.toSound⟩
  · exact ⟨trivial, sound⟩

theorem deleteBudget_keeps :
    Keeps (Store.Sound teamId periodOf) Whatever (deleteBudget teamId) := by
  unfold deleteBudget
  refine keeps_bind (getBudget_keeps _) fun existing => ?_
  split_ifs
  · exact keeps_pure _
  · intro store sound
    refine ⟨fun row located => ?_, fun inst member => by cases member⟩
    change row ∈ setRow store.budgets teamId none teamId at located
    rw [setRow_self] at located
    cases located

theorem createBudget_keeps {budgetId : String} {data : BudgetCreate} (now : Datetime)
    (named : data.period = periodOf budgetId) :
    Keeps (Store.Sound teamId periodOf) Whatever (createBudget teamId budgetId data now) := by
  intro store sound
  cases found : store.budgets teamId with
  | none =>
      unfold Ends
      rw [createBudget_absent teamId budgetId data now store found]
      have valid : (created teamId budgetId data now).Valid teamId periodOf :=
        valid_created now named
      refine ⟨fun row located => ?_, fun inst member => ?_⟩
      · simp only [setRow_self] at located
        cases located
        exact valid
      · cases member
        exact sound_ofRow valid
  | some row =>
      obtain ⟨inst, held⟩ : ∃ inst, (store.session.load row).budget = some inst := by
        unfold AsyncSession.load
        split
        · split_ifs
          · exact ⟨_, ‹_›⟩
          · exact ⟨_, rfl⟩
        · exact ⟨_, rfl⟩
      have raised : (createBudget teamId budgetId data now).run store =
          .error (.budgetConfigurationError ("A budget already exists for team '" ++ teamId ++
            "'. Use PATCH to update or DELETE to remove it first.")) store := by
        simp [createBudget, getBudget, found, held]
      unfold Ends
      rw [raised]
      exact ⟨trivial, sound⟩

/-! ## Any calls on any sessions -/

/-- The calls on the budget of one team, each with the time it is made at. -/
inductive BudgetCall
  | getBudget
  | checkAndReserve (estimatedCost : ℚ) (percent : ℕ) (now : Datetime)
  | reconcile (estimatedCost actualCost : ℚ) (now : Datetime)
  | releaseReservation (estimatedCost : ℚ) (now : Datetime)
  | createBudget (budgetId : String) (data : BudgetCreate) (now : Datetime)
  | updateBudget (data : BudgetUpdate) (now : Datetime)
  | deleteBudget

def BudgetCall.perform (teamId : String) : BudgetCall → BudgetM Unit
  | .getBudget => do let _ ← Budgeting.getBudget teamId
  | .checkAndReserve estimatedCost percent now => do
      let _ ← Budgeting.checkAndReserve teamId estimatedCost percent now
  | .reconcile estimatedCost actualCost now => do
      let _ ← Budgeting.reconcile teamId estimatedCost actualCost now
  | .releaseReservation estimatedCost now => Budgeting.releaseReservation teamId estimatedCost now
  | .createBudget budgetId data now => do
      let _ ← Budgeting.createBudget teamId budgetId data now
  | .updateBudget data now => do let _ ← Budgeting.updateBudget teamId data now
  | .deleteBudget => do let _ ← Budgeting.deleteBudget teamId

/-- The id and the period a call creates a row with. -/
def BudgetCall.newRow : BudgetCall → Option (String × BudgetPeriod)
  | .createBudget budgetId data _ => some (budgetId, data.period)
  | _ => none

/-- An estimate is not negative; actual costs and the estimates of the settling
calls may be anything. -/
def BudgetCall.Admissible : BudgetCall → Prop
  | .checkAndReserve estimatedCost _ _ => 0 ≤ estimatedCost
  | _ => True

/-- The stored rows, and the sessions of all requests with the copies they keep. -/
structure Clients where
  budgets : BudgetTable
  sessions : ℕ → AsyncSession

def Clients.start (budgets : BudgetTable) : Clients := ⟨budgets, fun _ => .fresh⟩

/-- A request makes a call on its session, however the call ends. -/
def Clients.call (teamId : String) (clients : Clients) (action : ℕ × BudgetCall) :
    Option Clients :=
  let after := exitState ((action.2.perform teamId).run ⟨clients.budgets, clients.sessions action.1⟩)
  some ⟨after.budgets, Function.update clients.sessions action.1 after.session⟩

/-- Every session is sound about the stored row. -/
def Clients.Sound (teamId : String) (periodOf : String → BudgetPeriod) (clients : Clients) : Prop :=
  ∀ session, Store.Sound teamId periodOf ⟨clients.budgets, clients.sessions session⟩

theorem perform_keeps {call : BudgetCall} (admissible : call.Admissible)
    (named : ∀ row ∈ call.newRow, row.2 = periodOf row.1) :
    Keeps (Store.Sound teamId periodOf) Whatever (call.perform teamId) := by
  cases call with
  | getBudget => exact keeps_bind (getBudget_keeps _) fun _ => keeps_pure _
  | checkAndReserve estimatedCost percent now =>
      exact keeps_bind (checkAndReserve_keeps admissible percent now) fun _ => keeps_pure _
  | reconcile estimatedCost actualCost now =>
      exact keeps_bind (reconcile_keeps estimatedCost actualCost now) fun _ => keeps_pure _
  | releaseReservation estimatedCost now => exact releaseReservation_keeps estimatedCost now
  | createBudget budgetId data now =>
      exact keeps_bind (createBudget_keeps now (named _ rfl)) fun _ => keeps_pure _
  | updateBudget data now => exact keeps_bind (updateBudget_keeps data now) fun _ => keeps_pure _
  | deleteBudget => exact keeps_bind deleteBudget_keeps fun _ => keeps_pure _

theorem call_sound {clients next : Clients} {action : ℕ × BudgetCall}
    (sound : clients.Sound teamId periodOf) (admissible : action.2.Admissible)
    (named : ∀ row ∈ action.2.newRow, row.2 = periodOf row.1)
    (called : clients.call teamId action = some next) : next.Sound teamId periodOf := by
  have exits : Store.Sound teamId periodOf (exitState ((action.2.perform teamId).run
      ⟨clients.budgets, clients.sessions action.1⟩)) :=
    ((perform_keeps admissible named _ (sound action.1)).mono (fun _ _ after => after)
      fun _ _ raised => raised.2).exit
  cases called
  intro session
  refine ⟨exits.row, ?_⟩
  by_cases own : session = action.1
  · subst own
    change ∀ inst ∈ (Function.update clients.sessions action.1 _ action.1).budget, _
    rw [Function.update_self]
    exact exits.copy
  · change ∀ inst ∈ (Function.update clients.sessions action.1 _ session).budget, _
    rw [Function.update_of_ne own]
    exact (sound session).copy

/-- The period of a budget, from the rows a run starts with and creates. -/
def periodOfRows (rows : List (String × BudgetPeriod)) (budgetId : String) : BudgetPeriod :=
  (rows.lookup budgetId).getD .daily

theorem periodOfRows_of_mem {rows : List (String × BudgetPeriod)} {row : String × BudgetPeriod}
    (distinct : (rows.map Prod.fst).Nodup) (member : row ∈ rows) :
    row.2 = periodOfRows rows row.1 := by
  induction rows with
  | nil => cases member
  | cons first rest ih =>
      obtain ⟨notLater, distinctRest⟩ := List.nodup_cons.mp distinct
      unfold periodOfRows
      rcases List.mem_cons.mp member with rfl | later
      · rw [List.lookup_cons_self]
        rfl
      · have other : (row.1 == first.1) = false :=
          beq_false_of_ne fun same => notLater (same ▸ List.mem_map_of_mem later)
        rw [List.lookup_cons, other]
        exact ih distinctRest later

/-- The rows a run starts with and creates. -/
def rowsOf (teamId : String) (budgets : BudgetTable) (actions : List (ℕ × BudgetCall)) :
    List (String × BudgetPeriod) :=
  (budgets teamId).toList.map (fun row => (row.id, row.period)) ++
    actions.filterMap fun action => action.2.newRow

end Calls

/-- What the columns of a row promise. -/
structure Budget.WellFormed (teamId : String) (budget : Budget) : Prop where
  team : budget.teamId = teamId
  limit : 0 ≤ budget.limitAmount
  usage : 0 ≤ budget.currentUsage
  reserved : 0 ≤ budget.reserved
  periodEnd : budget.periodEnd = computePeriodEnd budget.period budget.periodStart

/-- Requests keep copies of rows that others have changed, deleted or created
anew meanwhile, and call in any order; no budget is created under an id that
was used before.  What is stored is well formed after every call. -/
theorem rows_wellFormed_throughout (teamId : String) (budgets : BudgetTable)
    (actions : List (ℕ × BudgetCall)) (start : ∀ row ∈ budgets teamId, row.WellFormed teamId)
    (admissible : ∀ action ∈ actions, action.2.Admissible)
    (freshIds : ((rowsOf teamId budgets actions).map Prod.fst).Nodup) :
    Transition.HoldsThroughout (Clients.call teamId)
      (fun clients => ∀ row ∈ clients.budgets teamId, row.WellFormed teamId)
      (Clients.start budgets) actions := by
  have startSound : (Clients.start budgets).Sound teamId
      (periodOfRows (rowsOf teamId budgets actions)) := by
    refine fun session => ⟨fun row found => ?_, fun inst member => by cases member⟩
    have holds := start row found
    have listed : (row.id, row.period) ∈ rowsOf teamId budgets actions :=
      List.mem_append_left _ (List.mem_map.mpr ⟨row, Option.mem_toList.mpr found, rfl⟩)
    exact ⟨holds.team, periodOfRows_of_mem freshIds listed, holds.limit, holds.usage,
      holds.reserved, holds.periodEnd⟩
  have named : ∀ action ∈ actions, ∀ row ∈ action.2.newRow,
      row.2 = periodOfRows (rowsOf teamId budgets actions) row.1 := fun action member row creates =>
    periodOfRows_of_mem freshIds
      (List.mem_append_right _ (List.mem_filterMap.mpr ⟨action, member, creates⟩))
  have throughout := Transition.holdsThroughout_of_steps (Clients.call teamId)
    (Clients.Sound teamId (periodOfRows (rowsOf teamId budgets actions)))
    (fun _ action => action ∈ actions)
    (fun _ action _ sound member called =>
      call_sound sound (admissible action member) (named action member) called)
    (Clients.start budgets) startSound actions
    fun before action initial _ _ _ _ => initial.subset (List.mem_append_right _ (by simp))
  refine throughout.imp _ fun clients sound row found => ?_
  have valid := (sound 0).row row found
  exact ⟨valid.team, valid.limit, valid.usage, valid.reserved, valid.periodEnd⟩

/-- Two requests on kept sessions, the second of them past the end of the period. -/
def acrossPeriods : List (ℕ × BudgetCall) :=
  let april : Datetime := .ofDate .aprilFirst
  [(0, .createBudget "b1" (tenDollars .monthly .BLOCK) april),
    (1, .checkAndReserve 3 80 april),
    (2, .checkAndReserve 4 80 (april.addDays 40)),
    (1, .reconcile 3 2 (april.addDays 40))]

theorem acrossPeriods_wellFormed :
    Transition.HoldsThroughout (Clients.call "a")
      (fun clients => ∀ row ∈ clients.budgets "a", row.WellFormed "a")
      (Clients.start fun _ => none) acrossPeriods :=
  rows_wellFormed_throughout "a" (fun _ => none) acrossPeriods (fun _ located => by cases located)
    (by simp [acrossPeriods, BudgetCall.Admissible]) (by decide)

end CortexGateway.Budgeting
