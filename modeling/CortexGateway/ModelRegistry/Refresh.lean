import CortexGateway.Lib.Run
import CortexGateway.Routing.Metadata

/-! # Refreshing the catalog

The model-registry requests of `app/api/v1/endpoints/model_registry.py` and the
background loop of `app/main.py` over one catalog.  A request selects, flushes,
reads the enabled rows on its own session, swaps the dictionary and commits;
the loop reads and swaps.  The lock of `load_from_db` covers the swap alone, so
what is swapped in last need not have been read last.  The catalog is right
whenever nothing is in flight as long as the last dictionary to be swapped in
was read after every commit. -/
set_option autoImplicit false
namespace CortexGateway.ModelRegistry
open Transition ModelRegistryService

/-- What a flush has sent to the database. -/
inductive Write
  | insert (row : ModelRegistryEntry)
  | replace (row : ModelRegistryEntry)
  | remove (row : ModelRegistryEntry)

namespace Write

def row : Write → ModelRegistryEntry
  | .insert row => row
  | .replace row => row
  | .remove row => row

def apply (rows : List ModelRegistryEntry) : Write → List ModelRegistryEntry
  | .insert row => rows ++ [row]
  | .replace row => rows.map fun other => if other.id = row.id then row else other
  | .remove row => rows.filter fun other => other.id ≠ row.id

end Write

/-- An uncommitted transaction, with the instance its session holds. -/
structure Change where
  write : Option Write
  copy : Option ModelRegistryEntry

namespace Change

/-- The rows the transaction sees, or leaves when it commits. -/
def rows (change : Change) (committed : List ModelRegistryEntry) : List ModelRegistryEntry :=
  match change.write with
  | some write => write.apply committed
  | none => committed

/-- A query hands back the instance the session holds, as it holds it. -/
def identity (change : Change) (row : ModelRegistryEntry) : ModelRegistryEntry :=
  match change.copy with
  | some copy => if row.id = copy.id then copy else row
  | none => row

/-- `get_all_for_catalog` on the session of the transaction. -/
def entries (change : Change) (committed : List ModelRegistryEntry) : List ModelRegistryEntry :=
  (getAllForCatalog (change.rows committed)).map change.identity

/-- The instance is the row as the transaction sees it. -/
def Current (change : Change) (committed : List ModelRegistryEntry) : Prop :=
  ∀ row ∈ change.rows committed, change.identity row = row

instance (change : Change) (committed : List ModelRegistryEntry) :
    Decidable (change.Current committed) :=
  inferInstanceAs (Decidable (∀ row ∈ change.rows committed, change.identity row = row))

theorem entries_of_current {change : Change} {committed : List ModelRegistryEntry}
    (current : change.Current committed) :
    change.entries committed = getAllForCatalog (change.rows committed) := by
  unfold entries
  conv_rhs => rw [← List.map_id (getAllForCatalog (change.rows committed))]
  apply List.map_congr_left
  intro row member
  exact current row (mem_getAllForCatalog.mp member).1

end Change

inductive Mutation
  | create (data : ModelRegistryCreate) (id : String)
  | update (modelId : String) (data : ModelRegistryUpdate)
  | delete (modelId : String)

/-- What a read of the enabled rows saw: every row as after so many commits,
perhaps with the uncommitted change of a request, or an outdated instance. -/
inductive Seen (n : ℕ)
  | committed (commits : ℕ)
  | withOwn (commits : ℕ) (i : Fin n)
  | outdated
  deriving DecidableEq

/-- A `load_from_db` between its read and its swap. -/
structure Load (n : ℕ) where
  seen : Seen n
  entries : List ModelRegistryEntry

/-- How far a request is. -/
inductive Progress (n : ℕ)
  | waiting
  | loaded (copy : Option ModelRegistryEntry)
  | flushed (change : Change)
  | read (change : Change) (load : Load n)
  | published (change : Change)
  | finished

namespace Progress
variable {n : ℕ}

/-- What the request has written and not committed. -/
def write : Progress n → Option Write
  | .flushed change => change.write
  | .read change _ => change.write
  | .published change => change.write
  | _ => none

/-- The request has begun and has not finished. -/
def inFlight : Progress n → Bool
  | .waiting => false
  | .finished => false
  | _ => true

end Progress

/-- `commits` counts the commits that wrote, and `installed` is what the read
behind the catalog saw. -/
structure State (n : ℕ) where
  rows : List ModelRegistryEntry
  catalog : CatalogDict
  loop : Option (Load n)
  progress : Fin n → Progress n
  commits : ℕ
  installed : Seen n

namespace State
variable {n : ℕ}

def put (state : State n) (i : Fin n) (progress : Progress n) : State n :=
  { state with progress := Function.update state.progress i progress }

@[simp] theorem put_self (state : State n) (i : Fin n) (progress : Progress n) :
    (state.put i progress).progress i = progress := Function.update_self ..

theorem put_other (state : State n) {i j : Fin n} (progress : Progress n) (other : j ≠ i) :
    (state.put i progress).progress j = state.progress j := Function.update_of_ne other ..

/-- Another transaction has written a row with the same unique columns. -/
def Locked (state : State n) (i : Fin n) (row : ModelRegistryEntry) : Prop :=
  ∃ j, j ≠ i ∧ (state.progress j).write.any (fun write => row.clash write.row) = true

instance (state : State n) (i : Fin n) (row : ModelRegistryEntry) :
    Decidable (state.Locked i row) :=
  inferInstanceAs (Decidable (∃ j, j ≠ i ∧
    (state.progress j).write.any (fun write => row.clash write.row) = true))

/-- Swap of the dictionary under the lock. -/
def install (state : State n) (load : Load n) : State n :=
  { state with
    catalog := newCatalog load.entries
    installed := load.seen }

/-- COMMIT. -/
def commit (state : State n) (i : Fin n) (change : Change) : State n :=
  match change.write with
  | none => state.put i .finished
  | some write =>
      { state with
        rows := write.apply state.rows
        progress := Function.update state.progress i .finished
        commits := state.commits + 1
        installed :=
          if state.installed = .withOwn state.commits i then .committed (state.commits + 1)
          else state.installed }

/-- What a read on the session of a request sees. -/
def seenBy (state : State n) (i : Fin n) (change : Change) : Seen n :=
  if change.Current state.rows then
    if change.write.isSome then .withOwn state.commits i else .committed state.commits
  else .outdated

end State

/-- What the flush of a request comes to. -/
inductive FlushOutcome
  | waits
  | refused
  | sent (change : Change)

section Interleaving
variable {n : ℕ} (mutations : Fin n → Mutation)

/-- The first query of a request: the duplicate check, or the row by its id. -/
def select (rows : List ModelRegistryEntry) : Mutation → Progress n
  | .create data _ =>
      match getByProviderModel rows data.provider data.modelName with
      | some _ => .finished
      | none => .loaded none
  | .update modelId _ =>
      match getModel rows modelId with
      | some row => .loaded (some row)
      | none => .finished
  | .delete modelId =>
      match getModel rows modelId with
      | some row => .loaded (some row)
      | none => .finished

/-- INSERT, UPDATE of the changed columns, or DELETE.  An update that changes
nothing is not sent; an update of a row that has gone is refused. -/
def flush (state : State n) (i : Fin n) (copy : Option ModelRegistryEntry) :
    Mutation → FlushOutcome
  | .create data id =>
      let row := newEntry data id
      if state.Locked i row then .waits
      else if state.rows.any row.clash then .refused
      else .sent ⟨some (.insert row), some row⟩
  | .update _ data =>
      match copy with
      | none => .refused
      | some loaded =>
          match setattrs data loaded with
          | none => .refused
          | some attrs =>
              if attrs = loaded then .sent ⟨none, some loaded⟩
              else if state.Locked i loaded then .waits
              else
                match getModel state.rows loaded.id with
                | none => .refused
                | some row => .sent ⟨some (.replace (updated loaded attrs row)), some attrs⟩
  | .delete _ =>
      match copy with
      | none => .refused
      | some loaded =>
          if state.Locked i loaded then .waits
          else
            match getModel state.rows loaded.id with
            | none => .sent ⟨none, none⟩
            | some row => .sent ⟨some (.remove row), none⟩

inductive Action (n : ℕ)
  | statement (i : Fin n)
  | abandon (i : Fin n)
  | loopRead
  | loopSwap
  | loopFail

/-- The next step of a request or of the loop.  A request that is refused or
abandoned is rolled back. -/
def step (state : State n) : Action n → Option (State n)
  | .statement i =>
      match state.progress i with
      | .waiting => some (state.put i (select state.rows (mutations i)))
      | .loaded copy =>
          match flush state i copy (mutations i) with
          | .waits => none
          | .refused => some (state.put i .finished)
          | .sent change => some (state.put i (.flushed change))
      | .flushed change =>
          some (state.put i (.read change ⟨state.seenBy i change, change.entries state.rows⟩))
      | .read change load => some ((state.install load).put i (.published change))
      | .published change => some (state.commit i change)
      | .finished => none
  | .abandon i =>
      if (state.progress i).inFlight then some (state.put i .finished) else none
  | .loopRead =>
      match state.loop with
      | some _ => none
      | none =>
          some { state with
            loop := some ⟨.committed state.commits, getAllForCatalog state.rows⟩ }
  | .loopSwap =>
      match state.loop with
      | none => none
      | some load => some { state.install load with loop := none }
  | .loopFail =>
      match state.loop with
      | none => none
      | some _ => some { state with loop := none }

/-- The ways the requests and the loop can go on. -/
inductive Stepped (state : State n) : Action n → State n → Prop
  | selects (i : Fin n) (waiting : state.progress i = .waiting) :
      Stepped state (.statement i) (state.put i (select state.rows (mutations i)))
  | refused (i : Fin n) (copy : Option ModelRegistryEntry)
      (loaded : state.progress i = .loaded copy)
      (refused : flush state i copy (mutations i) = .refused) :
      Stepped state (.statement i) (state.put i .finished)
  | flushes (i : Fin n) (copy : Option ModelRegistryEntry) (change : Change)
      (loaded : state.progress i = .loaded copy)
      (sent : flush state i copy (mutations i) = .sent change) :
      Stepped state (.statement i) (state.put i (.flushed change))
  | reads (i : Fin n) (change : Change) (flushed : state.progress i = .flushed change) :
      Stepped state (.statement i)
        (state.put i (.read change ⟨state.seenBy i change, change.entries state.rows⟩))
  | publishes (i : Fin n) (change : Change) (load : Load n)
      (reading : state.progress i = .read change load) :
      Stepped state (.statement i) ((state.install load).put i (.published change))
  | commits (i : Fin n) (change : Change) (published : state.progress i = .published change) :
      Stepped state (.statement i) (state.commit i change)
  | abandons (i : Fin n) (flying : (state.progress i).inFlight = true) :
      Stepped state (.abandon i) (state.put i .finished)
  | loopReads (idle : state.loop = none) :
      Stepped state .loopRead
        { state with loop := some ⟨.committed state.commits, getAllForCatalog state.rows⟩ }
  | loopSwaps (load : Load n) (found : state.loop = some load) :
      Stepped state .loopSwap { state.install load with loop := none }
  | loopFails (load : Load n) (found : state.loop = some load) :
      Stepped state .loopFail { state with loop := none }

theorem stepped_of_step (state next : State n) (a : Action n)
    (stepped : step mutations state a = some next) : Stepped mutations state a next := by
  cases a with
  | statement i =>
      simp only [step] at stepped
      split at stepped
      next waiting =>
        cases stepped
        exact .selects i waiting
      next copy loaded =>
        split at stepped
        next => cases stepped
        next refused =>
          cases stepped
          exact .refused i copy loaded refused
        next change sent =>
          cases stepped
          exact .flushes i copy change loaded sent
      next change flushed =>
        cases stepped
        exact .reads i change flushed
      next change load reading =>
        cases stepped
        exact .publishes i change load reading
      next change published =>
        cases stepped
        exact .commits i change published
      next => cases stepped
  | abandon i =>
      obtain ⟨flying, moved⟩ := Option.ite_none_right_eq_some.mp stepped
      cases moved
      exact .abandons i flying
  | loopRead =>
      simp only [step] at stepped
      split at stepped
      next => cases stepped
      next idle =>
        cases stepped
        exact .loopReads idle
  | loopSwap =>
      simp only [step] at stepped
      split at stepped
      next => cases stepped
      next load found =>
        cases stepped
        exact .loopSwaps load found
  | loopFail =>
      simp only [step] at stepped
      split at stepped
      next => cases stepped
      next load found =>
        cases stepped
        exact .loopFails load found

/-- The catalog as the startup loads it. -/
def start (rows : List ModelRegistryEntry) : State n :=
  { rows := rows
    catalog := newCatalog (getAllForCatalog rows)
    loop := none
    progress := fun _ => .waiting
    commits := 0
    installed := .committed 0 }

/-- No mutation has begun without finishing, and no load is in progress. -/
def Quiet (state : State n) : Prop :=
  (∀ i, (state.progress i).inFlight = false) ∧ state.loop = none

/-- In a quiet state the catalog is that of the committed enabled rows. -/
def Converged (state : State n) : Prop :=
  Quiet state → state.catalog = newCatalog (getAllForCatalog state.rows)

/-- Every other request is idle, and the loop too. -/
def LastInFlight (state : State n) (i : Fin n) : Prop :=
  (∀ j, j ≠ i → (state.progress j).inFlight = false) ∧ state.loop = none

/-- If the next statement of a request is its last, the catalog was read after
every commit, its own included. -/
def EndsCurrent (state : State n) (i : Fin n) : Progress n → Prop
  | .loaded copy => (flush state i copy (mutations i) matches .refused) →
      state.installed = .committed state.commits
  | .published change => state.installed =
      if change.write.isSome then .withOwn state.commits i else .committed state.commits
  | _ => True

/-- The step that ends what was last in flight leaves a catalog that was read
after every commit. -/
def ReadLast (state : State n) : Action n → Prop
  | .statement i => LastInFlight state i → EndsCurrent mutations state i (state.progress i)
  | .abandon i => LastInFlight state i → (state.progress i).inFlight = true →
      state.installed = .committed state.commits
  | .loopRead => True
  | .loopSwap => ∀ load ∈ state.loop, (∀ j, (state.progress j).inFlight = false) →
      load.seen = .committed state.commits
  | .loopFail => ∀ load ∈ state.loop, (∀ j, (state.progress j).inFlight = false) →
      state.installed = .committed state.commits

/-! ## What a read saw -/

namespace Progress

/-- The transaction a request has open, once it has flushed. -/
def change? : Progress n → Option Change
  | .flushed change => some change
  | .read change _ => some change
  | .published change => some change
  | _ => none

/-- The flush is behind the request. -/
def past : Progress n → Bool
  | .waiting => false
  | .loaded _ => false
  | _ => true

end Progress

/-- The entries of a read that saw the rows as they are now, perhaps with a
change that is still open, are the enabled ones of these rows. -/
def Faithful (state : State n) (entries : List ModelRegistryEntry) : Seen n → Prop
  | .committed commits => commits ≤ state.commits ∧
      (commits = state.commits → entries = getAllForCatalog state.rows)
  | .withOwn commits i => commits ≤ state.commits ∧ (state.progress i).past = true ∧
      (commits = state.commits → ∀ change ∈ (state.progress i).change?,
        entries = getAllForCatalog (change.rows state.rows))
  | .outdated => True

omit mutations in
/-- Nothing a read saw changes while a request moves on without committing. -/
theorem faithful_put {state : State n} {entries : List ModelRegistryEntry} {seen : Seen n}
    (faithful : Faithful state entries seen) (i : Fin n) (further : Progress n)
    (later : (state.progress i).past = true → further.past = true ∧
      ∀ change ∈ further.change?, change ∈ (state.progress i).change?) :
    Faithful (state.put i further) entries seen := by
  cases seen with
  | committed commits => exact faithful
  | outdated => trivial
  | withOwn commits j =>
      obtain ⟨bounded, past, same⟩ := faithful
      simp only [Faithful]
      by_cases self : j = i
      · subst self
        obtain ⟨furtherPast, kept⟩ := later past
        rw [State.put_self]
        exact ⟨bounded, furtherPast, fun now change held => same now change (kept change held)⟩
      · rw [State.put_other state further self]
        exact ⟨bounded, past, same⟩

omit mutations in
/-- A commit that writes leaves every earlier read behind. -/
theorem faithful_commit {state : State n} {entries : List ModelRegistryEntry} {seen : Seen n}
    (faithful : Faithful state entries seen) (i : Fin n) (change : Change) (write : Write)
    (writes : change.write = some write) : Faithful (state.commit i change) entries seen := by
  unfold State.commit
  rw [writes]
  cases seen with
  | committed commits =>
      have bounded := faithful.1
      simp only [Faithful]
      exact ⟨by omega, fun now => by omega⟩
  | outdated => trivial
  | withOwn commits j =>
      obtain ⟨bounded, past, -⟩ := faithful
      simp only [Faithful]
      refine ⟨by omega, ?_, fun now => by omega⟩
      by_cases self : j = i
      · rw [self, Function.update_self]
        rfl
      · rw [Function.update_of_ne self]
        exact past

/-- The catalog and the loads in progress hold what was read for them. -/
structure Tracked (state : State n) : Prop where
  catalog : ∃ entries, state.catalog = newCatalog entries ∧
    Faithful state entries state.installed
  loop : ∀ load ∈ state.loop, Faithful state load.entries load.seen
  reads : ∀ i change load, state.progress i = .read change load →
    Faithful state load.entries load.seen

omit mutations in
theorem tracked_put {state : State n} (tracked : Tracked state) (i : Fin n)
    (further : Progress n)
    (later : (state.progress i).past = true → further.past = true ∧
      ∀ change ∈ further.change?, change ∈ (state.progress i).change?)
    (reading : ∀ change load, further = .read change load →
      Faithful (state.put i further) load.entries load.seen) : Tracked (state.put i further) := by
  obtain ⟨⟨entries, loaded, faithful⟩, loop, reads⟩ := tracked
  refine ⟨⟨entries, loaded, faithful_put faithful i further later⟩,
    fun load member => faithful_put (loop load member) i further later, ?_⟩
  intro j change load found
  by_cases self : j = i
  · subst self
    rw [State.put_self] at found
    exact reading change load found
  · rw [State.put_other state further self] at found
    exact faithful_put (reads j change load found) i further later

omit mutations in
theorem tracked_install {state : State n} (tracked : Tracked state) (load : Load n)
    (faithful : Faithful state load.entries load.seen) : Tracked (state.install load) :=
  ⟨⟨load.entries, rfl, faithful⟩, tracked.loop, tracked.reads⟩

omit mutations in
theorem tracked_commit {state : State n} (tracked : Tracked state) (i : Fin n) (change : Change)
    (published : state.progress i = .published change) : Tracked (state.commit i change) := by
  cases writes : change.write with
  | none =>
      unfold State.commit
      rw [writes]
      exact tracked_put tracked i .finished (fun _ => ⟨rfl, by simp [Progress.change?]⟩)
        (fun _ _ reading => by cases reading)
  | some write =>
      obtain ⟨⟨entries, loaded, faithful⟩, loop, reads⟩ := tracked
      refine ⟨⟨entries, ?_, ?_⟩, ?_, ?_⟩
      · unfold State.commit
        rw [writes]
        exact loaded
      · by_cases own : state.installed = .withOwn state.commits i
        · -- what was read with the change of the request is what it commits
          rw [own] at faithful
          have read := faithful.2.2 rfl change (by rw [published]; rfl)
          unfold Change.rows at read
          rw [writes] at read
          unfold State.commit
          rw [writes]
          simp only [own, if_true, Faithful]
          exact ⟨le_refl _, fun _ => read⟩
        · have installed : (state.commit i change).installed = state.installed := by
            unfold State.commit
            rw [writes]
            exact if_neg own
          rw [installed]
          exact faithful_commit faithful i change write writes
      · intro load member
        apply faithful_commit (loop load _) i change write writes
        simpa [State.commit, writes] using member
      · intro j other load found
        apply faithful_commit (reads j other load _) i change write writes
        by_cases self : j = i
        · simp [State.commit, writes, self] at found
        · simpa [State.commit, writes, Function.update_of_ne self] using found

omit mutations in
theorem faithful_seenBy (state : State n) (i : Fin n) (change : Change) :
    Faithful (state.put i (.read change ⟨state.seenBy i change, change.entries state.rows⟩))
      (change.entries state.rows) (state.seenBy i change) := by
  unfold State.seenBy
  split_ifs with current writes
  · refine ⟨le_refl _, by simp [State.put, Progress.past], fun _ other held => ?_⟩
    simp only [State.put, Function.update_self, Progress.change?, Option.mem_some_iff] at held
    subst held
    exact Change.entries_of_current current
  · refine ⟨le_refl _, fun _ => ?_⟩
    rw [Change.entries_of_current current, Change.rows, Option.not_isSome_iff_eq_none.mp writes]
    rfl
  · trivial

theorem tracked_step (state next : State n) (a : Action n) (tracked : Tracked state)
    (stepped : step mutations state a = some next) : Tracked next := by
  cases stepped_of_step mutations state next a stepped with
  | selects i waiting =>
      refine tracked_put tracked i _ (fun past => by rw [waiting] at past; cases past) ?_
      intro change load reading
      unfold select at reading
      split at reading <;> split at reading <;> cases reading
  | refused i copy loaded refused =>
      exact tracked_put tracked i .finished (fun past => by rw [loaded] at past; cases past)
        (fun _ _ reading => by cases reading)
  | flushes i copy change loaded sent =>
      exact tracked_put tracked i _ (fun past => by rw [loaded] at past; cases past)
        (fun _ _ reading => by cases reading)
  | reads i change flushed =>
      refine tracked_put tracked i _ (fun _ => ⟨rfl, ?_⟩) ?_
      · rw [flushed]
        exact fun _ held => held
      · intro other load reading
        cases reading
        exact faithful_seenBy state i change
  | publishes i change load reading =>
      have installed := tracked_install tracked load (tracked.reads i change load reading)
      refine tracked_put installed i _ (fun _ => ⟨rfl, ?_⟩) (fun _ _ reads => by cases reads)
      simp only [State.install]
      rw [reading]
      exact fun _ held => held
  | commits i change published => exact tracked_commit tracked i change published
  | abandons i flying =>
      exact tracked_put tracked i .finished (fun _ => ⟨rfl, by simp [Progress.change?]⟩)
        (fun _ _ reading => by cases reading)
  | loopReads idle =>
      refine ⟨tracked.catalog, ?_, tracked.reads⟩
      intro load member
      cases member
      exact ⟨le_refl _, fun _ => rfl⟩
  | loopSwaps load found =>
      have installed := tracked_install tracked load (tracked.loop load found)
      exact ⟨installed.catalog, (fun _ member => by cases member), installed.reads⟩
  | loopFails load found =>
      exact ⟨tracked.catalog, (fun _ member => by cases member), tracked.reads⟩

/-! ## Quiet states -/

omit mutations in
/-- A request whose step leaves everything quiet was the last in flight. -/
theorem lastInFlight_of_quiet {state : State n} {i : Fin n} {further : Progress n}
    (quiet : Quiet (state.put i further)) :
    LastInFlight state i ∧ further.inFlight = false := by
  obtain ⟨idle, loop⟩ := quiet
  refine ⟨⟨fun j other => ?_, loop⟩, ?_⟩
  · rw [← State.put_other state further other]
    exact idle j
  · rw [← State.put_self state i further]
    exact idle i

/-- Whenever it is quiet, the catalog was read after every commit. -/
def Settled (state : State n) : Prop :=
  Quiet state → state.installed = .committed state.commits

omit mutations in
theorem settled_commit (state : State n) (i : Fin n) (change : Change)
    (readLast : LastInFlight state i → state.installed =
      if change.write.isSome then .withOwn state.commits i else .committed state.commits) :
    Settled (state.commit i change) := by
  intro quiet
  have last : LastInFlight state i := by
    obtain ⟨idle, loop⟩ := quiet
    refine ⟨fun j other => ?_, ?_⟩
    · have after := idle j
      cases writes : change.write <;>
        simpa [State.commit, writes, State.put, Function.update_of_ne other] using after
    · cases writes : change.write <;> simpa [State.commit, writes, State.put] using loop
  have installed := readLast last
  cases writes : change.write with
  | none =>
      rw [writes] at installed
      simpa [State.commit, writes, State.put] using installed
  | some write =>
      rw [writes] at installed
      simp only [State.commit, writes]
      exact if_pos installed

theorem settled_step (state next : State n) (a : Action n) (settled : Settled state)
    (readLast : ReadLast mutations state a) (stepped : step mutations state a = some next) :
    Settled next := by
  cases stepped_of_step mutations state next a stepped with
  | selects i waiting =>
      -- the request has not begun, so it was quiet before
      intro quiet
      obtain ⟨⟨others, loop⟩, -⟩ := lastInFlight_of_quiet quiet
      apply settled
      refine ⟨fun j => ?_, loop⟩
      by_cases self : j = i
      · rw [self, waiting]
        rfl
      · exact others j self
  | refused i copy loaded refused =>
      intro quiet
      have ends := readLast (lastInFlight_of_quiet quiet).1
      rw [loaded] at ends
      exact ends (by rw [refused])
  | flushes i copy change loaded sent =>
      intro quiet
      cases (lastInFlight_of_quiet quiet).2
  | reads i change flushed =>
      intro quiet
      cases (lastInFlight_of_quiet quiet).2
  | publishes i change load reading =>
      intro quiet
      cases (lastInFlight_of_quiet quiet).2
  | commits i change published =>
      refine settled_commit state i change fun last => ?_
      have ends := readLast last
      rw [published] at ends
      exact ends
  | abandons i flying =>
      intro quiet
      exact readLast (lastInFlight_of_quiet quiet).1 flying
  | loopReads idle =>
      intro quiet
      cases quiet.2
  | loopSwaps load found =>
      intro quiet
      exact readLast load found quiet.1
  | loopFails load found =>
      intro quiet
      exact readLast load found quiet.1

omit mutations in
theorem converged_of_settled (state : State n) (tracked : Tracked state)
    (settled : Settled state) : Converged state := by
  intro quiet
  obtain ⟨entries, loaded, faithful⟩ := tracked.catalog
  rw [settled quiet] at faithful
  rw [loaded, faithful.2 rfl]

/-- The catalog converges in every interleaving that ends each busy stretch with
a catalog that was read after every commit. -/
theorem catalog_converges (rows : List ModelRegistryEntry) (actions : List (Action n))
    (readLast : StepsMeet (step mutations) (ReadLast mutations) (start rows) actions) :
    HoldsThroughout (step mutations) Converged (start rows) actions := by
  have invariant := holdsThroughout_of_steps (step mutations)
    (fun state => Tracked state ∧ Settled state) (ReadLast mutations)
    (fun state a next holds guarded stepped =>
      ⟨tracked_step mutations state next a holds.1 stepped,
        settled_step mutations state next a holds.2 guarded stepped⟩)
    (start rows)
    ⟨⟨⟨_, rfl, le_refl _, fun _ => rfl⟩, (fun _ member => by cases member),
      fun _ _ _ reading => by cases reading⟩, fun _ => rfl⟩ actions readLast
  exact invariant.imp (step mutations) fun state holds =>
    converged_of_settled state holds.1 holds.2

end Interleaving

/-! ## One model that is switched off -/

instance {n : ℕ} (state : State n) : Decidable (Quiet state) :=
  inferInstanceAs (Decidable ((∀ i, (state.progress i).inFlight = false) ∧ state.loop = none))

instance {n : ℕ} (state : State n) (i : Fin n) : Decidable (LastInFlight state i) :=
  inferInstanceAs (Decidable ((∀ j, j ≠ i → (state.progress j).inFlight = false) ∧
    state.loop = none))

instance {n : ℕ} (mutations : Fin n → Mutation) (state : State n) (i : Fin n) :
    (progress : Progress n) → Decidable (EndsCurrent mutations state i progress)
  | .loaded copy => inferInstanceAs (Decidable ((flush state i copy (mutations i) matches .refused) →
      state.installed = .committed state.commits))
  | .published change => inferInstanceAs (Decidable (state.installed =
      if change.write.isSome then .withOwn state.commits i else .committed state.commits))
  | .waiting => isTrue trivial
  | .flushed _ => isTrue trivial
  | .read _ _ => isTrue trivial
  | .finished => isTrue trivial

instance {n : ℕ} (mutations : Fin n → Mutation) (state : State n) :
    (a : Action n) → Decidable (ReadLast mutations state a)
  | .statement i => inferInstanceAs (Decidable (LastInFlight state i →
      EndsCurrent mutations state i (state.progress i)))
  | .abandon i => inferInstanceAs (Decidable (LastInFlight state i →
      (state.progress i).inFlight = true → state.installed = .committed state.commits))
  | .loopRead => isTrue trivial
  | .loopSwap => inferInstanceAs (Decidable (∀ load ∈ state.loop,
      (∀ j, (state.progress j).inFlight = false) → load.seen = .committed state.commits))
  | .loopFail => inferInstanceAs (Decidable (∀ load ∈ state.loop,
      (∀ j, (state.progress j).inFlight = false) → state.installed = .committed state.commits))

/-- A PATCH that disables the model. -/
def switchOff : Fin 1 → Mutation := fun _ => .update "model-1"
  { displayName := none, inputCostPer1k := none, outputCostPer1k := none, capabilities := none,
    contextWindow := none, baselineLatencyMs := none, enabled := some (some false) }

/-- Select, flush, read, swap, commit. -/
def request : List (Action 1) := List.replicate 5 (.statement 0)

/-- The loop reads before the request and swaps after it. -/
theorem older_read_installed :
    ∃ state, run (step switchOff) (start [groqLlama]) (.loopRead :: request ++ [.loopSwap]) =
        some state ∧
      Quiet state ∧ state.rows.map ModelRegistryEntry.enabled = [false] ∧
      state.catalog.map Prod.fst = ["groq:llama"] ∧ ¬ Converged state := by
  have ran : (run (step switchOff) (start [groqLlama])
      (.loopRead :: request ++ [.loopSwap])).map (fun state => (decide (Quiet state),
        state.rows.map ModelRegistryEntry.enabled, state.catalog.map Prod.fst,
        (newCatalog (ModelRegistryService.getAllForCatalog state.rows)).map Prod.fst)) =
      some (true, [false], ["groq:llama"], []) := by decide +kernel
  obtain ⟨state, reached, found⟩ := Option.map_eq_some_iff.mp ran
  simp only [Prod.mk.injEq, decide_eq_true_eq] at found
  obtain ⟨quiet, disabled, catalog, expected⟩ := found
  refine ⟨state, reached, quiet, disabled, catalog, fun converged => ?_⟩
  rw [converged quiet, expected] at catalog
  cases catalog

/-- The loop reads again after the request. -/
theorem later_read_converges :
    HoldsThroughout (step switchOff) Converged (start [groqLlama])
      (request ++ [.loopRead, .loopSwap]) :=
  catalog_converges switchOff [groqLlama] _ (by decide +kernel)

end CortexGateway.ModelRegistry
