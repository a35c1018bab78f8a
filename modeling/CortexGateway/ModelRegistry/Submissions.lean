import CortexGateway.Budget.Calls
import CortexGateway.ModelRegistry.Refresh
import CortexGateway.ModelRegistry.Schemas

/-! # Requests to the registry, one after the other

A body the validators refuse leaves the table as it is, and so does a request
whose flush the constraints refuse.  A PATCH that sets the capabilities to null
is refused later: the column takes a JSON null, the answer cannot be built from
it and the transaction is rolled back.  Every table that is reached has one row
for a model, and well formed rows. -/
set_option autoImplicit false
namespace CortexGateway.ModelRegistry
open Validation ModelRegistryService

/-- A request as it comes in; the id is the fresh one of the row. -/
inductive Submission
  | post (body : Value) (id : String)
  | patch (modelId : String) (body : Value)
  | delete (modelId : String)

/-- A mutation whose data the validators have accepted. -/
inductive Accepted : Mutation → Prop
  | create (valid : ValidCreate) (id : String) : Accepted (.create valid.data id)
  | update (modelId : String) (valid : ValidUpdate) : Accepted (.update modelId valid.data)
  | delete (modelId : String) : Accepted (.delete modelId)

def Submission.mutation (coercions : Coercions) : Submission → Validated Mutation
  | .post body id => (validateCreate coercions body).map fun valid => .create valid.data id
  | .patch modelId body =>
      (validateUpdate coercions body).map fun valid => .update modelId valid.data
  | .delete modelId => .ok (.delete modelId)

/-- The only request. -/
def alone : Fin 1 := ⟨0, Nat.one_pos⟩

/-- What a request that runs alone leaves committed. -/
def commitAlone (rows : List ModelRegistryEntry) (mutation : Mutation) : List ModelRegistryEntry :=
  match (select rows mutation : Progress 1) with
  | .loaded copy =>
      match flush (start rows : State 1) alone copy mutation with
      | .sent change => change.rows rows
      | _ => rows
  | _ => rows

def submitted (coercions : Coercions) (rows : List ModelRegistryEntry) (submission : Submission) :
    List ModelRegistryEntry :=
  match submission.mutation coercions with
  | .error _ => rows
  | .ok mutation => commitAlone rows mutation

theorem accepted_mutation {coercions : Coercions} {submission : Submission} {mutation : Mutation}
    (validated : submission.mutation coercions = .ok mutation) : Accepted mutation := by
  cases submission with
  | post body id =>
      obtain ⟨valid, _, rfl⟩ := Validated.map_eq_ok.mp validated
      exact .create valid id
  | patch modelId body =>
      obtain ⟨valid, _, rfl⟩ := Validated.map_eq_ok.mp validated
      exact .update modelId valid
  | delete modelId => exact Except.ok.inj validated ▸ .delete modelId

/-- The ways a request that runs alone can end. -/
inductive Committed (rows : List ModelRegistryEntry) : Mutation → List ModelRegistryEntry → Prop
  | kept (mutation : Mutation) : Committed rows mutation rows
  | created (data : ModelRegistryCreate) (id : String)
      (distinct : ∀ row ∈ rows, (newEntry data id).clash row = false) :
      Committed rows (.create data id) (rows ++ [newEntry data id])
  | updated (modelId : String) (data : ModelRegistryUpdate) (loaded attrs : ModelRegistryEntry)
      (found : loaded ∈ rows) (set : setattrs data loaded = some attrs) :
      Committed rows (.update modelId data)
        (rows.map fun row => if row.id = loaded.id then attrs else row)
  | deleted (modelId : String) (loaded : ModelRegistryEntry) :
      Committed rows (.delete modelId) (rows.filter fun row => row.id ≠ loaded.id)

/-- The columns that name a row are not written. -/
theorem setattrs_keeps {data : ModelRegistryUpdate} {entry attrs : ModelRegistryEntry}
    (set : setattrs data entry = some attrs) :
    attrs.id = entry.id ∧ attrs.provider = entry.provider ∧ attrs.modelName = entry.modelName := by
  simp only [setattrs, Option.bind_eq_bind, Option.bind_eq_some_iff] at set
  obtain ⟨_, _, _, _, _, _, _, _, _, _, _, _, made⟩ := set
  cases made
  exact ⟨rfl, rfl, rfl⟩

theorem setattrs_wellFormed {valid : ValidUpdate} {entry attrs : ModelRegistryEntry}
    (wellFormed : entry.WellFormed) (set : setattrs valid.data entry = some attrs) :
    attrs.WellFormed := by
  have kept := setattrs_keeps set
  simp only [setattrs, Option.bind_eq_bind, Option.bind_eq_some_iff] at set
  obtain ⟨_, _, _, _, capabilities, listed, window, sized, latency, timed, _, _, made⟩ := set
  cases made
  have either {α : Type} {value : Option (Option α)} {current result : α}
      (column : setColumn value current = some result) :
      value = some (some result) ∨ result = current := by
    cases value with
    | none => exact .inr (Option.some.inj column).symm
    | some inner => exact .inl (congrArg some column)
  refine ⟨wellFormed.name, ?_, ?_, ?_⟩
  · rcases either listed with given | rfl
    · exact valid.capabilities _ given
    · exact wellFormed.capabilities
  · rcases either sized with given | rfl
    · exact valid.window _ given
    · exact wellFormed.window
  · rcases either timed with given | rfl
    · exact valid.latency _ given
    · exact wellFormed.latency

theorem updated_loaded {data : ModelRegistryUpdate} {loaded attrs : ModelRegistryEntry}
    (set : setattrs data loaded = some attrs) : updated loaded attrs loaded = attrs := by
  obtain ⟨id, provider, modelName⟩ := setattrs_keeps set
  cases attrs
  cases loaded
  simp_all only [updated, Budgeting.writeBack_stored]

theorem getModel_some {rows : List ModelRegistryEntry} {modelId : String} {row : ModelRegistryEntry}
    (found : getModel rows modelId = some row) : row ∈ rows ∧ row.id = modelId := by
  have same := List.find?_some found
  exact ⟨List.mem_of_find?_eq_some found, of_decide_eq_true same⟩

theorem not_locked_alone (rows : List ModelRegistryEntry) (row : ModelRegistryEntry) :
    ¬(start rows : State 1).Locked alone row := by
  rintro ⟨j, other, -⟩
  exact other (Subsingleton.elim j alone)

theorem committed_alone (rows : List ModelRegistryEntry) (mutation : Mutation) :
    Committed rows mutation (commitAlone rows mutation) := by
  unfold commitAlone
  cases mutation with
  | create data id =>
      simp only [select]
      split
      next copy loaded =>
        simp only [flush, if_neg (not_locked_alone rows _)]
        split_ifs with clashes
        · exact .kept _
        · refine .created data id fun row member => ?_
          simpa using fun clash => clashes (List.any_eq_true.mpr ⟨row, member, clash⟩)
      next => exact .kept _
  | update modelId data =>
      simp only [select]
      cases found : getModel rows modelId with
      | none => exact .kept _
      | some loaded =>
          obtain ⟨member, rfl⟩ := getModel_some found
          cases set : setattrs data loaded with
          | none => simpa only [flush, set] using Committed.kept _
          | some attrs =>
              simp only [flush, set, if_neg (not_locked_alone rows _)]
              split_ifs with unchanged
              · exact .kept _
              · simp only [start, found, Change.rows, Write.apply, updated_loaded set,
                  (setattrs_keeps set).1]
                exact .updated loaded.id data loaded attrs member set
  | delete modelId =>
      simp only [select]
      cases found : getModel rows modelId with
      | none => exact .kept _
      | some loaded =>
          obtain ⟨-, rfl⟩ := getModel_some found
          simp only [flush, if_neg (not_locked_alone rows _)]
          simp only [start, found, Change.rows, Write.apply]
          exact .deleted loaded.id loaded

/-- What the primary key, the unique constraint and the schemas guarantee. -/
structure Registered (rows : List ModelRegistryEntry) : Prop where
  ids : (rows.map ModelRegistryEntry.id).Nodup
  models : (rows.map fun row => (row.provider, row.modelName)).Nodup
  wellFormed : ∀ row ∈ rows, row.WellFormed

theorem registered_nil : Registered [] := ⟨List.nodup_nil, List.nodup_nil, by simp⟩

theorem nodup_map_snoc {α β : Type} {key : α → β} {items : List α} {next : α}
    (once : (items.map key).Nodup) (fresh : ∀ item ∈ items, key item ≠ key next) :
    ((items ++ [next]).map key).Nodup := by
  rw [List.map_append, List.map_singleton]
  refine List.nodup_append.mpr ⟨once, List.nodup_singleton _, fun k earlier other last same => ?_⟩
  obtain ⟨item, member, rfl⟩ := List.mem_map.mp earlier
  exact fresh item member (same.trans (List.mem_singleton.mp last))

/-- A row that is replaced by one with the same key keeps its place. -/
theorem map_replaced {κ : Type} {key : ModelRegistryEntry → κ} {rows : List ModelRegistryEntry}
    {loaded attrs : ModelRegistryEntry} (only : ∀ row ∈ rows, row.id = loaded.id → row = loaded)
    (sameKey : key attrs = key loaded) :
    (rows.map fun row => if row.id = loaded.id then attrs else row).map key = rows.map key := by
  rw [List.map_map]
  refine List.map_congr_left fun row member => ?_
  by_cases same : row.id = loaded.id
  · rw [Function.comp_apply, if_pos same, sameKey, only row member same]
  · rw [Function.comp_apply, if_neg same]

theorem registered_committed {rows after : List ModelRegistryEntry} {mutation : Mutation}
    (registered : Registered rows) (accepted : Accepted mutation)
    (committed : Committed rows mutation after) : Registered after := by
  cases committed with
  | kept => exact registered
  | created data id distinct =>
      cases accepted with
      | create valid id =>
          refine ⟨nodup_map_snoc registered.ids fun row member same => ?_,
            nodup_map_snoc registered.models fun row member same => ?_, fun row member => ?_⟩
          · have apart := distinct row member
            simp [ModelRegistryEntry.clash, same] at apart
          · have apart := distinct row member
            obtain ⟨sameProvider, sameName⟩ := Prod.mk.inj same
            simp [ModelRegistryEntry.clash, sameProvider, sameName] at apart
          · rcases List.mem_append.mp member with earlier | last
            · exact registered.wellFormed row earlier
            · exact List.mem_singleton.mp last ▸ valid.wellFormed id
  | updated modelId data loaded attrs found set =>
      cases accepted with
      | update modelId valid =>
          obtain ⟨sameId, sameProvider, sameName⟩ := setattrs_keeps set
          have only : ∀ row ∈ rows, row.id = loaded.id → row = loaded := fun row member same =>
            List.inj_on_of_nodup_map registered.ids member found same
          refine ⟨?_, ?_, fun row member => ?_⟩
          · rw [map_replaced only sameId]
            exact registered.ids
          · rw [map_replaced only (Prod.ext sameProvider sameName)]
            exact registered.models
          · obtain ⟨before, listed, rfl⟩ := List.mem_map.mp member
            split_ifs with same
            · exact setattrs_wellFormed (registered.wellFormed loaded found) set
            · exact registered.wellFormed before listed
  | deleted modelId loaded =>
      have part := List.filter_sublist (p := fun row : ModelRegistryEntry => row.id ≠ loaded.id)
        (l := rows)
      exact ⟨registered.ids.sublist (part.map _), registered.models.sublist (part.map _),
        fun row member => registered.wellFormed row (part.subset member)⟩

/-- A table with what its constraints and the schemas guarantee. -/
structure Registry where
  rows : List ModelRegistryEntry
  registered : Registered rows

namespace Registry

theorem registered_submitted (coercions : Coercions) (registry : Registry)
    (submission : Submission) : Registered (submitted coercions registry.rows submission) := by
  unfold submitted
  split
  · exact registry.registered
  next mutation validated =>
    exact registered_committed registry.registered (accepted_mutation validated)
      (committed_alone registry.rows mutation)

def submit (coercions : Coercions) (registry : Registry) (submission : Submission) : Registry :=
  ⟨submitted coercions registry.rows submission, registered_submitted coercions registry submission⟩

/-- The requests in their order. -/
def submitAll (coercions : Coercions) (registry : Registry) (submissions : List Submission) :
    Registry :=
  submissions.foldl (submit coercions) registry

end Registry

end CortexGateway.ModelRegistry
