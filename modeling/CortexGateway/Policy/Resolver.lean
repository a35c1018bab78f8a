import CortexGateway.Core.Datetime
import CortexGateway.Policy.Input

/-! # Storing and resolving team policies

`upsert_policy` of `app/policy/service.py` and `app/policy/resolver.py` over the
documents of the table.  What is stored is a dump, and a dump is validated to
what it was dumped from, so a resolved policy is section by section the one that
was put, whatever was stored before. -/
set_option autoImplicit false
namespace CortexGateway
open Budgeting Validation

/-! ## Dumps -/

def dumpRouting (strategy : RoutingMode) : Value :=
  .dict (entry "strategy" .str (some strategy.value))

def dumpEnabled (enabled : Bool) : Value := .dict (entry "enabled" .bool (some enabled))

def dumpBudget (action : BudgetPolicy) : Value := .dict (entry "action" .str (some action.value))

def dumpGuardrails (policy : GuardrailsPolicy) : Value :=
  .dict (entry "max_prompt_length" .int policy.maxPromptLength ++
    (entry "pii_detection" .str (some policy.piiDetection.value) ++
      (entry "injection_detection" .str (some policy.injectionDetection.value) ++ [])))

def dumpArm (arm : ExperimentArm) : Value :=
  .dict (entry "name" .str (some arm.name) ++ (entry "provider" .str (some arm.provider) ++
    (entry "model" .str (some arm.model) ++
      (entry "weight" .int (some (arm.weight : ℤ)) ++ []))))

def dumpExperiment (experiment : ExperimentConfig) : Value :=
  .dict (entry "enabled" .bool (some experiment.enabled) ++
    (entry "id" .str (some experiment.id) ++
      (entry "version" .int (some (experiment.version : ℤ)) ++
        (entry "type" .str (some experiment.type.value) ++
          (entry "arms" .list (some (experiment.arms.map dumpArm)) ++ [])))))

/-- `model_dump(exclude_none=True)`. -/
def ValidInput.dump (valid : ValidInput) : Value :=
  .dict (entry "routing" dumpRouting valid.routing ++
    (entry "fallback" dumpEnabled valid.fallback ++
      (entry "budget" dumpBudget valid.budget ++
        (entry "cache" dumpEnabled valid.cache ++
          (entry "experiment" (fun experiment => dumpExperiment experiment.val) valid.experiment ++
            (entry "guardrails" dumpGuardrails valid.guardrails ++ []))))))

/-! ## A dump is validated to what was dumped -/

section Dumped
variable (coercions : Coercions)

theorem routing_dumped (strategy : RoutingMode) :
    routingPolicy (dumpRouting strategy) = .ok strategy := by
  cases strategy <;> rfl

theorem fallback_dumped (enabled : Bool) :
    fallbackPolicy coercions (dumpEnabled enabled) = .ok enabled :=
  model_ok (defaulted_ok rfl (scalar_ok (coercions.boolKept enabled))) rfl

theorem cache_dumped (enabled : Bool) :
    cachePolicy coercions (dumpEnabled enabled) = .ok enabled :=
  model_ok (defaulted_ok rfl (scalar_ok (coercions.boolKept enabled))) rfl

theorem budget_dumped (action : BudgetPolicy) :
    budgetPolicySection (dumpBudget action) = .ok action := by
  cases action <;> rfl

theorem detection_dumped (mode : DetectionMode) : detectionMode (.str mode.value) = .ok mode := by
  cases mode <;> rfl

theorem guardrails_dumped (policy : GuardrailsPolicy) :
    guardrailsPolicy coercions (dumpGuardrails policy) = .ok policy := by
  obtain ⟨maxPromptLength, piiDetection, injectionDetection⟩ := policy
  refine model_ok (Validated.field_eq (Validated.field_eq (Validated.field_eq rfl ?_) ?_) ?_)
    (filterMap_entry rfl (filterMap_entry rfl (filterMap_entry rfl rfl)))
  · exact optional_dumped (by simp) (fun _ => Value.noConfusion)
      fun length => scalar_ok (coercions.intKept length)
  · exact defaulted_ok (by simp) (detection_dumped piiDetection)
  · exact defaulted_ok (by simp) (detection_dumped injectionDetection)

theorem textField_dumped {α : Type} {validator : String → Except String α} {text : String}
    {result : α} (accepted : validator text = .ok result) :
    textField coercions validator (.str text) = .ok result :=
  checked_ok (scalar_ok (coercions.strKept text)) (valueError_ok accepted)

theorem notEmpty_trimmed {msg text : String} (trimmed : Trimmed text) :
    notEmpty msg text = .ok ⟨text, trimmed⟩ := by
  unfold notEmpty
  simp only [trimmed.1, dif_neg trimmed.2]

theorem providerNotEmpty_trimmed {text : String} (trimmed : Trimmed text)
    (lowered : lower text = text) : providerNotEmpty text = .ok ⟨text, trimmed, lowered⟩ := by
  unfold providerNotEmpty
  simp only [trimmed.1, dif_neg trimmed.2, lowered]

theorem positiveInt_dumped {validator : ℤ → Except String {value : ℕ // 0 < value}}
    (value : {value : ℕ // 0 < value}) (accepted : validator (value.val : ℤ) = .ok value) :
    positiveInt coercions validator (.int value.val) = .ok value :=
  checked_ok (scalar_ok (coercions.intKept value.val)) (valueError_ok accepted)

theorem weightPositive_cast (weight : {weight : ℕ // 0 < weight}) :
    weightPositive (weight.val : ℤ) = .ok weight :=
  dif_pos (Int.natCast_pos.mpr weight.property)

theorem versionPositive_cast (version : {version : ℕ // 0 < version}) :
    versionPositive (version.val : ℤ) = .ok version :=
  dif_pos (Int.natCast_pos.mpr version.property)

theorem arm_dumped (arm : ValidArm) : experimentArm coercions (dumpArm arm.val) = .ok arm := by
  obtain ⟨⟨name, provider, model, weight, positive⟩, normal⟩ := arm
  change _ = Except.ok (newArm ⟨name, normal.name⟩ ⟨provider, normal.provider, normal.providerLower⟩
    ⟨model, normal.model⟩ ⟨weight, positive⟩)
  refine model_ok (Validated.field_eq (Validated.field_eq (Validated.field_eq
      (Validated.field_eq rfl ?_) ?_) ?_) ?_)
    (filterMap_entry rfl (filterMap_entry rfl (filterMap_entry rfl (filterMap_entry rfl rfl))))
  · exact required_ok rfl (textField_dumped coercions (notEmpty_trimmed normal.name))
  · exact required_ok rfl (textField_dumped coercions
      (providerNotEmpty_trimmed normal.provider normal.providerLower))
  · exact required_ok rfl (textField_dumped coercions (notEmpty_trimmed normal.model))
  · exact required_ok rfl (positiveInt_dumped coercions ⟨weight, positive⟩
      (weightPositive_cast ⟨weight, positive⟩))

/-- The arms of an experiment, each with what its validators guarantee. -/
def validArms (experiment : ValidExperiment) : List ValidArm :=
  experiment.val.arms.pmap Subtype.mk experiment.property.arms

theorem validArms_val (experiment : ValidExperiment) :
    (validArms experiment).map Subtype.val = experiment.val.arms := by
  rw [validArms, List.map_pmap]
  exact List.pmap_eq_map .. |>.trans (List.map_id _)

theorem arms_dumped (experiment : ValidExperiment) :
    listOf coercions (experimentArm coercions) (.list (experiment.val.arms.map dumpArm)) =
      .ok (validArms experiment) := by
  have dumped : experiment.val.arms.map dumpArm =
      (validArms experiment).map fun arm => dumpArm arm.val := by
    rw [← validArms_val experiment, List.map_map]
    rfl
  have armwise : ∀ arm ∈ validArms experiment,
      experimentArm coercions (dumpArm arm.val) = .ok (id arm) :=
    fun arm _ => arm_dumped coercions arm
  rw [dumped, listOf_dumped armwise, List.map_id]

/-- The fields an experiment is validated from again. -/
def fieldsOf (experiment : ValidExperiment) : ExperimentFields :=
  { enabled := experiment.val.enabled
    id := ⟨experiment.val.id, experiment.property.id⟩
    version := ⟨experiment.val.version, experiment.val.versionPositive⟩
    type := experiment.val.type
    arms := validArms experiment }

theorem validateArms_fieldsOf (experiment : ValidExperiment) :
    (fieldsOf experiment).validateArms = .ok experiment := by
  have arms := validArms_val experiment
  have enough : ¬(fieldsOf experiment).arms.length < 2 := by
    have two := experiment.val.twoArms
    rw [← arms, List.length_map] at two
    exact not_lt.mpr two
  have once : (fieldsOf experiment).names.Nodup := by
    have distinct := experiment.val.distinctNames
    rw [← arms, List.map_map] at distinct
    exact distinct
  have total : (fieldsOf experiment).weights.sum = 100 := by
    have sum := experiment.val.weightsSum
    rw [← arms, List.map_map] at sum
    exact sum
  unfold ExperimentFields.validateArms
  rw [dif_neg enough, dif_pos once, dif_pos total]
  simp only [fieldsOf, arms]

theorem type_dumped (type : ExperimentType) : experimentType (.str type.value) = .ok type := by
  cases type <;> rfl

theorem experiment_dumped (experiment : ValidExperiment) :
    experimentConfig coercions (dumpExperiment experiment.val) = .ok experiment := by
  refine checked_ok ?_ (valueError_ok (validateArms_fieldsOf experiment))
  refine model_ok (Validated.field_eq (Validated.field_eq (Validated.field_eq (Validated.field_eq
      (Validated.field_eq rfl ?_) ?_) ?_) ?_) ?_)
    (filterMap_entry rfl (filterMap_entry rfl (filterMap_entry rfl (filterMap_entry rfl
      (filterMap_entry rfl rfl)))))
  · exact defaulted_ok rfl (scalar_ok (coercions.boolKept experiment.val.enabled))
  · exact required_ok rfl (textField_dumped coercions (notEmpty_trimmed experiment.property.id))
  · exact defaulted_ok rfl (positiveInt_dumped coercions
      ⟨experiment.val.version, experiment.val.versionPositive⟩ (versionPositive_cast _))
  · exact required_ok rfl (type_dumped experiment.val.type)
  · exact required_ok rfl (arms_dumped coercions experiment)

/-- A dump is validated to what was dumped. -/
theorem validateInput_dump (valid : ValidInput) :
    validateInput coercions valid.dump = .ok valid := by
  obtain ⟨routing, fallback, budget, cache, experiment, guardrails⟩ := valid
  refine model_ok (Validated.field_eq (Validated.field_eq (Validated.field_eq (Validated.field_eq
      (Validated.field_eq (Validated.field_eq rfl ?_) ?_) ?_) ?_) ?_) ?_)
    (filterMap_entry rfl (filterMap_entry rfl (filterMap_entry rfl (filterMap_entry rfl
      (filterMap_entry rfl (filterMap_entry rfl rfl))))))
  · exact optional_dumped (by simp) (fun _ => Value.noConfusion) routing_dumped
  · exact optional_dumped (by simp) (fun _ => Value.noConfusion) (fallback_dumped coercions)
  · exact optional_dumped (by simp) (fun _ => Value.noConfusion) budget_dumped
  · exact optional_dumped (by simp) (fun _ => Value.noConfusion) (cache_dumped coercions)
  · exact optional_dumped (by simp) (fun _ => Value.noConfusion) (experiment_dumped coercions)
  · exact optional_dumped (by simp) (fun _ => Value.noConfusion) (guardrails_dumped coercions)

end Dumped

/-! ## The table -/

/-- A row of `team_policies`, with the document as the column gives it back. -/
structure PolicyRow where
  id : String
  teamId : String
  policy : Value
  enabled : Bool
  createdAt : Datetime
  updatedAt : Datetime

/-- One row for a team. -/
abbrev PolicyTable := String → Option PolicyRow

namespace PolicyService

def getPolicyModel (policies : PolicyTable) (teamId : String) : Option PolicyRow :=
  (policies teamId).filter PolicyRow.enabled

/-- INSERT ... ON CONFLICT DO UPDATE of the dump. -/
def upsertPolicy (policies : PolicyTable) (teamId newId : String) (policyInput : ValidInput)
    (now : Datetime) : PolicyTable :=
  Function.update policies teamId <| some <|
    match policies teamId with
    | none => ⟨newId, teamId, policyInput.dump, true, now, now⟩
    | some row => { row with policy := policyInput.dump, enabled := true, updatedAt := now }

/-- What a team has after an upsert, whatever it had before. -/
theorem getPolicyModel_upsert (policies : PolicyTable) (teamId newId : String)
    (policyInput : ValidInput) (now : Datetime) :
    ∃ row, getPolicyModel (upsertPolicy policies teamId newId policyInput now) teamId = some row ∧
      row.policy = policyInput.dump := by
  unfold getPolicyModel upsertPolicy
  rw [Function.update_self]
  cases policies teamId with
  | none => exact ⟨_, rfl, rfl⟩
  | some row => exact ⟨_, rfl, rfl⟩

end PolicyService

namespace PolicyResolver
open PolicyService
variable (coercions : Coercions)

/-- `_merge`: a document that is not valid is ignored. -/
def merge (raw : Value) : ResolvedPolicy × String :=
  match validateInput coercions raw with
  | .error _ => (globalDefaultPolicy, "global")
  | .ok partialPolicy => (.merge partialPolicy.input, "team")

/-- `resolve`; `dict(model.policy)` of anything but a mapping raises, and is
caught. -/
def resolve (policies : PolicyTable) (teamId : String) : ResolvedPolicy × String :=
  if teamId = "" then (globalDefaultPolicy, "global")
  else
    match (getPolicyModel policies teamId).map PolicyRow.policy with
    | some (.dict items) => merge coercions (.dict items)
    | _ => (globalDefaultPolicy, "global")

theorem merge_dump (policyInput : ValidInput) :
    merge coercions policyInput.dump = (.merge policyInput.input, "team") := by
  rw [merge, validateInput_dump]

theorem resolve_upsert (policies : PolicyTable) {teamId : String} (named : teamId ≠ "")
    (newId : String) (policyInput : ValidInput) (now : Datetime) :
    resolve coercions (upsertPolicy policies teamId newId policyInput now) teamId =
      (.merge policyInput.input, "team") := by
  obtain ⟨row, found, stored⟩ := getPolicyModel_upsert policies teamId newId policyInput now
  rw [resolve, if_neg named, found, Option.map_some, stored]
  exact merge_dump coercions policyInput

theorem resolve_upsert_other (policies : PolicyTable) {teamId other : String}
    (apart : other ≠ teamId) (newId : String) (policyInput : ValidInput) (now : Datetime) :
    resolve coercions (upsertPolicy policies teamId newId policyInput now) other =
      resolve coercions policies other := by
  simp only [resolve, getPolicyModel, upsertPolicy, Function.update_of_ne apart]

/-- A policy that was put is resolved section by section: what it sets, and the
global default where it sets nothing.  Putting it again changes nothing, and the
stored document is validated to what was put. -/
theorem put_resolves_back (policies : PolicyTable) (teamId newId : String) (policyInput : ValidInput)
    (now : Datetime) (named : teamId ≠ "") :
    resolve coercions (upsertPolicy policies teamId newId policyInput now) teamId =
        ({ routingStrategy := policyInput.routing.getD globalDefaultPolicy.routingStrategy
           fallbackEnabled := policyInput.fallback.getD globalDefaultPolicy.fallbackEnabled
           budgetAction := policyInput.budget.getD globalDefaultPolicy.budgetAction
           cacheEnabled := policyInput.cache.getD globalDefaultPolicy.cacheEnabled
           experiment := policyInput.experiment.map Subtype.val
           guardrails := policyInput.guardrails.getD globalDefaultPolicy.guardrails }, "team") ∧
      (∀ laterId later, resolve coercions (upsertPolicy
          (upsertPolicy policies teamId newId policyInput now) teamId laterId policyInput later)
          teamId =
        resolve coercions (upsertPolicy policies teamId newId policyInput now) teamId) ∧
      ∃ row, upsertPolicy policies teamId newId policyInput now teamId = some row ∧
        row.enabled = true ∧ validateInput coercions row.policy = .ok policyInput := by
  refine ⟨resolve_upsert coercions policies named newId policyInput now, fun laterId later => ?_, ?_⟩
  · rw [resolve_upsert coercions _ named, resolve_upsert coercions _ named]
  · obtain ⟨row, found, stored⟩ := getPolicyModel_upsert policies teamId newId policyInput now
    obtain ⟨listed, enabled⟩ := Option.filter_eq_some_iff.mp found
    exact ⟨row, listed, enabled, stored ▸ validateInput_dump coercions policyInput⟩

/-! ## A canary over an older policy -/

theorem ninety_pos : 0 < 90 := by decide
theorem ten_pos : 0 < 10 := by decide

def stableArm : ExperimentArm := ⟨"stable", "groq", "llama", 90, ninety_pos⟩
def canaryArm : ExperimentArm := ⟨"canary", "gemini", "flash", 10, ten_pos⟩

theorem canary_twoArms : 2 ≤ [stableArm, canaryArm].length := by decide
theorem canary_distinct : ([stableArm, canaryArm].map ExperimentArm.name).Nodup := by decide
theorem canary_sum : ([stableArm, canaryArm].map ExperimentArm.weight).sum = 100 := by decide

def canaryExperiment : ExperimentConfig :=
  { enabled := true
    id := "canary-flash"
    version := 3
    type := .canary
    arms := [stableArm, canaryArm]
    versionPositive := Nat.le_add_left 1 2
    twoArms := canary_twoArms
    distinctNames := canary_distinct
    weightsSum := canary_sum }

theorem canary_normal : canaryExperiment.Normal where
  id := by decide +kernel
  arms arm member := by
    rcases List.mem_pair.mp member with rfl | rfl
    · exact ⟨by decide +kernel, by decide +kernel, by decide +kernel, by decide +kernel⟩
    · exact ⟨by decide +kernel, by decide +kernel, by decide +kernel, by decide +kernel⟩

def warnAndCanary : ValidInput :=
  ⟨none, none, some .WARN, none, some ⟨canaryExperiment, canary_normal⟩, none⟩

/-- The older policy routes by hand and caches; nothing of it is left. -/
def manualAndCached : PolicyTable :=
  upsertPolicy (fun _ => none) "team-1" "policy-1" ⟨some .manual, none, none, some true, none, none⟩
    (.ofDate .newYear)

theorem canary_resolves_back :
    "team-1" ≠ "" ∧
      resolve .strict (upsertPolicy manualAndCached "team-1" "policy-2" warnAndCanary
          (.ofDate .newYear)) "team-1" =
        ({ routingStrategy := .auto
           fallbackEnabled := true
           budgetAction := .WARN
           cacheEnabled := false
           experiment := some canaryExperiment
           guardrails := ⟨none, .off, .off⟩ }, "team") :=
  ⟨by decide, (put_resolves_back .strict manualAndCached "team-1" "policy-2" warnAndCanary
    (.ofDate .newYear) (by decide)).1⟩

end PolicyResolver

end CortexGateway
