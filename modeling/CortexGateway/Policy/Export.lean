import CortexGateway.Policy.Resolver

/-! # A resolved policy as a document

What GET shows of a team's policy is a document PUT accepts.  Put to any team, it
gives that team the policy it was read from, section by section, and no two
policies are shown as one document. -/
set_option autoImplicit false
namespace CortexGateway
open Budgeting Validation

/-! ## The document -/

/-- `model_dump` of the guardrails, with what is none. -/
def dumpAllGuardrails (policy : GuardrailsPolicy) : Value :=
  .dict (entry "max_prompt_length" (dumpNullable .int) (some policy.maxPromptLength) ++
    (entry "pii_detection" .str (some policy.piiDetection.value) ++
      (entry "injection_detection" .str (some policy.injectionDetection.value) ++ [])))

/-- `resolved.model_dump(exclude={"source"})`. -/
def ResolvedPolicy.document (policy : ResolvedPolicy) : Value :=
  .dict (entry "routing" dumpRouting (some policy.routingStrategy) ++
    (entry "fallback" dumpEnabled (some policy.fallbackEnabled) ++
      (entry "budget" dumpBudget (some policy.budgetAction) ++
        (entry "cache" dumpEnabled (some policy.cacheEnabled) ++
          (entry "experiment" (dumpNullable dumpExperiment) (some policy.experiment) ++
            (entry "guardrails" dumpAllGuardrails (some policy.guardrails) ++ []))))))

/-- The experiment has passed its validators. -/
def ResolvedPolicy.Normal (policy : ResolvedPolicy) : Prop :=
  ∀ experiment ∈ policy.experiment, experiment.Normal

namespace ResolvedPolicy

/-- Every section, as a team would set it. -/
def asInput (policy : ResolvedPolicy) (normal : policy.Normal) : ValidInput :=
  { routing := some policy.routingStrategy
    fallback := some policy.fallbackEnabled
    budget := some policy.budgetAction
    cache := some policy.cacheEnabled
    experiment := policy.experiment.pmap Subtype.mk normal
    guardrails := some policy.guardrails }

theorem merge_asInput (policy : ResolvedPolicy) (normal : policy.Normal) :
    merge (policy.asInput normal).input = policy := by
  obtain ⟨routingStrategy, fallbackEnabled, budgetAction, cacheEnabled, experiment, guardrails⟩ :=
    policy
  cases experiment <;> rfl

end ResolvedPolicy

/-! ## It is validated to the policy -/

section Documents
variable (coercions : Coercions)

theorem allGuardrails_dumped (policy : GuardrailsPolicy) :
    guardrailsPolicy coercions (dumpAllGuardrails policy) = .ok policy := by
  obtain ⟨maxPromptLength, piiDetection, injectionDetection⟩ := policy
  refine model_ok (Validated.field_eq (Validated.field_eq (Validated.field_eq rfl ?_) ?_) ?_)
    (filterMap_entry rfl (filterMap_entry rfl (filterMap_entry rfl rfl)))
  · exact defaulted_ok rfl (nullable_dumped (fun _ => Value.noConfusion)
      fun length _ => scalar_ok (coercions.intKept length))
  · exact defaulted_ok rfl (detection_dumped piiDetection)
  · exact defaulted_ok rfl (detection_dumped injectionDetection)

theorem nullableExperiment_dumped (experiment : Option ExperimentConfig)
    (normal : ∀ e ∈ experiment, e.Normal) :
    nullable (experimentConfig coercions) (dumpNullable dumpExperiment experiment) =
      .ok (experiment.pmap Subtype.mk normal) := by
  cases experiment with
  | none => rfl
  | some e => exact nullable_ok Value.noConfusion (experiment_dumped coercions ⟨e, normal e rfl⟩)

/-- The document of a policy sets every section to that of the policy. -/
theorem document_validated (policy : ResolvedPolicy) (normal : policy.Normal) :
    validateInput coercions policy.document = .ok (policy.asInput normal) := by
  refine model_ok (Validated.field_eq (Validated.field_eq (Validated.field_eq (Validated.field_eq
      (Validated.field_eq (Validated.field_eq rfl ?_) ?_) ?_) ?_) ?_) ?_)
    (filterMap_entry rfl (filterMap_entry rfl (filterMap_entry rfl (filterMap_entry rfl
      (filterMap_entry rfl (filterMap_entry rfl rfl))))))
  · exact defaulted_ok rfl (nullable_ok Value.noConfusion (routing_dumped policy.routingStrategy))
  · exact defaulted_ok rfl
      (nullable_ok Value.noConfusion (fallback_dumped coercions policy.fallbackEnabled))
  · exact defaulted_ok rfl (nullable_ok Value.noConfusion (budget_dumped policy.budgetAction))
  · exact defaulted_ok rfl
      (nullable_ok Value.noConfusion (cache_dumped coercions policy.cacheEnabled))
  · exact defaulted_ok rfl (nullableExperiment_dumped coercions policy.experiment normal)
  · exact defaulted_ok rfl
      (nullable_ok Value.noConfusion (allGuardrails_dumped coercions policy.guardrails))

end Documents

/-! ## From team to team -/

namespace PolicyResolver
open PolicyService
variable (coercions : Coercions)

/-- What is resolved has passed the validators, or is the global default. -/
theorem resolve_normal (policies : PolicyTable) (teamId : String) :
    (resolve coercions policies teamId).1.Normal := by
  have default : globalDefaultPolicy.Normal := fun experiment member => by cases member
  unfold resolve
  split_ifs
  · exact default
  · split
    · unfold merge
      split
      · exact default
      · rename_i policyInput validated
        intro experiment member
        obtain ⟨valid, -, rfl⟩ := Option.mem_map.mp member
        exact valid.property
    · exact default

end PolicyResolver

end CortexGateway
