import CortexGateway.Budget.Model
import CortexGateway.Schemas.Chat

/-! # Team policies

`app/policy/schemas.py` and the merge of `app/policy/resolver.py`.  An
experiment carries what its validators guarantee. -/
set_option autoImplicit false
namespace CortexGateway
open Budgeting

structure ExperimentArm where
  name : String
  provider : String
  model : String
  weight : ℕ
  weightPositive : 0 < weight
  deriving DecidableEq

inductive ExperimentType
  | abTest
  | canary
  deriving DecidableEq, Repr

structure ExperimentConfig where
  enabled : Bool
  id : String
  version : ℕ
  type : ExperimentType
  arms : List ExperimentArm
  versionPositive : 1 ≤ version
  twoArms : 2 ≤ arms.length
  distinctNames : (arms.map ExperimentArm.name).Nodup
  weightsSum : (arms.map ExperimentArm.weight).sum = 100
  deriving DecidableEq

inductive DetectionMode
  | off
  | warn
  | block
  deriving DecidableEq, Repr

structure GuardrailsPolicy where
  maxPromptLength : Option ℤ
  piiDetection : DetectionMode
  injectionDetection : DetectionMode
  deriving DecidableEq

/-- `ResolvedPolicy`; the sections of one field are that field. -/
structure ResolvedPolicy where
  routingStrategy : RoutingMode
  fallbackEnabled : Bool
  budgetAction : BudgetPolicy
  cacheEnabled : Bool
  experiment : Option ExperimentConfig
  guardrails : GuardrailsPolicy
  deriving DecidableEq

def globalDefaultPolicy : ResolvedPolicy :=
  { routingStrategy := .auto
    fallbackEnabled := true
    budgetAction := .BLOCK
    cacheEnabled := false
    experiment := none
    guardrails := ⟨none, .off, .off⟩ }

/-- `TeamPolicyInput`: the sections a team has set. -/
structure TeamPolicyInput where
  routingStrategy : Option RoutingMode
  fallbackEnabled : Option Bool
  budgetAction : Option BudgetPolicy
  cacheEnabled : Option Bool
  experiment : Option ExperimentConfig
  guardrails : Option GuardrailsPolicy
  deriving DecidableEq

/-- `_merge`, after validation: the team's section, else the global one. -/
def ResolvedPolicy.merge (team : TeamPolicyInput) : ResolvedPolicy :=
  { routingStrategy := team.routingStrategy.getD globalDefaultPolicy.routingStrategy
    fallbackEnabled := team.fallbackEnabled.getD globalDefaultPolicy.fallbackEnabled
    budgetAction := team.budgetAction.getD globalDefaultPolicy.budgetAction
    cacheEnabled := team.cacheEnabled.getD globalDefaultPolicy.cacheEnabled
    experiment := team.experiment
    guardrails := team.guardrails.getD globalDefaultPolicy.guardrails }

/-- The policy of a team that has set nothing. -/
def noSections : TeamPolicyInput := ⟨none, none, none, none, none, none⟩

theorem merge_noSections : ResolvedPolicy.merge noSections = globalDefaultPolicy := rfl

end CortexGateway
