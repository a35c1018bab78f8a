import CortexGateway.Lib.Validation
import CortexGateway.Observability.Analytics
import CortexGateway.Policy.Schemas

/-! # Team policies as they come in and as they are stored

The validators of `app/policy/schemas.py` on a parsed body, and the dump of
`upsert_policy`, which leaves out what is none.  Names, ids and providers are
normalised where they are validated, so a dump is validated to the value it was
dumped from. -/
set_option autoImplicit false
namespace CortexGateway
open Budgeting Validation

/-! ## Sections -/

def RoutingMode.value : RoutingMode → String
  | .manual => "manual"
  | .auto => "auto"
  | .lowestCost => "lowest_cost"
  | .lowestLatency => "lowest_latency"
  | .bestAvailable => "best_available"
  | .capabilityBased => "capability_based"

def strategies : List (String × RoutingMode) :=
  [("manual", .manual), ("auto", .auto), ("lowest_cost", .lowestCost),
    ("lowest_latency", .lowestLatency), ("best_available", .bestAvailable),
    ("capability_based", .capabilityBased)]

def routingPolicy : Value → Validated RoutingMode :=
  model "RoutingPolicy" ["strategy"] fun items =>
    defaulted items "strategy" .auto (literal strategies
      "'manual', 'auto', 'lowest_cost', 'lowest_latency', 'best_available' or 'capability_based'")

def fallbackPolicy (coercions : Coercions) : Value → Validated Bool :=
  model "FallbackPolicy" ["enabled"] fun items =>
    defaulted items "enabled" true (scalar coercions.toBool)

def Budgeting.BudgetPolicy.value : BudgetPolicy → String
  | .BLOCK => "BLOCK"
  | .WARN => "WARN"
  | .DOWNGRADE => "DOWNGRADE"

def budgetActions : List (String × BudgetPolicy) :=
  [("BLOCK", .BLOCK), ("WARN", .WARN), ("DOWNGRADE", .DOWNGRADE)]

def normaliseAction : Value → Except String Value
  | .str v => .ok (.str (upper (strip v)))
  | v => .error ("Value error, budget.action must be a string, got " ++ v.className)

def budgetPolicySection : Value → Validated BudgetPolicy :=
  model "BudgetPolicySection" ["action"] fun items =>
    defaulted items "action" .BLOCK
      (normalised normaliseAction (literal budgetActions "'BLOCK', 'WARN' or 'DOWNGRADE'"))

def cachePolicy (coercions : Coercions) : Value → Validated Bool :=
  model "CachePolicy" ["enabled"] fun items =>
    defaulted items "enabled" false (scalar coercions.toBool)

def DetectionMode.value : DetectionMode → String
  | .off => "off"
  | .warn => "warn"
  | .block => "block"

def detectionMode : Value → Validated DetectionMode :=
  literal [("off", .off), ("warn", .warn), ("block", .block)] "'off', 'warn' or 'block'"

def guardrailsFields : List String := ["max_prompt_length", "pii_detection", "injection_detection"]

def guardrailsPolicy (coercions : Coercions) : Value → Validated GuardrailsPolicy :=
  model "GuardrailsPolicy" guardrailsFields fun items =>
    (Validated.build GuardrailsPolicy.mk)
      |>.field (defaulted items "max_prompt_length" none (nullable (scalar coercions.toInt)))
      |>.field (defaulted items "pii_detection" .off detectionMode)
      |>.field (defaulted items "injection_detection" .off detectionMode)

/-! ## Experiments -/

/-- What the validators of an arm make of its texts. -/
structure ExperimentArm.Normal (arm : ExperimentArm) : Prop where
  name : Trimmed arm.name
  provider : Trimmed arm.provider
  providerLower : lower arm.provider = arm.provider
  model : Trimmed arm.model

structure ExperimentConfig.Normal (experiment : ExperimentConfig) : Prop where
  id : Trimmed experiment.id
  arms : ∀ arm ∈ experiment.arms, arm.Normal

abbrev ValidArm := {arm : ExperimentArm // arm.Normal}

abbrev ValidExperiment := {experiment : ExperimentConfig // experiment.Normal}

/-- `if not v or not v.strip()`. -/
def notEmpty (msg v : String) : Except String {text : String // Trimmed text} :=
  if empty : strip v = "" then .error msg else .ok ⟨strip v, trimmed_strip empty⟩

def providerNotEmpty (v : String) :
    Except String {text : String // Trimmed text ∧ lower text = text} :=
  if empty : strip v = "" then .error "arm provider must not be empty"
  else .ok ⟨lower (strip v), (trimmed_strip empty).lower, lower_lower (strip v)⟩

theorem toNat_pos {v : ℤ} (positive : 0 < v) : 0 < v.toNat := Int.pos_iff_toNat_pos.mp positive

def weightPositive (v : ℤ) : Except String {weight : ℕ // 0 < weight} :=
  if positive : 0 < v then .ok ⟨v.toNat, toNat_pos positive⟩
  else .error ("arm weight must be > 0, got " ++ toString v)

def versionPositive (v : ℤ) : Except String {version : ℕ // 0 < version} :=
  if positive : 0 < v then .ok ⟨v.toNat, toNat_pos positive⟩
  else .error "experiment.version must be >= 1"

/-- An arm from its checked fields. -/
def newArm (name : {text : String // Trimmed text})
    (provider : {text : String // Trimmed text ∧ lower text = text})
    (model : {text : String // Trimmed text}) (weight : {weight : ℕ // 0 < weight}) : ValidArm :=
  ⟨⟨name.val, provider.val, model.val, weight.val, weight.property⟩,
    ⟨name.property, provider.property.1, provider.property.2, model.property⟩⟩

def armFields : List String := ["name", "provider", "model", "weight"]

section Coerced
variable (coercions : Coercions)

def textField {α : Type} (validator : String → Except String α) : Value → Validated α :=
  checked (scalar coercions.toStr) (valueError validator)

def positiveInt (validator : ℤ → Except String {value : ℕ // 0 < value}) :
    Value → Validated {value : ℕ // 0 < value} :=
  checked (scalar coercions.toInt) (valueError validator)

def experimentArm : Value → Validated ValidArm :=
  model "ExperimentArm" armFields fun items =>
    (Validated.build newArm)
      |>.field (required items "name" (textField coercions (notEmpty "arm name must not be empty")))
      |>.field (required items "provider" (textField coercions providerNotEmpty))
      |>.field (required items "model" (textField coercions (notEmpty "arm model must not be empty")))
      |>.field (required items "weight" (positiveInt coercions weightPositive))

end Coerced

/-- The fields of an experiment before its arms are compared. -/
structure ExperimentFields where
  enabled : Bool
  id : {text : String // Trimmed text}
  version : {version : ℕ // 0 < version}
  type : ExperimentType
  arms : List ValidArm

namespace ExperimentFields

def names (fields : ExperimentFields) : List String := fields.arms.map fun arm => arm.val.name

def weights (fields : ExperimentFields) : List ℕ := fields.arms.map fun arm => arm.val.weight

def dupes (fields : ExperimentFields) : List String :=
  (fields.names.filter fun name => 1 < fields.names.count name).dedup.insertionSort (· ≤ ·)

theorem twoArms {fields : ExperimentFields} (enough : ¬fields.arms.length < 2) :
    2 ≤ (fields.arms.map Subtype.val).length := by
  rw [List.length_map]
  omega

theorem distinctNames {fields : ExperimentFields} (once : fields.names.Nodup) :
    ((fields.arms.map Subtype.val).map ExperimentArm.name).Nodup := by
  rw [List.map_map]
  exact once

theorem weightsSum {fields : ExperimentFields} (total : fields.weights.sum = 100) :
    ((fields.arms.map Subtype.val).map ExperimentArm.weight).sum = 100 := by
  rw [List.map_map]
  exact total

theorem normal (fields : ExperimentFields) : ∀ arm ∈ fields.arms.map Subtype.val, arm.Normal := by
  intro arm member
  obtain ⟨valid, -, rfl⟩ := List.mem_map.mp member
  exact valid.property

/-- `validate_arms`. -/
def validateArms (fields : ExperimentFields) : Except String ValidExperiment :=
  if few : fields.arms.length < 2 then
    .error ("experiment must have at least 2 arms, got " ++ toString fields.arms.length)
  else if once : fields.names.Nodup then
    if total : fields.weights.sum = 100 then
      .ok ⟨{ enabled := fields.enabled
             id := fields.id.val
             version := fields.version.val
             type := fields.type
             arms := fields.arms.map Subtype.val
             versionPositive := fields.version.property
             twoArms := twoArms few
             distinctNames := distinctNames once
             weightsSum := weightsSum total }, ⟨fields.id.property, fields.normal⟩⟩
    else
      .error ("sum of arm weights must equal 100, got " ++ toString fields.weights.sum ++ " (" ++
        " + ".intercalate (fields.weights.map toString) ++ ")")
  else .error ("duplicate arm names in experiment: " ++ reprStrs fields.dupes)

end ExperimentFields

def experimentFields : List String := ["enabled", "id", "version", "type", "arms"]

def ExperimentType.value : ExperimentType → String
  | .abTest => "ab_test"
  | .canary => "canary"

def experimentType : Value → Validated ExperimentType :=
  literal [("ab_test", .abTest), ("canary", .canary)] "'ab_test' or 'canary'"

/-- The version of an experiment that gives none. -/
def defaultVersion : {version : ℕ // 0 < version} := ⟨1, Nat.one_pos⟩

section Input
variable (coercions : Coercions)

def experimentConfig : Value → Validated ValidExperiment :=
  checked (model "ExperimentConfig" experimentFields fun items =>
    (Validated.build ExperimentFields.mk)
      |>.field (defaulted items "enabled" true (scalar coercions.toBool))
      |>.field (required items "id" (textField coercions (notEmpty "experiment.id must not be empty")))
      |>.field (defaulted items "version" defaultVersion (positiveInt coercions versionPositive))
      |>.field (required items "type" experimentType)
      |>.field (required items "arms" (listOf coercions (experimentArm coercions))))
    (valueError ExperimentFields.validateArms)

/-- `TeamPolicyInput`, with what its validators guarantee. -/
structure ValidInput where
  routing : Option RoutingMode
  fallback : Option Bool
  budget : Option BudgetPolicy
  cache : Option Bool
  experiment : Option ValidExperiment
  guardrails : Option GuardrailsPolicy

def ValidInput.input (valid : ValidInput) : TeamPolicyInput :=
  { routingStrategy := valid.routing
    fallbackEnabled := valid.fallback
    budgetAction := valid.budget
    cacheEnabled := valid.cache
    experiment := valid.experiment.map Subtype.val
    guardrails := valid.guardrails }

def sections : List String :=
  ["routing", "fallback", "budget", "cache", "experiment", "guardrails"]

/-- `TeamPolicyInput.model_validate`. -/
def validateInput : Value → Validated ValidInput :=
  model "TeamPolicyInput" sections fun items =>
    (Validated.build ValidInput.mk)
      |>.field (defaulted items "routing" none (nullable routingPolicy))
      |>.field (defaulted items "fallback" none (nullable (fallbackPolicy coercions)))
      |>.field (defaulted items "budget" none (nullable budgetPolicySection))
      |>.field (defaulted items "cache" none (nullable (cachePolicy coercions)))
      |>.field (defaulted items "experiment" none (nullable (experimentConfig coercions)))
      |>.field (defaulted items "guardrails" none (nullable (guardrailsPolicy coercions)))

end Input

end CortexGateway
