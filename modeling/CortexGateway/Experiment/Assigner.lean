import CortexGateway.Policy.Schemas

/-! # Experiment assignment

`app/experiment/assigner.py`.  `digest` stands for the first four bytes of the
SHA-256 digest, read as a big-endian number. -/
set_option autoImplicit false
namespace CortexGateway

structure ExperimentAssignment where
  experimentId : String
  experimentVersion : ℕ
  armName : String
  provider : String
  model : String
  deriving DecidableEq

/-- The arm that owns a bucket: each weight unit owns a hundred, in declaration order. -/
def armOfBucket (bucket : ℕ) : ℕ → List ExperimentArm → Option ExperimentArm
  | _, [] => none
  | cumulative, arm :: rest =>
      let cumulative := cumulative + arm.weight * 100
      if bucket < cumulative then some arm else armOfBucket bucket cumulative rest

/-- `assign` and `_select_arm`; the last arm is the fallback of the loop. -/
def ExperimentAssigner.assign (digest : String → ℕ) (teamId requestId : String)
    (experiment : Option ExperimentConfig) : Option ExperimentAssignment := do
  let experiment ← experiment
  guard experiment.enabled
  let bucket := digest (teamId ++ ":" ++ experiment.id ++ ":" ++ toString experiment.version ++
    ":" ++ requestId) % 10000
  let last ← experiment.arms.getLast?
  let arm := (armOfBucket bucket 0 experiment.arms).getD last
  return ⟨experiment.id, experiment.version, arm.name, arm.provider, arm.model⟩

end CortexGateway
