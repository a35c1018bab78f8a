import CortexGateway.Experiment.Assigner

/-! # The buckets of an experiment

The weights of a validated experiment split the buckets into blocks, a
composition of their number.  The loop of `_select_arm` finds the arm whose
block a bucket is in, so each arm gets its share and the fallback none. -/
set_option autoImplicit false
namespace CortexGateway

namespace ExperimentConfig
variable (experiment : ExperimentConfig)

def shares : List ℕ := experiment.arms.map fun arm => arm.weight * 100

theorem shares_pos {share : ℕ} (member : share ∈ experiment.shares) : 0 < share := by
  obtain ⟨arm, -, rfl⟩ := List.mem_map.mp member
  exact Nat.mul_pos arm.weightPositive (by omega)

theorem sum_shares (arms : List ExperimentArm) :
    (arms.map fun arm => arm.weight * 100).sum = (arms.map ExperimentArm.weight).sum * 100 :=
  List.sum_map_mul_right ..

theorem shares_sum : experiment.shares.sum = 10000 := by
  rw [shares, sum_shares, experiment.weightsSum]

def blocks : Composition 10000 := ⟨experiment.shares, experiment.shares_pos, experiment.shares_sum⟩

/-- The first bucket past those of the first `i` arms. -/
def threshold (i : ℕ) : ℕ := ((experiment.arms.take i).map ExperimentArm.weight).sum * 100

theorem sizeUpTo_blocks (i : ℕ) : experiment.blocks.sizeUpTo i = experiment.threshold i := by
  rw [threshold, ← sum_shares, List.map_take]
  rfl

theorem blocks_length : experiment.arms.length = experiment.blocks.length :=
  (List.length_map ..).symm

/-- The block of an arm. -/
def block (i : Fin experiment.arms.length) : Fin experiment.blocks.length :=
  i.cast experiment.blocks_length

theorem blocksFun_block (i : Fin experiment.arms.length) :
    experiment.blocks.blocksFun (experiment.block i) = experiment.arms[i].weight * 100 :=
  List.getElem_map ..

theorem threshold_succ (i : Fin experiment.arms.length) :
    experiment.threshold (i + 1) = experiment.threshold i + experiment.arms[i].weight * 100 := by
  rw [← sizeUpTo_blocks, ← sizeUpTo_blocks, ← experiment.blocksFun_block i]
  exact experiment.blocks.sizeUpTo_succ' (experiment.block i)

theorem threshold_length : experiment.threshold experiment.arms.length = 10000 := by
  rw [← sizeUpTo_blocks, experiment.blocks_length]
  exact experiment.blocks.sizeUpTo_length

end ExperimentConfig

/-! ## The loop -/

theorem armOfBucket_between {bucket cumulative i : ℕ} (arms : List ExperimentArm)
    (bound : i < arms.length)
    (low : cumulative + ((arms.take i).map ExperimentArm.weight).sum * 100 ≤ bucket)
    (high : bucket < cumulative + ((arms.take (i + 1)).map ExperimentArm.weight).sum * 100) :
    armOfBucket bucket cumulative arms = some arms[i] := by
  induction arms generalizing cumulative i with
  | nil => exact absurd bound (Nat.not_lt_zero i)
  | cons arm rest ih =>
      cases i with
      | zero =>
          have own : bucket < cumulative + arm.weight * 100 := by simpa using high
          simp only [armOfBucket, if_pos own]
          rfl
      | succ i =>
          simp only [List.take_succ_cons, List.map_cons, List.sum_cons, Nat.add_mul] at low high
          have past : ¬bucket < cumulative + arm.weight * 100 := by omega
          simp only [armOfBucket, if_neg past]
          exact ih (Nat.lt_of_succ_lt_succ bound) (by omega) (by omega)

namespace ExperimentAssigner
variable (experiment : ExperimentConfig)

theorem bucket_lt (digest : ℕ) : digest % 10000 < 10000 := Nat.mod_lt digest (by omega)

/-- The bucket of a request. -/
def bucketOf (digest : String → ℕ) (teamId requestId : String) : Fin 10000 :=
  ⟨digest (teamId ++ ":" ++ experiment.id ++ ":" ++ toString experiment.version ++ ":" ++
    requestId) % 10000, bucket_lt _⟩

def Owns (i : Fin experiment.arms.length) (bucket : Fin 10000) : Prop :=
  experiment.threshold i ≤ bucket ∧ (bucket : ℕ) < experiment.threshold (i + 1)

instance (i : Fin experiment.arms.length) (bucket : Fin 10000) : Decidable (Owns experiment i bucket) :=
  inferInstanceAs (Decidable (_ ∧ _))

theorem owned (bucket : Fin 10000) : ∃ i, Owns experiment i bucket := by
  have low := experiment.blocks.sizeUpTo_index_le bucket
  have high := experiment.blocks.lt_sizeUpTo_index_succ bucket
  rw [experiment.sizeUpTo_blocks] at low high
  exact ⟨(experiment.blocks.index bucket).cast experiment.blocks_length.symm, low, high⟩

theorem armOfBucket_owned {i : Fin experiment.arms.length} {bucket : Fin 10000}
    (owns : Owns experiment i bucket) :
    armOfBucket bucket 0 experiment.arms = some experiment.arms[i] := by
  refine armOfBucket_between experiment.arms i.isLt ?_ ?_
  · rw [Nat.zero_add]
    exact owns.1
  · rw [Nat.zero_add]
    exact owns.2

theorem armOfBucket_iff (i : Fin experiment.arms.length) (bucket : Fin 10000) :
    armOfBucket bucket 0 experiment.arms = some experiment.arms[i] ↔ Owns experiment i bucket := by
  refine ⟨fun selected => ?_, armOfBucket_owned experiment⟩
  obtain ⟨owner, owns⟩ := owned experiment bucket
  rw [armOfBucket_owned experiment owns] at selected
  have distinct : experiment.arms.Nodup := experiment.distinctNames.of_map
  have same : owner = i :=
    Fin.ext (distinct.getElem_inj_iff.mp (Option.some.inj selected))
  exact same ▸ owns

theorem mem_block_iff (i : Fin experiment.arms.length) (bucket : Fin 10000) :
    bucket ∈ Set.range (experiment.blocks.embedding (experiment.block i)) ↔
      Owns experiment i bucket := by
  rw [Composition.mem_range_embedding_iff, experiment.sizeUpTo_blocks, experiment.sizeUpTo_blocks]
  rfl

theorem card_owned (i : Fin experiment.arms.length) :
    (Finset.univ.filter (Owns experiment i)).card = experiment.arms[i].weight * 100 := by
  have block : Finset.univ.filter (Owns experiment i) =
      Finset.univ.map (experiment.blocks.embedding (experiment.block i)).toEmbedding := by
    ext bucket
    rw [Finset.mem_filter_univ, ← mem_block_iff]
    simp
  rw [block, Finset.card_map, Finset.card_univ, Fintype.card_fin]
  exact experiment.blocksFun_block i

theorem assign_owner (digest : String → ℕ) (teamId requestId : String)
    (enabled : experiment.enabled = true) {i : Fin experiment.arms.length}
    (owns : Owns experiment i (bucketOf experiment digest teamId requestId)) :
    assign digest teamId requestId (some experiment) =
      some ⟨experiment.id, experiment.version, experiment.arms[i].name, experiment.arms[i].provider,
        experiment.arms[i].model⟩ := by
  have selected := armOfBucket_owned experiment owns
  have nonempty : experiment.arms ≠ [] := List.ne_nil_of_length_pos (Fin.pos i)
  rw [bucketOf] at selected
  simp only [assign, Option.bind_eq_bind, Option.bind_some, enabled, guard_true, Option.pure_def,
    List.getLast?_eq_some_getLast nonempty, selected, Option.getD_some]

/-- The arms own consecutive blocks of buckets in declaration order, each a hundred
for a unit of its weight, and a request is assigned the arm that owns its bucket. -/
structure MatchesWeights : Prop where
  first : experiment.threshold 0 = 0
  next : ∀ i : Fin experiment.arms.length,
    experiment.threshold (i + 1) = experiment.threshold i + experiment.arms[i].weight * 100
  last : experiment.threshold experiment.arms.length = 10000
  selects : ∀ (i : Fin experiment.arms.length) (bucket : Fin 10000),
    armOfBucket bucket 0 experiment.arms = some experiment.arms[i] ↔
      experiment.threshold i ≤ bucket ∧ (bucket : ℕ) < experiment.threshold (i + 1)
  share : ∀ i : Fin experiment.arms.length,
    (Finset.univ.filter fun bucket : Fin 10000 =>
      armOfBucket bucket 0 experiment.arms = some experiment.arms[i]).card =
        experiment.arms[i].weight * 100
  noFallback : ∀ bucket : Fin 10000, armOfBucket bucket 0 experiment.arms ≠ none
  assigns : ∀ (digest : String → ℕ) (teamId requestId : String), experiment.enabled = true →
    ∃ i : Fin experiment.arms.length, Owns experiment i (bucketOf experiment digest teamId requestId) ∧
      assign digest teamId requestId (some experiment) =
        some ⟨experiment.id, experiment.version, experiment.arms[i].name, experiment.arms[i].provider,
          experiment.arms[i].model⟩

/-- Whatever the arms of an experiment, their buckets match their weights. -/
theorem buckets_match_weights (experiment : ExperimentConfig) : MatchesWeights experiment where
  first := rfl
  next := experiment.threshold_succ
  last := experiment.threshold_length
  selects := armOfBucket_iff experiment
  share i := by
    simp only [armOfBucket_iff]
    exact card_owned experiment i
  noFallback bucket := by
    obtain ⟨i, owns⟩ := owned experiment bucket
    rw [armOfBucket_owned experiment owns]
    exact Option.some_ne_none _
  assigns digest teamId requestId enabled := by
    obtain ⟨i, owns⟩ := owned experiment (bucketOf experiment digest teamId requestId)
    exact ⟨i, owns, assign_owner experiment digest teamId requestId enabled owns⟩

/-- The split 95/5 of the module's docstring. -/
example :
    let arms : List ExperimentArm := [⟨"stable", "groq", "llama", 95, by decide⟩,
      ⟨"canary", "gemini", "flash", 5, by decide⟩]
    (armOfBucket 9499 0 arms).map ExperimentArm.name = some "stable" ∧
      (armOfBucket 9500 0 arms).map ExperimentArm.name = some "canary" := by decide

end ExperimentAssigner

end CortexGateway
