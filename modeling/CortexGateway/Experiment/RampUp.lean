import CortexGateway.Experiment.Buckets

/-! # Ramping up an experiment

An experiment whose weights change keeps its hash as long as its id and its
version stay.  When weight only moves to later arms, a request only moves to
later arms, whatever the digest: no one who saw the canary is sent back.  How
many buckets move is the distance the thresholds have moved. -/
set_option autoImplicit false
namespace CortexGateway

/-! ## Thresholds that fall -/

section Thresholds
variable {β : Type*} [LinearOrder β]

/-- The block between two thresholds. -/
def Between (threshold : ℕ → β) (i : ℕ) (value : β) : Prop :=
  threshold i ≤ value ∧ value < threshold (i + 1)

theorem Between.lt {threshold : ℕ → β} (monotone : Monotone threshold) {i j : ℕ} {value : β}
    (between : Between threshold i value) (below : value < threshold j) : i < j := by
  by_contra late
  exact absurd (below.trans_le (monotone (not_lt.mp late))) (not_lt.mpr between.1)

theorem Between.unique {threshold : ℕ → β} (monotone : Monotone threshold) {i j : ℕ} {value : β}
    (between : Between threshold i value) (betweenToo : Between threshold j value) : i = j := by
  have low := between.lt monotone betweenToo.2
  have high := betweenToo.lt monotone between.2
  omega

/-- Lower thresholds put a value no earlier. -/
theorem Between.le {before after : ℕ → β} (monotone : Monotone before)
    (lower : ∀ i, after i ≤ before i) {i j : ℕ} {value : β} (old : Between before i value)
    (new : Between after j value) : i ≤ j := by
  have below : value < before (j + 1) := new.2.trans_le (lower (j + 1))
  exact Nat.lt_succ_iff.mp (old.lt monotone below)

/-- A value stays in its block exactly if no threshold passes it. -/
theorem Between.stays_iff {before after : ℕ → β} (monotone : Monotone before)
    (monotoneToo : Monotone after) {i j : ℕ} {value : β} (old : Between before i value)
    (new : Between after j value) :
    i = j ↔ ∀ k, after k ≤ value ↔ before k ≤ value := by
  constructor
  · rintro rfl k
    rcases le_or_gt k i with early | late
    · exact iff_of_true ((monotoneToo early).trans new.1) ((monotone early).trans old.1)
    · exact iff_of_false (not_le.mpr (new.2.trans_le (monotoneToo late)))
        (not_le.mpr (old.2.trans_le (monotone late)))
  · intro same
    have both : Between before j value :=
      ⟨(same j).mp new.1, not_le.mp fun passed => absurd ((same (j + 1)).mpr passed)
        (not_le.mpr new.2)⟩
    exact old.unique monotone both

end Thresholds

namespace ExperimentConfig

theorem monotone_threshold (experiment : ExperimentConfig) : Monotone experiment.threshold := by
  intro i j le
  rw [← experiment.sizeUpTo_blocks, ← experiment.sizeUpTo_blocks]
  exact experiment.blocks.monotone_sizeUpTo le

theorem threshold_le (experiment : ExperimentConfig) (i : ℕ) : experiment.threshold i ≤ 10000 := by
  rw [← experiment.sizeUpTo_blocks]
  exact experiment.blocks.sizeUpTo_le i

def armNames (experiment : ExperimentConfig) : List String :=
  experiment.arms.map ExperimentArm.name

theorem threshold_of_le {experiment : ExperimentConfig} {i : ℕ}
    (past : experiment.arms.length ≤ i) : experiment.threshold i = 10000 := by
  rw [threshold, List.take_of_length_le past, experiment.weightsSum]

/-- Two versions of the weights of one experiment. -/
structure Reweighs (before after : ExperimentConfig) : Prop where
  id : after.id = before.id
  version : after.version = before.version
  names : after.armNames = before.armNames

/-- Weight is only moved to later arms. -/
def Lowers (before after : ExperimentConfig) : Prop :=
  ∀ i, after.threshold i ≤ before.threshold i

instance : IsTrans ExperimentConfig Lowers :=
  ⟨fun _ _ _ early late i => (late i).trans (early i)⟩

theorem Reweighs.length {before after : ExperimentConfig} (reweighs : Reweighs before after) :
    after.arms.length = before.arms.length := by
  have lengths := congrArg List.length reweighs.names
  rwa [armNames, armNames, List.length_map, List.length_map] at lengths

end ExperimentConfig

namespace ExperimentAssigner
open ExperimentConfig

/-- The place of the arm a request is assigned. -/
def armPlace (digest : String → ℕ) (teamId requestId : String) (experiment : ExperimentConfig) :
    Option ℕ :=
  (assign digest teamId requestId (some experiment)).map fun assignment =>
    experiment.armNames.idxOf assignment.armName

variable (digest : String → ℕ) (teamId requestId : String)

theorem armPlace_eq {experiment : ExperimentConfig} (enabled : experiment.enabled = true)
    {i : Fin experiment.arms.length}
    (owns : Owns experiment i (bucketOf experiment digest teamId requestId)) :
    armPlace digest teamId requestId experiment = some (i : ℕ) := by
  rw [armPlace, assign_owner experiment digest teamId requestId enabled owns, Option.map_some]
  have inside : (i : ℕ) < experiment.armNames.length := by
    rw [armNames, List.length_map]
    exact i.isLt
  have named : experiment.arms[i].name = experiment.armNames[(i : ℕ)] :=
    (List.getElem_map ..).symm
  rw [named]
  exact congrArg some (experiment.distinctNames.idxOf_getElem (i : ℕ) inside)

/-- Every request to an experiment that is on has one place, that of its bucket. -/
theorem armPlace_between {experiment : ExperimentConfig} (enabled : experiment.enabled = true) :
    ∃ i, armPlace digest teamId requestId experiment = some i ∧
      Between experiment.threshold i (bucketOf experiment digest teamId requestId : ℕ) := by
  obtain ⟨i, owns⟩ := owned experiment (bucketOf experiment digest teamId requestId)
  exact ⟨i, armPlace_eq digest teamId requestId enabled owns, owns⟩

/-! ## The buckets that move -/

/-- The place of the arm that owns a bucket. -/
def placeOf (experiment : ExperimentConfig) (bucket : Fin 10000) : ℕ :=
  experiment.blocks.index bucket

theorem placeOf_between (experiment : ExperimentConfig) (bucket : Fin 10000) :
    Between experiment.threshold (placeOf experiment bucket) (bucket : ℕ) := by
  have low := experiment.blocks.sizeUpTo_index_le bucket
  have high := experiment.blocks.lt_sizeUpTo_index_succ bucket
  rw [experiment.sizeUpTo_blocks] at low high
  exact ⟨low, high⟩

theorem armPlace_placeOf {experiment : ExperimentConfig} (enabled : experiment.enabled = true) :
    armPlace digest teamId requestId experiment =
      some (placeOf experiment (bucketOf experiment digest teamId requestId)) := by
  obtain ⟨i, found, between⟩ := armPlace_between digest teamId requestId enabled
  rw [found, between.unique experiment.monotone_threshold (placeOf_between experiment _)]

/-- Whatever is ramped up, the thresholds have only fallen. -/
theorem lower_of_placeOf_le {before after : ExperimentConfig}
    (later : ∀ bucket, placeOf before bucket ≤ placeOf after bucket) (i : ℕ) :
    after.threshold i ≤ before.threshold i := by
  by_contra raised
  have above : before.threshold i < after.threshold i := not_le.mp raised
  let bucket : Fin 10000 := ⟨before.threshold i, above.trans_le (after.threshold_le i)⟩
  have old := placeOf_between before bucket
  have new := placeOf_between after bucket
  have early : placeOf after bucket < i := new.lt after.monotone_threshold above
  have late : i < placeOf before bucket + 1 := by
    by_contra past
    have falls : before.threshold (placeOf before bucket + 1) ≤ before.threshold i :=
      before.monotone_threshold (not_lt.mp past)
    exact absurd old.2 (not_lt.mpr falls)
  have order := later bucket
  omega

/-- The buckets between two numbers. -/
theorem card_between_le (low high : ℕ) :
    (Finset.univ.filter fun bucket : Fin 10000 => low ≤ (bucket : ℕ) ∧ (bucket : ℕ) < high).card ≤
      high - low := by
  rw [← Nat.card_Ico]
  refine Finset.card_le_card_of_injOn Fin.val (fun bucket member => ?_)
    fun bucket _ other _ same => Fin.ext same
  have inside := (Finset.mem_filter.mp member).2
  exact Finset.mem_coe.mpr (Finset.mem_Ico.mpr inside)

/-- At most as many buckets move as their thresholds have fallen. -/
theorem moved_card_le {before after : ExperimentConfig} (reweighs : Reweighs before after)
    (lowers : Lowers before after) :
    (Finset.univ.filter fun bucket => placeOf before bucket ≠ placeOf after bucket).card ≤
      ∑ i ∈ Finset.range before.arms.length, (before.threshold i - after.threshold i) := by
  have passed : (Finset.univ.filter fun bucket => placeOf before bucket ≠ placeOf after bucket) ⊆
      (Finset.range before.arms.length).biUnion fun i => Finset.univ.filter fun bucket =>
        after.threshold i ≤ (bucket : ℕ) ∧ (bucket : ℕ) < before.threshold i := by
    intro bucket member
    have moves := (Finset.mem_filter.mp member).2
    have stays := (placeOf_between before bucket).stays_iff before.monotone_threshold
      after.monotone_threshold (placeOf_between after bucket)
    obtain ⟨i, crossed⟩ := not_forall.mp (moves ∘ stays.mpr)
    have falls := lowers i
    have inside : after.threshold i ≤ (bucket : ℕ) ∧ (bucket : ℕ) < before.threshold i := by
      by_contra outside
      exact crossed ⟨fun low => not_lt.mp fun high => outside ⟨low, high⟩, falls.trans⟩
    have early : i < before.arms.length := by
      by_contra beyond
      have last : (bucket : ℕ) < after.threshold i := by
        rw [threshold_of_le (reweighs.length.trans_le (not_lt.mp beyond))]
        exact bucket.isLt
      exact absurd inside.1 (not_le.mpr last)
    exact Finset.mem_biUnion.mpr ⟨i, Finset.mem_range.mpr early,
      Finset.mem_filter.mpr ⟨Finset.mem_univ bucket, inside⟩⟩
  calc
    _ ≤ _ := Finset.card_le_card passed
    _ ≤ _ := Finset.card_biUnion_le
    _ ≤ _ := Finset.sum_le_sum fun i _ => card_between_le _ _

/-! ## A history of weights -/

theorem bucketOf_reweighs {before after : ExperimentConfig} (reweighs : Reweighs before after) :
    bucketOf after digest teamId requestId = bucketOf before digest teamId requestId :=
  Fin.ext (by simp only [bucketOf, reweighs.id, reweighs.version])

theorem bucketOf_const (experiment : ExperimentConfig) (bucket : Fin 10000) :
    bucketOf experiment (fun _ => bucket) teamId requestId = bucket :=
  Fin.ext (Nat.mod_eq_of_lt bucket.isLt)

/-- In all versions a request has one bucket. -/
theorem bucketOf_history {first : ExperimentConfig} {rest : List ExperimentConfig}
    (reweighs : (first :: rest).IsChain Reweighs) :
    ∀ later ∈ first :: rest,
      bucketOf later digest teamId requestId = bucketOf first digest teamId requestId := by
  induction rest generalizing first with
  | nil =>
      intro later member
      rw [List.mem_singleton.mp member]
  | cons second rest ih =>
      obtain ⟨step, chain⟩ := List.isChain_cons_cons.mp reweighs
      intro later member
      rcases List.mem_cons.mp member with rfl | rest
      · rfl
      · rw [ih chain later rest, bucketOf_reweighs digest teamId requestId step]

/-- The places a request is assigned in a history, by its bucket. -/
theorem places_eq {history : List ExperimentConfig} (bucket : Fin 10000)
    (enabled : ∀ experiment ∈ history, experiment.enabled = true)
    (same : ∀ experiment ∈ history, bucketOf experiment digest teamId requestId = bucket) :
    history.filterMap (armPlace digest teamId requestId) =
      history.map fun experiment => placeOf experiment bucket := by
  rw [← List.filterMap_eq_map]
  refine List.filterMap_congr fun experiment member => ?_
  rw [armPlace_placeOf digest teamId requestId (enabled experiment member), same experiment member]
  rfl

theorem placeOf_le {before after : ExperimentConfig} (lowers : Lowers before after)
    (bucket : Fin 10000) : placeOf before bucket ≤ placeOf after bucket :=
  (placeOf_between before bucket).le before.monotone_threshold lowers (placeOf_between after bucket)

/-- As long as an experiment keeps its id, its version and its arms, no request
goes back to an earlier arm, whatever the digest, exactly if every change of the
weights only moves weight to later arms; and such a change moves at most as many
buckets as the thresholds have fallen. -/
theorem ramp_up_one_way (history : List ExperimentConfig) (reweighs : history.IsChain Reweighs)
    (enabled : ∀ experiment ∈ history, experiment.enabled = true) :
    ((∀ digest teamId requestId,
        (history.filterMap (armPlace digest teamId requestId)).Pairwise (· ≤ ·)) ↔
      history.IsChain Lowers) ∧
      ∀ before after, Reweighs before after → Lowers before after →
        (Finset.univ.filter fun bucket => placeOf before bucket ≠ placeOf after bucket).card ≤
          ∑ i ∈ Finset.range before.arms.length, (before.threshold i - after.threshold i) := by
  refine ⟨⟨fun oneWay => ?_, fun lowers digest teamId requestId => ?_⟩,
    fun before after step lowers => moved_card_le step lowers⟩
  · have everywhere : ∀ bucket : Fin 10000,
        (history.map fun experiment => placeOf experiment bucket).Pairwise (· ≤ ·) := by
      intro bucket
      have walk := oneWay (fun _ => bucket) "" ""
      rwa [places_eq _ _ _ bucket enabled fun experiment _ => bucketOf_const "" "" experiment bucket]
        at walk
    refine List.Pairwise.isChain ?_
    have placewise : history.Pairwise fun before after =>
        ∀ bucket, placeOf before bucket ≤ placeOf after bucket := by
      refine List.pairwise_iff_getElem.mpr fun i j early late order bucket => ?_
      exact List.pairwise_iff_getElem.mp (List.pairwise_map.mp (everywhere bucket)) i j early late
        order
    exact placewise.imp fun later => lower_of_placeOf_le later
  · cases history with
    | nil => exact List.Pairwise.nil
    | cons first rest =>
        rw [places_eq digest teamId requestId _ enabled
          (bucketOf_history digest teamId requestId reweighs), List.pairwise_map]
        have always : (first :: rest).Pairwise Lowers := List.isChain_iff_pairwise.mp lowers
        exact always.imp fun step => placeOf_le step _

/-! ## A canary -/

/-- A canary with a share of the requests. -/
def canaryAt (share : ℕ) (positive : 0 < share) (below : share < 100) : ExperimentConfig :=
  { enabled := true
    id := "canary-flash"
    version := 1
    type := .canary
    arms := [⟨"stable", "groq", "llama", 100 - share, Nat.sub_pos_of_lt below⟩,
      ⟨"canary", "gemini", "flash", share, positive⟩]
    versionPositive := le_refl 1
    twoArms := le_refl 2
    distinctNames := by simp
    weightsSum := by simp; omega }

theorem canary_lowers {share more : ℕ} (positive : 0 < share) (below : more < 100)
    (grows : share ≤ more) :
    Reweighs (canaryAt share positive (grows.trans_lt below))
        (canaryAt more (positive.trans_le grows) below) ∧
      Lowers (canaryAt share positive (grows.trans_lt below))
        (canaryAt more (positive.trans_le grows) below) := by
  refine ⟨⟨rfl, rfl, rfl⟩, fun i => ?_⟩
  match i with
  | 0 => exact le_refl 0
  | 1 =>
      simp only [threshold, canaryAt, List.take_succ_cons, List.take_zero, List.map_cons,
        List.map_nil, List.sum_cons, List.sum_nil]
      omega
  | i + 2 =>
      have arms (part : ℕ) (low : 0 < part) (high : part < 100) :
          (canaryAt part low high).threshold (i + 2) = 10000 :=
        threshold_of_le (Nat.le_add_left 2 i)
      rw [arms, arms]

/-- From 5 over 20 to 50 percent. -/
theorem canary_ramps_up :
    [canaryAt 5 (by decide) (by decide), canaryAt 20 (by decide) (by decide),
        canaryAt 50 (by decide) (by decide)].IsChain Reweighs ∧
      ∀ digest teamId requestId,
        ([canaryAt 5 (by decide) (by decide), canaryAt 20 (by decide) (by decide),
          canaryAt 50 (by decide) (by decide)].filterMap
            (armPlace digest teamId requestId)).Pairwise (· ≤ ·) := by
  have grows : 5 ≤ 20 := by decide
  have growsOn : 20 ≤ 50 := by decide
  have first := canary_lowers (by decide) (by decide) grows
  have second := canary_lowers (by decide) (by decide) growsOn
  have reweighs := List.IsChain.cons_cons first.1 (.cons_cons second.1 (.singleton _))
  refine ⟨reweighs, ?_⟩
  refine (ramp_up_one_way _ reweighs fun experiment member => ?_).1.mpr
    (.cons_cons first.2 (.cons_cons second.2 (.singleton _)))
  rcases List.mem_cons.mp member with rfl | later
  · rfl
  · rcases List.mem_pair.mp later with rfl | rfl <;> rfl

end ExperimentAssigner

end CortexGateway
