import CortexGateway.Services.Stages

/-! # Where a request goes

The target of a request is routed to, replaced by the arm of an experiment,
and replaced again by a downgrade. -/
set_option autoImplicit false
namespace CortexGateway
open Budgeting Exits

theorem awaitShared_returned {σ τ α : Type} (program : EStateM Exc σ α) (world after : World σ τ)
    (value : α) (returned : (awaitShared program).run world = .ok value after) :
    program.run world.shared = .ok value after.shared := by
  simp only [awaitShared, EStateM.run] at returned ⊢
  split at returned
  · rename_i found shared ran
    cases returned
    exact ran
  · cases returned

namespace ChatService
variable {σ τ : Type} (svc : Collaborators σ τ) (settings : Settings) (policy : ResolvedPolicy)
variable (request : ChatCompletionRequest) (requestId : String) (context : Option RequestContext)

/-! ## Routing and assignment -/

/-- An automatic request goes where the engine routes it; the candidates are
those it awaits, unless the engine takes it for manual. -/
theorem resolveTarget_routed (automatic : request.isManual = false) (world after : World σ τ)
    (target : Target) (resolved : (resolveTarget svc request).run world = .ok target after) :
    ∃ candidates decision, svc.routingEngine.route request candidates = .ok decision ∧
      target = ⟨decision.provider, decision.model, decision.routingMode⟩ ∧
      (svc.routingEngine.resolveRoutingMode request ≠ .manual →
        ∃ shared, svc.buildCandidates.run world.shared = .ok candidates shared) := by
  unfold resolveTarget at resolved
  rw [if_neg (by simp [automatic]), EStateM.run_bind] at resolved
  cases listed : (routableCandidates svc request).run world with
  | error exc later =>
      rw [listed] at resolved
      cases resolved
  | ok candidates later =>
      rw [listed] at resolved
      dsimp only at resolved
      cases routed : svc.routingEngine.route request candidates with
      | error exc =>
          rw [routed] at resolved
          cases resolved
      | ok decision =>
          rw [routed] at resolved
          cases resolved
          refine ⟨candidates, decision, routed, rfl, fun mode => ?_⟩
          rw [routableCandidates, if_neg mode] at listed
          exact ⟨_, awaitShared_returned svc.buildCandidates world _ candidates listed⟩

/-- The target after the experiment of the policy. -/
def assignedTarget (target : Target) : Target :=
  match assignExperiment svc policy requestId context with
  | some assignment => { target with provider := assignment.provider, model := assignment.model }
  | none => target

@[simp] theorem assignedTarget_mode (target : Target) :
    (assignedTarget svc policy requestId context target).routingMode = target.routingMode := by
  unfold assignedTarget
  split <;> rfl

/-- What is admitted was resolved after the rate limits, and found no answer in
the cache. -/
theorem admission_resolved (world arrived : World σ τ) (admitted : Admitted)
    (arrives : (admission svc settings policy request requestId context).run world =
      .ok (.inr admitted) arrived) :
    ∃ remaining limits target routed,
      (checkRateLimits svc settings context).run world = .ok remaining limits ∧
      (resolveTarget svc request).run limits = .ok target routed ∧
      admitted.target = assignedTarget svc policy requestId context target := by
  unfold admission at arrives
  rw [EStateM.run_bind] at arrives
  cases limited : (checkRateLimits svc settings context).run world with
  | error exc after =>
      rw [limited] at arrives
      cases arrives
  | ok remaining limits =>
      rw [limited] at arrives
      dsimp only at arrives
      rw [EStateM.run_bind] at arrives
      cases resolved : (resolveTarget svc request).run limits with
      | error exc after =>
          rw [resolved] at arrives
          cases arrives
      | ok target routed =>
          rw [resolved] at arrives
          dsimp only at arrives
          rw [EStateM.run_bind] at arrives
          refine ⟨remaining, limits, target, routed, rfl, resolved, ?_⟩
          cases answered : (lookupCache svc policy request context).run routed with
          | error exc after =>
              rw [answered] at arrives
              cases arrives
          | ok answer after =>
              rw [answered] at arrives
              cases answer with
              | some cached => cases arrives
              | none =>
                  cases assigned : assignExperiment svc policy requestId context with
                  | some assignment =>
                      simp only [assigned] at arrives
                      cases arrives
                      simp only [assignedTarget, assigned]
                  | none =>
                      simp only [assigned] at arrives
                      cases arrives
                      simp only [assignedTarget, assigned]

theorem prepare_admitted (world quoted : World σ τ) (admitted : Admitted) (quoting : Quote)
    (prepared : (prepare svc settings policy request requestId context).run world =
      .ok (.inr (admitted, quoting)) quoted) :
    ∃ arrived, (admission svc settings policy request requestId context).run world =
        .ok (.inr admitted) arrived ∧
      (quote svc settings policy request context admitted.target).run arrived =
        .ok quoting quoted := by
  unfold prepare at prepared
  rw [EStateM.run_bind] at prepared
  cases admits : (admission svc settings policy request requestId context).run world with
  | error exc after =>
      rw [admits] at prepared
      cases prepared
  | ok admission arrived =>
      rw [admits] at prepared
      cases admission with
      | inl cached => cases prepared
      | inr present =>
          dsimp only at prepared
          rw [EStateM.run_bind] at prepared
          cases quotes : (quote svc settings policy request context present.target).run arrived with
          | error exc after =>
              rw [quotes] at prepared
              cases prepared
          | ok given after =>
              rw [quotes] at prepared
              cases prepared
              exact ⟨arrived, rfl, quotes⟩

/-! ## The downgrade -/

/-- What takes the place of a target: an affordable candidate among those found. -/
def Replaces (cost : CostClient) (target replacement : Target) : Prop :=
  ∃ before candidates after c remaining,
    svc.buildCandidates.run before = .ok candidates after ∧ c ∈ candidates ∧
    affordable cost request target remaining c = true ∧
    replacement = { target with provider := c.provider, model := c.model }

theorem attemptBudgetDowngrade_target (budgetService : BudgetClient (σ × τ)) (cost : CostClient)
    (present : RequestContext) (target : Target) (estimatedCost : ℚ) (world : World σ τ) :
    Ends (attemptBudgetDowngrade svc request budgetService cost present target estimatedCost) world
      (fun quote _ => (quote.budgetDowngraded = false ∧ quote.target = target) ∨
        (quote.budgetDowngraded = true ∧ Replaces svc request cost target quote.target))
      fun _ _ => True := by
  unfold attemptBudgetDowngrade
  apply ends_bind
  apply ends_any
  · intro found after
    cases found with
    | none => exact ends_pure (Or.inl ⟨rfl, rfl⟩)
    | some budget =>
        dsimp only
        split_ifs
        · exact ends_pure (Or.inl ⟨rfl, rfl⟩)
        · apply ends_bind
          rw [ends_iff]
          refine ⟨fun candidates later awaited => ?_, fun _ _ _ => trivial⟩
          split
          · trivial
          · rename_i best rest ranked
            apply ends_pure
            have first := scoreCandidates_mem _ _ best (ranked ▸ List.mem_cons_self)
            obtain ⟨member, affords⟩ := List.mem_filter.mp first
            exact Or.inr ⟨rfl, _, candidates, _, best.candidate, budget.remainingAmount,
              awaitShared_returned svc.buildCandidates after later candidates awaited, member,
              affords, rfl⟩
  · exact fun _ _ => trivial

theorem quote_target (target : Target) (world : World σ τ) :
    Ends (quote svc settings policy request context target) world
      (fun quote _ => (quote.budgetDowngraded = false ∧ quote.target = target) ∨
        (quote.budgetDowngraded = true ∧ ∃ cost, Replaces svc request cost target quote.target))
      fun _ _ => True := by
  unfold quote
  split
  · rename_i present budgetService cost _ _ _
    split_ifs
    · apply (attemptBudgetDowngrade_target svc request budgetService cost present target _ world).mono
      · rintro quote after (kept | ⟨downgraded, replaces⟩)
        · exact Or.inl kept
        · exact Or.inr ⟨downgraded, cost, replaces⟩
      · exact fun _ _ _ => trivial
    · exact ends_pure (Or.inl ⟨rfl, rfl⟩)
  · exact ends_pure (Or.inl ⟨rfl, rfl⟩)

theorem quote_mode (target : Target) (world : World σ τ) :
    Ends (quote svc settings policy request context target) world
      (fun quote _ => quote.target.routingMode = target.routingMode) fun _ _ => True := by
  apply (quote_target svc settings policy request context target world).mono
  · rintro quote after (⟨-, same⟩ | ⟨-, cost, _, _, _, _, _, -, -, -, replaced⟩)
    · rw [same]
    · rw [replaced]
  · exact fun _ _ _ => trivial

end ChatService
end CortexGateway
