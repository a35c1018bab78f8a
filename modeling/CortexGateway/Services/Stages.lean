import CortexGateway.Lib.Exits
import CortexGateway.Services.ChatService

/-! # What the stages of complete keep

Up to the reservation `complete` settles and executes nothing.  The lemmas ask
of an invariant that the awaits of the other services keep it, and of a law on
exceptions that those services and the stages themselves obey it. -/
set_option autoImplicit false
namespace CortexGateway
open Budgeting Exits

/-- `BudgetExceeded`, or the `MissingGreenlet` that a rejection ends in. -/
def Exc.isBudgetRejection : Exc → Bool
  | .budgetExceeded .. => true
  | .missingGreenlet => true
  | _ => false

section Stages
variable {σ τ : Type}

/-- Awaits of the other services and noting a lookup keep the invariant. -/
structure Undisturbed (inv : World σ τ → Prop) : Prop where
  shared : ∀ world shared, inv world → inv { world with shared := shared }
  lookup : ∀ world, inv world → inv { world with calls := .lookup :: world.calls }

/-- The services outside the budget raise within the law. -/
structure Collaborators.Obey (svc : Collaborators σ τ) (law : Exc → Prop) : Prop where
  own : ∀ exc, exc.isBudgetRejection = false → law exc
  rateLimiter : ∀ rateLimiter ∈ svc.rateLimiter, ∀ limits shared exc after,
    (rateLimiter limits).run shared = .error exc after → law exc
  teamRequestsPerMinute : ∀ service ∈ svc.teamRequestsPerMinute, ∀ teamId shared exc after,
    (service teamId).run shared = .error exc after → law exc
  buildCandidates : ∀ shared exc after,
    svc.buildCandidates.run shared = .error exc after → law exc
  semanticCache : ∀ lookup ∈ svc.semanticCache, ∀ request context shared exc after,
    (lookup request context).run shared = .error exc after → law exc
  execute : ∀ request provider model mode shared exc after,
    (svc.execute request provider model mode).run shared = .error exc after → law exc
  actualCost : ∀ cost ∈ svc.costCalculator, ∀ provider model usage estimatedCost,
    Raises law (cost.calculateActualCost provider model usage estimatedCost)

theorem Collaborators.Obey.mono {svc : Collaborators σ τ} {law weaker : Exc → Prop}
    (obey : svc.Obey law) (implies : ∀ exc, law exc → weaker exc) : svc.Obey weaker where
  own exc foreign := implies exc (obey.own exc foreign)
  rateLimiter limiter given limits shared exc after raised :=
    implies exc (obey.rateLimiter limiter given limits shared exc after raised)
  teamRequestsPerMinute service given teamId shared exc after raised :=
    implies exc (obey.teamRequestsPerMinute service given teamId shared exc after raised)
  buildCandidates shared exc after raised :=
    implies exc (obey.buildCandidates shared exc after raised)
  semanticCache lookup given request context shared exc after raised :=
    implies exc (obey.semanticCache lookup given request context shared exc after raised)
  execute request provider model mode shared exc after raised :=
    implies exc (obey.execute request provider model mode shared exc after raised)
  actualCost cost given provider model usage estimatedCost exc raised :=
    implies exc (obey.actualCost cost given provider model usage estimatedCost exc raised)

theorem collaborators_obey (svc : Collaborators σ τ) : svc.Obey fun _ => True := by
  constructor <;> intros <;> first | trivial | exact fun _ _ => trivial

variable {α : Type} {inv : World σ τ → Prop} {law : Exc → Prop}

theorem keeps_awaitShared (undisturbed : Undisturbed inv) (program : EStateM Exc σ α)
    (obeys : ∀ shared exc after, program.run shared = .error exc after → law exc) :
    Keeps inv law (awaitShared program : ServiceM σ τ α) := by
  intro world holds
  rw [ends_iff]
  constructor
  · intro value after returned
    simp only [awaitShared, EStateM.run] at returned
    split at returned
    · cases returned
      exact undisturbed.shared world _ holds
    · cases returned
  · intro exc after raised
    simp only [awaitShared, EStateM.run] at raised
    split at raised
    · cases raised
    · rename_i failed
      cases raised
      exact ⟨obeys _ _ _ failed, undisturbed.shared world _ holds⟩

theorem keeps_awaitSession (stable : ∀ world shared session,
      inv world → inv { world with shared := shared, session := session })
    (program : EStateM Exc (σ × τ) α)
    (obeys : ∀ state exc after, program.run state = .error exc after → law exc) :
    Keeps inv law (awaitSession program) := by
  intro world holds
  rw [ends_iff]
  constructor
  · intro value after returned
    simp only [awaitSession, EStateM.run] at returned
    split at returned
    · cases returned
      exact stable world _ _ holds
    · cases returned
  · intro exc after raised
    simp only [awaitSession, EStateM.run] at raised
    split at raised
    · cases raised
    · rename_i failed
      cases raised
      exact ⟨obeys _ _ _ failed, stable world _ _ holds⟩

theorem keeps_failOpen (program : ServiceM σ τ α) (fallback : α) (keeps : Keeps inv law program) :
    Keeps inv law (failOpen program fallback) := by
  apply keeps_tryCatch keeps
  intro exc obeys
  split_ifs
  · exact keeps_pure fallback
  · exact keeps_throw exc obeys

/-- The routing engine raises provider exceptions only. -/
theorem route_raises (engine : RoutingEngine) (request : ChatCompletionRequest)
    (candidates : List RoutingCandidate) :
    Raises (fun exc => ∃ cls message, exc = .provider cls message)
      (engine.route request candidates) := by
  unfold RoutingEngine.route
  simp only [noRoutableProviderError, throw, throwThe, MonadExceptOf.throw, bind, Except.bind,
    pure, Except.pure]
  repeat' apply raises_ite
  · exact raises_error _ ⟨_, _, rfl⟩
  · exact raises_error _ ⟨_, _, rfl⟩
  · exact raises_ok _
  · exact raises_error _ ⟨_, _, rfl⟩
  · exact raises_error _ ⟨_, _, rfl⟩
  · exact raises_error _ ⟨_, _, rfl⟩
  · split
    · exact raises_error _ ⟨_, _, rfl⟩
    · exact raises_ok _

namespace ChatService
variable (svc : Collaborators σ τ) (settings : Settings) (policy : ResolvedPolicy)
variable (request : ChatCompletionRequest) (requestId : String) (context : Option RequestContext)

theorem teamRpm_keeps (undisturbed : Undisturbed inv) (obey : svc.Obey law)
    (context : RequestContext) : Keeps inv law (teamRpm svc settings context) := by
  unfold teamRpm
  split
  · rename_i service given
    split_ifs
    · exact keeps_pure _
    · apply keeps_bind
      · apply keeps_failOpen
        exact keeps_awaitShared undisturbed _ (obey.teamRequestsPerMinute service given _)
      · intro teamOverride
        exact keeps_pure _
  · exact keeps_pure _

theorem checkRateLimits_keeps (undisturbed : Undisturbed inv) (obey : svc.Obey law) :
    Keeps inv law (checkRateLimits svc settings context) := by
  unfold checkRateLimits
  split
  · rename_i present limiter given _
    apply keeps_bind (teamRpm_keeps svc settings undisturbed obey present)
    intro teamLimit
    apply keeps_bind
    · exact keeps_awaitShared undisturbed _ (obey.rateLimiter limiter given _)
    · intro outcome
      split_ifs
      · exact keeps_pure _
      · exact keeps_throw _ (obey.own _ rfl)
  · exact keeps_pure none

theorem keeps_ofExcept (result : Except Exc α) (raises : Raises law result) :
    Keeps inv law (ofExcept result : ServiceM σ τ α) := by
  cases result with
  | ok value => exact keeps_pure value
  | error exc => exact keeps_throw exc (raises exc rfl)

theorem manualTarget_raises :
    Raises (fun exc => ∃ cls message, exc = .provider cls message) (manualTarget request) := by
  unfold manualTarget
  apply raises_ite
  · exact raises_error _ ⟨_, _, rfl⟩
  · exact raises_ok _

theorem obeys_provider (obey : svc.Obey law) (result : Except Exc α)
    (raises : Raises (fun exc => ∃ cls message, exc = .provider cls message) result) :
    Raises law result := by
  intro exc raised
  obtain ⟨cls, message, rfl⟩ := raises exc raised
  exact obey.own _ rfl

theorem resolveTarget_keeps (undisturbed : Undisturbed inv) (obey : svc.Obey law) :
    Keeps inv law (resolveTarget svc request) := by
  unfold resolveTarget
  split_ifs
  · exact keeps_ofExcept _ (obeys_provider svc obey _ (manualTarget_raises request))
  · apply keeps_bind
    · unfold routableCandidates
      split_ifs
      · exact keeps_pure []
      · exact keeps_awaitShared undisturbed _ obey.buildCandidates
    intro candidates
    apply keeps_bind
    · exact keeps_ofExcept _ (obeys_provider svc obey _ (route_raises svc.routingEngine request _))
    intro decision
    exact keeps_pure _

theorem lookupCache_keeps (undisturbed : Undisturbed inv) (obey : svc.Obey law) :
    Keeps inv law (lookupCache svc policy request context) := by
  unfold lookupCache
  split
  · rename_i lookup present given _
    apply keeps_bind (keeps_modify _ undisturbed.lookup)
    intro _
    exact keeps_awaitShared undisturbed _ (obey.semanticCache lookup given _ _)
  · exact keeps_pure none

theorem admission_keeps (undisturbed : Undisturbed inv) (obey : svc.Obey law) :
    Keeps inv law (admission svc settings policy request requestId context) := by
  unfold admission
  apply keeps_bind (checkRateLimits_keeps svc settings context undisturbed obey)
  intro rateLimitRemaining
  apply keeps_bind (resolveTarget_keeps svc request undisturbed obey)
  intro target
  apply keeps_bind (lookupCache_keeps svc policy request context undisturbed obey)
  intro answer
  split
  · exact keeps_pure _
  · split
    · exact keeps_pure _
    · exact keeps_pure _

/-- Only a downgrade reads the budget row, and only a downgrade that finds no
candidate raises `BudgetExceeded`. -/
theorem quote_keeps (undisturbed : Undisturbed inv) (obey : svc.Obey law) (target : Target)
    (reads : ∀ budgetService ∈ svc.budgetService, ∀ teamId,
      Keeps inv law (awaitSession (budgetService.getBudget teamId)))
    (refuses : policy.budgetAction = .DOWNGRADE →
      ∀ message teamId remaining, law (.budgetExceeded message teamId remaining)) :
    Keeps inv law (quote svc settings policy request context target) := by
  unfold quote
  split
  · rename_i present budgetService cost given _ _
    split_ifs with downgrade
    · unfold attemptBudgetDowngrade
      apply keeps_bind (reads budgetService given _)
      intro found
      split
      · exact keeps_pure _
      · dsimp only
        split_ifs
        · exact keeps_pure _
        · apply keeps_bind (keeps_awaitShared undisturbed _ obey.buildCandidates)
          intro candidates
          split
          · exact keeps_throw _ (refuses downgrade _ _ _)
          · exact keeps_pure _
    · exact keeps_pure _
  · exact keeps_pure _

theorem prepare_keeps (undisturbed : Undisturbed inv) (obey : svc.Obey law)
    (reads : ∀ budgetService ∈ svc.budgetService, ∀ teamId,
      Keeps inv law (awaitSession (budgetService.getBudget teamId)))
    (refuses : policy.budgetAction = .DOWNGRADE →
      ∀ message teamId remaining, law (.budgetExceeded message teamId remaining)) :
    Keeps inv law (prepare svc settings policy request requestId context) := by
  unfold prepare
  apply keeps_bind (admission_keeps svc settings policy request requestId context undisturbed obey)
  intro admission
  split
  · exact keeps_pure _
  · apply keeps_bind (quote_keeps svc settings policy request context undisturbed obey _ reads
      refuses)
    intro quote
    exact keeps_pure _

theorem reserve_keeps (quote : Quote)
    (noted : ∀ world teamId estimatedCost, inv world →
      inv { world with calls := .checkAndReserve teamId estimatedCost :: world.calls })
    (checks : ∀ budgetService ∈ svc.budgetService, ∀ teamId estimatedCost percent,
      Keeps inv law (awaitSession (budgetService.checkAndReserve teamId estimatedCost percent))) :
    Keeps inv law (reserve svc settings context quote) := by
  unfold reserve
  split
  · rename_i present budgetService cost given _ _
    apply keeps_bind (keeps_modify _ fun world => noted world _ _)
    intro _
    apply keeps_bind (checks budgetService given _ _ _)
    intro _
    exact keeps_pure _
  · exact keeps_pure _

theorem reserve_ends (quote : Quote) (world : World σ τ) :
    Ends (reserve svc settings context quote) world
      (fun reservation _ => reservation.quote = quote ∧ (reservation.budgetObj.isSome = true →
        svc.budgetService.isSome = true ∧ svc.costCalculator.isSome = true))
      fun _ _ => True := by
  unfold reserve
  split
  · rename_i present budgetService cost given calculator _
    apply ends_bind
    apply ends_any
    · intro _ noted
      apply ends_bind
      apply ends_any
      · intro outcome after
        exact ⟨rfl, fun _ => ⟨by rw [given]; rfl, by rw [calculator]; rfl⟩⟩
      · intro _ _
        trivial
    · intro _ _
      trivial
  · exact ⟨rfl, fun held => by cases held⟩

/-! ## After the reservation -/

section Serving
variable (quote : Quote) (response : ChatCompletionResponse)

theorem releaseFailed_keeps (estimatedCost : ℚ)
    (noted : ∀ world teamId estimatedCost, inv world →
      inv { world with calls := .releaseReservation teamId estimatedCost :: world.calls })
    (releases : ∀ budgetService ∈ svc.budgetService, ∀ teamId estimatedCost,
      Keeps inv law (awaitSession (budgetService.releaseReservation teamId estimatedCost))) :
    Keeps inv law (releaseFailed svc context estimatedCost) := by
  unfold releaseFailed
  split
  · rename_i present budgetService given
    split_ifs
    · apply keeps_bind (keeps_modify _ fun world => noted world _ _)
      intro _
      exact keeps_failOpen _ _ (releases budgetService given _ _)
    · exact keeps_pure _
  · exact keeps_pure _

theorem settle_keeps (obey : svc.Obey law)
    (noted : ∀ world teamId estimatedCost actualCost, inv world →
      inv { world with calls := .reconcile teamId estimatedCost actualCost :: world.calls })
    (reconciles : ∀ budgetService ∈ svc.budgetService, ∀ teamId estimatedCost actualCost,
      Keeps inv law (awaitSession (budgetService.reconcile teamId estimatedCost actualCost))) :
    Keeps inv law (settle svc settings context quote response) := by
  unfold settle
  split
  · rename_i present budgetService cost given calculator
    by_cases nonneg : 0 ≤ quote.estimatedCost
    · rw [if_pos nonneg]
      apply keeps_bind (keeps_ofExcept _ (obey.actualCost cost calculator _ _ _ _))
      intro known
      apply keeps_bind (keeps_modify _ fun world => noted world _ _ _)
      intro _
      apply keeps_bind (reconciles budgetService given _ _ _)
      intro reconciled
      exact keeps_pure _
    · rw [if_neg nonneg]
      exact keeps_pure _
  · exact keeps_pure _

theorem scheduleStore_keeps
    (noted : ∀ world, inv world → inv { world with calls := .store response :: world.calls }) :
    Keeps inv law (scheduleStore svc context response) := by
  unfold scheduleStore
  split_ifs
  · exact keeps_modify _ noted
  · exact keeps_pure _

/-- What follows an answer. -/
theorem answered_keeps (admitted : Admitted) (reservation : Reservation) (obey : svc.Obey law)
    (noted : ∀ world call, inv world → inv { world with calls := call :: world.calls })
    (reconciles : ∀ budgetService ∈ svc.budgetService, ∀ teamId estimatedCost actualCost,
      Keeps inv law (awaitSession (budgetService.reconcile teamId estimatedCost actualCost))) :
    Keeps inv law (do
      let (actualCost, remainingBudget) ← settle svc settings context quote response
      let response := attachMetadata admitted reservation actualCost remainingBudget response
      scheduleStore svc context response
      return response) := by
  apply keeps_bind (settle_keeps svc settings context quote response obey
    (fun world _ _ _ => noted world _) reconciles)
  intro settled
  apply keeps_bind (scheduleStore_keeps svc context _ fun world => noted world _)
  intro _
  exact keeps_pure _

/-- What follows an exception of the executor. -/
theorem failed_keeps {α : Type} (estimatedCost : ℚ) (exc : Exc) (obeys : law exc)
    (noted : ∀ world teamId estimatedCost, inv world →
      inv { world with calls := .releaseReservation teamId estimatedCost :: world.calls })
    (releases : ∀ budgetService ∈ svc.budgetService, ∀ teamId estimatedCost,
      Keeps inv law (awaitSession (budgetService.releaseReservation teamId estimatedCost))) :
    Keeps inv law (do
      if exc.isException then releaseFailed svc context estimatedCost
      throw exc : ServiceM σ τ α) := by
  cases exc.isException with
  | false => exact keeps_throw exc obeys
  | true =>
      apply keeps_bind (releaseFailed_keeps svc context estimatedCost noted releases)
      intro _
      exact keeps_throw exc obeys

theorem executeProvider_keeps (undisturbed : Undisturbed inv) (obey : svc.Obey law)
    (executes : ∀ world provider model, inv world →
      inv { world with calls := .execute provider model :: world.calls })
    (noted : ∀ world teamId estimatedCost, inv world →
      inv { world with calls := .releaseReservation teamId estimatedCost :: world.calls })
    (releases : ∀ budgetService ∈ svc.budgetService, ∀ teamId estimatedCost,
      Keeps inv law (awaitSession (budgetService.releaseReservation teamId estimatedCost))) :
    Keeps inv law (executeProvider svc policy request context quote) := by
  apply keeps_tryCatch
  · apply keeps_bind (keeps_modify _ fun world => executes world _ _)
    intro _
    exact keeps_awaitShared undisturbed _ (obey.execute _ _ _ _)
  · intro exc obeys
    exact failed_keeps svc context _ exc obeys noted releases

end Serving

theorem serve_keeps (admitted : Admitted) (reservation : Reservation) (obey : svc.Obey law)
    (shared : ∀ world shared, inv world → inv { world with shared := shared })
    (noted : ∀ world call, inv world → inv { world with calls := call :: world.calls })
    (releases : ∀ budgetService ∈ svc.budgetService, ∀ teamId estimatedCost,
      Keeps inv law (awaitSession (budgetService.releaseReservation teamId estimatedCost)))
    (reconciles : ∀ budgetService ∈ svc.budgetService, ∀ teamId estimatedCost actualCost,
      Keeps inv law (awaitSession (budgetService.reconcile teamId estimatedCost actualCost))) :
    Keeps inv law (serve svc settings policy request context admitted reservation) := by
  have undisturbed : Undisturbed inv := ⟨shared, fun world => noted world .lookup⟩
  apply keeps_bind (executeProvider_keeps svc policy request context reservation.quote undisturbed
    obey (fun world _ _ => noted world _) (fun world _ _ => noted world _) releases)
  intro response
  exact answered_keeps svc settings context _ response admitted reservation obey noted reconciles

/-- The state in which the executor was called and has ended. -/
def executed (quote : Quote) (world : World σ τ) (shared : σ) : World σ τ :=
  { world with
    shared := shared
    calls := .execute quote.target.provider quote.target.model :: world.calls }

theorem run_execute (quote : Quote) (world : World σ τ) :
    (do
      note (.execute quote.target.provider quote.target.model)
      awaitShared (svc.execute (execRequest policy request) quote.target.provider
        quote.target.model quote.target.routingMode) : ServiceM σ τ ChatCompletionResponse).run
        world =
      match (svc.execute (execRequest policy request) quote.target.provider quote.target.model
          quote.target.routingMode).run world.shared with
      | .ok response shared => .ok response (executed quote world shared)
      | .error exc shared => .error exc (executed quote world shared) := by
  rw [EStateM.run_bind]
  change (awaitShared _).run { world with calls := _ :: world.calls } = _
  simp only [awaitShared, EStateM.run, executed]
  cases svc.execute (execRequest policy request) quote.target.provider quote.target.model
    quote.target.routingMode world.shared <;> rfl

theorem quoteOf_eq_some (world quoted : World σ τ) (admitted : Admitted) (quote : Quote) :
    quoteOf svc settings policy request requestId context world = some (admitted, quote, quoted) ↔
      (prepare svc settings policy request requestId context).run world =
        .ok (.inr (admitted, quote)) quoted := by
  unfold quoteOf
  constructor
  · intro found
    split at found
    · rename_i prepared
      cases found
      exact prepared
    · cases found
  · intro prepared
    rw [prepared]

theorem reservationOf_eq_some (world reserved : World σ τ) (reservation : Reservation) :
    reservationOf svc settings policy request requestId context world =
        some (reservation, reserved) ↔
      ∃ admitted quote quoted,
        (prepare svc settings policy request requestId context).run world =
          .ok (.inr (admitted, quote)) quoted ∧
        (reserve svc settings context quote).run quoted = .ok reservation reserved := by
  constructor
  · intro found
    obtain ⟨⟨admitted, quote, quoted⟩, comes, found⟩ := Option.bind_eq_some_iff.mp found
    refine ⟨admitted, quote, quoted, (quoteOf_eq_some svc settings policy request requestId context
      world quoted admitted quote).mp comes, ?_⟩
    dsimp only at found
    split at found
    · rename_i reserves
      cases found
      exact reserves
    · cases found
  · rintro ⟨admitted, quote, quoted, prepared, reserves⟩
    have comes := (quoteOf_eq_some svc settings policy request requestId context world quoted
      admitted quote).mpr prepared
    simp [reservationOf, comes, reserves]

/-- What `prepare` raises leaves `complete`. -/
theorem run_complete_stopped (world stopped : World σ τ) (exc : Exc)
    (prepared : (prepare svc settings policy request requestId context).run world =
      .error exc stopped) :
    (complete svc settings policy request requestId context).run world = .error exc stopped := by
  unfold complete
  rw [EStateM.run_bind, prepared]

theorem run_complete_cached (world quoted : World σ τ) (cached : ChatCompletionResponse)
    (prepared : (prepare svc settings policy request requestId context).run world =
      .ok (.inl cached) quoted) :
    (complete svc settings policy request requestId context).run world = .ok cached quoted := by
  unfold complete
  rw [EStateM.run_bind, prepared]
  rfl

/-- What `reserve` raises leaves `complete`. -/
theorem run_complete_refused (world quoted stopped : World σ τ) (admitted : Admitted)
    (quote : Quote) (exc : Exc)
    (prepared : (prepare svc settings policy request requestId context).run world =
      .ok (.inr (admitted, quote)) quoted)
    (refused : (reserve svc settings context quote).run quoted = .error exc stopped) :
    (complete svc settings policy request requestId context).run world = .error exc stopped := by
  unfold complete
  rw [EStateM.run_bind, prepared]
  dsimp only
  rw [EStateM.run_bind, refused]

/-- After a reservation `complete` goes on to serve. -/
theorem run_complete (world quoted reserved : World σ τ) (admitted : Admitted) (quote : Quote)
    (reservation : Reservation)
    (prepared : (prepare svc settings policy request requestId context).run world =
      .ok (.inr (admitted, quote)) quoted)
    (reserves : (reserve svc settings context quote).run quoted = .ok reservation reserved) :
    (complete svc settings policy request requestId context).run world =
      (serve svc settings policy request context admitted reservation).run reserved := by
  unfold complete
  rw [EStateM.run_bind, prepared]
  dsimp only
  rw [EStateM.run_bind, reserves]

end ChatService

end Stages

end CortexGateway
