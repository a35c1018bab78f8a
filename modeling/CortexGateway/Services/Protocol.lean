import CortexGateway.Lib.Protocol
import CortexGateway.Services.Settlement

/-! # The protocol of a request

Whatever its collaborators answer, and wherever an await fails or is
cancelled, a request looks up, reserves, executes, settles and stores in this
order, each at most once: with budgets it executes nothing unreserved, it
settles nothing that it did not reserve, and stores only what it answers. -/
set_option autoImplicit false
namespace CortexGateway
open Budgeting Exits Transition Protocol

/-- How far a request is, with the amount it holds from its reservation on. -/
inductive Phase
  | arrived
  | looked
  | reserving (estimatedCost : ℚ)
  | executing (estimatedCost : ℚ)
  | released
  | reconciled
  | stored (response : ChatCompletionResponse)

namespace Phase

def rank : Phase → ℕ
  | .arrived => 0
  | .looked => 1
  | .reserving _ => 2
  | .executing _ => 3
  | .released => 4
  | .reconciled => 4
  | .stored _ => 5

/-- The amount is held since the reservation. -/
def Holds (phase : Phase) (estimatedCost : ℚ) : Prop :=
  phase = .reserving estimatedCost ∨ phase = .executing estimatedCost

end Phase

def Call.stage : Call → ℕ
  | .lookup => 1
  | .checkAndReserve .. => 2
  | .execute .. => 3
  | .releaseReservation .. => 4
  | .reconcile .. => 4
  | .store _ => 5

section Protocol
variable (context : Option RequestContext) (mustReserve : Bool)

def ofTeam (teamId : String) : Bool := context.any fun context => context.teamId = teamId

/-- What a request may do next.  One that need not reserve holds zero. -/
def advance : Phase → Call → Option Phase
  | .arrived, .lookup => some .looked
  | .arrived, .checkAndReserve teamId estimatedCost
  | .looked, .checkAndReserve teamId estimatedCost =>
      if ofTeam context teamId then some (.reserving estimatedCost) else none
  | .arrived, .execute _ _
  | .looked, .execute _ _ => if mustReserve then none else some (.executing 0)
  | .reserving estimatedCost, .execute _ _ => some (.executing estimatedCost)
  | .executing held, .releaseReservation teamId estimatedCost =>
      if ofTeam context teamId && estimatedCost = held && 0 < held then some .released else none
  | .executing held, .reconcile teamId estimatedCost _ =>
      if ofTeam context teamId && estimatedCost = held && 0 ≤ held then some .reconciled else none
  | .executing _, .store response
  | .reconciled, .store response => some (.stored response)
  | _, _ => none

inductive Advances : Phase → Call → Phase → Prop
  | looks : Advances .arrived .lookup .looked
  | reserves (phase : Phase) (teamId : String) (estimatedCost : ℚ)
      (early : phase = .arrived ∨ phase = .looked) (own : ofTeam context teamId = true) :
      Advances phase (.checkAndReserve teamId estimatedCost) (.reserving estimatedCost)
  | executesUnreserved (phase : Phase) (provider model : String)
      (early : phase = .arrived ∨ phase = .looked) (free : mustReserve = false) :
      Advances phase (.execute provider model) (.executing 0)
  | executes (held : ℚ) (provider model : String) :
      Advances (.reserving held) (.execute provider model) (.executing held)
  | releases (held : ℚ) (teamId : String) (own : ofTeam context teamId = true)
      (positive : 0 < held) :
      Advances (.executing held) (.releaseReservation teamId held) .released
  | reconciles (held actualCost : ℚ) (teamId : String) (own : ofTeam context teamId = true)
      (nonneg : 0 ≤ held) :
      Advances (.executing held) (.reconcile teamId held actualCost) .reconciled
  | storesUnsettled (held : ℚ) (response : ChatCompletionResponse) :
      Advances (.executing held) (.store response) (.stored response)
  | stores (response : ChatCompletionResponse) :
      Advances .reconciled (.store response) (.stored response)

variable {context mustReserve}

theorem advances_of_advance {phase next : Phase} {call : Call}
    (advanced : advance context mustReserve phase call = some next) :
    Advances context mustReserve phase call next := by
  unfold advance at advanced
  split at advanced
  · cases advanced
    exact .looks
  · split_ifs at advanced with own
    cases advanced
    exact .reserves _ _ _ (.inl rfl) own
  · split_ifs at advanced with own
    cases advanced
    exact .reserves _ _ _ (.inr rfl) own
  · split_ifs at advanced with reserves
    cases advanced
    exact .executesUnreserved _ _ _ (.inl rfl) (by simpa using reserves)
  · split_ifs at advanced with reserves
    cases advanced
    exact .executesUnreserved _ _ _ (.inr rfl) (by simpa using reserves)
  · cases advanced
    exact .executes ..
  · split_ifs at advanced with allowed
    cases advanced
    simp only [Bool.and_eq_true, decide_eq_true_eq] at allowed
    obtain ⟨⟨own, rfl⟩, positive⟩ := allowed
    exact .releases _ _ own positive
  · split_ifs at advanced with allowed
    cases advanced
    simp only [Bool.and_eq_true, decide_eq_true_eq] at allowed
    obtain ⟨⟨own, rfl⟩, nonneg⟩ := allowed
    exact .reconciles _ _ _ own nonneg
  · cases advanced
    exact .storesUnsettled ..
  · cases advanced
    exact .stores ..
  · cases advanced

theorem advance_ranked : Ranked (advance context mustReserve) Phase.rank Call.stage := by
  intro phase call next advanced
  cases advances_of_advance advanced with
  | reserves phase teamId estimatedCost early own =>
      rcases early with rfl | rfl <;> exact ⟨by simp [Phase.rank], rfl⟩
  | executesUnreserved phase provider model early free =>
      rcases early with rfl | rfl <;> exact ⟨by simp [Phase.rank], rfl⟩
  | _ => exact ⟨by simp [Phase.rank], rfl⟩

/-! ## What an allowed trace tells -/

theorem ofTeam_unique {teamId other : String} (own : ofTeam context teamId = true)
    (ownToo : ofTeam context other = true) : teamId = other := by
  simp only [ofTeam, Option.any_eq_true, decide_eq_true_eq] at own ownToo
  obtain ⟨present, given, rfl⟩ := own
  obtain ⟨same, givenToo, rfl⟩ := ownToo
  rw [Option.some.inj (given.symm.trans givenToo)]

section Traces
variable {start final : Phase} {trace : List Call}

/-- What is settled was reserved for the same team, unless it is zero. -/
theorem reserved_of_run (taken : run (advance context mustReserve) start trace = some final) {call : Call}
    (member : call ∈ trace) {teamId : String} {estimatedCost : ℚ}
    (settles : call.settles = some (teamId, estimatedCost)) :
    ofTeam context teamId = true ∧ (start.Holds estimatedCost ∨ estimatedCost = 0 ∨
      .checkAndReserve teamId estimatedCost ∈ trace) := by
  induction trace generalizing start with
  | nil => cases member
  | cons first rest ih =>
      obtain ⟨next, stepped, taken⟩ := Option.bind_eq_some_iff.mp taken
      have advances := advances_of_advance stepped
      rcases List.mem_cons.mp member with rfl | later
      · cases advances with
        | releases held teamId own positive =>
            cases settles
            exact ⟨own, .inl (.inr rfl)⟩
        | reconciles held actualCost teamId own nonneg =>
            cases settles
            exact ⟨own, .inl (.inr rfl)⟩
        | _ => cases settles
      · obtain ⟨own, held | zero | reserved⟩ := ih taken later
        · refine ⟨own, ?_⟩
          rcases held with rfl | rfl
          · cases advances with
            | reserves phase other estimatedCost early ownToo =>
                rw [ofTeam_unique own ownToo]
                exact .inr (.inr List.mem_cons_self)
          · cases advances with
            | executesUnreserved phase provider model early free => exact .inr (.inl rfl)
            | executes held provider model => exact .inl (.inl rfl)
        · exact ⟨own, .inr (.inl zero)⟩
        · exact ⟨own, .inr (.inr (List.mem_cons_of_mem _ reserved))⟩

/-- Only a positive amount is released. -/
theorem positive_of_run (taken : run (advance context mustReserve) start trace = some final)
    {teamId : String} {estimatedCost : ℚ}
    (member : .releaseReservation teamId estimatedCost ∈ trace) : 0 < estimatedCost := by
  induction trace generalizing start with
  | nil => cases member
  | cons first rest ih =>
      obtain ⟨next, stepped, taken⟩ := Option.bind_eq_some_iff.mp taken
      rcases List.mem_cons.mp member with rfl | later
      · cases advances_of_advance stepped with
        | releases held teamId own positive => exact positive
      · exact ih taken later

/-- A request that must reserve has done so when it calls a provider. -/
theorem covered_of_run (taken : run (advance context mustReserve) start trace = some final)
    (reserves : mustReserve = true) {provider model : String}
    (member : .execute provider model ∈ trace) :
    (∃ held, start = .reserving held) ∨
      ∃ teamId estimatedCost, .checkAndReserve teamId estimatedCost ∈ trace := by
  induction trace generalizing start with
  | nil => cases member
  | cons first rest ih =>
      obtain ⟨next, stepped, taken⟩ := Option.bind_eq_some_iff.mp taken
      have advances := advances_of_advance stepped
      rcases List.mem_cons.mp member with rfl | later
      · cases advances with
        | executesUnreserved phase provider model early free =>
            rw [reserves] at free
            cases free
        | executes held provider model => exact .inl ⟨held, rfl⟩
      · rcases ih taken later with ⟨held, rfl⟩ | ⟨teamId, estimatedCost, reserved⟩
        · cases advances with
          | reserves phase teamId estimatedCost early own =>
              exact .inr ⟨teamId, held, List.mem_cons_self⟩
        · exact .inr ⟨teamId, estimatedCost, List.mem_cons_of_mem _ reserved⟩

/-- What comes after the provider's answer comes after a call of the provider. -/
theorem executed_of_run (taken : run (advance context mustReserve) start trace = some final)
    (late : 3 ≤ final.rank) : 3 ≤ start.rank ∨ ∃ provider model, .execute provider model ∈ trace := by
  induction trace generalizing start with
  | nil =>
      cases taken
      exact .inl late
  | cons first rest ih =>
      obtain ⟨next, stepped, taken⟩ := Option.bind_eq_some_iff.mp taken
      rcases ih taken with reached | ⟨provider, model, called⟩
      · cases advances_of_advance stepped with
        | looks => simp [Phase.rank] at reached
        | reserves => simp [Phase.rank] at reached
        | executesUnreserved phase provider model =>
            exact .inr ⟨provider, model, List.mem_cons_self⟩
        | executes held provider model => exact .inr ⟨provider, model, List.mem_cons_self⟩
        | _ => exact .inl (by simp [Phase.rank])
      · exact .inr ⟨provider, model, List.mem_cons_of_mem _ called⟩

theorem stored_iff_of_run (taken : run (advance context mustReserve) start trace = some final)
    (unstored : start.rank < 5) (response : ChatCompletionResponse) :
    .store response ∈ trace ↔ final = .stored response := by
  induction trace using List.reverseRecOn generalizing final with
  | nil =>
      cases taken
      constructor
      · intro member
        cases member
      · rintro rfl
        simp [Phase.rank] at unstored
  | append_singleton earlier last ih =>
      obtain ⟨reached, before, stepped⟩ := run_snoc_some _ _ _ _ _ taken
      have advances := advances_of_advance stepped
      have notEarlier : .store response ∉ earlier := by
        intro member
        have stored := (ih before).mp member
        subst stored
        cases advances with
        | reserves phase teamId estimatedCost early own => rcases early with early | early <;> cases early
        | executesUnreserved phase provider model early free =>
            rcases early with early | early <;> cases early
      rw [List.mem_append, List.mem_singleton]
      constructor
      · rintro (member | rfl)
        · exact absurd member notEarlier
        · cases advances <;> rfl
      · rintro rfl
        cases advances <;> exact .inr rfl

/-- After a release nothing is done. -/
theorem released_of_run (taken : run (advance context mustReserve) start trace = some final)
    {teamId : String} {estimatedCost : ℚ}
    (member : .releaseReservation teamId estimatedCost ∈ trace) : final = .released := by
  induction trace generalizing start with
  | nil => cases member
  | cons first rest ih =>
      obtain ⟨next, stepped, taken⟩ := Option.bind_eq_some_iff.mp taken
      rcases List.mem_cons.mp member with rfl | later
      · cases advances_of_advance stepped with
        | releases held teamId own positive =>
            cases rest with
            | nil => exact (Option.some.inj taken).symm
            | cons second rest =>
                obtain ⟨after, stepped, -⟩ := Option.bind_eq_some_iff.mp taken
                cases advances_of_advance stepped with
                | reserves phase teamId estimatedCost early own =>
                    rcases early with early | early <;> cases early
                | executesUnreserved phase provider model early free =>
                    rcases early with early | early <;> cases early
      · exact ih taken later

theorem looked_of_run (taken : run (advance context mustReserve) .arrived trace = some .looked) :
    trace = [.lookup] := by
  cases trace with
  | nil => cases taken
  | cons first rest =>
      have le := (advance_ranked.le_final taken List.mem_cons_self : first.stage ≤ 1)
      obtain ⟨next, stepped, later⟩ := Option.bind_eq_some_iff.mp taken
      cases advances_of_advance stepped with
      | looks =>
          cases rest with
          | nil => rfl
          | cons second rest =>
              have above := (advance_ranked.pairwise later).2 second List.mem_cons_self
              have below := advance_ranked.le_final later List.mem_cons_self
              exact absurd (above.trans_le below) (lt_irrefl _)
      | _ => simp [Call.stage, Phase.rank] at le

end Traces

/-! ## The stages -/

section Stages
variable {σ τ α : Type} {phase : Phase} {returns : α → Phase → Prop}
variable {raises : Exc → Phase → Prop}

/-- The log of a world. -/
abbrev FollowsCalls (context : Option RequestContext) (mustReserve : Bool) (phase : Phase)
    (program : ServiceM σ τ α) (returns : α → Phase → Prop) (raises : Exc → Phase → Prop) : Prop :=
  Follows World.calls (advance context mustReserve) phase program returns raises

theorem follows_awaitShared (program : EStateM Exc σ α) (returned : ∀ value, returns value phase)
    (raised : ∀ exc, raises exc phase) :
    FollowsCalls context mustReserve phase (awaitShared program : ServiceM σ τ α) returns raises := by
  refine follows_silent (fun world => ?_) returned raised
  simp only [Ends, awaitShared, EStateM.run]
  cases program world.shared <;> rfl

theorem follows_awaitSession (program : EStateM Exc (σ × τ) α)
    (returned : ∀ value, returns value phase) (raised : ∀ exc, raises exc phase) :
    FollowsCalls context mustReserve phase (awaitSession program) returns raises := by
  refine follows_silent (fun world => ?_) returned raised
  simp only [Ends, awaitSession, EStateM.run]
  cases program (world.shared, world.session) <;> rfl

theorem follows_note {call : Call} {next : Phase} {returns : Unit → Phase → Prop}
    (allowed : advance context mustReserve phase call = some next) (returned : returns () next) :
    FollowsCalls context mustReserve phase (note call : ServiceM σ τ Unit) returns raises :=
  follows_single (fun _ => rfl) allowed fun _ => returned

theorem follows_failOpen (program : ServiceM σ τ α) (fallback : α)
    (body : FollowsCalls context mustReserve phase program (fun _ next => next = phase)
      fun _ next => next = phase) :
    FollowsCalls context mustReserve phase (failOpen program fallback) (fun _ next => next = phase)
      fun _ next => next = phase := by
  refine follows_tryCatch body ?_
  rintro exc next rfl
  split_ifs
  · exact follows_pure fallback rfl
  · exact follows_throw exc rfl

theorem follows_ofExcept (result : Except Exc α) (returned : ∀ value, returns value phase)
    (raised : ∀ exc, raises exc phase) :
    FollowsCalls context mustReserve phase (ofExcept result : ServiceM σ τ α) returns raises := by
  cases result with
  | ok value => exact follows_pure value (returned value)
  | error exc => exact follows_throw exc (raised exc)

end Stages

namespace ChatService
variable {σ τ : Type} (svc : Collaborators σ τ) (settings : Settings) (policy : ResolvedPolicy)
variable (request : ChatCompletionRequest) (requestId : String)

/-- Both exits in the phase the program starts in. -/
abbrev Quiet {α : Type} (context : Option RequestContext) (mustReserve : Bool) (phase : Phase)
    (program : ServiceM σ τ α) : Prop :=
  FollowsCalls context mustReserve phase program (fun _ next => next = phase) fun _ next => next = phase

theorem teamRpm_quiet (phase : Phase) (present : RequestContext) :
    Quiet context mustReserve phase (teamRpm svc settings present) := by
  unfold teamRpm
  split
  · split_ifs
    · exact follows_pure _ rfl
    · refine follows_bind (follows_failOpen _ _ (follows_awaitShared _ (fun _ => rfl) fun _ => rfl)) ?_
      rintro teamOverride next rfl
      exact follows_pure _ rfl
  · exact follows_pure _ rfl

theorem checkRateLimits_quiet (phase : Phase) :
    Quiet context mustReserve phase (checkRateLimits svc settings context) := by
  unfold checkRateLimits
  split
  · refine follows_bind (teamRpm_quiet svc settings phase _) ?_
    rintro teamLimit next rfl
    refine follows_bind (follows_awaitShared _ (fun _ => rfl) fun _ => rfl) ?_
    rintro outcome next rfl
    split_ifs
    · exact follows_pure _ rfl
    · exact follows_throw _ rfl
  · exact follows_pure _ rfl

theorem resolveTarget_quiet (phase : Phase) : Quiet context mustReserve phase (resolveTarget svc request) := by
  unfold resolveTarget
  split_ifs
  · exact follows_ofExcept _ (fun _ => rfl) fun _ => rfl
  · have candidates : Quiet context mustReserve phase (routableCandidates svc request) := by
      unfold routableCandidates
      split_ifs
      · exact follows_pure _ rfl
      · exact follows_awaitShared _ (fun _ => rfl) fun _ => rfl
    refine follows_bind candidates ?_
    rintro listed next rfl
    refine follows_bind (follows_ofExcept _ (fun _ => rfl) fun _ => rfl) ?_
    rintro decision next rfl
    exact follows_pure _ rfl

/-- Nothing is stored yet. -/
def Unstored (phase : Phase) : Prop := phase.rank < 5

/-- The reservation may come next. -/
def Early (phase : Phase) : Prop := phase = .arrived ∨ phase = .looked

theorem unstored_executing (held : ℚ) : Unstored (.executing held) := by
  simp [Unstored, Phase.rank]

theorem unstored_reserving (held : ℚ) : Unstored (.reserving held) := by
  simp [Unstored, Phase.rank]

theorem unstored_released : Unstored .released := by
  simp [Unstored, Phase.rank]

theorem Early.unstored {phase : Phase} (early : Early phase) : Unstored phase := by
  rcases early with rfl | rfl <;> simp [Unstored, Phase.rank]

theorem lookupCache_follows :
    FollowsCalls context mustReserve .arrived (lookupCache svc policy request context)
      (fun found phase => Early phase ∧ (found.isSome = true → phase = .looked))
      fun _ phase => Early phase := by
  unfold lookupCache
  split
  · rename_i lookup present given _
    have noted : FollowsCalls (some present) mustReserve .arrived (note .lookup : ServiceM σ τ Unit)
        (fun _ next => next = .looked) fun _ phase => Early phase := follows_note rfl rfl
    refine follows_bind noted ?_
    rintro - next rfl
    exact follows_awaitShared _ (fun _ => ⟨.inr rfl, fun _ => rfl⟩) fun _ => .inr rfl
  · exact follows_pure _ ⟨.inl rfl, fun found => by cases found⟩

theorem admission_follows :
    FollowsCalls context mustReserve .arrived (admission svc settings policy request requestId context)
      (fun outcome phase => match outcome with
        | .inl _ => phase = .looked
        | .inr _ => Early phase)
      fun _ phase => Early phase := by
  unfold admission
  refine follows_bind ((checkRateLimits_quiet svc settings .arrived).mono (fun _ _ same => same)
    fun _ _ same => .inl same) ?_
  rintro rateLimitRemaining next rfl
  refine follows_bind ((resolveTarget_quiet svc request .arrived).mono (fun _ _ same => same)
    fun _ _ same => .inl same) ?_
  rintro target next rfl
  refine follows_bind (lookupCache_follows svc policy request) ?_
  rintro found phase ⟨early, cached⟩
  cases found with
  | some response => exact follows_pure _ (cached rfl)
  | none =>
      dsimp only
      split
      · exact follows_pure _ early
      · exact follows_pure _ early

/-- Without a reservation the quote is zero. -/
def QuoteOf (context : Option RequestContext) (quote : Quote) : Prop :=
  budgeted svc settings context = false → quote.estimatedCost = 0

theorem attemptBudgetDowngrade_quiet (phase : Phase) (budgetService : BudgetClient (σ × τ))
    (cost : CostClient) (present : RequestContext) (target : Target) (estimatedCost : ℚ) :
    Quiet context mustReserve phase
      (attemptBudgetDowngrade svc request budgetService cost present target estimatedCost) := by
  unfold attemptBudgetDowngrade
  refine follows_bind (follows_awaitSession _ (fun _ => rfl) fun _ => rfl) ?_
  rintro budget next rfl
  split
  · exact follows_pure _ rfl
  · dsimp only
    split_ifs
    · exact follows_pure _ rfl
    · refine follows_bind (follows_awaitShared _ (fun _ => rfl) fun _ => rfl) ?_
      rintro candidates next rfl
      split
      · exact follows_throw _ rfl
      · exact follows_pure _ rfl

theorem quote_follows (phase : Phase) (target : Target) :
    FollowsCalls context mustReserve phase (quote svc settings policy request context target)
      (fun quote next => next = phase ∧ QuoteOf svc settings context quote)
      fun _ next => next = phase := by
  unfold quote
  split
  · rename_i present budgetService cost given calculator enabled
    have isBudgeted : ∀ quote, QuoteOf svc settings (some present) quote := fun quote unbudgeted => by
      simp [budgeted, given, calculator, enabled] at unbudgeted
    dsimp only
    split_ifs
    · exact (attemptBudgetDowngrade_quiet svc request phase budgetService cost present target
        _).mono (fun quote _ same => ⟨same, isBudgeted quote⟩) fun _ _ same => same
    · exact follows_pure _ ⟨rfl, isBudgeted _⟩
  · exact follows_pure _ ⟨rfl, fun _ => rfl⟩

theorem prepare_follows :
    FollowsCalls context mustReserve .arrived (prepare svc settings policy request requestId context)
      (fun outcome phase => match outcome with
        | .inl _ => phase = .looked
        | .inr (_, quote) => Early phase ∧ QuoteOf svc settings context quote)
      fun _ phase => Early phase := by
  unfold prepare
  refine follows_bind (admission_follows svc settings policy request requestId) ?_
  intro outcome phase reached
  cases outcome with
  | inl cached => exact follows_pure _ reached
  | inr admitted =>
      refine follows_bind ((quote_follows svc settings policy request phase admitted.target).mono
        (fun _ _ same => same) fun _ _ same => same ▸ reached) ?_
      rintro quote next ⟨rfl, quoted⟩
      exact follows_pure _ ⟨reached, quoted⟩

/-- The amount that is held when the provider is called. -/
theorem reserve_follows {phase : Phase} (early : Early phase) (quote : Quote)
    (quoted : QuoteOf svc settings context quote) :
    FollowsCalls context (budgeted svc settings context) phase (reserve svc settings context quote)
      (fun reservation next => reservation.quote = quote ∧ ∀ provider model,
        advance context (budgeted svc settings context) next (.execute provider model) =
          some (.executing quote.estimatedCost))
      fun _ next => Unstored next := by
  unfold reserve
  split
  · rename_i present budgetService cost given calculator enabled
    have noted : FollowsCalls (some present) (budgeted svc settings (some present)) phase
        (note (.checkAndReserve present.teamId quote.estimatedCost) : ServiceM σ τ Unit)
        (fun _ next => next = .reserving quote.estimatedCost)
        fun _ next => Unstored next := by
      refine follows_note ?_ rfl
      rcases early with rfl | rfl <;> simp [advance, ofTeam]
    refine follows_bind noted ?_
    rintro - next rfl
    have checks : Quiet (some present) (budgeted svc settings (some present)) (.reserving quote.estimatedCost)
        (awaitSession (budgetService.checkAndReserve present.teamId quote.estimatedCost
          settings.budgetWarningThresholdPercent) : ServiceM σ τ _) :=
      follows_awaitSession _ (fun _ => rfl) fun _ => rfl
    refine follows_bind (checks.mono (fun _ _ same => same) ?_) ?_
    · rintro - next rfl
      exact unstored_reserving _
    rintro checked next rfl
    exact follows_pure _ ⟨rfl, fun _ _ => rfl⟩
  · rename_i given _ _ _ _ unbudgeted
    refine follows_pure _ ⟨rfl, fun provider model => ?_⟩
    have free : budgeted svc settings given = false := by
      refine Bool.eq_false_iff.mpr fun isBudgeted => ?_
      simp only [budgeted, Bool.and_eq_true, Option.isSome_iff_exists] at isBudgeted
      obtain ⟨⟨⟨⟨_, present⟩, ⟨_, given⟩⟩, ⟨_, calculator⟩⟩, enabled⟩ := isBudgeted
      exact unbudgeted _ _ _ present given calculator enabled
    rw [quoted free, free]
    rcases early with rfl | rfl <;> rfl

theorem releaseFailed_follows (estimatedCost : ℚ) :
    FollowsCalls context mustReserve (.executing estimatedCost) (releaseFailed svc context estimatedCost)
      (fun _ next => Unstored next)
      fun _ next => Unstored next := by
  unfold releaseFailed
  split
  · rename_i present budgetService given
    split_ifs with positive
    · have noted : FollowsCalls (some present) mustReserve (.executing estimatedCost)
          (note (.releaseReservation present.teamId estimatedCost) : ServiceM σ τ Unit)
          (fun _ next => next = .released) fun _ next => Unstored next :=
        follows_note (by simp [advance, ofTeam, positive]) rfl
      refine follows_bind noted ?_
      rintro - next rfl
      refine (follows_failOpen _ () (follows_awaitSession _ (fun _ => rfl) fun _ => rfl)).mono
        ?_ ?_
      · rintro - next rfl
        exact unstored_released
      · rintro - next rfl
        exact unstored_released
    · exact follows_pure _ (unstored_executing _)
  · exact follows_pure _ (unstored_executing _)

theorem executeProvider_follows {phase : Phase} (quote : Quote)
    (ready : ∀ provider model,
      advance context mustReserve phase (.execute provider model) = some (.executing quote.estimatedCost)) :
    FollowsCalls context mustReserve phase (executeProvider svc policy request context quote)
      (fun _ next => next = .executing quote.estimatedCost)
      fun _ next => Unstored next := by
  unfold executeProvider onException
  have noted : FollowsCalls context mustReserve phase
      (note (.execute quote.target.provider quote.target.model) : ServiceM σ τ Unit)
      (fun _ next => next = .executing quote.estimatedCost)
      fun _ next => next = .executing quote.estimatedCost := follows_note (ready _ _) rfl
  refine follows_tryCatch (follows_bind noted ?_) ?_
  · rintro - next rfl
    exact follows_awaitShared _ (fun _ => rfl) fun _ => rfl
  · rintro exc next rfl
    dsimp only
    split_ifs
    · refine follows_bind (releaseFailed_follows svc quote.estimatedCost) ?_
      intro _ next unstored
      exact follows_throw _ unstored
    · exact follows_throw _ (unstored_executing _)

/-- Answered, and not yet stored. -/
def Answered (phase : Phase) : Prop := phase = .reconciled ∨ ∃ held, phase = .executing held

theorem Answered.unstored {phase : Phase} (answered : Answered phase) : Unstored phase := by
  rcases answered with rfl | ⟨held, rfl⟩ <;> simp [Unstored, Phase.rank]

theorem answered_executing (held : ℚ) : Answered (.executing held) := .inr ⟨held, rfl⟩

theorem answered_reconciled : Answered .reconciled := .inl rfl

theorem settle_follows (quote : Quote) (response : ChatCompletionResponse) :
    FollowsCalls context mustReserve (.executing quote.estimatedCost)
      (settle svc settings context quote response) (fun _ next => Answered next)
      fun _ next => Answered next := by
  unfold settle
  split
  · rename_i present budgetService cost given calculator
    by_cases nonneg : 0 ≤ quote.estimatedCost
    · rw [if_pos nonneg]
      have knows : Quiet (some present) mustReserve (.executing quote.estimatedCost)
          (ofExcept (actualCost cost quote response) : ServiceM σ τ ℚ) :=
        follows_ofExcept _ (fun _ => rfl) fun _ => rfl
      refine follows_bind (knows.mono (fun _ _ same => same)
        fun _ _ same => same ▸ answered_executing _) ?_
      rintro known next rfl
      have noted : FollowsCalls (some present) mustReserve (.executing quote.estimatedCost)
          (note (.reconcile present.teamId quote.estimatedCost known) : ServiceM σ τ Unit)
          (fun _ next => next = .reconciled) fun _ next => Answered next :=
        follows_note (by simp [advance, ofTeam, nonneg]) rfl
      refine follows_bind noted ?_
      rintro - next rfl
      have reconciles : Quiet (some present) mustReserve .reconciled
          (awaitSession (budgetService.reconcile present.teamId quote.estimatedCost known) :
            ServiceM σ τ _) := follows_awaitSession _ (fun _ => rfl) fun _ => rfl
      refine follows_bind (reconciles.mono (fun _ _ same => same) fun _ _ same => same ▸ answered_reconciled) ?_
      rintro reconciled next rfl
      exact follows_pure _ answered_reconciled
    · rw [if_neg nonneg]
      exact follows_pure _ (answered_executing _)
  · exact follows_pure _ (answered_executing _)

/-- The phases an answer is returned in. -/
def Completes (context : Option RequestContext) (response : ChatCompletionResponse)
    (phase : Phase) : Prop :=
  if svc.semanticCache.isSome && context.isSome then phase = .stored response else Answered phase

theorem scheduleStore_follows {phase : Phase} (answered : Answered phase)
    (response : ChatCompletionResponse) :
    FollowsCalls context mustReserve phase (scheduleStore svc context response : ServiceM σ τ Unit)
      (fun _ next => Completes svc context response next)
      fun _ next => Unstored next := by
  unfold scheduleStore Completes
  split_ifs
  · refine follows_note ?_ rfl
    rcases answered with rfl | ⟨held, rfl⟩ <;> rfl
  · exact follows_pure _ answered

theorem serve_follows {phase : Phase} (admitted : Admitted) (reservation : Reservation)
    (ready : ∀ provider model, advance context mustReserve phase (.execute provider model) =
      some (.executing reservation.quote.estimatedCost)) :
    FollowsCalls context mustReserve phase (serve svc settings policy request context admitted reservation)
      (fun response next => Completes svc context response next)
      fun _ next => Unstored next := by
  unfold serve
  refine follows_bind (executeProvider_follows svc policy request reservation.quote ready) ?_
  rintro response next rfl
  refine follows_bind ((settle_follows svc settings reservation.quote response).mono
    (fun _ _ answered => answered) fun _ _ answered => answered.unstored) ?_
  rintro ⟨actualCost, remainingBudget⟩ next answered
  refine follows_bind (scheduleStore_follows svc answered _) ?_
  intro _ next completed
  exact follows_pure _ completed

/-- Every exit of a request is reached in a phase of the protocol. -/
theorem complete_follows :
    FollowsCalls context (budgeted svc settings context) .arrived
      (complete svc settings policy request requestId context)
      (fun response phase => phase = .looked ∨ Completes svc context response phase)
      fun _ phase => Unstored phase := by
  unfold complete
  refine follows_bind ((prepare_follows svc settings policy request requestId).mono
    (fun _ _ reached => reached) fun _ _ early => early.unstored) ?_
  intro outcome phase reached
  cases outcome with
  | inl cached => exact follows_pure _ (.inl reached)
  | inr prepared =>
      obtain ⟨admitted, quote⟩ := prepared
      obtain ⟨early, quoted⟩ := reached
      refine follows_bind (reserve_follows svc settings early quote quoted) ?_
      rintro reservation next ⟨rfl, ready⟩
      exact (serve_follows svc settings policy request admitted reservation ready).mono
        (fun _ _ completed => .inr completed) fun _ _ unstored => unstored

/-- The calls of one request: no stage twice and none out of order, nothing
settled that was not reserved, and nothing settled or stored before the
provider was called. -/
structure InOrder (mustReserve : Bool) (trace : List Call) : Prop where
  once : (trace.map Call.stage).Pairwise (· < ·)
  reserved : ∀ call ∈ trace, ∀ teamId estimatedCost, call.settles = some (teamId, estimatedCost) →
    estimatedCost = 0 ∨ .checkAndReserve teamId estimatedCost ∈ trace
  released : ∀ teamId estimatedCost, .releaseReservation teamId estimatedCost ∈ trace →
    0 < estimatedCost
  executed : ∀ call ∈ trace, 4 ≤ call.stage → ∃ provider model, .execute provider model ∈ trace
  covered : mustReserve = true → ∀ provider model, .execute provider model ∈ trace →
    ∃ teamId estimatedCost, .checkAndReserve teamId estimatedCost ∈ trace

theorem inOrder_of_run {trace : List Call} {final : Phase}
    (taken : run (advance context mustReserve) .arrived trace = some final) : InOrder mustReserve trace := by
  refine ⟨(advance_ranked.pairwise taken).1, fun call member teamId estimatedCost settles => ?_,
    fun teamId estimatedCost member => positive_of_run taken member, fun call member late => ?_,
    fun reserves provider model member => ?_⟩
  · rcases (reserved_of_run taken member settles).2 with (held | held) | settled
    · cases held
    · cases held
    · exact settled
  · have reached : 3 ≤ final.rank :=
      (by decide : 3 ≤ 4).trans (late.trans (advance_ranked.le_final taken member))
    exact (executed_of_run taken reached).resolve_left (by decide)
  · exact (covered_of_run taken reserves member).resolve_left (by rintro ⟨held, same⟩; cases same)

/-- An answer is a cached one, and nothing but the lookup was done for it; or a
provider was called, nothing was released, and the answer is stored where there
is a cache.  A request that fails stores nothing. -/
theorem complete_in_order (context : Option RequestContext) (world : World σ τ) :
    let outcome := (complete svc settings policy request requestId context).run world
    ∃ trace, (exitState outcome).calls = trace.reverse ++ world.calls ∧
      InOrder (budgeted svc settings context) trace ∧
      (∀ response after, outcome = .ok response after → trace = [.lookup] ∨
        (∃ provider model, .execute provider model ∈ trace) ∧
          (∀ teamId estimatedCost, .releaseReservation teamId estimatedCost ∉ trace) ∧
          ((svc.semanticCache.isSome && context.isSome) = true → .store response ∈ trace)) ∧
      ∀ exc after, outcome = .error exc after → ∀ response, .store response ∉ trace := by
  intro outcome
  have follows := (complete_follows svc settings policy request requestId : FollowsCalls context _ _ _ _ _)
    world
  cases ended : outcome with
  | ok response after =>
      obtain ⟨trace, final, grown, taken, returned⟩ := follows.returned ended
      refine ⟨trace, grown, inOrder_of_run taken, ?_, fun exc after raised => (by cases raised)⟩
      rintro _ _ ⟨⟩
      rcases returned with rfl | completes
      · exact .inl (looked_of_run taken)
      · obtain ⟨late, unreleased⟩ : 3 ≤ final.rank ∧ final ≠ .released := by
          unfold Completes at completes
          split_ifs at completes
          · rw [completes]
            exact ⟨by simp [Phase.rank], by simp⟩
          · rcases completes with rfl | ⟨held, rfl⟩ <;> exact ⟨by simp [Phase.rank], by simp⟩
        refine .inr ⟨(executed_of_run taken late).resolve_left (by decide),
          fun teamId estimatedCost member => unreleased (released_of_run taken member), ?_⟩
        intro cached
        rw [Completes, if_pos cached] at completes
        exact (stored_iff_of_run taken (by decide) response).mpr completes
  | error exc after =>
      obtain ⟨trace, final, grown, taken, unstored⟩ := follows.raised ended
      refine ⟨trace, grown, inOrder_of_run taken, fun _ _ returned => (by cases returned), ?_⟩
      rintro _ _ ⟨⟩ response member
      rw [(stored_iff_of_run taken (by decide) response).mp member] at unstored
      simp [Unstored, Phase.rank] at unstored

end ChatService

end Protocol

end CortexGateway
