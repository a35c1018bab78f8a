import CortexGateway.Api.Chat
import CortexGateway.Lib.Run
import CortexGateway.RateLimit.TeamLimits
import CortexGateway.RateLimit.Windows
import CortexGateway.Services.Settlement

/-! # Team overrides, end to end

Overrides are set and deleted, and requests come in through the chat endpoint.
The endpoint hands `complete` no team rate-limit service, and nothing reads the
hourly override: every team gets the global limit.  Overrides are enforced, and
reported as applied, exactly as long as they say nothing else. -/
set_option autoImplicit false
namespace CortexGateway.RateLimiting
open SlidingWindow Transition Exits

/-! ## Keys of different counters -/

theorem colon_notMem_toString (n : ℤ) : ':' ∉ (toString n).toList := by
  have digits : ∀ m : ℕ, ':' ∉ m.repr.toList := by
    intro m member
    rw [Nat.toList_repr] at member
    have digit := Nat.isDigit_of_mem_toDigits (by decide) (by decide) member
    simp at digit
  change ':' ∉ n.repr.toList
  rw [Int.repr_eq_if]
  split_ifs
  · exact digits _
  · rw [String.toList_append, List.mem_append]
    rintro (minus | digit)
    · simp at minus
    · exact digits _ digit

/-- A list is cut in one way at its last colon. -/
theorem append_colon_inj {first second third fourth : List Char} (firstLast : ':' ∉ third)
    (secondLast : ':' ∉ fourth) (same : first ++ ':' :: third = second ++ ':' :: fourth) :
    first = second ∧ third = fourth := by
  rcases List.append_eq_append_iff.mp same with ⟨between, rfl, rest⟩ | ⟨between, rfl, rest⟩
  · cases between with
    | nil =>
        simp only [List.nil_append, List.cons.injEq, true_and] at rest
        exact ⟨(List.append_nil first).symm, rest⟩
    | cons colon between =>
        simp only [List.cons_append, List.cons.injEq] at rest
        exact absurd (by rw [rest.2]; simp) firstLast
  · cases between with
    | nil =>
        simp only [List.nil_append, List.cons.injEq, true_and] at rest
        exact ⟨List.append_nil second, rest.symm⟩
    | cons colon between =>
        simp only [List.cons_append, List.cons.injEq] at rest
        exact absurd (by rw [rest.2]; simp) secondLast

theorem counterKey_toList (scope identifier : String) (start : ℤ) :
    (counterKey scope identifier start).toList =
      ("ratelimit:".toList ++ scope.toList ++ ":".toList ++ identifier.toList) ++
        ':' :: (toString start).toList := by
  simp [counterKey, String.toList_append]

theorem counterKey_identifier {scope first second : String} {start other : ℤ}
    (same : counterKey scope first start = counterKey scope second other) : first = second := by
  have lists := congrArg String.toList same
  rw [counterKey_toList, counterKey_toList] at lists
  have before := (append_colon_inj (colon_notMem_toString start) (colon_notMem_toString other)
    lists).1
  simpa [String.toList_inj] using before

theorem counterKey_scope {scope other : String} (first second : String) (start later : ℤ)
    (differ : ∀ a b : List Char,
      scope.toList ++ ':' :: a ≠ other.toList ++ ':' :: b) :
    counterKey scope first start ≠ counterKey other second later := by
  intro same
  have lists := congrArg String.toList same
  rw [counterKey_toList, counterKey_toList] at lists
  simp only [List.append_assoc, List.append_cancel_left_eq] at lists
  exact differ _ _ lists

theorem windowKey_ne_key (team identifier : String) (limit windowSeconds k : ℤ) (t : ℚ) :
    windowKey "team" team 60 k ≠ (scriptCall "key" identifier limit windowSeconds t).currKey :=
  counterKey_scope _ _ _ _ (by simp)

theorem windowKey_ne_org (team identifier : String) (limit windowSeconds k : ℤ) (t : ℚ) :
    windowKey "team" team 60 k ≠ (scriptCall "org" identifier limit windowSeconds t).currKey :=
  counterKey_scope _ _ _ _ (by simp)

/-! ## One scope beside the others -/

section Scopes
variable {scope identifier : String} {limit windowSeconds : ℤ} {counters : Counters}
variable {times : List ℚ} {t : ℚ}

theorem count_eq_update (call : ScriptCall) (now : ℚ) (counters : Counters) :
    ∃ written, call.count now counters = Function.update counters call.currKey written := by
  refine ⟨call.count now counters call.currKey, ?_⟩
  funext key
  by_cases here : key = call.currKey
  · rw [here, Function.update_self]
  · rw [Function.update_of_ne here]
    unfold ScriptCall.count
    split_ifs
    · rw [Counters.expire, Function.update_of_ne here, Counters.incr, Function.update_of_ne here]
    · rw [Counters.incr, Function.update_of_ne here]

/-- With a script that answers only a window of no length raises. -/
theorem checkScope_run (scope identifier : String) (limit windowSeconds : ℤ) (t : ℚ)
    (counters : Counters) :
    (∃ exc, (checkScope (some luaScript) scope identifier limit windowSeconds t).run counters =
        .error exc counters) ∨
      ∃ result, (checkScope (some luaScript) scope identifier limit windowSeconds t).run counters =
        .ok result ((scriptCall scope identifier limit windowSeconds t).count t counters) := by
  by_cases none : windowSeconds = 0
  · left
    refine ⟨.otherException "ZeroDivisionError", ?_⟩
    simp only [checkScope, if_pos none]
    rfl
  · right
    refine ⟨resultOf scope limit windowSeconds
      ((scriptCall scope identifier limit windowSeconds t).reply t
        ((scriptCall scope identifier limit windowSeconds t).count t counters)), ?_⟩
    simp only [checkScope, if_neg none]
    rfl

theorem checkScope_keeps (team : String) (times : List ℚ) (scope identifier : String)
    (limit windowSeconds : ℤ) (t : ℚ)
    (other : ∀ k, windowKey "team" team 60 k ≠
      (scriptCall scope identifier limit windowSeconds t).currKey) :
    Keeps (fun counters => Tracks "team" team 60 counters times) (fun _ => True)
      (checkScope (some luaScript) scope identifier limit windowSeconds t) := by
  intro counters tracks
  unfold Ends
  rcases checkScope_run scope identifier limit windowSeconds t counters with
    ⟨exc, raised⟩ | ⟨result, returned⟩
  · rw [raised]
    exact ⟨trivial, tracks⟩
  · rw [returned]
    obtain ⟨written, counted⟩ :=
      count_eq_update (scriptCall scope identifier limit windowSeconds t) t counters
    change Tracks "team" team 60 ((scriptCall scope identifier limit windowSeconds t).count t counters)
      times
    rw [counted]
    exact tracks.update _ written other

theorem outcomeOf_allowed (keyResult teamResult orgResult : ScopeResult)
    (allowed : (outcomeOf keyResult teamResult orgResult).allowed = true) :
    teamResult.allowed = true := by
  by_contra refused
  have member : teamResult ∈ [keyResult, teamResult, orgResult].filter (!·.allowed) := by
    simpa using refused
  unfold outcomeOf at allowed
  dsimp only at allowed
  split at allowed
  · cases allowed
  · rename_i none
    rw [none] at member
    cases member

/-- What `check_all` does to the counters of a team: it counts the team's own
requests, and admits one only within the limit. -/
theorem checkAll_ends (team : String) (limits : RateLimits) (ct : CheckTimes) (times : List ℚ)
    (window : limits.teamWindow = 60) (nonneg : 0 ≤ ct.teamAt) (counters : Counters)
    (tracks : Tracks "team" team 60 counters times) :
    Ends (checkAll (some luaScript) ct limits) counters
      (fun outcome after =>
        if limits.teamId = team then
          Tracks "team" team 60 after (ct.teamAt :: times) ∧ (outcome.allowed = true →
            (made (60 : ℚ) times (slot (60 : ℚ) ct.teamAt) : ℤ) + 1 ≤ limits.teamLimit)
        else Tracks "team" team 60 after times)
      fun _ after => Tracks "team" team 60 after times ∨
        limits.teamId = team ∧ Tracks "team" team 60 after (ct.teamAt :: times) := by
  unfold checkAll
  apply ends_bind
  apply (checkScope_keeps team times "key" _ _ _ ct.keyAt
    (windowKey_ne_key _ _ _ _ · _) counters tracks).mono _
    fun _ _ raised => Or.inl raised.2
  intro keyResult keyed tracks
  apply ends_bind
  rw [window]
  by_cases own : limits.teamId = team
  · subst own
    simp only [if_true]
    obtain ⟨result, ran, reported, decided⟩ := run_checkScope limits.teamLimit tracks (by decide)
      nonneg
    unfold Ends
    rw [ran]
    have counted := tracks.count limits.teamLimit (by decide) nonneg
    apply ends_bind
    apply (checkScope_keeps limits.teamId _ "org" _ _ _ ct.orgAt
      (windowKey_ne_org _ _ _ _ · _) _ counted).mono _
      fun _ _ raised => Or.inr ⟨trivial, raised.2⟩
    intro orgResult after tracked
    refine ⟨tracked, fun allowed => ?_⟩
    have within := outcomeOf_allowed keyResult result orgResult allowed
    rw [decided, decide_eq_true_eq, reported, Int.ceil_le] at within
    have measures : Measures (60 : ℚ) (msFraction 60) := msFraction_measures (by decide)
    exact made_lt_of_admits measures nonneg within
  · simp only [if_neg own]
    apply (checkScope_keeps team times "team" _ _ _ ct.teamAt
      (fun k same => own (counterKey_identifier same).symm) keyed tracks).mono _
      fun _ _ raised => Or.inl raised.2
    intro teamResult between tracked
    apply ends_bind
    apply (checkScope_keeps team times "org" _ _ _ ct.orgAt
      (windowKey_ne_org _ _ _ _ · _) between tracked).mono _
      fun _ _ raised => Or.inl raised.2
    intro orgResult after tracked
    exact tracked

end Scopes

/-! ## The endpoint -/

/-- What the endpoint's requests are limited by. -/
def appliedLimits (settings : Settings) (context : RequestContext) : RateLimits :=
  { apiKeyId := context.apiKeyId
    teamId := context.teamId
    orgId := context.organizationId
    keyLimit := settings.rateLimitApiKeyRequests
    keyWindow := settings.rateLimitApiKeyWindowSeconds
    teamLimit := settings.rateLimitTeamRequests
    teamWindow := settings.rateLimitTeamWindowSeconds
    orgLimit := settings.rateLimitOrgRequests
    orgWindow := settings.rateLimitOrgWindowSeconds }

/-- Through the endpoint the rate limiter never hears of an override. -/
theorem checkRateLimits_endpoint {σ τ : Type} (deps : ChatDependencies σ τ) (settings : Settings)
    (enabled : settings.rateLimitEnabled = true) (context : RequestContext) :
    (ChatService.checkRateLimits deps.collaborators settings (some context) : ServiceM σ τ _) = (do
      let outcome ← awaitShared (deps.rateLimiter (appliedLimits settings context))
      if outcome.allowed then return some outcome.bindingResult.remaining
      else
        throw (.rateLimitExceeded "Rate limit exceeded. Please retry after the window resets."
          outcome.bindingResult.retryAfterSeconds outcome.bindingResult.scope)) := by
  simp only [ChatService.checkRateLimits, ChatDependencies.collaborators, enabled,
    ChatService.teamRpm, pure_bind]
  rfl

/-- `check_all` on a Redis that is up. -/
def limiter (ct : CheckTimes) (limits : RateLimits) : EStateM Exc Counters RateLimitOutcome := do
  let outcome ← checkAll (some luaScript) ct limits
  return outcome.toRateLimitOutcome

/-! ## Runs -/

/-- A request, with the override of its team when it came. -/
structure ChatEntry where
  teamId : String
  time : ℚ
  admitted : Bool
  inForce : Option TeamRateLimit

/-- Redis, the override table, the shared clock and the requests so far. -/
structure TeamLimiting where
  counters : Counters
  overrides : TeamRateLimits
  now : ℚ
  log : List ChatEntry

inductive LimitingAction
  | set (teamId newId : String) (requestsPerMinute requestsPerHour : Option ℤ) (at_ : Datetime)
  | delete (teamId : String)
  | chat (context : RequestContext) (ct : CheckTimes)

section Runs
variable {τ : Type} (deps : ChatDependencies Counters τ) (session : τ) (settings : Settings)

/-- The rate-limiting step of a request. -/
def limited (counters : Counters) (context : RequestContext) (ct : CheckTimes) :
    EStateM.Result Exc (World Counters τ) (Option ℤ) :=
  (ChatService.checkRateLimits { deps with rateLimiter := limiter ct }.collaborators settings
    (some context)).run ⟨counters, session, []⟩

def isAdmitted {σ α : Type} : EStateM.Result Exc σ α → Bool
  | .ok .. => true
  | .error .. => false

def limitingStep (s : TeamLimiting) : LimitingAction → Option TeamLimiting
  | .set teamId newId requestsPerMinute requestsPerHour at_ =>
      some { s with
        overrides := (TeamRateLimitService.set s.overrides teamId newId requestsPerMinute
          requestsPerHour at_).2 }
  | .delete teamId =>
      some { s with overrides := (TeamRateLimitService.delete s.overrides teamId).2 }
  | .chat context ct =>
      if s.now ≤ ct.keyAt ∧ ct.keyAt ≤ ct.teamAt ∧ ct.teamAt ≤ ct.orgAt then
        let result := limited deps session settings s.counters context ct
        some { s with
          counters := (exitState result).shared
          now := ct.orgAt
          log := ⟨context.teamId, ct.teamAt, isAdmitted result,
            TeamRateLimitService.get s.overrides context.teamId⟩ :: s.log }
      else none

def limitingStart (counters : Counters) : TeamLimiting := ⟨counters, fun _ => none, 0, []⟩

/-- The admitted requests of a team in an aligned window that came while `p` held. -/
def admittedWhile (s : TeamLimiting) (teamId : String) (windowSeconds k : ℤ)
    (p : Option TeamRateLimit → Prop) [DecidablePred p] : ℕ :=
  s.log.countP fun entry => entry.teamId = teamId ∧ entry.admitted = true ∧ p entry.inForce ∧
    slot (windowSeconds : ℚ) entry.time = k

/-- Limits and window lengths as the rate-limits endpoint reports them. -/
def reportedLimits (response : TeamRateLimitResponse) : List (ℤ × ℤ) :=
  (response.effectiveRequestsPerMinute, 60) ::
    (response.effectiveRequestsPerHour.map fun limit => (limit, 3600)).toList

/-- The limits and window lengths `check_all` is called with for a team. -/
def teamLimits (limits : RateLimits) : List (ℤ × ℤ) := [(limits.teamLimit, limits.teamWindow)]

structure Enforced (s : TeamLimiting) : Prop where
  perMinute : ∀ teamId m k,
    admittedWhile s teamId 60 k (·.bind TeamRateLimit.requestsPerMinute = some m) ≤ m.toNat
  perHour : ∀ teamId h k,
    admittedWhile s teamId 3600 k (·.bind TeamRateLimit.requestsPerHour = some h) ≤ h.toNat
  reported : ∀ context : RequestContext,
    reportedLimits (buildResponse context.teamId
      (TeamRateLimitService.get s.overrides context.teamId) settings) =
        teamLimits (appliedLimits settings context)

/-- The override says what the settings say. -/
def SaysDefault (requestsPerMinute requestsPerHour : Option ℤ) : Prop :=
  (∀ m ∈ requestsPerMinute, m = settings.rateLimitTeamRequests) ∧ requestsPerHour = none

def SetsDefault : LimitingAction → Prop
  | .set _ _ requestsPerMinute requestsPerHour _ =>
      SaysDefault settings requestsPerMinute requestsPerHour
  | _ => True

/-! ## One request -/

variable {deps session settings}
variable (enabled : settings.rateLimitEnabled = true)
variable (window : settings.rateLimitTeamWindowSeconds = 60)

variable (deps session) in
include enabled window in
/-- A request is counted by its team only, and admitted only within the limit
of the settings. -/
theorem limited_tracks (team : String) (context : RequestContext) (ct : CheckTimes)
    (times : List ℚ) (nonneg : 0 ≤ ct.teamAt) (counters : Counters)
    (tracks : Tracks "team" team 60 counters times) :
    ∃ counted,
      Tracks "team" team 60 (exitState (limited deps session settings counters context ct)).shared
        counted ∧
      (counted = times ∨ context.teamId = team ∧ counted = ct.teamAt :: times) ∧
      (isAdmitted (limited deps session settings counters context ct) = true →
        context.teamId = team → counted = ct.teamAt :: times ∧
          (made (60 : ℚ) times (slot (60 : ℚ) ct.teamAt) : ℤ) + 1 ≤
            settings.rateLimitTeamRequests) := by
  have ends := checkAll_ends team (appliedLimits settings context) ct times window nonneg counters
    tracks
  have limiting := checkRateLimits_endpoint { deps with rateLimiter := limiter ct } settings enabled
    context
  cases checked : (checkAll (some luaScript) ct (appliedLimits settings context)).run counters with
  | ok outcome after =>
      have admits := ends.returned checked
      have ran : limited deps session settings counters context ct =
          if outcome.allowed then
            .ok (some outcome.bindingResult.remaining) ⟨after, session, []⟩
          else .error (.rateLimitExceeded "Rate limit exceeded. Please retry after the window resets."
            outcome.bindingResult.retryAfterSeconds outcome.bindingResult.scope)
              ⟨after, session, []⟩ := by
        rw [limited, limiting]
        simp only [EStateM.run] at checked
        simp only [limiter, awaitShared, EStateM.run, bind, EStateM.bind, pure, EStateM.pure, checked]
        split_ifs <;> rfl
      have exits : (exitState (limited deps session settings counters context ct)).shared =
          after := by
        rw [ran]
        split_ifs <;> rfl
      have allowed : isAdmitted (limited deps session settings counters context ct) =
          outcome.allowed := by
        rw [ran]
        cases outcome.allowed <;> rfl
      rw [exits, allowed]
      split_ifs at admits with own
      · exact ⟨_, admits.1, Or.inr ⟨own, rfl⟩, fun admitted _ => ⟨rfl, admits.2 admitted⟩⟩
      · exact ⟨times, admits, Or.inl rfl, fun _ same => absurd same own⟩
  | error exc after =>
      have refuses := ends.raised checked
      have ran : limited deps session settings counters context ct =
          .error exc ⟨after, session, []⟩ := by
        rw [limited, limiting]
        simp only [EStateM.run] at checked
        simp only [limiter, awaitShared, EStateM.run, bind, EStateM.bind, checked]
      rw [ran]
      rcases refuses with tracked | ⟨own, tracked⟩
      · exact ⟨times, tracked, Or.inl rfl, fun admitted => by cases admitted⟩
      · exact ⟨_, tracked, Or.inr ⟨own, rfl⟩, fun admitted => by cases admitted⟩

/-! ## Every run -/

/-- The requests of a team that were admitted in an aligned minute. -/
def admittedInMinute (s : TeamLimiting) (teamId : String) (k : ℤ) : ℕ :=
  admittedWhile s teamId 60 k fun _ => True

variable (settings) in
/-- What a request leaves of the counters and the log. -/
structure Counting (s : TeamLimiting) : Prop where
  tracked : ∀ team, ∃ times, Clocked (s.now :: times) ∧
    Tracks "team" team 60 s.counters times ∧
      ∀ k, admittedInMinute s team k ≤ made (60 : ℚ) times k
  within : ∀ team k, admittedInMinute s team k ≤ settings.rateLimitTeamRequests.toNat

theorem admittedWhile_le (s : TeamLimiting) (teamId : String) (k : ℤ)
    (p : Option TeamRateLimit → Prop) [DecidablePred p] :
    admittedWhile s teamId 60 k p ≤ admittedInMinute s teamId k := by
  apply List.countP_mono_left
  intro entry _ counted
  simp only [decide_eq_true_eq] at counted ⊢
  exact ⟨counted.1, counted.2.1, trivial, counted.2.2.2⟩

theorem admittedInMinute_cons (s next : TeamLimiting) (entry : ChatEntry)
    (logged : next.log = entry :: s.log) (team : String) (k : ℤ) :
    admittedInMinute next team k = admittedInMinute s team k +
      if entry.teamId = team ∧ entry.admitted = true ∧ slot (60 : ℚ) entry.time = k then 1
      else 0 := by
  simp only [admittedInMinute, admittedWhile, logged, List.countP_cons, decide_eq_true_eq,
    true_and, Int.cast_ofNat]

include enabled window in
theorem counting_chat (s next : TeamLimiting) (counting : Counting settings s)
    (context : RequestContext) (ct : CheckTimes)
    (stepped : limitingStep deps session settings s (.chat context ct) = some next) :
    Counting settings next := by
  simp only [limitingStep] at stepped
  split_ifs at stepped with clock
  cases stepped
  obtain ⟨late, later, latest⟩ := clock
  have counted : ∀ team, ∃ times, Clocked (ct.orgAt :: times) ∧
      Tracks "team" team 60 (exitState (limited deps session settings s.counters context ct)).shared
        times ∧ ∀ k, admittedInMinute s team k + (if context.teamId = team ∧
          isAdmitted (limited deps session settings s.counters context ct) = true ∧
            slot (60 : ℚ) ct.teamAt = k then 1 else 0) ≤
          min (made (60 : ℚ) times k) settings.rateLimitTeamRequests.toNat := by
    intro team
    obtain ⟨times, clocked, tracks, admits⟩ := counting.tracked team
    have nonneg : 0 ≤ ct.teamAt :=
      (clocked.nonneg s.now (List.mem_cons_self ..)).trans (late.trans later)
    have atTeam := clocked.cons (late.trans later)
    obtain ⟨counted, tracked, grows, admitted⟩ := limited_tracks deps session
      enabled window team context ct times nonneg s.counters tracks
    refine ⟨counted, ?_, tracked, ?_⟩
    · rcases grows with rfl | ⟨-, rfl⟩
      · exact atTeam.cons latest
      · exact atTeam.twice.cons latest
    · intro k
      have before := admits k
      have within := counting.within team k
      split_ifs with entry
      · obtain ⟨own, passed, here⟩ := entry
        obtain ⟨rfl, room⟩ := admitted passed own
        subst here
        rw [made_cons, if_pos rfl]
        omega
      · have more : made (60 : ℚ) times k ≤ made (60 : ℚ) counted k := by
          rcases grows with rfl | ⟨-, rfl⟩
          · exact le_rfl
          · rw [made_cons]
            split_ifs <;> omega
        omega
  constructor
  · intro team
    obtain ⟨times, clocked, tracks, admits⟩ := counted team
    refine ⟨times, clocked, tracks, fun k => ?_⟩
    rw [admittedInMinute_cons s _ _ rfl]
    exact (admits k).trans (min_le_left _ _)
  · intro team k
    obtain ⟨times, -, -, admits⟩ := counted team
    rw [admittedInMinute_cons s _ _ rfl]
    exact (admits k).trans (min_le_right _ _)

/-- The row of a team says what the settings say. -/
def RowSaysDefault (settings : Settings) (row : Option TeamRateLimit) : Prop :=
  SaysDefault settings (row.bind TeamRateLimit.requestsPerMinute)
    (row.bind TeamRateLimit.requestsPerHour)

include window in
theorem reported_iff (context : RequestContext) (row : Option TeamRateLimit) :
    reportedLimits (buildResponse context.teamId row settings) =
        teamLimits (appliedLimits settings context) ↔ RowSaysDefault settings row := by
  unfold RowSaysDefault SaysDefault
  simp only [reportedLimits, buildResponse, teamLimits, appliedLimits, window, List.cons.injEq,
    Prod.mk.injEq, and_true]
  cases row.bind TeamRateLimit.requestsPerMinute with
  | none => cases row.bind TeamRateLimit.requestsPerHour <;> simp
  | some m => cases row.bind TeamRateLimit.requestsPerHour <;> simp

variable (settings) in
/-- Every request came while its team's override said what the settings say. -/
structure Framed (s : TeamLimiting) : Prop where
  counting : Counting settings s
  logged : ∀ entry ∈ s.log, RowSaysDefault settings entry.inForce

include window in
/-- Then the law is about the reports alone. -/
theorem enforced_iff (s : TeamLimiting) (framed : Framed settings s) :
    Enforced settings s ↔ ∀ teamId, RowSaysDefault settings (s.overrides teamId) := by
  constructor
  · intro enforced teamId
    exact (reported_iff window ⟨"", teamId, "", ""⟩ _).mp (enforced.reported ⟨"", teamId, "", ""⟩)
  · intro default
    refine ⟨?_, ?_, fun context => (reported_iff window context _).mpr (default context.teamId)⟩
    · intro teamId m k
      by_cases same : m = settings.rateLimitTeamRequests
      · rw [same]
        exact (admittedWhile_le s teamId k _).trans (framed.counting.within teamId k)
      · have none : admittedWhile s teamId 60 k
            (·.bind TeamRateLimit.requestsPerMinute = some m) = 0 := by
          rw [admittedWhile, List.countP_eq_zero]
          intro entry member counted
          simp only [decide_eq_true_eq] at counted
          exact same ((framed.logged entry member).1 m counted.2.2.1)
        rw [none]
        exact Nat.zero_le _
    · intro teamId h k
      have none : admittedWhile s teamId 3600 k
          (·.bind TeamRateLimit.requestsPerHour = some h) = 0 := by
        rw [admittedWhile, List.countP_eq_zero]
        intro entry member counted
        simp only [decide_eq_true_eq] at counted
        rw [(framed.logged entry member).2] at counted
        cases counted.2.2.1
      rw [none]
      exact Nat.zero_le _

include enabled window in
theorem framed_chat (s next : TeamLimiting) (framed : Framed settings s)
    (default : ∀ teamId, RowSaysDefault settings (s.overrides teamId)) (context : RequestContext)
    (ct : CheckTimes)
    (stepped : limitingStep deps session settings s (.chat context ct) = some next) :
    Framed settings next := by
  refine ⟨counting_chat enabled window s next framed.counting context ct stepped, ?_⟩
  simp only [limitingStep] at stepped
  split_ifs at stepped
  cases stepped
  intro entry member
  rcases List.mem_cons.mp member with rfl | before
  · exact default context.teamId
  · exact framed.logged entry before

theorem framed_overrides (s : TeamLimiting) (framed : Framed settings s)
    (overrides : TeamRateLimits) :
    Framed settings { s with overrides := overrides } :=
  ⟨⟨framed.counting.tracked, framed.counting.within⟩, framed.logged⟩

theorem overrideRow_saysDefault_iff (existing : Option TeamRateLimit) (teamId newId : String)
    (requestsPerMinute requestsPerHour : Option ℤ) (now : Datetime) :
    RowSaysDefault settings (some (TeamRateLimitService.overrideRow existing teamId newId
      requestsPerMinute requestsPerHour now)) ↔
        SaysDefault settings requestsPerMinute requestsPerHour := by
  cases existing <;> exact Iff.rfl

include enabled window in
theorem enforced_step (s next : TeamLimiting) (a : LimitingAction)
    (framed : Framed settings s) (enforced : Enforced settings s)
    (stepped : limitingStep deps session settings s a = some next) :
    (Enforced settings next ↔ SetsDefault settings a) ∧ Framed settings next := by
  have default := (enforced_iff window s framed).mp enforced
  cases a with
  | set teamId newId requestsPerMinute requestsPerHour at_ =>
      cases stepped
      have kept := framed_overrides s framed (TeamRateLimitService.set s.overrides teamId newId
        requestsPerMinute requestsPerHour at_).2
      refine ⟨(enforced_iff window _ kept).trans ?_, kept⟩
      simp only [TeamRateLimitService.set]
      constructor
      · intro all
        have own := all teamId
        rw [Function.update_self] at own
        exact (overrideRow_saysDefault_iff ..).mp own
      · intro agrees other
        by_cases same : other = teamId
        · rw [same, Function.update_self]
          exact (overrideRow_saysDefault_iff ..).mpr agrees
        · rw [Function.update_of_ne same]
          exact default other
  | delete teamId =>
      cases stepped
      have kept := framed_overrides s framed (TeamRateLimitService.delete s.overrides teamId).2
      refine ⟨(enforced_iff window _ kept).trans (iff_of_true ?_ trivial), kept⟩
      intro other
      unfold TeamRateLimitService.delete
      split
      · exact default other
      · by_cases same : other = teamId
        · simp only [same, Function.update_self]
          exact ⟨by simp, rfl⟩
        · simp only [Function.update_of_ne same]
          exact default other
  | chat context ct =>
      have kept := framed_chat enabled window s next framed default context ct stepped
      refine ⟨(enforced_iff window next kept).trans (iff_of_true ?_ trivial), kept⟩
      simp only [limitingStep] at stepped
      split_ifs at stepped
      cases stepped
      exact default

/-- Overrides are enforced throughout a run if and only if every override that
is set says what the settings say. -/
theorem enforced_iff_setsDefault (enabled : settings.rateLimitEnabled = true)
    (window : settings.rateLimitTeamWindowSeconds = 60) (counters : Counters)
    (fresh : ∀ teamId, Fresh "team" teamId counters) (actions : List LimitingAction) :
    HoldsThroughout (limitingStep deps session settings) (Enforced settings)
        (limitingStart counters) actions ↔
      StepsMeet (limitingStep deps session settings) (fun _ => SetsDefault settings)
        (limitingStart counters) actions := by
  have framed : Framed settings (limitingStart counters) := by
    refine ⟨⟨fun team => ⟨[], ⟨List.pairwise_singleton _ _, by simp [limitingStart]⟩,
      fun k => fresh team (k * 60), fun k => Nat.zero_le _⟩, fun team k => Nat.zero_le _⟩, ?_⟩
    intro entry member
    cases member
  apply holdsThroughout_iff_stepsMeet _ _ (Framed settings) (fun _ _ => True) _
    (fun s a next framed enforced _ stepped =>
      have exact_step := enforced_step enabled window s next a framed enforced stepped
      ⟨exact_step.1, fun _ => exact_step.2⟩)
    _ framed _ _ fun _ _ _ _ _ _ _ => trivial
  exact (enforced_iff window _ framed).mpr fun _ => ⟨by simp [limitingStart], rfl⟩

end Runs


/-! ## One request a minute -/

/-- Services that are not reached while a request is limited. -/
def unreachedDependencies : ChatDependencies Counters Unit :=
  { rateLimiter := limiter ⟨0, 0, 0⟩
    routingEngine := ⟨⟨["groq"]⟩, .auto⟩
    buildCandidates := pure []
    semanticCache := fun _ _ => pure none
    experimentDigest := fun _ => 0
    budgetService :=
      { getBudget := fun _ => pure none
        checkAndReserve := fun _ _ _ => pure (none, false)
        reconcile := fun _ _ _ => pure none
        releaseReservation := fun _ _ => pure () }
    costCalculator := costClient ⟨llamaCatalog⟩
    execute := fun _ _ _ _ => pure helloBack }

/-- The team sends two requests in the first second of a minute. -/
def twoRequests (requestsPerMinute : ℤ) : List LimitingAction :=
  [.set "team-1" "override-1" (some requestsPerMinute) none april, .chat member ⟨0, 0, 0⟩,
    .chat member ⟨1, 1, 1⟩]

/-- Both are admitted although the team may send one. -/
theorem override_not_enforced :
    ∃ s, run (limitingStep unreachedDependencies () defaultSettings)
        (limitingStart fun _ => none) (twoRequests 1) = some s ∧
      admittedWhile s "team-1" 60 0 (·.bind TeamRateLimit.requestsPerMinute = some 1) = 2 ∧
      ¬ Enforced defaultSettings s := by
  have ran : (run (limitingStep unreachedDependencies () defaultSettings)
      (limitingStart fun _ => none) (twoRequests 1)).map (fun s =>
        admittedWhile s "team-1" 60 0 (·.bind TeamRateLimit.requestsPerMinute = some 1)) =
          some 2 := by decide +kernel
  obtain ⟨s, reached, counted⟩ := Option.map_eq_some_iff.mp ran
  refine ⟨s, reached, counted, ?_⟩
  intro enforced
  have within := enforced.perMinute "team-1" 1 0
  rw [counted] at within
  exact absurd within (by decide)

/-- An override that repeats the global limit. -/
theorem repeated_limit_enforced :
    HoldsThroughout (limitingStep unreachedDependencies () defaultSettings)
      (Enforced defaultSettings) (limitingStart fun _ => none) (twoRequests 500) := by
  apply (enforced_iff_setsDefault rfl rfl (fun _ => none) (fun _ _ => rfl) _).mpr
  unfold twoRequests
  rw [stepsMeet_cons]
  intro overridden _
  refine ⟨⟨by decide, rfl⟩, ?_⟩
  rw [stepsMeet_cons]
  intro once _
  refine ⟨trivial, ?_⟩
  rw [stepsMeet_cons]
  exact fun _ _ => ⟨trivial, stepsMeet_nil _ _ _⟩

end CortexGateway.RateLimiting
