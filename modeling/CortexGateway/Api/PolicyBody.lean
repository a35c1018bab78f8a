import CortexGateway.Api.Isolation
import CortexGateway.Policy.Resolver

/-! # PUT of a team policy, from the bytes of its body

`_parse_policy_body`, `_validate_experiment_arms` and `put_policy` of
`app/api/v1/endpoints/policy.py`.  The parsers, the texts of the validation
errors and the JSONB column are parameters.  Every way to be refused ends in a
422 but two: a YAML parser that raises another error than its own, and an arm of
an unregistered provider, whose message calls the list `provider_names`.  Besides,
an integer without decimal text cannot be quoted in the error it causes, and a
document the column does not take is not stored. -/
set_option autoImplicit false
namespace CortexGateway.PolicyEndpoint
open AdminApi Validation

/-! ## The endpoint -/

inductive YamlFailure
  | yamlError (text : String)
  | other (exc : Exc)

/-- What the endpoint calls outside the gateway: the parsers, the conversions of
the validation library with the text of its errors, and the JSONB column, which
takes a document or refuses it. -/
structure Libraries where
  jsonLoads : List UInt8 → Except String Value
  yamlSafeLoad : List UInt8 → Except YamlFailure Value
  coercions : Coercions
  errorsText : List FieldError → String
  jsonb : Value → Bool

structure PolicyRequest where
  contentType : Option String
  rawBody : List UInt8

/-- `(header or "").split(";")[0].strip() == "application/x-yaml"`. -/
def isYamlType (contentType : Option String) : Bool :=
  strip (String.ofList ((contentType.getD "").toList.takeWhile (· ≠ ';'))) = "application/x-yaml"

def PolicyRequest.isYaml (request : PolicyRequest) : Bool := isYamlType request.contentType

section Endpoint
variable (libraries : Libraries) (env : AdminEnv) (db : Database)

def load (request : PolicyRequest) : Except ApiError Value :=
  if request.isYaml then
    match libraries.yamlSafeLoad request.rawBody with
    | .ok data => .ok data
    | .error (.yamlError text) => .error (.httpException 422 ("Malformed YAML: " ++ text))
    | .error (.other exc) => .error (.unhandled exc)
  else
    match libraries.jsonLoads request.rawBody with
    | .ok data => .ok data
    | .error text => .error (.httpException 422 ("Malformed JSON: " ++ text))

/-- The handler of the exception makes a text of the errors with their inputs. -/
def validationFailed (errors : List FieldError) : ApiError :=
  if errors.all fun error => error.input.hasText then
    .httpException 422 (libraries.errorsText errors)
  else
    .unhandled (.valueError "Exceeds the limit (4300 digits) for integer string conversion")

def parsePolicyBody (request : PolicyRequest) : Except ApiError ValidInput :=
  match load libraries request with
  | .error error => .error error
  | .ok (.dict items) =>
      (validateInput libraries.coercions (.dict items)).mapError (validationFailed libraries)
  | .ok _ => .error (.httpException 422 "Policy body must be a JSON/YAML object.")

/-- `if policy_input.experiment is not None and policy_input.experiment.enabled`. -/
def checkArms (policyInput : ValidInput) : Except ApiError Unit :=
  match policyInput.experiment with
  | some experiment =>
      if experiment.val.enabled then validateExperimentArms env experiment.val else .ok ()
  | none => .ok ()

/-- The row holds the document as it is validated again. -/
def storePolicy (teamId newId : String) (policyInput : ValidInput) (now : Datetime) :
    Except ApiError (TeamPolicyModel × Database) :=
  if libraries.jsonb policyInput.dump then do
    let rows := db.teamRows teamId
    let row := AdminApi.upsertPolicy rows.policy teamId newId policyInput.input now
    let after ← unhandled (db.writeTeamRows teamId { rows with policy := some row })
    return (row, after)
  else .error (.unhandled (.otherException "DBAPIError"))

def putPolicy (teamId : String) (request : PolicyRequest) (newId : String)
    (context : RequestContext) (now : Datetime) : Except ApiError (Success × Database) := do
  resolveTeam db teamId context
  let policyInput ← parsePolicyBody libraries request
  checkArms env policyInput
  let stored ← storePolicy libraries db teamId newId policyInput now
  return (.policy (toPolicyResponse teamId (resolvePolicy stored.2 teamId)
    (some stored.1.updatedAt)), stored.2)

/-- The answer and the database after it. -/
def answer (teamId : String) (request : PolicyRequest) (newId : String) (context : RequestContext)
    (now : Datetime) : Except ApiError Success × Database :=
  match putPolicy libraries env db teamId request newId context now with
  | .error error => (.error error, db)
  | .ok (success, after) => (.ok success, after)

/-! ## What the endpoint is to do -/

variable (teamId : String) (request : PolicyRequest) (newId : String) (context : RequestContext)
  (now : Datetime)

/-- The body parses to an object. -/
def Parses (items : List (Value × Value)) : Prop := load libraries request = .ok (.dict items)

/-- An enabled experiment has an arm whose provider is not registered. -/
def Unregistered (policyInput : ValidInput) : Prop :=
  ∃ experiment ∈ policyInput.experiment, experiment.val.enabled = true ∧
    ∃ arm ∈ experiment.val.arms, env.registry.isRegistered arm.provider = false

inductive Rejected : Prop
  | noObject (unparsed : ∀ items, ¬Parses libraries request items)
  | notValid (items : List (Value × Value)) (errors : List FieldError)
      (parses : Parses libraries request items)
      (refused : validateInput libraries.coercions (.dict items) = .error errors)
  | unregistered (items : List (Value × Value)) (policyInput : ValidInput)
      (parses : Parses libraries request items)
      (valid : validateInput libraries.coercions (.dict items) = .ok policyInput)
      (arm : Unregistered env policyInput)

/-- The policy is stored for the team alone, and the resolved one is returned. -/
structure Stored (policyInput : ValidInput) (success : Success) (after : Database) : Prop where
  row : ∃ row, (after.teamRows teamId).policy = some row ∧ row.policy = some policyInput.input ∧
    row.enabled = true
  others : ∀ other, other ≠ teamId → after.teamRows other = db.teamRows other
  returned : success =
    .policy ⟨teamId, .merge policyInput.input, "team", some now.isoformat⟩

/-- A rejected body is answered 422 and changes nothing; every other is stored. -/
def RejectsExactly : Prop :=
  (Rejected libraries env request → ∃ detail,
      answer libraries env db teamId request newId context now =
        (.error (.httpException 422 detail), db)) ∧
    (¬Rejected libraries env request → ∃ items policyInput success after,
      Parses libraries request items ∧
        validateInput libraries.coercions (.dict items) = .ok policyInput ∧
        answer libraries env db teamId request newId context now = (.ok success, after) ∧
        Stored db teamId now policyInput success after)

/-- Where the endpoint does so. -/
structure Handled : Prop where
  caught : request.isYaml = true → ∀ exc, libraries.yamlSafeLoad request.rawBody ≠ .error (.other exc)
  quoted : ∀ items errors, Parses libraries request items →
    validateInput libraries.coercions (.dict items) = .error errors →
      ∀ error ∈ errors, error.input.hasText = true
  registered : ∀ items policyInput, Parses libraries request items →
    validateInput libraries.coercions (.dict items) = .ok policyInput →
      ¬Unregistered env policyInput
  taken : ∀ items policyInput, Parses libraries request items →
    validateInput libraries.coercions (.dict items) = .ok policyInput →
      libraries.jsonb policyInput.dump = true

/-! ## The steps -/

variable {libraries env db teamId request newId context now}

theorem load_error {error : ApiError} (failed : load libraries request = .error error) :
    (∃ detail, error = .httpException 422 detail ∧
        (request.isYaml = true →
          ∀ exc, libraries.yamlSafeLoad request.rawBody ≠ .error (.other exc))) ∨
      ∃ exc, error = .unhandled exc ∧ request.isYaml = true ∧
        libraries.yamlSafeLoad request.rawBody = .error (.other exc) := by
  unfold load at failed
  split_ifs at failed with yaml
  · split at failed
    next => cases failed
    next text raised =>
      cases failed
      exact .inl ⟨_, rfl, fun _ exc other => by rw [raised] at other; cases other⟩
    next exc raised =>
      cases failed
      exact .inr ⟨exc, rfl, yaml, raised⟩
  · split at failed
    next => cases failed
    next text raised =>
      cases failed
      exact .inl ⟨_, rfl, fun isYaml => absurd isYaml yaml⟩

theorem caught_of_load {data : Value} (loaded : load libraries request = .ok data)
    (yaml : request.isYaml = true) (exc : Exc) :
    libraries.yamlSafeLoad request.rawBody ≠ .error (.other exc) := by
  intro raised
  rw [load, if_pos yaml, raised] at loaded
  cases loaded

theorem checkArms_registered {policyInput : ValidInput}
    (registered : ¬Unregistered env policyInput) : checkArms env policyInput = .ok () := by
  unfold checkArms
  split
  next experiment given =>
    split_ifs with enabled
    · unfold validateExperimentArms
      rw [if_pos]
      · rfl
      · refine List.all_eq_true.mpr fun arm member => ?_
        by_contra missing
        exact registered ⟨experiment, given, enabled, arm, member, Bool.eq_false_iff.mpr missing⟩
    · rfl
  next => rfl

/-- The error text of an unregistered provider cannot be built. -/
theorem checkArms_unregistered {policyInput : ValidInput}
    (unregistered : Unregistered env policyInput) :
    checkArms env policyInput =
      .error (.unhandled (.typeError "'list' object is not callable")) := by
  obtain ⟨experiment, given, enabled, arm, member, missing⟩ := unregistered
  rw [checkArms, Option.mem_def.mp given]
  simp only [if_pos enabled, validateExperimentArms]
  rw [if_neg]
  · rfl
  · intro all
    rw [List.all_eq_true.mp all arm member] at missing
    cases missing

theorem hasTeam_of_resolveTeam (resolved : resolveTeam db teamId context = .ok ()) :
    db.hasTeam teamId = true := by
  have owned : db.owns context.organizationId teamId = true := owns_of_resolveTeam rfl resolved
  exact Database.hasTeam_of_owns owned

theorem upsertPolicy_row (existing : Option TeamPolicyModel) (teamId newId : String)
    (input : TeamPolicyInput) (now : Datetime) :
    (AdminApi.upsertPolicy existing teamId newId input now).policy = some input ∧
      (AdminApi.upsertPolicy existing teamId newId input now).enabled = true ∧
      (AdminApi.upsertPolicy existing teamId newId input now).updatedAt = now := by
  cases existing <;> exact ⟨rfl, rfl, rfl⟩

theorem writeTeamRows_present (resolved : resolveTeam db teamId context = .ok ())
    (rows : TeamRows) : ∃ after, db.writeTeamRows teamId rows = .ok after ∧
      after.teamRows = Function.update db.teamRows teamId rows := by
  rw [Database.writeTeamRows, dif_pos (hasTeam_of_resolveTeam resolved)]
  exact ⟨_, rfl, rfl⟩

variable (newId now) in
/-- A document the column takes is stored for the team and resolved. -/
theorem answer_stored (resolved : resolveTeam db teamId context = .ok ()) (named : teamId ≠ "")
    {policyInput : ValidInput} (parsed : parsePolicyBody libraries request = .ok policyInput)
    (checked : checkArms env policyInput = .ok ())
    (taken : libraries.jsonb policyInput.dump = true) :
    ∃ success after, answer libraries env db teamId request newId context now =
        (.ok success, after) ∧ Stored db teamId now policyInput success after := by
  let row := AdminApi.upsertPolicy (db.teamRows teamId).policy teamId newId policyInput.input now
  obtain ⟨input, enabled, updatedAt⟩ :=
    upsertPolicy_row (db.teamRows teamId).policy teamId newId policyInput.input now
  obtain ⟨after, written, afterRows⟩ :=
    writeTeamRows_present resolved { db.teamRows teamId with policy := some row }
  have policy : (after.teamRows teamId).policy = some row := by
    rw [afterRows, Function.update_self]
  have resolves : resolvePolicy after teamId = (.merge policyInput.input, "team") := by
    rw [resolvePolicy, if_neg named, getPolicyModel, policy, Option.filter_some, if_pos enabled,
      Option.bind_some, input]
  have stored : storePolicy libraries db teamId newId policyInput now = .ok (row, after) := by
    simp only [storePolicy, if_pos taken]
    rw [written]
    rfl
  refine ⟨.policy (toPolicyResponse teamId (resolvePolicy after teamId) (some row.updatedAt)), after,
    ?_, ⟨row, policy, input, enabled⟩, fun other apart => ?_, ?_⟩
  · simp only [answer, putPolicy, resolved, parsed, checked, stored, bind, Except.bind, pure,
      Except.pure]
  · rw [afterRows, Function.update_of_ne apart]
  · rw [resolves, updatedAt]
    rfl

/-- A body that is not accepted ends in the error of its first failed step. -/
theorem answer_parse_error (resolved : resolveTeam db teamId context = .ok ()) {error : ApiError}
    (failed : parsePolicyBody libraries request = .error error) :
    answer libraries env db teamId request newId context now = (.error error, db) := by
  simp only [answer, putPolicy, resolved, failed, bind, Except.bind]

variable (newId now) in
theorem answer_check_error (resolved : resolveTeam db teamId context = .ok ())
    {policyInput : ValidInput} (parsed : parsePolicyBody libraries request = .ok policyInput)
    {error : ApiError} (failed : checkArms env policyInput = .error error) :
    answer libraries env db teamId request newId context now = (.error error, db) := by
  simp only [answer, putPolicy, resolved, parsed, failed, bind, Except.bind]

theorem answer_refused (resolved : resolveTeam db teamId context = .ok ())
    {policyInput : ValidInput} (parsed : parsePolicyBody libraries request = .ok policyInput)
    (checked : checkArms env policyInput = .ok ())
    (refused : libraries.jsonb policyInput.dump = false) :
    answer libraries env db teamId request newId context now =
      (.error (.unhandled (.otherException "DBAPIError")), db) := by
  simp only [answer, putPolicy, resolved, parsed, checked, storePolicy, refused, bind, Except.bind,
    Bool.false_eq_true, if_false]

/-! ## When it rejects exactly the invalid bodies -/

theorem parsePolicyBody_valid {items : List (Value × Value)} {policyInput : ValidInput}
    (parses : Parses libraries request items)
    (valid : validateInput libraries.coercions (.dict items) = .ok policyInput) :
    parsePolicyBody libraries request = .ok policyInput := by
  rw [parsePolicyBody, parses]
  simp only [valid, Except.mapError]

theorem parsePolicyBody_invalid {items : List (Value × Value)} {errors : List FieldError}
    (parses : Parses libraries request items)
    (refused : validateInput libraries.coercions (.dict items) = .error errors) :
    parsePolicyBody libraries request = .error (validationFailed libraries errors) := by
  rw [parsePolicyBody, parses]
  simp only [refused, Except.mapError]

theorem parsePolicyBody_noObject {data : Value} (loaded : load libraries request = .ok data)
    (noObject : ∀ items, data ≠ .dict items) :
    parsePolicyBody libraries request =
      .error (.httpException 422 "Policy body must be a JSON/YAML object.") := by
  rw [parsePolicyBody, loaded]
  cases data with
  | dict items => exact absurd rfl (noObject items)
  | none => rfl
  | bool value => rfl
  | int value => rfl
  | str value => rfl
  | list values => rfl
  | object className text => rfl

theorem validated_unique {items others : List (Value × Value)} {first second : Validated ValidInput}
    (parses : Parses libraries request items) (parsesToo : Parses libraries request others)
    (its : validateInput libraries.coercions (.dict items) = first)
    (itsToo : validateInput libraries.coercions (.dict others) = second) : first = second := by
  have same := Except.ok.inj (parses.symm.trans parsesToo)
  rw [← its, ← itsToo, same]

/-- A 422 for a body that is rejected is what is claimed, any other error is not. -/
theorem rejectsExactly_of_error {error : ApiError} (rejected : Rejected libraries env request)
    (answered : answer libraries env db teamId request newId context now = (.error error, db)) :
    RejectsExactly libraries env db teamId request newId context now ↔
      ∃ detail, error = .httpException 422 detail := by
  constructor
  · intro exactly
    obtain ⟨detail, was⟩ := exactly.1 rejected
    rw [answered] at was
    exact ⟨detail, Except.error.inj (congrArg Prod.fst was)⟩
  · rintro ⟨detail, rfl⟩
    exact ⟨fun _ => ⟨detail, answered⟩, fun accepted => absurd rejected accepted⟩

theorem unparsed_iff (resolved : resolveTeam db teamId context = .ok ()) {error : ApiError}
    (unparsed : ∀ items, ¬Parses libraries request items)
    (failed : parsePolicyBody libraries request = .error error)
    (status : (∃ detail, error = .httpException 422 detail) ↔
      (request.isYaml = true →
        ∀ exc, libraries.yamlSafeLoad request.rawBody ≠ .error (.other exc))) :
    RejectsExactly libraries env db teamId request newId context now ↔
      Handled libraries env request := by
  rw [rejectsExactly_of_error (.noObject unparsed) (answer_parse_error resolved failed), status]
  refine ⟨fun caught => ⟨caught, fun items errors parses => ?_, fun items policyInput parses => ?_,
    fun items policyInput parses => ?_⟩, Handled.caught⟩
  all_goals exact absurd parses (unparsed items)

theorem invalid_iff (resolved : resolveTeam db teamId context = .ok ())
    {items : List (Value × Value)} {errors : List FieldError}
    (parses : Parses libraries request items)
    (refused : validateInput libraries.coercions (.dict items) = .error errors) :
    RejectsExactly libraries env db teamId request newId context now ↔
      Handled libraries env request := by
  rw [rejectsExactly_of_error (.notValid items errors parses refused)
    (answer_parse_error resolved (parsePolicyBody_invalid parses refused)), validationFailed]
  split_ifs with quoted
  · refine iff_of_true ⟨_, rfl⟩ ⟨caught_of_load parses, fun others more parsesToo refusedToo => ?_,
      fun others policyInput parsesToo valid => ?_, fun others policyInput parsesToo valid => ?_⟩
    · cases validated_unique parses parsesToo refused refusedToo
      exact List.all_eq_true.mp quoted
    · cases validated_unique parses parsesToo refused valid
    · cases validated_unique parses parsesToo refused valid
  · refine iff_of_false (fun http => ?_) fun handled => quoted ?_
    · obtain ⟨detail, same⟩ := http
      cases same
    · exact List.all_eq_true.mpr (handled.quoted items errors parses refused)

theorem handled_of_valid {items : List (Value × Value)} {policyInput : ValidInput}
    (parses : Parses libraries request items)
    (valid : validateInput libraries.coercions (.dict items) = .ok policyInput)
    (registered : ¬Unregistered env policyInput)
    (taken : libraries.jsonb policyInput.dump = true) : Handled libraries env request := by
  refine ⟨caught_of_load parses, fun others errors parsesToo refused => ?_,
    fun others other parsesToo its => ?_, fun others other parsesToo its => ?_⟩
  · cases validated_unique parses parsesToo valid refused
  · cases validated_unique parses parsesToo valid its
    exact registered
  · cases validated_unique parses parsesToo valid its
    exact taken

theorem valid_iff (resolved : resolveTeam db teamId context = .ok ()) (named : teamId ≠ "")
    {items : List (Value × Value)} {policyInput : ValidInput}
    (parses : Parses libraries request items)
    (valid : validateInput libraries.coercions (.dict items) = .ok policyInput) :
    RejectsExactly libraries env db teamId request newId context now ↔
      Handled libraries env request := by
  have parsed := parsePolicyBody_valid parses valid
  by_cases unregistered : Unregistered env policyInput
  · rw [rejectsExactly_of_error (.unregistered items policyInput parses valid unregistered)
      (answer_check_error newId now resolved parsed (checkArms_unregistered unregistered))]
    refine iff_of_false (fun http => ?_) fun handled =>
      handled.registered items policyInput parses valid unregistered
    obtain ⟨detail, same⟩ := http
    cases same
  · have accepted : ¬Rejected libraries env request := by
      rintro (unparsed | ⟨others, errors, parsesToo, refused⟩ | ⟨others, other, parsesToo, its, arm⟩)
      · exact unparsed items parses
      · cases validated_unique parses parsesToo valid refused
      · cases validated_unique parses parsesToo valid its
        exact unregistered arm
    have checked := checkArms_registered unregistered
    cases taken : libraries.jsonb policyInput.dump with
    | true =>
        obtain ⟨success, after, answered, stored⟩ :=
          answer_stored newId now resolved named parsed checked taken
        exact iff_of_true ⟨fun rejected => absurd rejected accepted, fun _ =>
            ⟨items, policyInput, success, after, parses, valid, answered, stored⟩⟩
          (handled_of_valid parses valid unregistered taken)
    | false =>
        refine iff_of_false (fun exactly => ?_) fun handled => ?_
        · obtain ⟨_, _, success, after, _, _, answered, _⟩ := exactly.2 accepted
          rw [answer_refused resolved parsed checked taken] at answered
          cases answered
        · have must := handled.taken items policyInput parses valid
          rw [taken] at must
          cases must

/-- The endpoint rejects exactly the invalid bodies where no YAML parser raises
another error than its own, the inputs of the validation errors can be quoted,
the arms of an enabled experiment are registered and the column takes the
document. -/
theorem rejects_exactly_iff (resolved : resolveTeam db teamId context = .ok ())
    (named : teamId ≠ "") :
    RejectsExactly libraries env db teamId request newId context now ↔
      Handled libraries env request := by
  cases loaded : load libraries request with
  | error error =>
      have unparsed : ∀ items, ¬Parses libraries request items := fun items parses => by
        rw [Parses, loaded] at parses
        cases parses
      refine unparsed_iff resolved unparsed (by rw [parsePolicyBody, loaded]) ?_
      rcases load_error loaded with ⟨detail, rfl, caught⟩ | ⟨exc, rfl, yaml, raised⟩
      · exact iff_of_true ⟨detail, rfl⟩ caught
      · refine iff_of_false (fun http => ?_) fun caught => caught yaml exc raised
        obtain ⟨detail, same⟩ := http
        cases same
  | ok data =>
      by_cases object : ∃ items, data = .dict items
      · obtain ⟨items, rfl⟩ := object
        cases validated : validateInput libraries.coercions (.dict items) with
        | error errors => exact invalid_iff resolved loaded validated
        | ok policyInput => exact valid_iff resolved named loaded validated
      · have unparsed : ∀ items, ¬Parses libraries request items := fun items parses =>
          object ⟨items, Except.ok.inj (loaded.symm.trans parses)⟩
        have failed := parsePolicyBody_noObject loaded fun items same => object ⟨items, same⟩
        exact unparsed_iff resolved unparsed failed
          (iff_of_true ⟨_, rfl⟩ (caught_of_load loaded))

/-! ## The rows and the documents of the admin API -/

variable (libraries) in
/-- A row of the table as the admin API has it: the document as it is validated. -/
def adminRow (row : PolicyRow) : TeamPolicyModel :=
  ⟨row.id, row.teamId, (validateInput libraries.coercions row.policy).toOption.map ValidInput.input,
    row.enabled, row.createdAt, row.updatedAt⟩

theorem adminRow_upsert (policies : PolicyTable) (policyInput : ValidInput) :
    (PolicyService.upsertPolicy policies teamId newId policyInput now teamId).map (adminRow libraries) =
      some (AdminApi.upsertPolicy ((policies teamId).map (adminRow libraries)) teamId newId
        policyInput.input now) := by
  rw [PolicyService.upsertPolicy, Function.update_self, Option.map_some]
  cases policies teamId with
  | none => simp only [adminRow, validateInput_dump, Except.toOption, Option.map_some]; rfl
  | some row => simp only [adminRow, validateInput_dump, Except.toOption, Option.map_some]; rfl

theorem resolve_adminRow (policies : PolicyTable)
    (same : (db.teamRows teamId).policy = (policies teamId).map (adminRow libraries)) :
    resolvePolicy db teamId = PolicyResolver.resolve libraries.coercions policies teamId := by
  unfold resolvePolicy PolicyResolver.resolve
  split_ifs
  · rfl
  · rw [getPolicyModel, same, PolicyService.getPolicyModel]
    cases policies teamId with
    | none => rfl
    | some row =>
        obtain ⟨id, team, policy, enabled, createdAt, updatedAt⟩ := row
        cases enabled with
        | false => rfl
        | true =>
            cases policy with
            | dict items =>
                simp only [Option.map_some, Option.filter_some, adminRow, if_true, Option.bind_some,
                  PolicyResolver.merge]
                cases validateInput libraries.coercions (.dict items) <;> rfl
            | none => rfl
            | bool value => rfl
            | int value => rfl
            | str value => rfl
            | list values => rfl
            | object className text => rfl

/-- A body that is parsed is put as the admin API puts it, if the column takes it. -/
theorem putPolicy_eq_admin {policyInput : ValidInput}
    (parsed : parsePolicyBody libraries request = .ok policyInput)
    (taken : libraries.jsonb policyInput.dump = true) :
    putPolicy libraries env db teamId request newId context now =
      AdminApi.putPolicy env db teamId (.ok policyInput.input) newId context now := by
  cases resolved : resolveTeam db teamId context with
  | error error => simp only [putPolicy, AdminApi.putPolicy, resolved, bind, Except.bind]
  | ok member =>
      obtain ⟨after, written, -⟩ := writeTeamRows_present resolved
        { db.teamRows teamId with
          policy := some (AdminApi.upsertPolicy (db.teamRows teamId).policy teamId newId
            policyInput.input now) }
      have stored : storePolicy libraries db teamId newId policyInput now =
          .ok (AdminApi.upsertPolicy (db.teamRows teamId).policy teamId newId policyInput.input now,
            after) := by
        simp only [storePolicy, if_pos taken]
        rw [written]
        rfl
      have experiment : policyInput.input.experiment = policyInput.experiment.map Subtype.val := rfl
      simp only [putPolicy, AdminApi.putPolicy, resolved, parsed, checkArms, stored, written,
        experiment, unhandled, bind, Except.bind, pure, Except.pure, Except.mapError]
      cases policyInput.experiment with
      | none => rfl
      | some experiment =>
          simp only [Option.map_some]
          split_ifs
          · cases validateExperimentArms env experiment.val <;> rfl
          · rfl

end Endpoint

/-! ## A policy that is stored and a canary that is not -/

/-- JSON of one text only. -/
def jsonOf (text : String) (data : Value) : Libraries where
  jsonLoads rawBody :=
    if rawBody = text.toUTF8.toList then .ok data else .error "Expecting value: line 1 column 1"
  yamlSafeLoad _ := .error (.yamlError "while scanning a simple key")
  coercions := .strict
  errorsText errors := toString (errors.map FieldError.msg)
  jsonb _ := true

def jsonRequest (text : String) : PolicyRequest := ⟨some "application/json", text.toUTF8.toList⟩

def acmeAdmin : RequestContext := ⟨"acme", "team-acme", "key-acme", "admin"⟩

theorem isYamlType_json : isYamlType (some "application/json") = false := by decide +kernel

theorem parses_jsonOf (text : String) {data : Value} {items : List (Value × Value)}
    (object : data = .dict items) : Parses (jsonOf text data) (jsonRequest text) items := by
  have json : ¬(jsonRequest text).isYaml = true := Bool.eq_false_iff.mp isYamlType_json
  rw [Parses, load, if_neg json]
  simp only [jsonOf, jsonRequest, if_true, object]

def canaryText : String :=
  "\x7b\"budget\": \x7b\"action\": \"WARN\"\x7d, \"experiment\": \x7b\"enabled\": true, " ++
    "\"id\": \"canary-flash\", \"version\": 3, \"type\": \"canary\", \"arms\": [" ++
    "\x7b\"name\": \"stable\", \"provider\": \"groq\", \"model\": \"llama\", \"weight\": 90\x7d, " ++
    "\x7b\"name\": \"canary\", \"provider\": \"gemini\", \"model\": \"flash\", \"weight\": 10\x7d" ++
    "]\x7d\x7d"

/-- A canary whose second arm goes to a provider that is not registered. -/
theorem canary_unregistered : Unregistered plainEnv PolicyResolver.warnAndCanary :=
  ⟨_, rfl, rfl, PolicyResolver.canaryArm, List.mem_pair.mpr (.inr rfl), by decide +kernel⟩

theorem acmeAdmin_resolves : resolveTeam twoTenants "team-acme" acmeAdmin = .ok () := rfl

/-- The canary is invalid, and its error cannot be built. -/
theorem canary_unhandled :
    Rejected (jsonOf canaryText PolicyResolver.warnAndCanary.dump) plainEnv
        (jsonRequest canaryText) ∧
      answer (jsonOf canaryText PolicyResolver.warnAndCanary.dump) plainEnv twoTenants "team-acme"
          (jsonRequest canaryText) "policy-1" acmeAdmin mayDay =
        (.error (.unhandled (.typeError "'list' object is not callable")), twoTenants) ∧
      ¬RejectsExactly (jsonOf canaryText PolicyResolver.warnAndCanary.dump) plainEnv twoTenants
        "team-acme" (jsonRequest canaryText) "policy-1" acmeAdmin mayDay := by
  obtain ⟨items, object⟩ : ∃ items, PolicyResolver.warnAndCanary.dump = .dict items := ⟨_, rfl⟩
  have parses := parses_jsonOf canaryText object
  have valid := validateInput_dump .strict PolicyResolver.warnAndCanary
  rw [object] at valid
  have rejected := Rejected.unregistered items _ parses valid canary_unregistered
  have answered := answer_check_error "policy-1" mayDay acmeAdmin_resolves
    (parsePolicyBody_valid parses valid) (checkArms_unregistered canary_unregistered)
  refine ⟨rejected, answered, fun exactly => ?_⟩
  obtain ⟨detail, same⟩ := (rejectsExactly_of_error rejected answered).mp exactly
  cases same

def cacheText : String := "\x7b\"cache\": \x7b\"enabled\": true\x7d\x7d"

def cacheOnly : ValidInput := ⟨none, none, none, some true, none, none⟩

theorem cache_handled :
    Handled (jsonOf cacheText cacheOnly.dump) plainEnv (jsonRequest cacheText) :=
  handled_of_valid (parses_jsonOf cacheText rfl) (validateInput_dump .strict cacheOnly)
    (fun ⟨_, given, _⟩ => by cases given) rfl

theorem cache_rejects_exactly :
    resolveTeam twoTenants "team-acme" acmeAdmin = .ok () ∧ "team-acme" ≠ "" ∧
      RejectsExactly (jsonOf cacheText cacheOnly.dump) plainEnv twoTenants "team-acme"
        (jsonRequest cacheText) "policy-1" acmeAdmin mayDay :=
  ⟨acmeAdmin_resolves, by decide,
    (rejects_exactly_iff acmeAdmin_resolves (by decide)).mpr cache_handled⟩

end CortexGateway.PolicyEndpoint
