import Mathlib

/-! # Validating parsed values

A parser hands over a tree of values.  A schema reads the fields of a mapping by
their names, converts and checks them, and gives either what it builds or all the
errors it met, each with its place, its text and its input.  What is dumped from
a checked value passes the check again, field by field. -/
set_option autoImplicit false
namespace Validation

/-- A parsed value.  Of an object of any other class only the class and the text
are known. -/
inductive Value
  | none
  | bool (value : Bool)
  | int (value : ℤ)
  | str (value : String)
  | list (items : List Value)
  | dict (items : List (Value × Value))
  | object (className text : String)

namespace Value

/-- `type(value).__name__`. -/
def className : Value → String
  | .none => "NoneType"
  | .bool _ => "bool"
  | .int _ => "int"
  | .str _ => "str"
  | .list _ => "list"
  | .dict _ => "dict"
  | .object className _ => className

def isKey (name : String) : Value → Bool
  | .str key => key = name
  | _ => false

/-- The value under a name. -/
def item (items : List (Value × Value)) (name : String) : Option Value :=
  (items.find? fun entry => entry.1.isKey name).map Prod.snd

end Value

inductive Place
  | key (name : String)
  | index (i : ℕ)
  | raw (key : Value)

structure FieldError where
  loc : List Place
  msg : String
  input : Value

abbrev Validated (α : Type) := Except (List FieldError) α

variable {α β : Type}

def refused (msg : String) (input : Value) : Validated α := .error [⟨[], msg, input⟩]

namespace Validated

/-- A whole none of whose parts is read yet. -/
abbrev build (whole : α) : Validated α := .ok whole

/-- The errors of a part, at its place in the whole. -/
def inside (part : Validated α) (place : Place) : Validated α :=
  part.mapError fun errors => errors.map fun error => { error with loc := place :: error.loc }

/-- The next part: every error is kept, those of the earlier parts first. -/
def field (earlier : Validated (α → β)) (next : Validated α) : Validated β :=
  match earlier, next with
  | .ok build, .ok value => .ok (build value)
  | .ok _, .error errors => .error errors
  | .error errors, .ok _ => .error errors
  | .error errors, .error more => .error (errors ++ more)

/-- Further errors. -/
def also (whole : Validated α) (errors : List FieldError) : Validated α :=
  match whole, errors with
  | .ok value, [] => .ok value
  | .ok _, errors => .error errors
  | .error earlier, errors => .error (earlier ++ errors)

@[simp] theorem inside_ok (value : α) (place : Place) :
    inside (.ok value) place = .ok value := rfl

@[simp] theorem field_ok (build : α → β) (value : α) :
    field (.ok build) (.ok value) = .ok (build value) := rfl

theorem field_eq {earlier : Validated (α → β)} {next : Validated α} {whole : α → β} {value : α}
    (built : earlier = .ok whole) (passes : next = .ok value) :
    earlier.field next = .ok (whole value) := by
  rw [built, passes]
  rfl

@[simp] theorem also_nil (value : α) : also (.ok value) [] = .ok value := rfl

theorem map_eq_ok {checked : Validated α} {build : α → β} {whole : β} :
    checked.map build = .ok whole ↔ ∃ value, checked = .ok value ∧ build value = whole := by
  cases checked <;> simp [Except.map]

end Validated

/-! ## Scalars -/

/-- How a value that is not of the type of its field is converted to it, or with
which text it is refused.  A value of that type is kept. -/
structure Coercions where
  toBool : Value → Except String Bool
  toInt : Value → Except String ℤ
  toFloat : Value → Except String ℚ
  toStr : Value → Except String String
  toList : Value → Except String (List Value)
  boolKept : ∀ value, toBool (.bool value) = .ok value
  intKept : ∀ value, toInt (.int value) = .ok value
  strKept : ∀ value, toStr (.str value) = .ok value
  listKept : ∀ items, toList (.list items) = .ok items

/-- Nothing is converted. -/
def Coercions.strict : Coercions where
  toBool
    | .bool value => .ok value
    | _ => .error "Input should be a valid boolean"
  toInt
    | .int value => .ok value
    | _ => .error "Input should be a valid integer"
  toFloat
    | .int value => .ok value
    | _ => .error "Input should be a valid number"
  toStr
    | .str value => .ok value
    | _ => .error "Input should be a valid string"
  toList
    | .list items => .ok items
    | _ => .error "Input should be a valid list"
  boolKept _ := rfl
  intKept _ := rfl
  strKept _ := rfl
  listKept _ := rfl

def scalar (convert : Value → Except String α) (value : Value) : Validated α :=
  match convert value with
  | .ok converted => .ok converted
  | .error msg => refused msg value

/-- A check of what an earlier check gives. -/
def checked (check : Value → Validated α) (validator : α → Except String β) (value : Value) :
    Validated β :=
  match check value with
  | .error errors => .error errors
  | .ok earlier => scalar (fun _ => validator earlier) value

/-- A validator that raises `ValueError`. -/
def valueError (validator : α → Except String β) (value : α) : Except String β :=
  (validator value).mapError fun msg => "Value error, " ++ msg

/-- A validator that sees the value before it is checked. -/
def normalised (validator : Value → Except String Value) (check : Value → Validated α)
    (value : Value) : Validated α :=
  match validator value with
  | .ok before => check before
  | .error msg => refused msg value

/-- One of some texts, named in the error. -/
def literal (options : List (String × α)) (expected : String) : Value → Validated α
  | .str text =>
      match options.lookup text with
      | some value => .ok value
      | none => refused ("Input should be " ++ expected) (.str text)
  | value => refused ("Input should be " ++ expected) value

def nullable (check : Value → Validated α) : Value → Validated (Option α)
  | .none => .ok none
  | value => (check value).map some

theorem scalar_ok {convert : Value → Except String α} {value : Value} {converted : α}
    (converts : convert value = .ok converted) : scalar convert value = .ok converted := by
  rw [scalar, converts]

theorem checked_ok {check : Value → Validated α} {validator : α → Except String β} {value : Value}
    {earlier : α} {result : β} (passes : check value = .ok earlier)
    (accepted : validator earlier = .ok result) : checked check validator value = .ok result := by
  rw [checked, passes]
  exact scalar_ok accepted

theorem valueError_ok {validator : α → Except String β} {value : α} {result : β}
    (accepted : validator value = .ok result) : valueError validator value = .ok result := by
  rw [valueError, accepted]
  rfl

/-! ## Mappings -/

/-- A field that must be there. -/
def required (items : List (Value × Value)) (name : String) (check : Value → Validated α) :
    Validated α :=
  match Value.item items name with
  | some value => (check value).inside (.key name)
  | none => .error [⟨[.key name], "Field required", .dict items⟩]

/-- A field with a default, which is not checked. -/
def defaulted (items : List (Value × Value)) (name : String) (default : α)
    (check : Value → Validated α) : Validated α :=
  match Value.item items name with
  | some value => (check value).inside (.key name)
  | none => .ok default

/-- A field that remembers whether it was given. -/
def given (items : List (Value × Value)) (name : String) (check : Value → Validated α) :
    Validated (Option α) :=
  defaulted items name none fun value => (check value).map some

/-- A key of the mapping that is no field. -/
def extraError (fields : List String) (entry : Value × Value) : Option FieldError :=
  match entry.1 with
  | .str key =>
      if fields.contains key then none
      else some ⟨[.key key], "Extra inputs are not permitted", entry.2⟩
  | key => some ⟨[.raw key], "Keys should be strings", key⟩

/-- A model that forbids extra fields. -/
def model (name : String) (fields : List String)
    (build : List (Value × Value) → Validated α) : Value → Validated α
  | .dict items => (build items).also (items.filterMap (extraError fields))
  | value => refused ("Input should be a valid dictionary or instance of " ++ name) value

theorem required_ok {items : List (Value × Value)} {name : String} {check : Value → Validated α}
    {value : Value} {result : α} (found : Value.item items name = some value)
    (passes : check value = .ok result) : required items name check = .ok result := by
  simp only [required, found, passes, Validated.inside_ok]

theorem defaulted_ok {items : List (Value × Value)} {name : String} {default : α}
    {check : Value → Validated α} {value : Value} {result : α}
    (found : Value.item items name = some value) (passes : check value = .ok result) :
    defaulted items name default check = .ok result := by
  simp only [defaulted, found, passes, Validated.inside_ok]

theorem defaulted_missing {items : List (Value × Value)} {name : String} {default : α}
    {check : Value → Validated α} (missing : Value.item items name = none) :
    defaulted items name default check = .ok default := by
  simp only [defaulted, missing]

theorem model_ok {name : String} {fields : List String}
    {build : List (Value × Value) → Validated α} {items : List (Value × Value)} {result : α}
    (built : build items = .ok result) (known : items.filterMap (extraError fields) = []) :
    model name fields build (.dict items) = .ok result := by
  simp only [model, built, known, Validated.also_nil]

/-! ## Dumps -/

/-- A field of a dump that leaves out what is none. -/
def entry (name : String) (dump : α → Value) (value : Option α) : List (Value × Value) :=
  value.toList.map fun v => (.str name, dump v)

@[simp] theorem item_nil (name : String) : Value.item [] name = none := rfl

@[simp] theorem item_entry (key name : String) (dump : α → Value) (value : Option α)
    (rest : List (Value × Value)) :
    Value.item (entry key dump value ++ rest) name =
      if key = name then (value.map dump).or (Value.item rest name) else Value.item rest name := by
  cases value with
  | none => simp [entry]
  | some v =>
      by_cases same : key = name
      · simp [entry, Value.item, Value.isKey, same]
      · simp [entry, Value.item, Value.isKey, same]

@[simp] theorem item_last (key name : String) (dump : α → Value) (value : Option α) :
    Value.item (entry key dump value) name = if key = name then value.map dump else none := by
  rw [← List.append_nil (entry key dump value), item_entry, item_nil, Option.or_none]

/-- The fields of a dump are no extra ones. -/
theorem filterMap_entry {fields : List String} {key : String} {dump : α → Value} {value : Option α}
    {rest : List (Value × Value)} (known : fields.contains key = true)
    (others : rest.filterMap (extraError fields) = []) :
    (entry key dump value ++ rest).filterMap (extraError fields) = [] := by
  rw [List.filterMap_append, others, List.append_nil, List.filterMap_eq_nil_iff]
  intro field member
  obtain ⟨v, -, rfl⟩ := List.mem_map.mp member
  simp only [extraError, known, if_true]

theorem nullable_ok {check : Value → Validated α} {value : Value} {result : α}
    (present : value ≠ .none) (passes : check value = .ok result) :
    nullable check value = .ok (some result) := by
  rw [nullable, passes]
  · rfl
  · exact present

/-- An optional field is read back, given or not. -/
theorem optional_dumped {items : List (Value × Value)} {name : String} {dump : α → Value}
    {value : Option α} {check : Value → Validated α}
    (found : Value.item items name = value.map dump) (present : ∀ v, dump v ≠ .none)
    (passes : ∀ v, check (dump v) = .ok v) :
    defaulted items name none (nullable check) = .ok value := by
  cases value with
  | none => exact defaulted_missing found
  | some v => exact defaulted_ok found (nullable_ok (present v) (passes v))

/-- A dump that keeps what is none. -/
def dumpNullable (dump : α → Value) : Option α → Value
  | none => .none
  | some v => dump v

theorem nullable_dumped {dump : α → Value} {check : Value → Validated α}
    (present : ∀ v, dump v ≠ .none) {value : Option α}
    (passes : ∀ v ∈ value, check (dump v) = .ok v) :
    nullable check (dumpNullable dump value) = .ok value := by
  cases value with
  | none => rfl
  | some v => exact nullable_ok (present v) (passes v rfl)

/-! ## Lists -/

def each (check : Value → Validated α) : ℕ → List Value → Validated (List α)
  | _, [] => .ok []
  | i, value :: rest =>
      ((Validated.build List.cons).field ((check value).inside (.index i))).field
        (each check (i + 1) rest)

def listOf (coercions : Coercions) (check : Value → Validated α) (value : Value) :
    Validated (List α) :=
  match coercions.toList value with
  | .error msg => refused msg value
  | .ok items => each check 0 items

theorem each_dumped {check : Value → Validated α} {dump : β → Value} {values : List β}
    {read : β → α} (passes : ∀ value ∈ values, check (dump value) = .ok (read value)) (i : ℕ) :
    each check i (values.map dump) = .ok (values.map read) := by
  induction values generalizing i with
  | nil => rfl
  | cons value rest ih =>
      have first : check (dump value) = .ok (read value) := passes value List.mem_cons_self
      have others := ih (fun other member => passes other (List.mem_cons_of_mem _ member)) (i + 1)
      simp only [List.map_cons, each, first, others, Validated.inside_ok, Validated.field_ok]

theorem listOf_dumped {coercions : Coercions} {check : Value → Validated α} {dump : β → Value}
    {values : List β} {read : β → α}
    (passes : ∀ value ∈ values, check (dump value) = .ok (read value)) :
    listOf coercions check (.list (values.map dump)) = .ok (values.map read) := by
  simp only [listOf, coercions.listKept]
  exact each_dumped passes 0

/-! ## Texts -/

/-- Python's limit on the digits of an integer in decimal text. -/
def intMaxStrDigits : ℕ := 4300

mutual

/-- `str(value)` does not raise: no integer in it has more digits than the limit. -/
def Value.hasText : Value → Bool
  | .int value => value.natAbs < 10 ^ intMaxStrDigits
  | .list items => allHaveText items
  | .dict items => allPairsHaveText items
  | _ => true

def Value.allHaveText : List Value → Bool
  | [] => true
  | value :: rest => value.hasText && Value.allHaveText rest

def Value.allPairsHaveText : List (Value × Value) → Bool
  | [] => true
  | (key, value) :: rest => key.hasText && value.hasText && Value.allPairsHaveText rest

end

end Validation
