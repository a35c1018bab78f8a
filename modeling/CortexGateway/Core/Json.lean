import CortexGateway.Core.Exceptions

/-! # JSON values and texts

What `json.loads` gives and `json.dumps` takes, with the Python operations on
such values.  A text is what a value was dumped to, or no JSON at all. -/
set_option autoImplicit false
namespace CortexGateway

inductive Json
  | null
  | bool (value : Bool)
  | int (value : ℤ)
  | float (value : ℚ)
  | str (value : String)
  | array (items : List Json)
  | object (fields : List (String × Json))

namespace Json

/-- `value[key]`. -/
def getItem (value : Json) (key : String) : Except Exc Json :=
  match value with
  | .object fields =>
      match fields.lookup key with
      | some item => .ok item
      | none => .error (.keyError key)
  | _ => .error (.typeError "indices must be integers")

/-- `value.get(key)`. -/
def get (value : Json) (key : String) : Except Exc Json :=
  match value with
  | .object fields => .ok ((fields.lookup key).getD .null)
  | _ => .error (.attributeError "get")

/-- `iter(value)`: the items of a list, the characters of a string, the keys of
a dict. -/
def iter : Json → Except Exc (List Json)
  | .array items => .ok items
  | .str text => .ok (text.toList.map fun c => .str (String.singleton c))
  | .object fields => .ok (fields.map fun field => .str field.1)
  | _ => .error (.typeError "object is not iterable")

/-- A factor of a float product. -/
def number : Json → Except Exc ℚ
  | .int value => .ok value
  | .float value => .ok value
  | .bool value => .ok (if value then 1 else 0)
  | _ => .error (.typeError "can't multiply sequence by non-int of type 'float'")

/-! ## What the schemas accept -/

def validationError : Exc := .valueError "ValidationError"

def asStr : Json → Except Exc String
  | .str value => .ok value
  | _ => .error validationError

/-- An integer, or what is converted to one without loss. -/
def asInt : Json → Except Exc ℤ
  | .int value => .ok value
  | .float value => if value.den = 1 then .ok value.num else .error validationError
  | .bool value => .ok (if value then 1 else 0)
  | .str text =>
      match text.toInt? with
      | some value => .ok value
      | none => .error validationError
  | _ => .error validationError

/-- `Optional[T]` for a value that `T` accepts. -/
def asOptional {α : Type} (accept : Json → Except Exc α) : Json → Except Exc (Option α)
  | .null => .ok none
  | value => (accept value).map some

/-- `None` is dumped as null. -/
def ofOption {α : Type} (dump : α → Json) : Option α → Json
  | some value => dump value
  | none => .null

end Json

inductive JsonText
  | dumps (value : Json)
  | malformed

def jsonDecodeError : Exc := .valueError "JSONDecodeError"

/-- `json.loads`. -/
def JsonText.loads : JsonText → Except Exc Json
  | .dumps value => .ok value
  | .malformed => .error jsonDecodeError

end CortexGateway
