import Mathlib.Data.List.Basic
import Mathlib.Data.Rat.Defs
import TuyaBleMesh.Exceptions

/-!
# JSON values

What `json.loads` returns, and the access to it that the bridge uses.
-/

namespace TuyaBleMesh

/-- A parsed JSON value; the members of an object have different names. -/
inductive Json
  | null
  | bool (value : Bool)
  | number (value : Rat)
  | string (value : String)
  | array (items : List Json)
  | object (members : List (String × Json))

namespace Json

/-! ### Equality -/

mutual

def decEq : (a b : Json) → Decidable (a = b)
  | .null, b => by cases b with
    | null => exact isTrue rfl
    | _ => exact isFalse nofun
  | .bool x, b => by cases b with
    | bool y => exact decidable_of_iff (x = y) (by simp)
    | _ => exact isFalse nofun
  | .number x, b => by cases b with
    | number y => exact decidable_of_iff (x = y) (by simp)
    | _ => exact isFalse nofun
  | .string x, b => by cases b with
    | string y => exact decidable_of_iff (x = y) (by simp)
    | _ => exact isFalse nofun
  | .array xs, b => by cases b with
    | array ys =>
      have := decEqItems xs ys
      exact decidable_of_iff (xs = ys) (by simp)
    | _ => exact isFalse nofun
  | .object xs, b => by cases b with
    | object ys =>
      have := decEqMembers xs ys
      exact decidable_of_iff (xs = ys) (by simp)
    | _ => exact isFalse nofun

def decEqItems : (xs ys : List Json) → Decidable (xs = ys)
  | [], [] => isTrue rfl
  | [], _ :: _ => isFalse nofun
  | _ :: _, [] => isFalse nofun
  | x :: xs, y :: ys =>
    have := decEq x y
    have := decEqItems xs ys
    decidable_of_iff (x = y ∧ xs = ys) (by simp)

def decEqMembers : (xs ys : List (String × Json)) → Decidable (xs = ys)
  | [], [] => isTrue rfl
  | [], _ :: _ => isFalse nofun
  | _ :: _, [] => isFalse nofun
  | (name, x) :: xs, (name', y) :: ys =>
    have := decEq x y
    have := decEqMembers xs ys
    decidable_of_iff (name = name' ∧ x = y ∧ xs = ys) (by simp [and_assoc])

end

instance : DecidableEq Json := decEq

/-! ### Access -/

/-- `value == text`. -/
def is (value : Json) (text : String) : Bool :=
  match value with
  | .string value => value = text
  | _ => false

def isObject : Json → Bool
  | .object _ => true
  | _ => false

/-- `bool(value)`. -/
def truthy : Json → Bool
  | .null => false
  | .bool value => value
  | .number value => value ≠ 0
  | .string value => value ≠ ""
  | .array items => !items.isEmpty
  | .object members => !members.isEmpty

/-- `value.get(name)`, which only an object has. -/
def get (value : Json) (name : String) : Except PyError (Option Json) :=
  match value with
  | .object members => .ok (members.lookup name)
  | _ => .error .attributeError

/-- `value.get(name, default)`. -/
def getD (value : Json) (name : String) (default : Json) : Except PyError Json := do
  return (← value.get name).getD default

/-- `members.update(values)`, up to the order of the members. -/
def update (members values : List (String × Json)) : List (String × Json) :=
  values ++ members.filter fun entry => (values.lookup entry.1).isNone

theorem lookup_update {members values : List (String × Json)} {name : String} {value : Json}
    (found : values.lookup name = some value) :
    (update members values).lookup name = some value := by
  rw [update, List.lookup_append, found, Option.some_or]

end Json

end TuyaBleMesh
