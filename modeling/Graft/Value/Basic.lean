import Graft.Number.Binary64
import Graft.Text.Basic

/-!
# Values

Options files and page manifests are JSON, and what an option holds is not checked
beyond what the option needs. A value keeps the order of its fields, and integers of
any size apart from numbers with a fraction.

Truth and sameness look through the kinds: zero, the empty text, the empty list and
the empty object are false, and `1`, `1.0` and `true` are the same value.
-/

namespace Graft

/-- A JSON value. -/
inductive Value where
  /-- Nothing. -/
  | null
  /-- A truth value. -/
  | bool (b : Bool)
  /-- An integer of any size. -/
  | int (i : Int)
  /-- A number with a fraction or an exponent. -/
  | float (x : Binary64)
  /-- A text. -/
  | str (t : Text)
  /-- A list. -/
  | list (elements : List Value)
  /-- An object: keys and values, in order. -/
  | object (fields : List (Text × Value))

namespace Value

instance : Inhabited Value := ⟨.null⟩

/-- The value counts as true. -/
def isTruthy : Value → Bool
  | .null => false
  | .bool b => b
  | .int i => i != 0
  | .float x => !x.isZero
  | .str t => !t.isEmpty
  | .list elements => !elements.isEmpty
  | .object fields => !fields.isEmpty

/-- The first of two values that counts as true, or else the second. -/
def orElse (v fallback : Value) : Value := if v.isTruthy then v else fallback

/-- A fallback is needed once. -/
theorem orElse_orElse (v fallback : Value) :
    (v.orElse fallback).orElse fallback = v.orElse fallback := by
  unfold orElse
  cases hv : v.isTruthy with
  | true => simp [hv]
  | false => simp

/-- The text, where the value is one. -/
def text? : Value → Option Text
  | .str t => some t
  | _ => none

/-- The value under a key, where the value is an object that has it. -/
def get? (key : Text) : Value → Option Value
  | .object fields => fields.lookup key
  | _ => none

/-- The value under a key, null where there is none. -/
def get (key : Text) (v : Value) : Value := (v.get? key).getD .null

/-- Give a key a value: at the place the key has, or at the end. -/
def setField (key : Text) (v : Value) : List (Text × Value) → List (Text × Value)
  | [] => [(key, v)]
  | (k, w) :: rest => if k = key then (k, v) :: rest else (k, w) :: setField key v rest

/-- The word for the kind of a value. -/
def kind : Value → Text
  | .null => "NoneType".toList
  | .bool _ => "bool".toList
  | .int _ => "int".toList
  | .float _ => "float".toList
  | .str _ => "str".toList
  | .list _ => "list".toList
  | .object _ => "dict".toList

/-- A value that can be a key: anything but a list or an object. -/
def isScalar : Value → Bool
  | .list _ | .object _ => false
  | _ => true

/-- The integer a value stands for in comparisons. -/
def integer? : Value → Option Int
  | .bool b => some (if b then 1 else 0)
  | .int i => some i
  | _ => none

/-- Two scalars are the same: texts by their characters, numbers by their value. -/
def sameScalar : Value → Value → Bool
  | .null, .null => true
  | .str a, .str b => a == b
  | .float x, .float y => x.same y
  | .float x, v => v.integer?.any x.eqInt
  | v, .float y => v.integer?.any y.eqInt
  | v, w => v.integer?.isSome && v.integer? == w.integer?

mutual

/-- Two values are the same. The order of an object's fields does not matter. -/
def same : Value → Value → Bool
  | .list xs, .list ys => sameList xs ys
  | .object fs, .object gs => fs.length == gs.length && sameFields fs gs
  | v, w => sameScalar v w

/-- Two lists hold the same values in the same order. -/
def sameList : List Value → List Value → Bool
  | [], [] => true
  | x :: xs, y :: ys => same x y && sameList xs ys
  | _, _ => false

/-- Every field is among the others, with the same value. -/
def sameFields : List (Text × Value) → List (Text × Value) → Bool
  | [], _ => true
  | (key, v) :: rest, others => (others.lookup key).any (same v) && sameFields rest others

end

end Value

end Graft
