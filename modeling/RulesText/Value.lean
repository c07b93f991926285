import RulesText.Variant
import RulesText.Numeral

/-! Values and symbols: the trees that card text is read into. -/
namespace RulesText

mutual

/-- What a payload field holds. -/
inductive Value where
  | nil
  | bool (b : Bool)
  | int (n : Int64)
  | str (s : String)
  | symbol (s : Symbol)
  | list (vs : List Value)

/-- A node: its variant, the payload in the order of the declared fields, the text it was read
from, and the fields that were taken out of this copy, in the order of removal. -/
structure Symbol where
  variant : Variant
  payload : List (String × Value)
  text : Option String
  stripped : List String

end

instance : Inhabited Value := ⟨.nil⟩

/-- A named list of values, in order; a name may occur more than once. -/
abbrev Payload := List (String × Value)

/-- A leaf as it appears on a line. -/
inductive Scalar where
  | bool (b : Bool)
  | int (n : Int64)
  | str (s : String)
  deriving DecidableEq

mutual

/-- Whether two values are the same. -/
def Value.same : Value → Value → Bool
  | .nil, .nil => true
  | .bool a, .bool b => a == b
  | .int a, .int b => a == b
  | .str a, .str b => a == b
  | .symbol a, .symbol b => Symbol.same a b
  | .list a, .list b => Value.sameList a b
  | _, _ => false

/-- Whether two symbols are the same, the record of removed fields included. -/
def Symbol.same : Symbol → Symbol → Bool
  | ⟨v, p, t, s⟩, ⟨v', p', t', s'⟩ => v == v' && Value.samePayload p p' && t == t' && s == s'

/-- Whether two lists of values are the same. -/
def Value.sameList : List Value → List Value → Bool
  | [], [] => true
  | a :: as, b :: bs => Value.same a b && Value.sameList as bs
  | _, _ => false

/-- Whether two payloads are the same. -/
def Value.samePayload : List (String × Value) → List (String × Value) → Bool
  | [], [] => true
  | (n, a) :: as, (m, b) :: bs => n == m && Value.same a b && Value.samePayload as bs
  | _, _ => false

end

mutual

theorem Value.same_iff (a b : Value) : Value.same a b = true ↔ a = b := by
  cases a with
  | symbol s => cases b <;> simp [Value.same, Symbol.same_iff s]
  | list vs => cases b <;> simp [Value.same, Value.sameList_iff vs]
  | _ => cases b <;> simp [Value.same]

theorem Symbol.same_iff (a b : Symbol) : Symbol.same a b = true ↔ a = b := by
  cases a with
  | mk v p t s => cases b; simp [Symbol.same, Value.samePayload_iff p, and_assoc]

theorem Value.sameList_iff (a b : List Value) : Value.sameList a b = true ↔ a = b := by
  cases a with
  | nil => cases b <;> simp [Value.sameList]
  | cons v vs => cases b <;> simp [Value.sameList, Value.same_iff v, Value.sameList_iff vs]

theorem Value.samePayload_iff (a b : List (String × Value)) :
    Value.samePayload a b = true ↔ a = b := by
  cases a with
  | nil => cases b <;> simp [Value.samePayload]
  | cons p ps =>
    cases p with
    | mk n v =>
      cases b with
      | nil => simp [Value.samePayload]
      | cons q qs =>
        cases q
        simp [Value.samePayload, Value.same_iff v, Value.samePayload_iff ps]

end

instance : DecidableEq Value := fun a b => decidable_of_iff _ (Value.same_iff a b)

instance : DecidableEq Symbol := fun a b => decidable_of_iff _ (Symbol.same_iff a b)

/-- The spelling of a truth value. -/
def boolText (b : Bool) : String := if b then "true" else "false"

/-- The decimal spelling of an integer. -/
def intText (n : Int64) : String := toString n.toInt

namespace Scalar

/-- A leaf as text. -/
def display : Scalar → String
  | .bool b => boolText b
  | .int n => intText n
  | .str s => s

/-- The leaf that a text stands for: numerals are integers. -/
def ofText (s : String) : Scalar := ((numeral? s).map Scalar.int).getD (.str s)

end Scalar

namespace Value

/-- The value that a captured text stands for: numerals are integers. -/
def ofText (s : String) : Value := ((numeral? s).map Value.int).getD (.str s)

/-- A symbol that may be missing. -/
def ofSymbol? : Option Symbol → Value
  | none => .nil
  | some s => .symbol s

def isNil : Value → Bool
  | .nil => true
  | _ => false

def bool? : Value → Option Bool
  | .bool b => some b
  | _ => none

/-- The integer a value holds; a string that is a numeral counts as one. -/
def int? : Value → Option Int64
  | .int n => some n
  | .str s => numeral? s
  | _ => none

def str? : Value → Option String
  | .str s => some s
  | _ => none

def symbol? : Value → Option Symbol
  | .symbol s => some s
  | _ => none

def list? : Value → Option (List Value)
  | .list vs => some vs
  | _ => none

/-- The leaf a value shows on a line; nil, symbols and lists show none. -/
def scalar? : Value → Option Scalar
  | .bool b => some (.bool b)
  | .int n => some (.int n)
  | .str s => some (.ofText s)
  | .nil | .symbol _ | .list _ => none

end Value

mutual

/-- A value as text. -/
def Value.display : Value → String
  | .nil => "nil"
  | .bool b => boolText b
  | .int n => intText n
  | .str s => s
  | .symbol s => Symbol.display s
  | .list vs => "[" ++ " ".intercalate (Value.displays vs) ++ "]"

/-- A symbol as text: its tag, and its payload between braces if there is any. -/
def Symbol.display : Symbol → String
  | ⟨v, [], _, _⟩ => v.tag
  | ⟨v, p, _, _⟩ => v.tag ++ "\x7b" ++ ", ".intercalate (Value.displayFields p) ++ "\x7d"

def Value.displays : List Value → List String
  | [] => []
  | v :: vs => Value.display v :: Value.displays vs

def Value.displayFields : List (String × Value) → List String
  | [] => []
  | (name, v) :: rest => (name ++ ": " ++ Value.display v) :: Value.displayFields rest

end

end RulesText
