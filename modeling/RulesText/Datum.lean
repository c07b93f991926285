import RulesText.Value
import RulesText.Text.Quoted

/-! Plain data: the form in which trees and sequences are shown, kept and archived. -/
namespace RulesText

/-- Plain nested data. A map keeps its entries in order and may repeat a key. -/
inductive Datum where
  | null
  | bool (b : Bool)
  | int (n : Int64)
  | str (s : String)
  | list (items : List Datum)
  | map (entries : List (String × Datum))
  deriving Inhabited

mutual

/-- Whether two data are the same. -/
def Datum.same : Datum → Datum → Bool
  | .null, .null => true
  | .bool a, .bool b => a == b
  | .int a, .int b => a == b
  | .str a, .str b => a == b
  | .list a, .list b => Datum.sameList a b
  | .map a, .map b => Datum.sameEntries a b
  | _, _ => false

def Datum.sameList : List Datum → List Datum → Bool
  | [], [] => true
  | a :: as, b :: bs => Datum.same a b && Datum.sameList as bs
  | _, _ => false

def Datum.sameEntries : List (String × Datum) → List (String × Datum) → Bool
  | [], [] => true
  | (k, a) :: as, (l, b) :: bs => k == l && Datum.same a b && Datum.sameEntries as bs
  | _, _ => false

end

mutual

theorem Datum.same_iff (a b : Datum) : Datum.same a b = true ↔ a = b := by
  cases a with
  | list items => cases b <;> simp [Datum.same, Datum.sameList_iff items]
  | map entries => cases b <;> simp [Datum.same, Datum.sameEntries_iff entries]
  | _ => cases b <;> simp [Datum.same]

theorem Datum.sameList_iff (a b : List Datum) : Datum.sameList a b = true ↔ a = b := by
  cases a with
  | nil => cases b <;> simp [Datum.sameList]
  | cons d ds => cases b <;> simp [Datum.sameList, Datum.same_iff d, Datum.sameList_iff ds]

theorem Datum.sameEntries_iff (a b : List (String × Datum)) :
    Datum.sameEntries a b = true ↔ a = b := by
  cases a with
  | nil => cases b <;> simp [Datum.sameEntries]
  | cons e es =>
    cases e with
    | mk k d =>
      cases b with
      | nil => simp [Datum.sameEntries]
      | cons f fs =>
        cases f
        simp [Datum.sameEntries, Datum.same_iff d, Datum.sameEntries_iff es]

end

instance : DecidableEq Datum := fun a b => decidable_of_iff _ (Datum.same_iff a b)

namespace Datum

/-- The first entry of a map under a key. -/
def get? (d : Datum) (key : String) : Option Datum :=
  match d with
  | .map entries => entries.lookup key
  | _ => none

def str? : Datum → Option String
  | .str s => some s
  | _ => none

def list? : Datum → Option (List Datum)
  | .list items => some items
  | _ => none

/-- Whether there are data inside. -/
def isCompound : Datum → Bool
  | .list _ | .map _ => true
  | _ => false

/-- A list of texts. -/
def ofTexts (ts : List String) : Datum := .list (ts.map .str)

/-- A datum that may be missing. -/
def ofOption {α : Type} (f : α → Datum) : Option α → Datum
  | none => .null
  | some a => f a

end Datum

mutual

/-- Data as text: strings are quoted, keys are not. -/
def Datum.display : Datum → String
  | .null => "null"
  | .bool b => boolText b
  | .int n => intText n
  | .str s => Text.quoted s
  | .list items => "[" ++ ", ".intercalate (Datum.displays items) ++ "]"
  | .map entries => "\x7b" ++ ", ".intercalate (Datum.displayEntries entries) ++ "\x7d"

def Datum.displays : List Datum → List String
  | [] => []
  | d :: ds => Datum.display d :: Datum.displays ds

def Datum.displayEntries : List (String × Datum) → List String
  | [] => []
  | (k, d) :: rest => (k ++ ": " ++ Datum.display d) :: Datum.displayEntries rest

end

/-- A leaf as data. -/
def Scalar.datum : Scalar → Datum
  | .bool b => .bool b
  | .int n => .int n
  | .str s => .str s

mutual

/-- A value as data. -/
def Value.datum : Value → Datum
  | .nil => .null
  | .bool b => .bool b
  | .int n => .int n
  | .str s => .str s
  | .symbol s => Symbol.datum s
  | .list vs => .list (Value.data vs)

/-- A symbol as data: its tag, with the payload under it if there is any. -/
def Symbol.datum : Symbol → Datum
  | ⟨v, [], _, _⟩ => .str v.tag
  | ⟨v, p, _, _⟩ => .map [(v.tag, .map (Value.dataFields p))]

def Value.data : List Value → List Datum
  | [] => []
  | v :: vs => Value.datum v :: Value.data vs

def Value.dataFields : List (String × Value) → List (String × Datum)
  | [] => []
  | (name, v) :: rest => (name, Value.datum v) :: Value.dataFields rest

end

end RulesText
