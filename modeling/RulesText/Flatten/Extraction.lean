import RulesText.Symbol
import RulesText.TagSet

/-!
Extraction: the symbols of a tree in post-order. What stands in the condition field of a condition
is a guard and is left out, though not what stands inside it.
-/
namespace RulesText

mutual

/-- The symbols in a value, each after those inside it. A guard itself is left out. -/
def Value.collect (guard : Bool) : Value → List Symbol
  | .symbol s => Symbol.collect guard s
  | .list vs => Value.collectList guard vs
  | .nil | .bool _ | .int _ | .str _ => []

/-- The symbols in a symbol, itself last unless it is a guard. -/
def Symbol.collect (guard : Bool) : Symbol → List Symbol
  | ⟨v, p, t, s⟩ => Value.collectFields v.shape p ++ if guard then [] else [⟨v, p, t, s⟩]

def Value.collectList (guard : Bool) : List Value → List Symbol
  | [] => []
  | v :: vs => Value.collect guard v ++ Value.collectList guard vs

/-- The symbols in the payload of a symbol of that shape. -/
def Value.collectFields (shape : Shape) : List (String × Value) → List Symbol
  | [] => []
  | (name, v) :: rest =>
    Value.collect (shape == .condition && name == conditionField) v ++
      Value.collectFields shape rest

end

mutual

/-- The tags of all symbols in a value, guards included. -/
def Value.tags : Value → List String
  | .symbol s => Symbol.tags s
  | .list vs => Value.tagsList vs
  | .nil | .bool _ | .int _ | .str _ => []

/-- The tags of a symbol and of all symbols in it. -/
def Symbol.tags : Symbol → List String
  | ⟨v, p, _, _⟩ => v.tag :: Value.tagsFields p

def Value.tagsList : List Value → List String
  | [] => []
  | v :: vs => Value.tags v ++ Value.tagsList vs

def Value.tagsFields : List (String × Value) → List String
  | [] => []
  | (_, v) :: rest => Value.tags v ++ Value.tagsFields rest

end

namespace Symbol

/-- The symbols with one of the wanted tags; those with a collapse tag lose their result. -/
def extract (wanted collapse : TagSet) (root : Symbol) : List Symbol :=
  ((root.collect false).filter (wanted.contains ·.tag)).map fun s =>
    if collapse.contains s.tag then s.without resultField else s

end Symbol

end RulesText
