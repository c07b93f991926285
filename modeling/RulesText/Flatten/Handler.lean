import RulesText.Flatten.Emitter

/-!
How a tree is flattened into lines. Sequences put their children one level deeper, conditions are
framed as the policy says, and any other node is one line. A tag may have a handler of its own.
-/
namespace RulesText

/-- A payload field together with the ways to write it. -/
structure Branch where
  name : String
  value : Value
  /-- Flattens the value where a node is expected; a leaf is given back and writes nothing. -/
  flatten : Int → Emit (Option Scalar)
  /-- Flattens each item of a list. -/
  items : List (Int → Emit (Option Scalar))

/-- What a handler is given: the node, how deep it stands, and its fields. -/
structure Site where
  node : Symbol
  indent : Int
  branches : List Branch

/-- Writes the lines of one node. -/
abbrev Handler := Site → Emit Unit

/-- Runs steps one after the other. -/
def Emit.each (steps : List (Emit Unit)) : Emit Unit :=
  match steps with
  | [] => pure ()
  | step :: rest => do
    step
    Emit.each rest

namespace Site

def tag (s : Site) : String := s.node.tag

/-- The first field of that name. -/
def branch? (s : Site) (name : String) : Option Branch := s.branches.find? (·.name == name)

/-- Flattens the first field of that name; a missing field counts as nil. -/
def flatten (s : Site) (name : String) (indent : Int) : Emit (Option Scalar) :=
  match s.branch? name with
  | some b => b.flatten indent
  | none => pure none

/-- Flattens the first field of that name under a frame of its own. -/
def flattenFramed (s : Site) (name : String) (indent : Int) : Emit Unit :=
  Emit.inFrame (s.tag ++ "." ++ name) (discard (s.flatten name indent))

/-- Writes the children of a sequence one level deeper. -/
def sequenceRule (s : Site) : Emit Unit :=
  match s.branch? symbolsField with
  | some b =>
    Emit.each (b.items.map fun item =>
      Emit.inFrame s.tag (discard (item (s.indent + 1))))
  | none => pure ()

/-- Writes a condition: its head without the two branches, and the branches as the policy says. -/
def conditionRule (s : Site) (indent : Int) : Emit Unit := do
  Emit.node (s.node.withoutAll [conditionField, resultField]) indent
  match ← Emit.policy with
  | .expand =>
    Emit.marker s.tag .conditionStart indent
    s.flattenFramed conditionField (indent + 1)
    Emit.marker s.tag .resultStart indent
    s.flattenFramed resultField (indent + 1)
    Emit.marker s.tag .sequenceEnd indent
  | .collapse => s.flattenFramed resultField (indent + 1)

/-- Writes one field as a parameter: a leaf stands on the line itself, a symbol or a list follows
one level deeper. -/
def paramRule (s : Site) (indent : Int) (b : Branch) : Emit Unit := do
  Emit.param s.tag b.name b.value.scalar? indent
  let frame := s.tag ++ "." ++ b.name
  match b.value with
  | .nil | .bool _ | .int _ | .str _ => pure ()
  | .symbol _ => Emit.inFrame frame (discard (b.flatten (indent + 1)))
  | .list _ =>
    Emit.each (b.items.map fun item => Emit.inFrame frame (discard (item (indent + 1))))

/-- Writes every field as a parameter, in order. -/
def paramsRule (s : Site) (indent : Int) : Emit Unit :=
  Emit.each (s.branches.map (s.paramRule indent))

/-- Writes a node by the rule of its shape, or by its handler if it has one. No-ops and sequences
never go to a handler. -/
def write (s : Site) (handler : Option Handler) : Emit Unit := do
  Emit.record s.tag
  match s.node.shape, handler with
  | .noOp, _ => pure ()
  | .sequence, _ => s.sequenceRule
  | .condition, some h | .plain, some h => Emit.inFrame s.tag (h s)
  | .condition, none => s.conditionRule s.indent
  | .plain, none => Emit.node s.node s.indent

end Site

/-- What is said of a list where a node is expected. -/
def bareListDetail (n : Nat) : String :=
  "list of " ++ toString n ++ " values where a node is expected"

mutual

/-- Flattens a value where a node is expected. Leaves are given back and write nothing. -/
def Value.flatten (handlers : String → Option Handler) : Value → Int → Emit (Option Scalar)
  | .nil, _ => pure none
  | .bool b, _ => pure (some (.bool b))
  | .int n, _ => pure (some (.int n))
  | .str s, _ => pure (some (.ofText s))
  | .symbol s, indent => do
    Symbol.flatten handlers s indent
    return none
  | .list vs, _ => Emit.fail (.malformed (bareListDetail vs.length))

/-- Flattens a symbol. -/
def Symbol.flatten (handlers : String → Option Handler) : Symbol → Int → Emit Unit
  | ⟨v, p, t, s⟩, indent =>
    Site.write ⟨⟨v, p, t, s⟩, indent, Value.branches handlers p⟩ (handlers v.tag)

/-- The ways to write the fields of a payload. -/
def Value.branches (handlers : String → Option Handler) : List (String × Value) → List Branch
  | [] => []
  | (name, v) :: rest =>
    ⟨name, v, Value.flatten handlers v, Value.itemsOf handlers v⟩ :: Value.branches handlers rest

/-- The ways to write the items of a list; other values have none. -/
def Value.itemsOf (handlers : String → Option Handler) :
    Value → List (Int → Emit (Option Scalar))
  | .list vs => Value.flattens handlers vs
  | _ => []

def Value.flattens (handlers : String → Option Handler) :
    List Value → List (Int → Emit (Option Scalar))
  | [] => []
  | v :: vs => Value.flatten handlers v :: Value.flattens handlers vs

end

end RulesText
