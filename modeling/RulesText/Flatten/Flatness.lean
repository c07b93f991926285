import RulesText.Line

/-! Flatness: a line may not hide sequences or conditions in its payload. -/
namespace RulesText

mutual

/-- The first sequence or condition inside a value, going down through lists and other symbols. -/
def Value.compound? : Value → Option Symbol
  | .symbol s => Symbol.compound? s
  | .list vs => Value.compoundList? vs
  | .nil | .bool _ | .int _ | .str _ => none

/-- The symbol itself if it is a sequence or a condition, else the first one in its payload. -/
def Symbol.compound? : Symbol → Option Symbol
  | ⟨v, p, t, s⟩ =>
    match v.shape with
    | .sequence | .condition => some ⟨v, p, t, s⟩
    | .noOp | .plain => Value.compoundPayload? p

def Value.compoundList? : List Value → Option Symbol
  | [] => none
  | v :: vs => (Value.compound? v).or (Value.compoundList? vs)

def Value.compoundPayload? : List (String × Value) → Option Symbol
  | [] => none
  | (_, v) :: rest => (Value.compound? v).or (Value.compoundPayload? rest)

end

/-- What makes a line not flat. -/
inductive Offence where
  | sequenceLine (tag : String)
  | nested (field tag inner : String)
  deriving DecidableEq, Repr

namespace Offence

/-- What is said of the offence of a line. -/
def describe (index : Nat) : Offence → String
  | sequenceLine tag => "line " ++ toString index ++ ": sequence " ++ tag ++ " emitted as a line"
  | nested field tag inner =>
    "line " ++ toString index ++ ": field `" ++ field ++ "` of " ++ tag ++ " holds nested " ++ inner

end Offence

namespace Symbol

/-- The first field that holds a sequence or a condition, and the tag of that. -/
def nestedField? (s : Symbol) : Option (String × String) :=
  s.payload.findSome? fun (name, v) => v.compound?.map fun inner => (name, inner.tag)

/-- What keeps a symbol from standing on a line. -/
def offence? (s : Symbol) : Option Offence :=
  if s.shape = .sequence then some (.sequenceLine s.tag)
  else s.nestedField?.map fun (field, inner) => .nested field s.tag inner

end Symbol

/-- The first line that is not flat, by its index counted from `start`. -/
def firstOffence? (start : Nat) : List Line → Option (Nat × Offence)
  | [] => none
  | l :: rest =>
    match l.symbol?.bind Symbol.offence? with
    | some o => some (start, o)
    | none => firstOffence? (start + 1) rest

/-- Fails at the first line that is not flat. -/
def checkLines (ls : List Line) : Outcome Unit :=
  match firstOffence? 0 ls with
  | none => .ok ()
  | some (index, o) => fail (.nonFlat (o.describe index))

end RulesText
