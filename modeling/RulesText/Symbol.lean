import RulesText.Value
import RulesText.Fault

/-! Symbols: building them from variants, looking into them, and taking fields out of a copy. -/
namespace RulesText

namespace Payload

/-- The first field of that name. -/
def get? (p : Payload) (name : String) : Option Value := p.lookup name

theorem get?_cons {p : Payload} {field name : String} {v : Value} :
    get? ((field, v) :: p) name = if field = name then some v else p.get? name := by
  by_cases h : field = name
  · simp [get?, h]
  · have h' : (name == field) = false := by simpa using Ne.symm h
    simp [get?, List.lookup_cons, h, h']

/-- Removes the first field of that name. -/
def erase : Payload → String → Payload
  | [], _ => []
  | (field, v) :: rest, name => if field == name then rest else (field, v) :: erase rest name

end Payload

namespace Variant

/-- Builds a symbol from one value per declared field. -/
def construct (v : Variant) (args : List Value) (text : Option String) : Outcome Symbol :=
  if args.length = v.fields.length then .ok ⟨v, v.fields.zip args, text, []⟩
  else fail (.arity v.tag v.fields.length args.length)

theorem of_construct_ok {v : Variant} {args : List Value} {text : Option String} {s : Symbol}
    (h : v.construct args text = .ok s) : s = ⟨v, v.fields.zip args, text, []⟩ := by
  unfold construct at h
  split at h
  · exact (Except.ok.inj h).symm
  · cases h

theorem length_of_construct_ok {v : Variant} {args : List Value} {text : Option String} {s : Symbol}
    (h : v.construct args text = .ok s) : args.length = v.fields.length := by
  unfold construct at h
  split at h
  · assumption
  · cases h

/-- Builds a sequence from its children; for any other shape the children are the values. -/
def constructSequence (v : Variant) (children : List Value) (text : Option String) :
    Outcome Symbol :=
  match v.shape with
  | .sequence => v.construct [.list children] text
  | .noOp | .condition | .plain => v.construct children text

/-- Builds a symbol without payload. -/
def terminal (v : Variant) (text : Option String) : Outcome Symbol := v.construct [] text

end Variant

namespace Symbol

def tag (s : Symbol) : String := s.variant.tag

def shape (s : Symbol) : Shape := s.variant.shape

/-- The first payload field of that name. -/
def get? (s : Symbol) (name : String) : Option Value := Payload.get? s.payload name

/-- The first payload field of that name; nil if there is none. -/
def getD (s : Symbol) (name : String) : Value := (s.get? name).getD .nil

/-- A branch of a condition; an absent branch and a nil branch are both no branch. -/
def branch? (s : Symbol) (name : String) : Option Value :=
  match s.shape with
  | .condition => (s.get? name).filter (!·.isNil)
  | .noOp | .sequence | .plain => none

/-- What a condition asks for. -/
def condition? (s : Symbol) : Option Value := s.branch? conditionField

/-- What a condition leads to. -/
def result? (s : Symbol) : Option Value := s.branch? resultField

/-- The children of a sequence; other shapes have none. -/
def children (s : Symbol) : List Value :=
  match s.shape with
  | .sequence => ((s.get? symbolsField).bind Value.list?).getD []
  | .noOp | .condition | .plain => []

/-- A copy without the first field of that name, with the removal noted. A name that is not there
changes nothing. -/
def without (s : Symbol) (name : String) : Symbol :=
  match s.get? name with
  | none => s
  | some _ =>
    { s with payload := Payload.erase s.payload name, stripped := s.stripped ++ [name] }

/-- A copy without all of these fields, taken out in this order. -/
def withoutAll (s : Symbol) (names : List String) : Symbol := names.foldl without s

/-- Takes a field out: its value, and what is left. -/
def strip (s : Symbol) (name : String) : Option Value × Symbol := (s.get? name, s.without name)

end Symbol

end RulesText
