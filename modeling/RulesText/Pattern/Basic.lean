import RulesText.Pattern.CharSet

/-! Patterns: regular expressions with groups, in the form in which they are matched. -/
namespace RulesText

/-- A condition on a place between two characters. -/
inductive Edge where
  | textStart
  | textEnd
  | lineStart
  | lineEnd
  | word
  | noWord
  | wordStart
  | wordEnd
  | wordStartHalf
  | wordEndHalf
  deriving DecidableEq, Repr

/-- A pattern. Alternatives and repetitions are tried in order of preference: the left alternative
first, one more repetition first if greedy, none more first if not. -/
inductive Pattern where
  | empty
  | char (set : CharSet)
  | edge (e : Edge)
  | cat (p q : Pattern)
  | alt (p q : Pattern)
  /-- Notes the text matched by `p` under a number. -/
  | group (index : Nat) (p : Pattern)
  | opt (greedy : Bool) (p : Pattern)
  /-- Zero or more of a pattern that always takes a character. -/
  | star (loop : Nat) (greedy : Bool) (p : Pattern)
  /-- One or more of a pattern. -/
  | plus (loop : Nat) (greedy : Bool) (p : Pattern)
  /-- A pattern after which several ways through it come together again. -/
  | joint (mark : Nat) (p : Pattern)
  deriving DecidableEq, Repr

namespace Pattern

/-- Whether a match may take no character. -/
def nullable : Pattern → Bool
  | empty | edge _ | opt .. | star .. => true
  | char _ => false
  | cat p q => p.nullable && q.nullable
  | alt p q => p.nullable || q.nullable
  | group _ p | plus _ _ p | joint _ p => p.nullable

/-- Whether no match takes a character. -/
def zeroWidth : Pattern → Bool
  | empty | edge _ => true
  | char _ => false
  | cat p q | alt p q => p.zeroWidth && q.zeroWidth
  | group _ p | opt _ p | star _ _ p | plus _ _ p | joint _ p => p.zeroWidth

/-- Puts a joint after every choice, so that a repetition that takes no character is noticed at the
first place it comes to again. -/
def jointed : Pattern → Pattern
  | empty => empty
  | char s => char s
  | edge e => edge e
  | cat p q => cat p.jointed q.jointed
  | alt p q => joint 0 (alt p.jointed q.jointed)
  | group i p => group i p.jointed
  | opt g p => joint 0 (opt g p.jointed)
  | star n g p => star n g p.jointed
  | plus n g p => plus n g p.jointed
  | joint m p => joint m p

/-- One or more of a pattern. Only one that may take no character can come round to where it was. -/
def oneOrMore (greedy : Bool) (p : Pattern) : Pattern :=
  plus 0 greedy (if p.nullable then p.jointed else p)

/-- One pattern after the other. -/
def catAll : List Pattern → Pattern
  | [] => empty
  | [p] => p
  | p :: rest => cat p (catAll rest)

/-- The patterns as alternatives, the preferred one first. -/
def altAll : List Pattern → Pattern
  | [] => empty
  | [p] => p
  | p :: rest => alt p (altAll rest)

/-- `p` at most `n` times. -/
def upTo (greedy : Bool) (p : Pattern) : Nat → Pattern
  | 0 => empty
  | 1 => opt greedy p
  | n + 1 => opt greedy (cat p (upTo greedy p n))

/-- `p` any number of times. -/
def many (greedy : Bool) (p : Pattern) : Pattern :=
  if p.nullable then opt greedy (oneOrMore greedy p) else star 0 greedy p

/-- `p` at least `least` and at most `most` times; without `most` there is no limit. What takes no
character is never tried more than once. -/
def times (greedy : Bool) (p : Pattern) (least : Nat) (most : Option Nat) : Pattern :=
  let (least, most) :=
    if p.zeroWidth then (min least 1, some (min (most.getD 1) 1)) else (least, most)
  match most with
  | none =>
    match least with
    | 0 => many greedy p
    | n + 1 => catAll (List.replicate n p ++ [oneOrMore greedy p])
  | some n =>
    catAll (List.replicate least p ++ if n ≤ least then [] else [upTo greedy p (n - least)])

/-- Gives every repetition and every joint a number of its own, from `n` on, and the first number
not used. -/
def number : Pattern → Nat → Pattern × Nat
  | empty, n => (empty, n)
  | char s, n => (char s, n)
  | edge e, n => (edge e, n)
  | cat p q, n =>
    let (p, n) := p.number n
    let (q, n) := q.number n
    (cat p q, n)
  | alt p q, n =>
    let (p, n) := p.number n
    let (q, n) := q.number n
    (alt p q, n)
  | group i p, n =>
    let (p, n) := p.number n
    (group i p, n)
  | opt g p, n =>
    let (p, n) := p.number n
    (opt g p, n)
  | star _ g p, n =>
    let (p, m) := p.number (n + 1)
    (star n g p, m)
  | plus _ g p, n =>
    let (p, m) := p.number (n + 1)
    (plus n g p, m)
  | joint _ p, n =>
    let (p, m) := p.number (n + 1)
    (joint n p, m)

end Pattern

end RulesText
