import RulesText.Pattern.Basic

/-! Reading patterns from their written form. -/
namespace RulesText.Pattern

/-- The options in force while a pattern is read. -/
structure Flags where
  anyCase : Bool := false
  multiLine : Bool := false
  dotAll : Bool := false
  swapGreed : Bool := false
  spaced : Bool := false
  deriving DecidableEq, Repr

/-- What is left to read, the options in force, and the groups opened so far. -/
structure Reader where
  rest : List Char
  flags : Flags := {}
  groups : Nat := 0
  names : List String := []

/-- Reading may fail with a message. -/
abbrev Read := StateT Reader (Except String)

namespace Read

def peek : Read (Option Char) := do return (← get).rest.head?

/-- Sets what is left to read. -/
def setRest (rest : List Char) : Read Unit := modify ({ · with rest })

/-- Passes over some characters. -/
def skip (n : Nat) : Read Unit := modify fun r => { r with rest := r.rest.drop n }

def flags : Read Flags := do return (← get).flags

def setFlags (flags : Flags) : Read Unit := modify ({ · with flags })

end Read

open Read

/-- Something written with a backslash. -/
inductive Escape where
  | literal (c : Char)
  | set (s : CharSet)
  | edge (e : Edge)

/-- The number that a hexadecimal digit stands for. -/
def hexDigit? (c : Char) : Option Nat :=
  if '0' ≤ c && c ≤ '9' then some (c.toNat - 48)
  else if 'a' ≤ c && c ≤ 'f' then some (c.toNat - 87)
  else if 'A' ≤ c && c ≤ 'F' then some (c.toNat - 55)
  else none

/-- The character with a code point written in hexadecimal. -/
def hexChar (digits : List Char) : Except String Char :=
  match digits.mapM hexDigit? with
  | none | some [] => .error "invalid hexadecimal digits"
  | some ds =>
    let n := ds.foldl (fun n d => 16 * n + d) 0
    if h : n.isValidChar then .ok (Char.ofNatAux n h) else .error "invalid code point"

/-- A code point after its letter: in braces, or with exactly `width` digits. -/
def readHex (width : Nat) : Read Char := do
  match (← get).rest with
  | '\x7b' :: rest =>
    match rest.span (· != '\x7d') with
    | (_, []) => throw "unclosed hexadecimal escape"
    | (digits, _ :: rest) =>
      setRest rest
      hexChar digits
  | rest =>
    if rest.length < width then throw "incomplete hexadecimal escape"
    skip width
    hexChar (rest.take width)

/-- The kinds of word edges that may stand in braces after `\b`. -/
def wordEdges : List (String × Edge) :=
  [("start", .wordStart), ("end", .wordEnd), ("start-half", .wordStartHalf),
    ("end-half", .wordEndHalf)]

/-- A word edge, perhaps with its kind in braces; digits in braces are left as a count. -/
def readWordEdge : Read Edge := do
  match (← get).rest with
  | '\x7b' :: c :: rest =>
    if c.isAlpha || c == '-' then
      match (c :: rest).span (fun c => c.isAlpha || c == '-') with
      | (name, '\x7d' :: rest) =>
        match wordEdges.lookup (String.ofList name) with
        | some e =>
          setRest rest
          return e
        | none => throw "unknown word edge"
      | _ => throw "unclosed word edge"
    else return .word
  | _ => return .word

/-- Characters that a backslash makes literal: the signs of ASCII. -/
def isEscapable (c : Char) : Bool :=
  c.toNat < 128 && !c.isAlphanum && c != '<' && c != '>'

/-- What follows a backslash. -/
def readEscape : Read Escape := do
  let some c ← peek | throw "nothing after a backslash"
  skip 1
  match c with
  | 'd' => return .set .digit
  | 'D' => return .set (.compl .digit)
  | 'w' => return .set .word
  | 'W' => return .set (.compl .word)
  | 's' => return .set .blank
  | 'S' => return .set (.compl .blank)
  | 'a' => return .literal '\x07'
  | 'f' => return .literal '\x0c'
  | 't' => return .literal '\t'
  | 'n' => return .literal '\n'
  | 'r' => return .literal '\r'
  | 'v' => return .literal '\x0b'
  | 'x' => return .literal (← readHex 2)
  | 'u' => return .literal (← readHex 4)
  | 'U' => return .literal (← readHex 8)
  | 'A' => return .edge .textStart
  | 'z' => return .edge .textEnd
  | 'b' => return .edge (← readWordEdge)
  | 'B' => return .edge .noWord
  | '<' => return .edge .wordStart
  | '>' => return .edge .wordEnd
  | c => if isEscapable c then return .literal c else throw "unknown escape"

/-- A set, widened if case does not matter. -/
def cased (flags : Flags) (s : CharSet) : CharSet := if flags.anyCase then .anyCase s else s

/-- The sets that have a name between colons. -/
def namedSets : List (String × CharSet) :=
  let digits := CharSet.range '0' '9'
  let upper := CharSet.range 'A' 'Z'
  let lower := CharSet.range 'a' 'z'
  let letters := CharSet.union upper lower
  [("alnum", .union digits letters), ("alpha", letters), ("ascii", .range '\x00' '\x7f'),
    ("blank", .union (.one '\t') (.one ' ')),
    ("cntrl", .union (.range '\x00' '\x1f') (.one '\x7f')),
    ("digit", digits), ("graph", .range '!' '~'), ("lower", lower), ("print", .range ' ' '~'),
    ("punct", .join [.range '!' '/', .range ':' '@', .range '[' '\x60', .range '\x7b' '~']),
    ("space", .union (.range '\t' '\r') (.one ' ')), ("upper", upper),
    ("word", .join [digits, letters, .one '_']),
    ("xdigit", .join [digits, .range 'A' 'F', .range 'a' 'f'])]

/-- A named set such as the one called `alpha`, if one starts here. -/
def readNamedSet : Read (Option CharSet) := do
  match (← get).rest with
  | '[' :: ':' :: rest =>
    let (negated, rest) := match rest with
      | '^' :: rest => (true, rest)
      | _ => (false, rest)
    match rest.span (· != ':') with
    | (name, ':' :: ']' :: rest) =>
      match namedSets.lookup (String.ofList name) with
      | some s =>
        setRest rest
        let s := cased (← flags) s
        return some (if negated then .compl s else s)
      | none => return none
    | _ => return none
  | _ => return none

/-- One character, or a set that is written with a backslash. -/
def readSetItem : Read (Char ⊕ CharSet) := do
  match (← get).rest with
  | [] => throw "unclosed character class"
  | '\\' :: _ =>
    skip 1
    match ← readEscape with
    | .literal c => return .inl c
    | .set s => return .inr s
    | .edge _ => throw "an edge inside a character class"
  | c :: _ =>
    skip 1
    return .inl c

/-- One item of a character class: a character, a range or a set. -/
def readSetRange : Read CharSet := do
  let first ← readSetItem
  let flags ← flags
  match (← get).rest with
  | [] => throw "unclosed character class"
  | '-' :: next :: _ =>
    if next == ']' || next == '-' then
      return match first with
        | .inl c => cased flags (.one c)
        | .inr s => s
    skip 1
    match first, ← readSetItem with
    | .inl a, .inl b =>
      if a ≤ b then return cased flags (.range a b) else throw "reversed range"
    | _, _ => throw "a range needs two characters"
  | ['-'] => throw "unclosed character class"
  | _ =>
    return match first with
      | .inl c => cased flags (.one c)
      | .inr s => s

/-- The operation between two parts of a character class. -/
inductive SetOp where
  | inter
  | diff
  | symmDiff

def SetOp.apply : SetOp → CharSet → CharSet → CharSet
  | inter => .inter
  | diff => .diff
  | symmDiff => .symmDiff

/-- Applies the operation that waits for its right side, if one does. -/
def applyPending (pending : Option (SetOp × CharSet)) (right : CharSet) : CharSet :=
  match pending with
  | none => right
  | some (op, left) => op.apply left right

/-- The opening of a character class, after its bracket: whether it is negated, and the hyphens or
the bracket that are literal because they come first. -/
def readSetOpening : Read (Bool × List CharSet) := do
  let negated := (← peek) == some '^'
  if negated then skip 1
  let hyphens := (← get).rest.takeWhile (· == '-')
  skip hyphens.length
  if hyphens.isEmpty && (← peek) == some ']' then
    skip 1
    return (negated, [.one ']'])
  return (negated, if hyphens.isEmpty then [] else [.one '-'])

/-- A character class after its opening bracket, with the items read so far. -/
def readSet : Nat → Bool → Option (SetOp × CharSet) → List CharSet → Read CharSet
  | 0, _, _, _ => throw "unclosed character class"
  | fuel + 1, negated, pending, items => do
    let through (op : SetOp) : Read CharSet := do
      skip 2
      readSet fuel negated (some (op, applyPending pending (.join items))) []
    match (← get).rest with
    | [] => throw "unclosed character class"
    | ']' :: _ =>
      skip 1
      let s := applyPending pending (.join items)
      return if negated then .compl s else s
    | '[' :: _ =>
      match ← readNamedSet with
      | some s => readSet fuel negated pending (items ++ [s])
      | none =>
        skip 1
        let (innerNegated, innerItems) ← readSetOpening
        let s ← readSet fuel innerNegated none innerItems
        readSet fuel negated pending (items ++ [s])
    | '&' :: '&' :: _ => through .inter
    | '-' :: '-' :: _ => through .diff
    | '~' :: '~' :: _ => through .symmDiff
    | _ =>
      let s ← readSetRange
      readSet fuel negated pending (items ++ [s])

/-- A decimal number, with white space around it. -/
def readCount : Read (Option Nat) := do
  let rest := (← get).rest.dropWhile Text.isBlank
  let (digits, rest) := rest.span Text.isAsciiDigit
  setRest (rest.dropWhile Text.isBlank)
  if digits.isEmpty then return none
  let n := digits.foldl (fun n c => 10 * n + (c.toNat - 48)) 0
  if n < UInt32.size then return some n else throw "the count is too large"

/-- The bounds of a counted repetition, after the opening brace. -/
def readBounds : Read (Nat × Option Nat) := do
  let least ← readCount
  let bounds ← do
    if (← peek) == some ',' then
      skip 1
      let some least := least | throw "a count is missing"
      if (← peek) == some '\x7d' then pure (least, none)
      else
        let some most ← readCount | throw "a count is missing"
        pure (least, some most)
    else
      let some n := least | throw "a count is missing"
      pure (n, some n)
  if (← peek) != some '\x7d' then throw "unclosed repetition count"
  skip 1
  if bounds.2.any (· < bounds.1) then throw "reversed repetition count"
  return bounds

/-- Whether the repetition just read is greedy. -/
def readGreed : Read Bool := do
  let swapped := (← flags).swapGreed
  if (← peek) == some '?' then
    skip 1
    return swapped
  return !swapped

/-- Repeats the last item read. -/
def repeatLast (items : List (Option Pattern)) (least : Nat) (most : Option Nat) :
    Read (List (Option Pattern)) := do
  match items with
  | some p :: rest => return some (p.times (← readGreed) least most) :: rest
  | _ => throw "nothing to repeat"

/-- Sets one option by its letter. -/
def setFlag (flags : Flags) (on : Bool) : Char → Except String Flags
  | 'i' => .ok { flags with anyCase := on }
  | 'm' => .ok { flags with multiLine := on }
  | 's' => .ok { flags with dotAll := on }
  | 'U' => .ok { flags with swapGreed := on }
  | 'x' => .ok { flags with spaced := on }
  | 'u' => if on then .ok flags else .error "text is always Unicode"
  | _ => .error "unknown option"

/-- The options that a list of letters sets; those after a hyphen are cleared. -/
def applyFlags (letters : List Char) (flags : Flags) : Except String Flags := do
  if !letters.Nodup then throw "an option is repeated"
  if letters.getLast? == some '-' then throw "no option after the hyphen"
  let (on, off) := letters.span (· != '-')
  let flags ← on.foldlM (setFlag · true) flags
  (off.drop 1).foldlM (setFlag · false) flags

/-- Whether a group name may hold a character, at its beginning or later. -/
def isNameChar (first : Bool) (c : Char) : Bool :=
  c == '_' || (!first && (c == '.' || c == '[' || c == ']')) ||
    (Text.isWord c && (!first || !Text.isDigit c))

/-- The name of a group, up to its closing angle bracket. -/
def readName (rest : List Char) : Read Unit := do
  match rest.span (· != '>') with
  | (c :: name, _ :: rest) =>
    if !isNameChar true c || !name.all (isNameChar false) then throw "bad group name"
    let name := String.ofList (c :: name)
    if (← get).names.contains name then throw "a group name is used twice"
    modify fun r => { r with names := name :: r.names, rest }
  | (_, []) => throw "unclosed group name"
  | ([], _) => throw "empty group name"

/-- How a parenthesis opens. -/
inductive Opening where
  | numbered (index : Nat)
  | plain
  | flagsOnly

/-- Opens the next numbered group. -/
def openGroup : Read Opening := do
  let n := (← get).groups + 1
  modify ({ · with groups := n })
  return .numbered n

/-- What follows an opening parenthesis; options are put in force. -/
def readOpening : Read Opening := do
  match (← get).rest with
  | '?' :: '=' :: _ | '?' :: '!' :: _ | '?' :: '<' :: '=' :: _ | '?' :: '<' :: '!' :: _ =>
    throw "look-around is not supported"
  | '?' :: 'P' :: '<' :: rest =>
    let o ← openGroup
    readName rest
    return o
  | '?' :: '<' :: rest =>
    let o ← openGroup
    readName rest
    return o
  | '?' :: rest =>
    match rest.span (fun c => c != ':' && c != ')') with
    | (_, []) => throw "unclosed options"
    | (letters, close :: rest) =>
      setRest rest
      setFlags (← applyFlags letters (← flags))
      if close == ':' then return .plain
      if letters.isEmpty then throw "nothing to repeat"
      return .flagsOnly
  | _ => openGroup

/-- Alternatives up to a closing parenthesis or the end, with the finished alternatives and the
items of the one being read, the last item first. An item without a pattern only set options. -/
def readBody : Nat → List Pattern → List (Option Pattern) → Read Pattern
  | 0, _, _ => throw "the pattern is too long"
  | fuel + 1, branches, items => do
    let put (p : Pattern) : Read Pattern := readBody fuel branches (some p :: items)
    let branch := catAll (items.reverse.filterMap id)
    let flags ← flags
    match (← get).rest with
    | [] | ')' :: _ => return altAll (branches ++ [branch])
    | c :: rest =>
      if flags.spaced && (Text.isBlank c || c == '#') then
        setRest (if c == '#' then rest.dropWhile (· != '\n') else rest)
        return ← readBody fuel branches items
      skip 1
      match c with
      | '|' => readBody fuel (branches ++ [branch]) []
      | '*' => readBody fuel branches (← repeatLast items 0 none)
      | '+' => readBody fuel branches (← repeatLast items 1 none)
      | '?' => readBody fuel branches (← repeatLast items 0 (some 1))
      | '\x7b' =>
        if (items.head?.bind id).isNone then throw "nothing to repeat"
        let (least, most) ← readBounds
        readBody fuel branches (← repeatLast items least most)
      | '(' =>
        match ← readOpening with
        | .flagsOnly => readBody fuel branches (none :: items)
        | opening =>
          let p ← readBody fuel [] []
          if (← peek) != some ')' then throw "unclosed group"
          skip 1
          setFlags flags
          match opening with
          | .numbered i => put (.group i p)
          | _ => put p
      | '[' =>
        let (negated, first) ← readSetOpening
        put (.char (← readSet fuel negated none first))
      | '.' => put (.char (if flags.dotAll then .all else .compl (.one '\n')))
      | '^' => put (.edge (if flags.multiLine then .lineStart else .textStart))
      | '$' => put (.edge (if flags.multiLine then .lineEnd else .textEnd))
      | '\\' =>
        match ← readEscape with
        | .literal c => put (.char (cased flags (.one c)))
        | .set s => put (.char s)
        | .edge e => put (.edge e)
      | c => put (.char (cased flags (.one c)))

/-- Reads a whole pattern. -/
def read (source : String) : Except String Pattern := do
  let cs := source.toList
  let (p, r) ← (readBody (2 * cs.length + 2) [] []).run { rest := cs }
  if !r.rest.isEmpty then throw "unopened group"
  return (p.number 0).1

end RulesText.Pattern
