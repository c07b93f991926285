import RulesText.Archive.Bytes

/-! Packed values: what MessagePack bytes stand for, before it is known what they are about. -/
namespace RulesText

/-- A value as it was packed. Numbers keep whether they were written with a sign. -/
inductive Packed where
  | nil
  | bool (b : Bool)
  | unsigned (n : Nat)
  | signed (n : Int)
  | float
  | text (bytes : Bytes)
  | binary (bytes : Bytes)
  | extension
  | array (items : List Packed)
  | map (entries : List (Packed × Packed))

/-- How the first bytes of a value go on. -/
inductive Head where
  /-- The value is complete. -/
  | whole (v : Packed)
  /-- The bytes of a text follow. -/
  | text (length : Nat)
  | binary (length : Nat)
  | extension (length : Nat)
  /-- So many values follow. -/
  | array (length : Nat)
  /-- So many pairs of values follow. -/
  | map (length : Nat)

/-- The signed number with the same `bits` lowest bits. -/
def signedValue (bits n : Nat) : Int := (BitVec.ofNat bits n).toInt

namespace Head

/-- Reads a word and goes on with its value. -/
def sized (width : Nat) (f : Nat → Head) (bs : Bytes) : Option (Head × Bytes) :=
  (bs.take? width).map fun (w, rest) => (f w.value, rest)

/-- Reads a signed word. -/
def signedWord (width : Nat) : Bytes → Option (Head × Bytes) :=
  sized width fun n => .whole (.signed (signedValue (8 * width) n))

/-- The first bytes of a value: its kind, and its length if there is more to come. -/
def read : Bytes → Option (Head × Bytes)
  | [] => none
  | b :: rest =>
    let n := b.toNat
    if n < 0x80 then some (.whole (.unsigned n), rest)
    else if n < 0x90 then some (.map (n - 0x80), rest)
    else if n < 0xa0 then some (.array (n - 0x90), rest)
    else if n < 0xc0 then some (.text (n - 0xa0), rest)
    else if 0xe0 ≤ n then some (.whole (.signed (signedValue 8 n)), rest)
    else
      match n with
      | 0xc0 => some (.whole .nil, rest)
      | 0xc2 => some (.whole (.bool false), rest)
      | 0xc3 => some (.whole (.bool true), rest)
      | 0xc4 => sized 1 .binary rest
      | 0xc5 => sized 2 .binary rest
      | 0xc6 => sized 4 .binary rest
      | 0xc7 => sized 1 (.extension <| · + 1) rest
      | 0xc8 => sized 2 (.extension <| · + 1) rest
      | 0xc9 => sized 4 (.extension <| · + 1) rest
      | 0xca => sized 4 (fun _ => .whole .float) rest
      | 0xcb => sized 8 (fun _ => .whole .float) rest
      | 0xcc => sized 1 (.whole <| .unsigned ·) rest
      | 0xcd => sized 2 (.whole <| .unsigned ·) rest
      | 0xce => sized 4 (.whole <| .unsigned ·) rest
      | 0xcf => sized 8 (.whole <| .unsigned ·) rest
      | 0xd0 => signedWord 1 rest
      | 0xd1 => signedWord 2 rest
      | 0xd2 => signedWord 4 rest
      | 0xd3 => signedWord 8 rest
      | 0xd4 => some (.extension 2, rest)
      | 0xd5 => some (.extension 3, rest)
      | 0xd6 => some (.extension 5, rest)
      | 0xd7 => some (.extension 9, rest)
      | 0xd8 => some (.extension 17, rest)
      | 0xd9 => sized 1 .text rest
      | 0xda => sized 2 .text rest
      | 0xdb => sized 4 .text rest
      | 0xdc => sized 2 .array rest
      | 0xdd => sized 4 .array rest
      | 0xde => sized 2 .map rest
      | 0xdf => sized 4 .map rest
      | _ => none

end Head

namespace Packed

mutual

/-- Reads one value off the front, in at most so many steps one inside the other. -/
def readWithin : Nat → Bytes → Option (Packed × Bytes)
  | 0, _ => none
  | fuel + 1, bs =>
    match Head.read bs with
    | none => none
    | some (.whole v, rest) => some (v, rest)
    | some (.text n, rest) => (rest.take? n).map fun (data, rest) => (.text data, rest)
    | some (.binary n, rest) => (rest.take? n).map fun (data, rest) => (.binary data, rest)
    | some (.extension n, rest) => (rest.take? n).map fun (_, rest) => (.extension, rest)
    | some (.array n, rest) => (readItems fuel n rest).map fun (vs, rest) => (.array vs, rest)
    | some (.map n, rest) => (readPairs fuel n rest).map fun (ps, rest) => (.map ps, rest)

/-- Reads so many values. -/
def readItems : Nat → Nat → Bytes → Option (List Packed × Bytes)
  | _, 0, bs => some ([], bs)
  | 0, _ + 1, _ => none
  | fuel + 1, n + 1, bs => do
    let (v, bs) ← readWithin fuel bs
    let (vs, bs) ← readItems fuel n bs
    return (v :: vs, bs)

/-- Reads so many pairs of values. -/
def readPairs : Nat → Nat → Bytes → Option (List (Packed × Packed) × Bytes)
  | _, 0, bs => some ([], bs)
  | 0, _ + 1, _ => none
  | fuel + 1, n + 1, bs => do
    let (k, bs) ← readWithin fuel bs
    let (v, bs) ← readWithin fuel bs
    let (ps, bs) ← readPairs fuel n bs
    return ((k, v) :: ps, bs)

end

/-- The value at the front of some bytes, and the bytes after it. Every step takes a byte, so twice
as many steps as there are bytes are enough. -/
def read (bs : Bytes) : Option (Packed × Bytes) := readWithin (2 * bs.length + 2) bs

mutual

/-- How many arrays and maps stand one inside the other. -/
def nesting : Packed → Nat
  | .array items => nestingList items + 1
  | .map entries => nestingPairs entries + 1
  | _ => 0

def nestingList : List Packed → Nat
  | [] => 0
  | v :: vs => max (nesting v) (nestingList vs)

def nestingPairs : List (Packed × Packed) → Nat
  | [] => 0
  | (k, v) :: rest => max (max (nesting k) (nesting v)) (nestingPairs rest)

end

/-- The text that a text or raw bytes hold. -/
def text? : Packed → Option String
  | .text bs | .binary bs => bs.text?
  | _ => none

def int? : Packed → Option Int
  | .unsigned n => some n
  | .signed n => some n
  | _ => none

def bool? : Packed → Option Bool
  | .bool b => some b
  | _ => none

end Packed

end RulesText
