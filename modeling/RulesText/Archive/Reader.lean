import RulesText.Archive.Writer
import RulesText.Archive.Packed
import RulesText.Fault

/-!
Reading archives. A structure is a map under the names of its fields or an array of their values; a
name may also be given by its place. What is not known is passed over. Arrays and maps may be nested
only so deep.
-/
namespace RulesText

/-- One more than the number of arrays and maps that may stand one inside the other. -/
def nestingLimit : Nat := 1024

/-- Which of some names a packed key is: by its spelling or by its place. A key that could be a name
but is none of these gives `some none`. -/
def Packed.name? (names : List String) : Packed → Option (Option Nat)
  | .text bs | .binary bs => some (names.findIdx? (Bytes.ofText · == bs))
  | .unsigned n => some (if n < names.length then some n else none)
  | _ => none

/-- The value of a field, if exactly one entry is for it. -/
def pickField (fields : List (Nat × Packed)) (i : Nat) : Option Packed :=
  match fields.filter (·.1 == i) with
  | [(_, v)] => some v
  | _ => none

/-- The entries of a map that are for one of the names, by the place of the name. An entry for
another name is passed over if it is not nested too deep. -/
def knownFields (names : List String) (levels : Nat) :
    List (Packed × Packed) → Option (List (Nat × Packed))
  | [] => some []
  | (k, v) :: rest => do
    let rest ← knownFields names levels rest
    match ← k.name? names with
    | some i => return (i, v) :: rest
    | none => if v.nesting < levels then return rest else none

/-- The values of the named fields, in the order of the names, each given exactly once. -/
def Packed.fields? (names : List String) (levels : Nat) : Packed → Option (List Packed)
  | .array items => if items.length = names.length then some items else none
  | .map entries => do
    let fields ← knownFields names levels entries
    (List.range names.length).mapM (pickField fields)
  | _ => none

/-- An integer within the signed 64-bit range. -/
def Packed.int64? (v : Packed) : Option Int64 := do
  let n ← v.int?
  if Int64.minValue.toInt ≤ n ∧ n ≤ Int64.maxValue.toInt then return Int64.ofInt n else none

/-- An integer within the unsigned 32-bit range. -/
def Packed.uint32? (v : Packed) : Option UInt32 := do
  let n ← v.int?
  if 0 ≤ n ∧ n < UInt32.size then return UInt32.ofNat n.toNat else none

/-- The names of the kinds of data. -/
def datumKinds : List String := ["Null", "Bool", "Int", "Str", "List", "Map"]

mutual

/-- Data, with room for less than `levels` arrays and maps one inside the other. The map that
carries the name of a kind does not count. -/
def Packed.datum? (levels : Nat) : Packed → Option Datum
  | .map [(k, v)] =>
    match k.name? datumKinds with
    | some (some 0) => match v with
      | .nil => some .null
      | _ => none
    | some (some 1) => v.bool?.map .bool
    | some (some 2) => v.int64?.map .int
    | some (some 3) => v.text?.map .str
    | some (some 4) => match v with
      | .array items => if 1 < levels then (Packed.data? (levels - 1) items).map .list else none
      | _ => none
    | some (some 5) => match v with
      | .array items => if 2 < levels || items.isEmpty && 1 < levels then
          (Packed.dataEntries? (levels - 2) items).map .map else none
      | _ => none
    | _ => none
  | v => match v.name? datumKinds with
    | some (some 0) => some .null
    | _ => none

def Packed.data? (levels : Nat) : List Packed → Option (List Datum)
  | [] => some []
  | v :: vs => do
    let d ← Packed.datum? levels v
    let ds ← Packed.data? levels vs
    return d :: ds

/-- The entries of a map, each an array of a key and a value. -/
def Packed.dataEntries? (levels : Nat) : List Packed → Option (List (String × Datum))
  | [] => some []
  | .array [k, v] :: rest => do
    let key ← k.text?
    let d ← Packed.datum? levels v
    let rest ← Packed.dataEntries? levels rest
    return (key, d) :: rest
  | _ => none

end

/-- A list of texts. -/
def Packed.texts? : Packed → Option (List String)
  | .array items => items.mapM Packed.text?
  | _ => none

def Packed.entry? (levels : Nat) (v : Packed) : Option Entry := do
  match ← v.fields? ["source", "text", "sequence"] levels with
  | [source, lines, sequence] =>
    return ⟨← source.text?, ← lines.texts?, ← sequence.datum? levels⟩
  | _ => none

def Packed.entries? (levels : Nat) : Packed → Option (List Entry)
  | .array items => items.mapM (Packed.entry? levels)
  | _ => none

def Packed.archive? (v : Packed) : Option Archive := do
  match ← v.fields? ["version", "entries"] (nestingLimit - 1) with
  | [version, entries] =>
    return ⟨← version.uint32?, ← entries.entries? (nestingLimit - 3)⟩
  | _ => none

/-- The archive at the front of some bytes. The version is looked at last. -/
def Archive.unpack (bs : Bytes) : Outcome Archive :=
  match (Packed.read bs).bind fun (v, _) => v.archive? with
  | none => fail (.badArchive "not an archive")
  | some a =>
    if a.version = archiveVersion then .ok a
    else fail (.badArchive ("unsupported archive version " ++ toString a.version.toNat))

end RulesText
