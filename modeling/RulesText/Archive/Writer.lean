import RulesText.Archive.Basic
import RulesText.Archive.Bytes

/-! Writing archives as MessagePack. Every number and every length takes the shortest form. -/
namespace RulesText

namespace Pack

/-- A number that is not negative. -/
def nat (n : Nat) : Bytes :=
  if n < 0x80 then [UInt8.ofNat n]
  else if n < 0x100 then 0xcc :: Bytes.word 1 n
  else if n < 0x10000 then 0xcd :: Bytes.word 2 n
  else if n < 0x100000000 then 0xce :: Bytes.word 4 n
  else 0xcf :: Bytes.word 8 n

/-- A negative number, given by its distance below zero. -/
def negative (n : Nat) : Bytes :=
  if n ≤ 0x20 then [UInt8.ofNat (0x100 - n)]
  else if n ≤ 0x80 then 0xd0 :: Bytes.word 1 (0x100 - n)
  else if n ≤ 0x8000 then 0xd1 :: Bytes.word 2 (0x10000 - n)
  else if n ≤ 0x80000000 then 0xd2 :: Bytes.word 4 (0x100000000 - n)
  else 0xd3 :: Bytes.word 8 (0x10000000000000000 - n)

/-- An integer; one that is not negative is written without a sign. -/
def int (n : Int64) : Bytes :=
  if 0 ≤ n.toInt then nat n.toInt.toNat else negative (-n.toInt).toNat

def bool (b : Bool) : Bytes := [if b then 0xc3 else 0xc2]

/-- What stands before the bytes of a text. -/
def textHeader (n : Nat) : Bytes :=
  if n < 0x20 then [UInt8.ofNat (0xa0 + n)]
  else if n < 0x100 then 0xd9 :: Bytes.word 1 n
  else if n < 0x10000 then 0xda :: Bytes.word 2 n
  else 0xdb :: Bytes.word 4 n

/-- What stands before the items of an array. -/
def arrayHeader (n : Nat) : Bytes :=
  if n < 0x10 then [UInt8.ofNat (0x90 + n)]
  else if n < 0x10000 then 0xdc :: Bytes.word 2 n
  else 0xdd :: Bytes.word 4 n

/-- What stands before the entries of a map. -/
def mapHeader (n : Nat) : Bytes :=
  if n < 0x10 then [UInt8.ofNat (0x80 + n)]
  else if n < 0x10000 then 0xde :: Bytes.word 2 n
  else 0xdf :: Bytes.word 4 n

def text (s : String) : Bytes :=
  let bs := Bytes.ofText s
  textHeader bs.length ++ bs

/-- An array of items that are already written. -/
def array (items : List Bytes) : Bytes := arrayHeader items.length ++ items.flatten

/-- A map under names, with values that are already written. -/
def record (fields : List (String × Bytes)) : Bytes :=
  mapHeader fields.length ++ (fields.map fun (name, v) => text name ++ v).flatten

/-- A value under the name of its kind. -/
def tagged (kind : String) (value : Bytes) : Bytes := record [(kind, value)]

end Pack

mutual

/-- Data, each value under the name of its kind; null is its name alone. -/
def Datum.pack : Datum → Bytes
  | .null => Pack.text "Null"
  | .bool b => Pack.tagged "Bool" (Pack.bool b)
  | .int n => Pack.tagged "Int" (Pack.int n)
  | .str s => Pack.tagged "Str" (Pack.text s)
  | .list items => Pack.tagged "List" (Pack.array (Datum.packs items))
  | .map entries => Pack.tagged "Map" (Pack.array (Datum.packEntries entries))

def Datum.packs : List Datum → List Bytes
  | [] => []
  | d :: ds => Datum.pack d :: Datum.packs ds

/-- The entries of a map, each as an array of its key and its value. -/
def Datum.packEntries : List (String × Datum) → List Bytes
  | [] => []
  | (k, d) :: rest => Pack.array [Pack.text k, Datum.pack d] :: Datum.packEntries rest

end

def Entry.pack (e : Entry) : Bytes :=
  Pack.record [("source", Pack.text e.source), ("text", Pack.array (e.text.map Pack.text)),
    ("sequence", e.sequence.pack)]

/-- The bytes of an archive. -/
def Archive.pack (a : Archive) : Bytes :=
  Pack.record [("version", Pack.nat a.version.toNat),
    ("entries", Pack.array (a.entries.map Entry.pack))]

end RulesText
