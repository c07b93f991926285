import RulesText.Archive.Reader
import RulesText.Proofs.Packing

/-!
Round trips: an archive is read back from its bytes. Its texts and lists may have any length that a
header can tell, and its data any depth below the limit of the reader.
-/
namespace RulesText

namespace Packed

variable {s : String} {names : List String} {v : Packed} {levels : Nat}

/-- A text as it is read. -/
def ofText (s : String) : Packed := .text (Bytes.ofText s)

/-- A value under the name of its kind, as it is read. -/
def ofKind (kind : String) (v : Packed) : Packed := .map [(ofText kind, v)]

theorem name?_ofText : (ofText s).name? names = some (names.findIdx? (· == s)) := by
  have hbeq : ∀ t, (Bytes.ofText t == Bytes.ofText s) = (t == s) := by
    intro t
    rw [Bool.eq_iff_iff, beq_iff_eq, beq_iff_eq, Bytes.ofText_inj]
  simp only [ofText, name?, hbeq]

theorem text?_ofText : (ofText s).text? = some s := Bytes.text?_ofText s

theorem SpelledField.of {name : String} {bs : Bytes} (hn : name.utf8ByteSize < lengthLimit)
    (h : Spelled bs v) : SpelledField (name, bs) (ofText name, v) :=
  ⟨hn, rfl, h⟩

theorem spelled_ofKind {kind : String} {bs : Bytes} (hk : kind.utf8ByteSize < lengthLimit)
    (h : Spelled bs v) : Spelled (Pack.tagged kind bs) (ofKind kind v) :=
  spelled_record (.cons (.of hk h) .nil) (by decide : 1 < lengthLimit)

theorem int64?_ofInt64 (n : Int64) : (ofInt64 n).int64? = some n := by
  have hint : (ofInt64 n).int? = some n.toInt := by
    unfold ofInt64
    split
    · exact congrArg some (Int.toNat_of_nonneg ‹_›)
    · rfl
  rw [int64?, hint, Option.bind_eq_bind, Option.bind_some,
    if_pos ⟨n.minValue_le_toInt, n.toInt_le⟩, Int64.ofInt_toInt]
  rfl

end Packed

mutual

/-- What data are read as once they have been written. -/
def Datum.packed : Datum → Packed
  | .null => .ofText "Null"
  | .bool b => .ofKind "Bool" (.bool b)
  | .int n => .ofKind "Int" (.ofInt64 n)
  | .str s => .ofKind "Str" (.ofText s)
  | .list items => .ofKind "List" (.array (Datum.packedAll items))
  | .map entries => .ofKind "Map" (.array (Datum.packedEntries entries))

def Datum.packedAll : List Datum → List Packed
  | [] => []
  | d :: ds => Datum.packed d :: Datum.packedAll ds

def Datum.packedEntries : List (String × Datum) → List Packed
  | [] => []
  | (k, d) :: rest => .array [.ofText k, Datum.packed d] :: Datum.packedEntries rest

end

mutual

/-- Whether every text and every list has a length that a header can tell. -/
def Datum.fits : Datum → Bool
  | .null | .bool _ | .int _ => true
  | .str s => s.utf8ByteSize < lengthLimit
  | .list items => items.length < lengthLimit && Datum.fitsAll items
  | .map entries => entries.length < lengthLimit && Datum.fitsEntries entries

def Datum.fitsAll : List Datum → Bool
  | [] => true
  | d :: ds => Datum.fits d && Datum.fitsAll ds

def Datum.fitsEntries : List (String × Datum) → Bool
  | [] => true
  | (k, d) :: rest => k.utf8ByteSize < lengthLimit && Datum.fits d && Datum.fitsEntries rest

end

mutual

/-- How many arrays stand one inside the other where the data are written. An entry of a map is an
array inside an array. -/
def Datum.depth : Datum → Nat
  | .null | .bool _ | .int _ | .str _ => 0
  | .list items => Datum.depthAll items + 1
  | .map entries => Datum.depthEntries entries + 1

def Datum.depthAll : List Datum → Nat
  | [] => 0
  | d :: ds => max (Datum.depth d) (Datum.depthAll ds)

def Datum.depthEntries : List (String × Datum) → Nat
  | [] => 0
  | (_, d) :: rest => max (Datum.depth d + 1) (Datum.depthEntries rest)

end

namespace Datum

theorem length_packs (ds : List Datum) : (packs ds).length = ds.length := by
  induction ds with
  | nil => rfl
  | cons d ds ih => rw [packs, List.length_cons, List.length_cons, ih]

theorem length_packEntries (entries : List (String × Datum)) :
    (packEntries entries).length = entries.length := by
  induction entries with
  | nil => rfl
  | cons entry rest ih =>
    obtain ⟨k, d⟩ := entry
    rw [packEntries, List.length_cons, List.length_cons, ih]

end Datum

open Packed in
mutual

theorem Datum.spelled (d : Datum) (h : d.fits = true) : Spelled d.pack d.packed := by
  cases d with
  | null => exact spelled_text (by decide)
  | bool b => exact spelled_ofKind (by decide) (spelled_bool b)
  | int n => exact spelled_ofKind (by decide) (spelled_int n)
  | str s =>
    have hs : s.utf8ByteSize < lengthLimit := by simpa [Datum.fits] using h
    exact spelled_ofKind (by decide) (spelled_text hs)
  | list items =>
    obtain ⟨hlen, hall⟩ : items.length < lengthLimit ∧ Datum.fitsAll items = true := by
      simpa [Datum.fits] using h
    rw [← Datum.length_packs] at hlen
    exact spelled_ofKind (by decide) (spelled_array (Datum.spelledAll items hall) hlen)
  | map entries =>
    obtain ⟨hlen, hall⟩ : entries.length < lengthLimit ∧ Datum.fitsEntries entries = true := by
      simpa [Datum.fits] using h
    rw [← Datum.length_packEntries] at hlen
    exact spelled_ofKind (by decide) (spelled_array (Datum.spelledEntries entries hall) hlen)

theorem Datum.spelledAll (ds : List Datum) (h : Datum.fitsAll ds = true) :
    List.Forall₂ Spelled (Datum.packs ds) (Datum.packedAll ds) := by
  cases ds with
  | nil => exact .nil
  | cons d ds =>
    obtain ⟨hd, hds⟩ : d.fits = true ∧ Datum.fitsAll ds = true := by
      simpa [Datum.fitsAll] using h
    exact .cons (Datum.spelled d hd) (Datum.spelledAll ds hds)

theorem Datum.spelledEntries (entries : List (String × Datum))
    (h : Datum.fitsEntries entries = true) :
    List.Forall₂ Spelled (Datum.packEntries entries) (Datum.packedEntries entries) := by
  cases entries with
  | nil => exact .nil
  | cons entry rest =>
    cases entry with
    | mk k d =>
      obtain ⟨⟨hk, hd⟩, hrest⟩ : (k.utf8ByteSize < lengthLimit ∧ d.fits = true) ∧
          Datum.fitsEntries rest = true := by
        simpa [Datum.fitsEntries] using h
      have hentry := spelled_array (.cons (spelled_text hk) (.cons (Datum.spelled d hd) .nil))
        (by decide : 2 < lengthLimit)
      exact .cons hentry (Datum.spelledEntries rest hrest)

end

namespace Packed

variable {levels i : Nat} {kind : String} {v : Packed} {items : List Packed}

theorem name?_kind (h : datumKinds.findIdx? (· == kind) = some i) :
    (ofText kind).name? datumKinds = some (some i) := by
  rw [name?_ofText, h]

theorem datum?_null : (ofText "Null").datum? levels = some .null := by
  have hname : (ofText "Null").name? datumKinds = some (some 0) := name?_kind (by decide)
  rw [ofText] at hname ⊢
  simp only [Packed.datum?, hname]

theorem datum?_bool (b : Bool) : (ofKind "Bool" (.bool b)).datum? levels = some (.bool b) := by
  have hname : (ofText "Bool").name? datumKinds = some (some 1) := name?_kind (by decide)
  simp only [ofKind, Packed.datum?, hname]
  rfl

theorem datum?_int (n : Int64) : (ofKind "Int" (ofInt64 n)).datum? levels = some (.int n) := by
  have hname : (ofText "Int").name? datumKinds = some (some 2) := name?_kind (by decide)
  have hn := int64?_ofInt64 n
  unfold ofInt64 at hn ⊢
  simp only [ofKind, Packed.datum?, hname, hn, Option.map_some]

theorem datum?_str (s : String) : (ofKind "Str" (ofText s)).datum? levels = some (.str s) := by
  have hname : (ofText "Str").name? datumKinds = some (some 3) := name?_kind (by decide)
  have hs : (text (Bytes.ofText s)).text? = some s := text?_ofText
  simp only [ofKind, ofText] at hname ⊢
  simp only [Packed.datum?, hname, hs, Option.map_some]

theorem datum?_list : (ofKind "List" (.array items)).datum? levels =
    if 1 < levels then (data? (levels - 1) items).map .list else none := by
  have hname : (ofText "List").name? datumKinds = some (some 4) := name?_kind (by decide)
  simp only [ofKind, Packed.datum?, hname]

theorem datum?_map : (ofKind "Map" (.array items)).datum? levels =
    if 2 < levels || items.isEmpty && 1 < levels then
      (dataEntries? (levels - 2) items).map .map else none := by
  have hname : (ofText "Map").name? datumKinds = some (some 5) := name?_kind (by decide)
  simp only [ofKind, Packed.datum?, hname]

end Packed

section Kept

variable {α β γ : Type} {p q r : Prop} [Decidable p] [Decidable q] [Decidable r] {a : α} {b : β}

theorem map_kept {f : α → γ} (h : r ↔ p) :
    (if p then some a else none).map f = if r then some (f a) else none := by
  by_cases hp : p
  · rw [if_pos hp, if_pos (h.mpr hp)]
    rfl
  · rw [if_neg hp, if_neg (mt h.mp hp)]
    rfl

/-- What is put together from two parts is there if both are. -/
theorem bind_kept {f : α → β → γ} (h : r ↔ p ∧ q) :
    (do let x ← (if p then some a else none)
        let y ← (if q then some b else none)
        return f x y) = if r then some (f a b) else none := by
  by_cases hp : p
  · by_cases hq : q
    · rw [if_pos hp, if_pos hq, if_pos (h.mpr ⟨hp, hq⟩)]
      rfl
    · rw [if_pos hp, if_neg hq, if_neg fun hr => hq (h.mp hr).2]
      rfl
  · rw [if_neg hp, if_neg fun hr => hp (h.mp hr).1]
    rfl

end Kept

namespace Datum

theorem depthEntries_cons_pos (entry : String × Datum) (rest : List (String × Datum)) :
    0 < depthEntries (entry :: rest) := by
  obtain ⟨k, d⟩ := entry
  rw [depthEntries]
  omega

/-- The reader takes an empty map one level deeper than any other. -/
theorem room_for_entries (entries : List (String × Datum)) {levels : Nat} :
    (2 < levels || (packedEntries entries).isEmpty && 1 < levels) = true ↔
      2 < levels ∨ entries = [] ∧ 1 < levels := by
  have hempty : (packedEntries entries).isEmpty = true ↔ entries = [] := by
    cases entries <;> simp [packedEntries]
  rw [Bool.or_eq_true, Bool.and_eq_true, hempty, decide_eq_true_iff, decide_eq_true_iff]

end Datum

open Packed in
mutual

/-- Data are read back exactly if they are not too deep. -/
theorem Datum.datum?_packed (d : Datum) {levels : Nat} (h : 0 < levels) :
    d.packed.datum? levels = if d.depth < levels then some d else none := by
  cases d with
  | null => rw [Datum.packed, datum?_null, Datum.depth, if_pos h]
  | bool b => rw [Datum.packed, datum?_bool, Datum.depth, if_pos h]
  | int n => rw [Datum.packed, datum?_int, Datum.depth, if_pos h]
  | str s => rw [Datum.packed, datum?_str, Datum.depth, if_pos h]
  | list items =>
    rw [Datum.packed, datum?_list, Datum.depth]
    by_cases hl : 1 < levels
    · rw [if_pos hl, Datum.data?_packedAll items (by omega)]
      exact map_kept (by omega)
    · rw [if_neg hl, if_neg (by omega)]
  | map entries =>
    rw [Datum.packed, datum?_map, Datum.depth]
    by_cases hroom : 2 < levels ∨ entries = [] ∧ 1 < levels
    · rw [if_pos ((Datum.room_for_entries entries).mpr hroom)]
      rcases hroom with hl | ⟨rfl, hl⟩
      · rw [Datum.dataEntries?_packedEntries entries (by omega)]
        exact map_kept (by omega)
      · rw [Datum.depthEntries, if_pos hl]
        rfl
    · rw [if_neg (mt (Datum.room_for_entries entries).mp hroom)]
      cases entries with
      | nil => rw [Datum.depthEntries, if_neg fun hl => hroom (.inr ⟨rfl, hl⟩)]
      | cons entry rest =>
        have hdepth := Datum.depthEntries_cons_pos entry rest
        rw [if_neg fun hl => hroom (.inl (by omega))]

theorem Datum.data?_packedAll (ds : List Datum) {levels : Nat} (h : 0 < levels) :
    data? levels (Datum.packedAll ds) = if Datum.depthAll ds < levels then some ds else none := by
  cases ds with
  | nil => rw [Datum.packedAll, data?, Datum.depthAll, if_pos h]
  | cons d ds =>
    rw [Datum.packedAll, data?, Datum.datum?_packed d h, Datum.data?_packedAll ds h, Datum.depthAll]
    exact bind_kept Nat.max_lt

theorem Datum.dataEntries?_packedEntries (entries : List (String × Datum)) {levels : Nat}
    (h : 0 < levels) : dataEntries? levels (Datum.packedEntries entries) =
      if Datum.depthEntries entries < levels + 1 then some entries else none := by
  cases entries with
  | nil => rw [Datum.packedEntries, dataEntries?, Datum.depthEntries, if_pos (by omega)]
  | cons entry rest =>
    cases entry with
    | mk k d =>
      rw [Datum.packedEntries, dataEntries?, text?_ofText, Datum.datum?_packed d h,
        Datum.dataEntries?_packedEntries rest h, Datum.depthEntries]
      exact bind_kept (by omega)

end

namespace Packed

variable {levels : Nat} {α : Type}

/-- Lists are read back item by item. -/
theorem mapM_packed {f : Packed → Option α} {g : α → Packed} {p : α → Prop} [DecidablePred p]
    (h : ∀ a, f (g a) = if p a then some a else none) (as : List α) :
    (as.map g).mapM f = if ∀ a ∈ as, p a then some as else none := by
  induction as with
  | nil => simp
  | cons a as ih =>
    rw [List.map_cons, List.mapM_cons, h, ih]
    exact bind_kept List.forall_mem_cons

theorem texts?_ofText (ls : List String) : (array (ls.map ofText)).texts? = some ls := by
  have h : ∀ s : String, (ofText s).text? = if True then some s else none := fun s => text?_ofText
  rw [texts?, mapM_packed h, if_pos fun _ _ => trivial]

theorem uint32?_unsigned (n : UInt32) : (unsigned n.toNat).uint32? = some n := by
  have hlt : (n.toNat : Int) < (UInt32.size : Int) := Int.ofNat_lt.mpr n.toNat_lt
  rw [uint32?, int?, Option.bind_eq_bind, Option.bind_some, if_pos ⟨Int.natCast_nonneg _, hlt⟩,
    Int.toNat_natCast, UInt32.ofNat_toNat]
  rfl

end Packed

namespace Entry

/-- What an entry is read as once it has been written. -/
def packed (e : Entry) : Packed :=
  .map [(.ofText "source", .ofText e.source), (.ofText "text", .array (e.text.map .ofText)),
    (.ofText "sequence", e.sequence.packed)]

/-- Whether every text and every list has a length that a header can tell. -/
def fits (e : Entry) : Bool :=
  e.source.utf8ByteSize < lengthLimit && e.text.length < lengthLimit &&
    e.text.all (·.utf8ByteSize < lengthLimit) && e.sequence.fits

theorem spelled {e : Entry} (h : e.fits = true) : Packed.Spelled e.pack e.packed := by
  obtain ⟨⟨⟨hsource, hlen⟩, hlines⟩, hsequence⟩ : ((e.source.utf8ByteSize < lengthLimit ∧
      e.text.length < lengthLimit) ∧ ∀ line ∈ e.text, line.utf8ByteSize < lengthLimit) ∧
      e.sequence.fits = true := by
    simpa [fits] using h
  have htext : Packed.Spelled (Pack.array (e.text.map Pack.text)) (.array (e.text.map .ofText)) :=
    Packed.spelled_array_map (fun line hline => Packed.spelled_text (hlines line hline)) hlen
  exact Packed.spelled_record (.cons (.of (by decide) (Packed.spelled_text hsource))
    (.cons (.of (by decide) htext) (.cons (.of (by decide) (e.sequence.spelled hsequence)) .nil)))
    (by decide : 3 < lengthLimit)

theorem entry?_packed (e : Entry) {levels : Nat} (h : 0 < levels) :
    e.packed.entry? levels = if e.sequence.depth < levels then some e else none := by
  have hfields : e.packed.fields? ["source", "text", "sequence"] levels =
      some [.ofText e.source, .array (e.text.map .ofText), e.sequence.packed] := by
    simp only [packed, Packed.fields?, knownFields, Packed.name?_ofText]
    rfl
  rw [Packed.entry?, hfields]
  simp only [Option.bind_eq_bind, Option.bind_some, Packed.text?_ofText, Packed.texts?_ofText,
    e.sequence.datum?_packed h]
  split <;> rfl

end Entry

namespace Archive

/-- What an archive is read as once it has been written. -/
def packed (a : Archive) : Packed :=
  .map [(.ofText "version", .unsigned a.version.toNat),
    (.ofText "entries", .array (a.entries.map Entry.packed))]

/-- Whether every text and every list has a length that a header can tell. -/
def fits (a : Archive) : Bool := a.entries.length < lengthLimit && a.entries.all Entry.fits

/-- Whether the reader takes the data of all entries. They stand inside the map of the archive, the
array of entries and the map of their entry. -/
def isShallow (a : Archive) : Bool := a.entries.all fun e => e.sequence.depth + 3 < nestingLimit

theorem spelled {a : Archive} (h : a.fits = true) : Packed.Spelled a.pack a.packed := by
  obtain ⟨hlen, hentries⟩ : a.entries.length < lengthLimit ∧ ∀ e ∈ a.entries, e.fits = true := by
    simpa [fits] using h
  have hversion : Packed.Spelled (Pack.nat a.version.toNat) (.unsigned a.version.toNat) :=
    Packed.spelled_nat (Nat.lt_trans a.version.toNat_lt (by decide))
  have harray : Packed.Spelled (Pack.array (a.entries.map Entry.pack))
      (.array (a.entries.map Entry.packed)) :=
    Packed.spelled_array_map (fun e he => Entry.spelled (hentries e he)) hlen
  exact Packed.spelled_record
    (.cons (.of (by decide) hversion) (.cons (.of (by decide) harray) .nil))
    (by decide : 2 < lengthLimit)

theorem fields?_packed (a : Archive) (levels : Nat) :
    a.packed.fields? ["version", "entries"] levels =
      some [.unsigned a.version.toNat, .array (a.entries.map Entry.packed)] := by
  simp only [packed, Packed.fields?, knownFields, Packed.name?_ofText]
  rfl

theorem entries?_packed (es : List Entry) {levels : Nat} (h : 0 < levels) :
    (Packed.array (es.map Entry.packed)).entries? levels =
      if ∀ e ∈ es, e.sequence.depth < levels then some es else none := by
  rw [Packed.entries?, Packed.mapM_packed fun e => e.entry?_packed h]

theorem archive?_of_fields {v version entries : Packed}
    (h : v.fields? ["version", "entries"] (nestingLimit - 1) = some [version, entries]) :
    v.archive? = (do
      let n ← version.uint32?
      let es ← entries.entries? (nestingLimit - 3)
      return ⟨n, es⟩) := by
  rw [Packed.archive?, h]
  rfl

theorem isShallow_iff (a : Archive) :
    a.isShallow = true ↔ ∀ e ∈ a.entries, e.sequence.depth < nestingLimit - 3 := by
  rw [isShallow, List.all_eq_true]
  refine forall₂_congr fun e _ => ?_
  rw [decide_eq_true_iff, Nat.lt_sub_iff_add_lt]

theorem archive?_packed (a : Archive) :
    a.packed.archive? = if a.isShallow = true then some a else none := by
  have hpos : 0 < nestingLimit - 3 := by decide
  rw [archive?_of_fields (a.fields?_packed _), Packed.uint32?_unsigned,
    entries?_packed a.entries hpos]
  by_cases h : a.isShallow = true
  · rw [if_pos h, if_pos (a.isShallow_iff.mp h)]
    rfl
  · rw [if_neg h, if_neg (mt a.isShallow_iff.mpr h)]
    rfl

/-- What is made of the value that some bytes begin with. -/
theorem unpack_of_read {bs rest : Bytes} {v : Packed} (h : Packed.read bs = some (v, rest)) :
    Archive.unpack bs =
      match v.archive? with
      | none => fail (.badArchive "not an archive")
      | some a =>
        if a.version = archiveVersion then .ok a
        else fail (.badArchive ("unsupported archive version " ++ toString a.version.toNat)) := by
  rw [unpack, h]
  rfl

/-- An archive is read back from its bytes if it is of the known version and its data are not nested
too deep, and else it is refused for what is wrong with it. -/
theorem unpack_pack (a : Archive) (h : a.fits = true) :
    Archive.unpack a.pack =
      if a.isShallow = false then fail (.badArchive "not an archive")
      else if a.version = archiveVersion then .ok a
      else fail (.badArchive ("unsupported archive version " ++ toString a.version.toNat)) := by
  have hread : Packed.read a.pack = some (a.packed, []) := by
    have happend := (spelled h).read_append []
    rwa [List.append_nil] at happend
  rw [unpack_of_read hread, archive?_packed]
  cases a.isShallow <;> rfl

/-- Numbers of every width, a repeated key, an empty map and texts beyond one byte a character. -/
def mixedArchive (version : UInt32) : Archive :=
  { version
    entries := [⟨"card", ["gain 2 clues", "", "größer ≥"],
      .map [("k", .null), ("k", .list [.int Int64.minValue, .int (-33), .int 128, .int 65536]),
        ("", .map []), ("texts", .list [.str "", .bool true, .list []])]⟩] }

theorem unpack_pack_mixed : (mixedArchive 1).fits = true ∧ (mixedArchive 7).fits = true ∧
    Archive.unpack (mixedArchive 1).pack = .ok (mixedArchive 1) ∧
    Archive.unpack (mixedArchive 7).pack =
      fail (.badArchive "unsupported archive version 7") := by
  have hknown : (mixedArchive 1).fits = true := by decide
  have hnew : (mixedArchive 7).fits = true := by decide
  refine ⟨hknown, hnew, ?_, ?_⟩
  · rw [unpack_pack _ hknown]
    rfl
  · rw [unpack_pack _ hnew]
    rfl

end Archive

end RulesText
