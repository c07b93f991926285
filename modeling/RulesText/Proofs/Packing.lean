import Mathlib.Algebra.Group.Nat.Defs
import Mathlib.Data.List.Forall2
import RulesText.Archive.Packed
import RulesText.Archive.Writer

/-!
Packing: whatever is written in front of other bytes is read back, and those bytes are left over.
-/
namespace RulesText

namespace Bytes

variable {n width : Nat} {bs rest : Bytes}

theorem length_word (width n : Nat) : (word width n).length = width := by
  induction width with
  | zero => rfl
  | succ width ih => rw [word, List.length_cons, ih]

/-- A word adds its digits to what was read before it. -/
theorem foldl_word (width n start : Nat) :
    (word width n).foldl (fun m b => 256 * m + b.toNat) start =
      256 ^ width * start + n % 256 ^ width := by
  induction width generalizing start with
  | zero => simp [word, Nat.mod_one]
  | succ width ih =>
    have hpow : 2 ^ (8 * width) = 256 ^ width := Nat.pow_mul 2 8 width
    have hbyte : (UInt8.ofNat (n >>> (8 * width))).toNat = n / 256 ^ width % 256 := by
      rw [UInt8.toNat_ofNat', Nat.shiftRight_eq_div_pow, hpow]
    rw [word, List.foldl_cons, ih, hbyte, Nat.pow_succ, Nat.mod_mul]
    rw [Nat.mul_add, ← Nat.mul_assoc, Nat.add_assoc, Nat.add_comm (n % _)]

theorem value_word (h : n < 256 ^ width) : value (word width n) = n := by
  rw [value, foldl_word, Nat.mul_zero, Nat.zero_add, Nat.mod_eq_of_lt h]

theorem take?_append (h : bs.length = n) : take? n (bs ++ rest) = some (bs, rest) := by
  subst h
  simp [take?]

theorem toList_loop (bs : ByteArray) (i : Nat) (front : List UInt8) :
    ByteArray.toList.loop bs i front = front.reverse ++ bs.data.toList.drop i := by
  fun_induction ByteArray.toList.loop bs i front with
  | case1 i front hi ih =>
    have hlt : i < bs.data.toList.length := hi
    have hget : bs.get! i = bs.data.toList.get ⟨i, hlt⟩ := getElem!_pos bs.data i hi
    rw [ih, List.drop_eq_getElem_cons hlt, hget]
    simp
  | case2 i front hi =>
    have hle : bs.data.toList.length ≤ i := Nat.le_of_not_lt hi
    rw [List.drop_eq_nil_of_le hle, List.append_nil]

theorem ofText_eq (s : String) : ofText s = s.toByteArray.data.toList := by
  rw [ofText, ByteArray.toList, toList_loop]
  rfl

theorem length_ofText (s : String) : (ofText s).length = s.utf8ByteSize := by
  rw [ofText_eq]
  rfl

theorem text?_ofText (s : String) : (ofText s).text? = some s := by
  rw [text?, ofText_eq, Array.toArray_toList, String.fromUTF8?, dif_pos s.isValidUTF8]
  rfl

theorem ofText_inj {s t : String} : ofText s = ofText t ↔ s = t := by
  constructor
  · intro h
    have htext := text?_ofText s
    rw [h, text?_ofText] at htext
    exact (Option.some.inj htext).symm
  · exact congrArg ofText

end Bytes

/-- The lengths that a header can tell are below this. -/
def lengthLimit : Nat := 0x100000000

namespace Head

variable {n w : Nat} {rest : Bytes} {f : Nat → Head}

theorem sized_word (h : n < 256 ^ w) :
    sized w f (Bytes.word w n ++ rest) = some (f n, rest) := by
  rw [sized, Bytes.take?_append (Bytes.length_word w n)]
  simp only [Option.map_some, Bytes.value_word h]

theorem toNat_ofNat (h : n < 0x100) : (UInt8.ofNat n).toNat = n := UInt8.toNat_ofNat_of_lt' h

theorem read_nat (h : n < 0x10000000000000000) :
    read (Pack.nat n ++ rest) = some (.whole (.unsigned n), rest) := by
  unfold Pack.nat
  split
  · next hn => rw [List.singleton_append, read, toNat_ofNat (by omega), if_pos hn]
  · split
    · exact sized_word (f := (.whole <| .unsigned ·)) (w := 1) ‹_›
    · split
      · exact sized_word (f := (.whole <| .unsigned ·)) (w := 2) ‹_›
      · split
        · exact sized_word (f := (.whole <| .unsigned ·)) (w := 4) ‹_›
        · exact sized_word (f := (.whole <| .unsigned ·)) (w := 8) h

/-- Two's complement of a number below zero. -/
theorem signedValue_sub (hn : 0 < n) (h : 2 * n ≤ 2 ^ w) :
    signedValue w (2 ^ w - n) = -(n : Int) := by
  have hlt : 2 ^ w - n < 2 ^ w := by omega
  rw [signedValue, BitVec.toInt_eq_toNat_cond, BitVec.toNat_ofNat, Nat.mod_eq_of_lt hlt,
    if_neg (by omega)]
  omega

theorem signedWord_word (hn : 0 < n) (h : 2 * n ≤ 2 ^ (8 * w)) :
    signedWord w (Bytes.word w (2 ^ (8 * w) - n) ++ rest) =
      some (.whole (.signed (-(n : Int))), rest) := by
  have hpow : 2 ^ (8 * w) = 256 ^ w := Nat.pow_mul 2 8 w
  rw [signedWord, sized_word (by omega), signedValue_sub hn h]

theorem read_negative (hn : 0 < n) (h : n ≤ 0x8000000000000000) :
    read (Pack.negative n ++ rest) = some (.whole (.signed (-(n : Int))), rest) := by
  unfold Pack.negative
  split
  · have hvalue : signedValue 8 (0x100 - n) = -(n : Int) := signedValue_sub (w := 8) hn (by omega)
    rw [List.singleton_append, read, toNat_ofNat (by omega), if_neg (by omega), if_neg (by omega),
      if_neg (by omega), if_neg (by omega), if_pos (by omega), hvalue]
  · split
    · exact signedWord_word (w := 1) hn (by omega)
    · split
      · exact signedWord_word (w := 2) hn (by omega)
      · split
        · exact signedWord_word (w := 4) hn (by omega)
        · exact signedWord_word (w := 8) hn (by omega)

theorem read_textHeader (h : n < lengthLimit) :
    read (Pack.textHeader n ++ rest) = some (.text n, rest) := by
  unfold Pack.textHeader
  split
  · rw [List.singleton_append, read, toNat_ofNat (by omega), if_neg (by omega), if_neg (by omega),
      if_neg (by omega), if_pos (by omega), Nat.add_sub_cancel_left]
  · split
    · exact sized_word (w := 1) ‹_›
    · split
      · exact sized_word (w := 2) ‹_›
      · exact sized_word (w := 4) h

theorem read_arrayHeader (h : n < lengthLimit) :
    read (Pack.arrayHeader n ++ rest) = some (.array n, rest) := by
  unfold Pack.arrayHeader
  split
  · rw [List.singleton_append, read, toNat_ofNat (by omega), if_neg (by omega), if_neg (by omega),
      if_pos (by omega), Nat.add_sub_cancel_left]
  · split
    · exact sized_word (w := 2) ‹_›
    · exact sized_word (w := 4) h

theorem read_mapHeader (h : n < lengthLimit) :
    read (Pack.mapHeader n ++ rest) = some (.map n, rest) := by
  unfold Pack.mapHeader
  split
  · rw [List.singleton_append, read, toNat_ofNat (by omega), if_neg (by omega), if_pos (by omega),
      Nat.add_sub_cancel_left]
  · split
    · exact sized_word (w := 2) ‹_›
    · exact sized_word (w := 4) h

end Head

namespace Packed

variable {bs rest : Bytes} {v : Packed} {fuel n : Nat} {head : Head}

/-- Bytes that are read as this value, whatever follows them. -/
def Spelled (bs : Bytes) (v : Packed) : Prop :=
  ∀ fuel rest, 2 * bs.length ≤ fuel → readWithin fuel (bs ++ rest) = some (v, rest)

theorem Spelled.length_pos (h : Spelled bs v) : 0 < bs.length := by
  apply Nat.pos_of_ne_zero
  intro hzero
  have hread := h 0 [] (by omega)
  rw [readWithin] at hread
  cases hread

theorem Spelled.read_append (h : Spelled bs v) (rest : Bytes) :
    Packed.read (bs ++ rest) = some (v, rest) := by
  apply h
  rw [List.length_append]
  omega

theorem length_pos_of_head (h : ∀ rest, Head.read (bs ++ rest) = some (head, rest)) :
    0 < bs.length := by
  apply List.length_pos_of_ne_nil
  rintro rfl
  cases h []

theorem spelled_whole (h : ∀ rest, Head.read (bs ++ rest) = some (.whole v, rest)) :
    Spelled bs v := by
  intro fuel rest hf
  have hpos := length_pos_of_head h
  obtain ⟨fuel, rfl⟩ : ∃ f, fuel = f + 1 := ⟨fuel - 1, by omega⟩
  rw [readWithin, h rest]

theorem spelled_text {s : String} (h : s.utf8ByteSize < lengthLimit) :
    Spelled (Pack.text s) (.text (Bytes.ofText s)) := by
  rw [← Bytes.length_ofText] at h
  intro fuel rest hf
  have hpos := length_pos_of_head fun _ => Head.read_textHeader h
  rw [Pack.text, List.length_append] at hf
  obtain ⟨fuel, rfl⟩ : ∃ f, fuel = f + 1 := ⟨fuel - 1, by omega⟩
  rw [Pack.text, List.append_assoc, readWithin, Head.read_textHeader h]
  simp only [Bytes.take?_append rfl, Option.map_some]

theorem readItems_cons {vs : List Packed} {after : Bytes}
    (hv : readWithin fuel bs = some (v, after)) (hvs : readItems fuel n after = some (vs, rest)) :
    readItems (fuel + 1) (n + 1) bs = some (v :: vs, rest) := by
  rw [readItems, hv]
  simp only [Option.bind_eq_bind, Option.bind_some, hvs]
  rfl

/-- Items are read one after the other, each with a little less fuel. -/
theorem readItems_flatten {items : List Bytes} {vs : List Packed}
    (h : List.Forall₂ Spelled items vs) (hf : 2 * items.flatten.length < fuel) :
    readItems fuel items.length (items.flatten ++ rest) = some (vs, rest) := by
  induction h generalizing fuel with
  | nil => rw [List.length_nil, List.flatten_nil, List.nil_append, readItems]
  | @cons item v items vs hitem _ ih =>
    obtain ⟨fuel, rfl⟩ : ∃ f, fuel = f + 1 := ⟨fuel - 1, by omega⟩
    have hpos := hitem.length_pos
    rw [List.flatten_cons, List.length_append] at hf
    rw [List.flatten_cons, List.append_assoc]
    exact readItems_cons (hitem fuel _ (by omega)) (ih (by omega))

theorem spelled_array {items : List Bytes} {vs : List Packed} (h : List.Forall₂ Spelled items vs)
    (hlen : items.length < lengthLimit) : Spelled (Pack.array items) (.array vs) := by
  intro fuel rest hf
  have hpos := length_pos_of_head fun _ => Head.read_arrayHeader hlen
  rw [Pack.array, List.length_append] at hf
  obtain ⟨fuel, rfl⟩ : ∃ f, fuel = f + 1 := ⟨fuel - 1, by omega⟩
  rw [Pack.array, List.append_assoc, readWithin, Head.read_arrayHeader hlen]
  simp only [readItems_flatten h (by omega : _ < fuel), Option.map_some]

theorem spelled_array_map {α : Type} {f : α → Bytes} {g : α → Packed} {as : List α}
    (h : ∀ a ∈ as, Spelled (f a) (g a)) (hlen : as.length < lengthLimit) :
    Spelled (Pack.array (as.map f)) (.array (as.map g)) := by
  apply spelled_array _ (by rwa [List.length_map])
  rw [List.forall₂_map_left_iff, List.forall₂_map_right_iff]
  exact List.forall₂_same.mpr h

theorem readPairs_cons {key : Packed} {ps : List (Packed × Packed)} {mid after : Bytes}
    (hk : readWithin fuel bs = some (key, mid)) (hv : readWithin fuel mid = some (v, after))
    (hps : readPairs fuel n after = some (ps, rest)) :
    readPairs (fuel + 1) (n + 1) bs = some ((key, v) :: ps, rest) := by
  rw [readPairs, hk]
  simp only [Option.bind_eq_bind, Option.bind_some, hv, hps]
  rfl

/-- A name and a value that is already written, as they stand in a map. -/
def writtenField (field : String × Bytes) : Bytes := Pack.text field.1 ++ field.2

/-- They are read as an entry of the map. -/
structure SpelledField (field : String × Bytes) (entry : Packed × Packed) : Prop where
  size : field.1.utf8ByteSize < lengthLimit
  key : entry.1 = .text (Bytes.ofText field.1)
  value : Spelled field.2 entry.2

theorem readPairs_flatten {fields : List (String × Bytes)} {entries : List (Packed × Packed)}
    (h : List.Forall₂ SpelledField fields entries)
    (hf : 2 * (fields.map writtenField).flatten.length < fuel) :
    readPairs fuel fields.length ((fields.map writtenField).flatten ++ rest) =
      some (entries, rest) := by
  induction h generalizing fuel with
  | nil => rw [List.length_nil, List.map_nil, List.flatten_nil, List.nil_append, readPairs]
  | @cons field entry fields entries hfield _ ih =>
    obtain ⟨fuel, rfl⟩ : ∃ f, fuel = f + 1 := ⟨fuel - 1, by omega⟩
    obtain ⟨key, v⟩ := entry
    obtain rfl : key = .text (Bytes.ofText field.1) := hfield.key
    have hkey := spelled_text hfield.size
    have hpos := hkey.length_pos
    rw [List.map_cons, List.flatten_cons, writtenField, List.length_append,
      List.length_append] at hf
    rw [List.map_cons, List.flatten_cons, writtenField, List.append_assoc, List.append_assoc]
    exact readPairs_cons (hkey fuel _ (by omega)) (hfield.value fuel _ (by omega)) (ih (by omega))

theorem spelled_record {fields : List (String × Bytes)} {entries : List (Packed × Packed)}
    (h : List.Forall₂ SpelledField fields entries) (hlen : fields.length < lengthLimit) :
    Spelled (Pack.record fields) (.map entries) := by
  change Spelled (Pack.mapHeader fields.length ++ (fields.map writtenField).flatten) _
  intro fuel rest hf
  have hpos := length_pos_of_head fun _ => Head.read_mapHeader hlen
  rw [List.length_append] at hf
  obtain ⟨fuel, rfl⟩ : ∃ f, fuel = f + 1 := ⟨fuel - 1, by omega⟩
  rw [List.append_assoc, readWithin, Head.read_mapHeader hlen]
  simp only [readPairs_flatten h (by omega : _ < fuel), Option.map_some]

theorem spelled_nat (h : n < 0x10000000000000000) : Spelled (Pack.nat n) (.unsigned n) :=
  spelled_whole fun _ => Head.read_nat h

theorem spelled_bool (b : Bool) : Spelled (Pack.bool b) (.bool b) := by
  apply spelled_whole
  intro rest
  cases b <;> rfl

/-- What an integer is read as: without a sign unless it is negative. -/
def ofInt64 (n : Int64) : Packed :=
  if 0 ≤ n.toInt then .unsigned n.toInt.toNat else .signed n.toInt

theorem spelled_int (n : Int64) : Spelled (Pack.int n) (ofInt64 n) := by
  have hlow := n.le_toInt
  have hhigh := n.toInt_lt
  unfold Pack.int ofInt64
  split
  · exact spelled_nat (by omega)
  · next hneg =>
    have hn : -(((-n.toInt).toNat : Nat) : Int) = n.toInt := by omega
    have hspelled : Spelled (Pack.negative (-n.toInt).toNat)
        (.signed (-((-n.toInt).toNat : Int))) :=
      spelled_whole fun _ => Head.read_negative (by omega) (by omega)
    rwa [hn] at hspelled

end Packed

end RulesText
