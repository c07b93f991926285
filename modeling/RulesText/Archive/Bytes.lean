/-! Bytes: raw data, big-endian words and text as UTF-8. -/
namespace RulesText

/-- Raw data. -/
abbrev Bytes := List UInt8

namespace Bytes

/-- The lowest `width` bytes of a number, the most significant first. -/
def word : Nat → Nat → Bytes
  | 0, _ => []
  | width + 1, n => UInt8.ofNat (n >>> (8 * width)) :: word width n

/-- The number that bytes stand for, the most significant first. -/
def value (bs : Bytes) : Nat := bs.foldl (fun n b => 256 * n + b.toNat) 0

/-- Splits off the first `n` bytes, if there are as many. -/
def take? (n : Nat) (bs : Bytes) : Option (Bytes × Bytes) :=
  if bs.length < n then none else some (bs.take n, bs.drop n)

/-- A text as UTF-8. -/
def ofText (s : String) : Bytes := s.toByteArray.toList

/-- The text that bytes spell in UTF-8. -/
def text? (bs : Bytes) : Option String := String.fromUTF8? ⟨bs.toArray⟩

end Bytes

end RulesText
