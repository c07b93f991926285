import Mathlib.Data.List.Induction
import Mathlib.Data.Nat.Digits.Defs
import RulesText.Lexicon.Basic

/-!
Numerals. A text is read as a number exactly if it spells one in base ten that fits into 64 bits,
and wherever texts become numbers, the same texts do.
-/
namespace RulesText

variable {s : String} {k : Nat} {n : Int64} {c : Char} {cs : List Char}

/-- The digits by their values. -/
def tenDigits : List Char := ['0', '1', '2', '3', '4', '5', '6', '7', '8', '9']

/-- A text spells a number: it is made of the ten digits, of at least one, and the number is the sum
of their values, each by the weight of its place. -/
structure Spells (s : String) (k : Nat) : Prop where
  nonempty : s ≠ ""
  digits : ∀ c ∈ s.toList, c ∈ tenDigits
  value : k = Nat.ofDigits 10 (s.toList.reverse.map (tenDigits.idxOf ·))

theorem isAsciiDigit_iff : Text.isAsciiDigit c = true ↔ c ∈ tenDigits := by
  constructor
  · intro h
    have htable : ∀ code < 58, 48 ≤ code → Char.ofNat code ∈ tenDigits := by decide
    have hcode : 48 ≤ c.toNat ∧ c.toNat ≤ 57 := by
      simpa [Text.isAsciiDigit, Char.le_def, UInt32.le_iff_toNat_le] using h
    have hc := htable c.toNat (by omega) hcode.1
    rwa [Char.ofNat_toNat] at hc
  · have htable : tenDigits.all Text.isAsciiDigit = true := by decide
    exact List.all_eq_true.mp htable c

theorem toNat_sub_eq_idxOf : ∀ c ∈ tenDigits, c.toNat - 48 = tenDigits.idxOf c := by
  have htable : (tenDigits.all fun c => c.toNat - 48 == tenDigits.idxOf c) = true := by decide
  exact fun c hc => beq_iff_eq.mp (List.all_eq_true.mp htable c hc)

/-- Reading the digits from the left gives the sum over their places. -/
theorem decimalValue_eq_ofDigits (h : ∀ c ∈ cs, c ∈ tenDigits) :
    decimalValue cs = Nat.ofDigits 10 (cs.reverse.map (tenDigits.idxOf ·)) := by
  induction cs using List.reverseRecOn with
  | nil => rfl
  | append_singleton cs c ih =>
    have hstep : decimalValue (cs ++ [c]) = 10 * decimalValue cs + (c.toNat - 48) := by
      simp [decimalValue]
    rw [hstep, ih fun d hd => h d (List.mem_append_left _ hd),
      toNat_sub_eq_idxOf c (h c (by simp)), List.reverse_concat, List.map_cons, Nat.ofDigits_cons,
      Nat.add_comm]

theorem spells_decimalValue (hs : s ≠ "") (h : ∀ c ∈ s.toList, c ∈ tenDigits) :
    Spells s (decimalValue s.toList) :=
  ⟨hs, h, decimalValue_eq_ofDigits h⟩

theorem Spells.eq_decimalValue (h : Spells s k) : k = decimalValue s.toList :=
  h.value.trans (decimalValue_eq_ofDigits h.digits).symm

/-- A text that spells a number is read as that number if it is not too large, however many digits
it has, and else as none. -/
theorem Spells.numeral?_eq (h : Spells s k) :
    numeral? s = if k ≤ maxNumeral then some (Int64.ofNat k) else none := by
  have hempty : s.toList.isEmpty = false := by simpa using h.nonempty
  have hall : s.toList.all Text.isAsciiDigit = true :=
    List.all_eq_true.mpr fun c hc => isAsciiDigit_iff.mpr (h.digits c hc)
  simp [numeral?, hempty, hall, h.eq_decimalValue]

theorem spells_of_numeral? (h : numeral? s = some n) : ∃ k, Spells s k := by
  simp only [numeral?] at h
  split at h
  · cases h
  · next hdigits =>
    simp only [Bool.or_eq_true, Bool.not_eq_true', not_or, Bool.not_eq_true, Bool.not_eq_false,
      List.all_eq_true, isAsciiDigit_iff] at hdigits
    exact ⟨_, spells_decimalValue (by simpa using hdigits.1) hdigits.2⟩

theorem toInt_ofNat_of_le (hk : k ≤ maxNumeral) : (Int64.ofNat k).toInt = k :=
  Int64.toInt_ofNat_of_lt (by unfold maxNumeral at hk; omega)

theorem numeral?_eq_some_iff :
    numeral? s = some n ↔ ∃ k, Spells s k ∧ k ≤ maxNumeral ∧ n.toInt = k := by
  constructor
  · intro h
    obtain ⟨k, hk⟩ := spells_of_numeral? h
    rw [hk.numeral?_eq] at h
    split at h
    · next hle =>
      obtain rfl := Option.some.inj h
      exact ⟨k, hk, hle, toInt_ofNat_of_le hle⟩
    · cases h
  · rintro ⟨k, hk, hle, hn⟩
    have hsame : Int64.ofNat k = n := Int64.toInt_inj.mp ((toInt_ofNat_of_le hle).trans hn.symm)
    rw [hk.numeral?_eq, if_pos hle, hsame]

/-- A fragment is a number only if it is a numeral but for the white space around it: what the table
reads it into is a symbol or nothing. -/
theorem TextReader.value_eq_int_iff (read : TextReader) :
    read.value (some s) = .ok (.int n) ↔ numeral? (Text.trim s) = some n := by
  cases hn : numeral? (Text.trim s) with
  | some m => simp [value, hn]
  | none =>
    simp only [value, hn, reduceCtorEq, iff_false]
    intro h
    obtain ⟨o, -, ho⟩ := Outcome.of_map_ok h
    cases o <;> cases ho

/-- A text is a numeral exactly if it spells a number of at most 64 bits, sign included, and it then
stands for that number and no other. A captured text, a leaf on a line, a string that is asked for
an integer and a fragment that is to be read all go by that. -/
theorem numerals_exact_everywhere (s : String) :
    (∀ n : Int64, numeral? s = some n ↔ ∃ k : Nat, Spells s k ∧ k ≤ 2 ^ 63 - 1 ∧ n.toInt = k) ∧
    (∀ k, Spells s k → k ≤ 2 ^ 63 - 1 → ∃ n, numeral? s = some n ∧ n.toInt = k) ∧
    ((∃ n, numeral? s = some n ∧ Value.ofText s = .int n ∧
        (Value.str s).scalar? = some (.int n)) ∨
      numeral? s = none ∧ Value.ofText s = .str s ∧ (Value.str s).scalar? = some (.str s)) ∧
    (Value.str s).int? = numeral? s ∧
    ∀ (l : Lexicon) (n : Int64),
      l.lexValue (some s) = .ok (.int n) ↔ numeral? (Text.trim s) = some n := by
  refine ⟨fun n => numeral?_eq_some_iff, ?_, ?_, rfl, fun l n => TextReader.value_eq_int_iff l.lex⟩
  · intro k hk hle
    have hn := hk.numeral?_eq
    rw [if_pos (show k ≤ maxNumeral from hle)] at hn
    exact ⟨Int64.ofNat k, hn, toInt_ofNat_of_le hle⟩
  · cases hn : numeral? s with
    | some n =>
      refine .inl ⟨n, rfl, ?_, ?_⟩
      · rw [Value.ofText, hn]
        rfl
      · rw [Value.scalar?, Scalar.ofText, hn]
        rfl
    | none =>
      refine .inr ⟨rfl, ?_, ?_⟩
      · rw [Value.ofText, hn]
        rfl
      · rw [Value.scalar?, Scalar.ofText, hn]
        rfl

/-- The largest number, with more digits than a word holds. -/
theorem numerals_exact_padded :
    let s := "000000000000009223372036854775807"
    Spells s (2 ^ 63 - 1) ∧ ∃ n, numeral? s = some n ∧ n.toInt = (2 ^ 63 - 1 : Nat) := by
  intro s
  have hs : Spells s (2 ^ 63 - 1) := by
    refine ⟨by decide, fun c hc => isAsciiDigit_iff.mp ?_, by decide +kernel⟩
    have hall : s.toList.all Text.isAsciiDigit = true := by decide +kernel
    exact List.all_eq_true.mp hall c hc
  exact ⟨hs, (numerals_exact_everywhere s).2.1 _ hs (Nat.le_refl _)⟩

-- One more does not wrap around, and digits outside the ten are none.
example : numeral? "9223372036854775808" = none ∧ numeral? "٣" = none := by decide +kernel

end RulesText
