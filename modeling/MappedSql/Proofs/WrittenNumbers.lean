import MappedSql.Number.Numeral
import MappedSql.Proofs.LiteralTokens
import Mathlib.Data.List.Induction

/-!
Numerals read back. The texts of whole numbers and of decimals are numerals without an exponent. The
reader finds such a numeral at the front of a text again, whatever follows that does not prolong it.
-/

namespace MappedSql.Number

theorem digits_value_chars (digits : List Char) :
    digitsValue digits = Nat.ofDigitChars 10 digits 0 := by
  rw [digitsValue, Nat.ofDigitChars_eq_foldl]
  simp only [Nat.mul_comm]

theorem padded_chars (width n : Nat) : (padded width n).toList =
    List.replicate (width - (Nat.toDigits 10 n).length) '0' ++ Nat.toDigits 10 n :=
  String.toList_ofList

theorem filled_digits_value (count n : Nat) :
    digitsValue (List.replicate count '0' ++ Nat.toDigits 10 n) = n := by
  rw [digits_value_chars, Nat.ofDigitChars_append, Nat.ofDigitChars_replicate_zero, Nat.mul_zero,
    Nat.ofDigitChars_ten_toDigits]

theorem decimal_digits_value (n : Nat) : digitsValue (Nat.toDigits 10 n) = n :=
  filled_digits_value 0 n

/-- From the last digit to the first, as digits are made: a number below the base is one digit, and
any other has the digits of its quotient before the digit of its remainder. -/
theorem digits_induction {base : Nat} {motive : Nat → List Char → Prop} (large : 1 < base)
    (digit : ∀ n < base, motive n [n.digitChar])
    (more : ∀ n front, base ≤ n → motive (n / base) front →
      motive n (front ++ [(n % base).digitChar])) (n : Nat) : motive n (Nat.toDigits base n) := by
  induction n using Nat.strongRecOn with
  | ind n ih =>
      by_cases small : n < base
      · rw [Nat.toDigits_of_lt_base small]
        exact digit n small
      · have reached := Nat.not_lt.mp small
        rw [Nat.toDigits_of_base_le large reached]
        exact more n _ reached (ih (n / base) (Nat.div_lt_self (by omega) large))

-- All digits of a number that has more than one begin like the digits without the last.
theorem leading_zero (n : Nat) (rest : List Char) (digits : Nat.toDigits 10 n = '0' :: rest) :
    rest = [] := by
  have begins : Nat.toDigits 10 n ≠ [] ∧ ∀ rest, Nat.toDigits 10 n = '0' :: rest → n = 0 := by
    refine digits_induction
      (motive := fun n digits => digits ≠ [] ∧ ∀ rest, digits = '0' :: rest → n = 0)
      (by decide) (fun n _ => ?_) (fun n front reached ih => ?_) n
    · exact ⟨List.cons_ne_nil _ _, fun rest same => Nat.digitChar_eq_zero.mp (List.cons.inj same).1⟩
    · obtain ⟨present, zero⟩ := ih
      obtain ⟨first, later, rfl⟩ := List.exists_cons_of_ne_nil present
      refine ⟨List.cons_ne_nil _ _, fun rest same => ?_⟩
      have zeroed := zero later (by rw [(List.cons.inj same).1])
      omega
  obtain rfl := begins.2 rest digits
  exact (List.cons.inj digits).2.symm

theorem digit_char {c : Char} (digit : c.isDigit = true) :
    c.toNat - '0'.toNat < 10 ∧ (c.toNat - '0'.toNat).digitChar = c := by
  have each : ∀ code < 58, 48 ≤ code → (code - 48).digitChar = Char.ofNat code := by decide
  obtain ⟨first, last⟩ := Char.isDigit_iff_toNat.mp digit
  have same := each c.toNat (Nat.lt_succ_of_le last) first
  rw [Char.ofNat_toNat] at same
  exact ⟨by simp only [Char.reduceToNat] at last ⊢; omega, same⟩

-- Digits are those of their value with zeros in front.
theorem digits_filled (digits : List Char) (present : digits ≠ [])
    (all : ∀ c ∈ digits, c.isDigit = true) :
    (padded digits.length (digitsValue digits)).toList = digits := by
  rw [padded_chars]
  induction digits using List.reverseRecOn with
  | nil => exact absurd rfl present
  | append_singleton front c ih =>
      obtain ⟨inFront, last⟩ := List.forall_mem_append.mp all
      obtain ⟨small, same⟩ := digit_char (last c List.mem_cons_self)
      have value : digitsValue (front ++ [c]) = 10 * digitsValue front + (c.toNat - '0'.toNat) := by
        simp [digitsValue, Nat.mul_comm]
      have single := Nat.toDigits_of_lt_base small
      rw [value, List.length_append, List.length_singleton]
      rcases Nat.eq_zero_or_pos (digitsValue front) with zero | positive
      · have zeros : front = List.replicate front.length '0' := by
          by_cases nothing : front = []
          · rw [nothing]; rfl
          · have before := ih nothing inFront
            rw [zero, Nat.toDigits_zero] at before
            refine List.eq_replicate_of_mem fun digit member => ?_
            rw [← before] at member
            rcases List.mem_append.mp member with early | last
            · exact List.eq_of_mem_replicate early
            · exact List.mem_singleton.mp last
        rw [zero, Nat.mul_zero, Nat.zero_add, single, same, List.length_singleton,
          Nat.add_sub_cancel, ← zeros]
      · have several : front ≠ [] := by
          rintro rfl
          cases positive
        rw [← Nat.toDigits_append_toDigits (by decide) positive small, single, same,
          List.length_append, List.length_singleton, Nat.add_sub_add_right, ← List.append_assoc,
          ih several inFront]

-- The digits of a number with at least so many of them: zeros stand in front only to make up the
-- width.
theorem padded_iff {width n : Nat} (wide : 0 < width) {digits : List Char}
    (all : ∀ c ∈ digits, c.isDigit = true) :
    digits = (padded width n).toList ↔ digitsValue digits = n ∧ width ≤ digits.length ∧
      (digits.head? = some '0' → digits.length = width) := by
  rw [padded_chars]
  constructor
  · rintro rfl
    refine ⟨filled_digits_value _ n, ?_, fun zero => ?_⟩
    · rw [List.length_append, List.length_replicate]
      omega
    · rcases Nat.le_total (Nat.toDigits 10 n).length width with few | many
      · rw [List.length_append, List.length_replicate, Nat.sub_add_cancel few]
      · rw [Nat.sub_eq_zero_of_le many, List.replicate_zero, List.nil_append] at zero ⊢
        obtain ⟨rest, begins⟩ := List.head?_eq_some_iff.mp zero
        have alone : (Nat.toDigits 10 n).length = 1 := by rw [begins, leading_zero n rest begins]; rfl
        omega
  · rintro ⟨rfl, enough, short⟩
    have present : digits ≠ [] := List.ne_nil_of_length_pos (Nat.lt_of_lt_of_le wide enough)
    have filled := digits_filled digits present all
    rw [padded_chars] at filled
    by_cases zero : digits.head? = some '0'
    · rw [← short zero, filled]
    · rcases Nat.eq_zero_or_pos (digits.length - (Nat.toDigits 10 (digitsValue digits)).length) with
        full | more
      · rw [full, List.replicate_zero, List.nil_append] at filled
        rw [filled, Nat.sub_eq_zero_of_le enough, List.replicate_zero, List.nil_append]
      · obtain ⟨count, counted⟩ := Nat.exists_eq_succ_of_ne_zero (Nat.ne_of_gt more)
        rw [counted, List.replicate_succ, List.cons_append] at filled
        exact absurd (by rw [← filled]; rfl) zero

theorem span_exact (holds : Char → Bool) (front rest : List Char)
    (all : ∀ c ∈ front, holds c = true) (ends : ∀ c ∈ rest.head?, holds c = false) :
    (front ++ rest).takeWhile holds = front ∧ (front ++ rest).dropWhile holds = rest := by
  rw [List.takeWhile_append_of_pos all, List.dropWhile_append_of_pos all]
  cases rest with
  | nil => simp
  | cons c more => simp [ends c rfl]

namespace Numeral

def characters (numeral : Numeral) : List Char :=
  (if numeral.negative then ['-'] else []) ++
    (numeral.whole ++ (numeral.fraction.map ('.' :: ·)).getD [])

structure Plain (numeral : Numeral) : Prop where
  present : numeral.whole ≠ []
  whole : ∀ c ∈ numeral.whole, c.isDigit = true
  fraction : ∀ places ∈ numeral.fraction, places ≠ [] ∧ ∀ c ∈ places, c.isDigit = true
  exponent : numeral.exponent = none

def Ended (rest : List Char) : Prop :=
  ∀ c ∈ rest.head?, c.isDigit = false ∧ c ≠ '.' ∧ c ≠ 'e' ∧ c ≠ 'E'

theorem read_sign (negative : Bool) (digits rest : List Char) (present : digits ≠ [])
    (all : ∀ c ∈ digits, c.isDigit = true) :
    readSign ((if negative then ['-'] else []) ++ (digits ++ rest)) = (negative, digits ++ rest) := by
  cases negative with
  | true => rfl
  | false =>
      cases digits with
      | nil => exact absurd rfl present
      | cons c more =>
          have first := all c List.mem_cons_self
          rw [if_neg Bool.false_ne_true, List.nil_append, List.cons_append]
          unfold readSign
          split
          · rename_i same
            rw [(List.cons.inj same).1] at first
            cases first
          · rfl

theorem read_exponent (rest : List Char) (ended : Ended rest) :
    readExponent rest = some (none, rest) := by
  cases rest with
  | nil => rfl
  | cons c more =>
      obtain ⟨_, _, lower, upper⟩ := ended c rfl
      simp [readExponent, lower, upper]

theorem read_fraction (numeral : Numeral) (plain : numeral.Plain) (rest : List Char)
    (ended : Ended rest) :
    readFraction ((numeral.fraction.map ('.' :: ·)).getD [] ++ rest) =
      some (numeral.fraction, rest) := by
  cases known : numeral.fraction with
  | none =>
      cases rest with
      | nil => rfl
      | cons c more =>
          have point := (ended c rfl).2.1
          simp [readFraction, point]
  | some places =>
      obtain ⟨present, all⟩ := plain.fraction places known
      obtain ⟨taken, left⟩ := span_exact Char.isDigit places rest all fun c first => (ended c first).1
      simp [readFraction, taken, left, present]

theorem read_back (numeral : Numeral) (plain : numeral.Plain) (rest : List Char)
    (ended : Ended rest) : read (numeral.characters ++ rest) = some (numeral, rest) := by
  let after := (numeral.fraction.map ('.' :: ·)).getD [] ++ rest
  have ends : ∀ c ∈ after.head?, c.isDigit = false := by
    cases known : numeral.fraction with
    | none => simpa [after, known] using fun c first => (ended c first).1
    | some places => simp [after, known]
  obtain ⟨taken, left⟩ := span_exact Char.isDigit numeral.whole after plain.whole ends
  have sign := read_sign numeral.negative numeral.whole after plain.present plain.whole
  have fraction := read_fraction numeral plain rest ended
  rw [characters, List.append_assoc, List.append_assoc, read, sign]
  simp [taken, left, plain.present, after, fraction, read_exponent rest ended, ← plain.exponent]

/-! What a numeral stands for is read off its digits alone. Decimals with a scale are printed
outside of this library, and it is relied on that their digits show the mantissa and the scale;
there is one numeral that does so without a zero too many. -/

/-- All digits as one number, with the sign: the number without its point. -/
def mantissa (numeral : Numeral) : Int :=
  let value : Int := digitsValue (numeral.whole ++ numeral.fraction.getD [])
  if numeral.negative then -value else value

def scale (numeral : Numeral) : Nat :=
  (numeral.fraction.getD []).length

theorem signed_magnitude (value : Int) :
    (if decide (value < 0) then -(value.natAbs : Int) else value.natAbs) = value := by
  by_cases negative : value < 0
  · rw [decide_eq_true negative, if_pos rfl]
    omega
  · rw [decide_eq_false negative, if_neg Bool.false_ne_true]
    omega

theorem sign_characters (negative : Bool) :
    (if negative then "-" else "").toList = if negative then ['-'] else [] := by
  cases negative <;> rfl

def ofInteger (value : Int) : Numeral :=
  ⟨decide (value < 0), Nat.toDigits 10 value.natAbs, none, none⟩

theorem integer_plain (value : Int) : (ofInteger value).Plain where
  present := Nat.toDigits_ne_nil
  whole := decimal_digits value.natAbs
  fraction := nofun
  exponent := rfl

theorem integer_characters (value : Int) :
    (integerText value).toList = (ofInteger value).characters := by
  rw [Literal.integer_text_signed, sign_characters]
  simp [characters, ofInteger]

theorem integer_mantissa (value : Int) : (ofInteger value).mantissa = value := by
  simp only [mantissa, ofInteger, Option.getD_none, List.append_nil, decimal_digits_value]
  exact signed_magnitude value

theorem integer_scale (value : Int) : (ofInteger value).scale = 0 := rfl

def decimalDigits (value : Decimal) : List Char :=
  (padded (value.scale + 1) value.mantissa.natAbs).toList

def ofDecimal (value : Decimal) : Numeral :=
  let digits := decimalDigits value
  let whole := digits.length - value.scale
  ⟨decide (value.mantissa < 0), digits.take whole,
    if value.scale = 0 then none else some (digits.drop whole), none⟩

theorem more_digits (value : Decimal) : value.scale < (decimalDigits value).length := by
  rw [decimalDigits, padded_chars, List.length_append, List.length_replicate]
  omega

theorem decimal_all_digit (value : Decimal) : ∀ c ∈ decimalDigits value, c.isDigit = true := by
  rw [decimalDigits, padded_chars]
  exact filled_digits _ _

theorem decimal_plain (value : Decimal) : (ofDecimal value).Plain where
  present := by
    have more := more_digits value
    rw [ofDecimal, ← List.length_pos_iff, List.length_take]
    omega
  whole c member := decimal_all_digit value c (List.mem_of_mem_take member)
  fraction places known := by
    have more := more_digits value
    by_cases unscaled : value.scale = 0
    · simp [ofDecimal, unscaled] at known
    · obtain rfl : (decimalDigits value).drop _ = places := by
        simpa only [ofDecimal, unscaled, ↓reduceIte, Option.mem_some_iff] using known
      refine ⟨?_, fun c member => decimal_all_digit value c (List.mem_of_mem_drop member)⟩
      rw [← List.length_pos_iff, List.length_drop]
      omega
  exponent := rfl

theorem decimal_characters (value : Decimal) :
    value.text.toList = (ofDecimal value).characters := by
  have nonnegative : ¬ ((value.mantissa.natAbs : Int) < 0) := by omega
  rw [Literal.decimal_text_signed, sign_characters]
  simp only [Decimal.text, nonnegative, ↓reduceIte, Int.natAbs_natCast, String.empty_append,
    String.toList_ofList, characters, ofDecimal, decimalDigits]
  by_cases unscaled : value.scale = 0 <;> simp [unscaled]

theorem decimal_digits_split (value : Decimal) :
    (ofDecimal value).whole ++ (ofDecimal value).fraction.getD [] = decimalDigits value := by
  by_cases unscaled : value.scale = 0
  · simp [ofDecimal, unscaled]
  · simp only [ofDecimal, unscaled, ↓reduceIte, Option.getD_some, List.take_append_drop]

theorem decimal_mantissa (value : Decimal) : (ofDecimal value).mantissa = value.mantissa := by
  simp only [mantissa, decimal_digits_split, decimalDigits, padded_chars, filled_digits_value]
  exact signed_magnitude value.mantissa

theorem decimal_scale (value : Decimal) : (ofDecimal value).scale = value.scale := by
  have more := more_digits value
  by_cases unscaled : value.scale = 0
  · simp [scale, ofDecimal, unscaled]
  · simp only [scale, ofDecimal, unscaled, ↓reduceIte, Option.getD_some, List.length_drop]
    omega

/-- What a printer of decimals is relied on for: all digits of the mantissa, exactly `scale` of them
behind the point, no zero in front that could be left out, and a sign for what is negative. -/
structure Prints (numeral : Numeral) (value : Decimal) : Prop where
  plain : numeral.Plain
  mantissa : numeral.mantissa = value.mantissa
  scale : numeral.scale = value.scale
  sign : numeral.negative = decide (value.mantissa < 0)
  shortest : numeral.whole.head? = some '0' → numeral.whole = ['0']

theorem decimal_prints (value : Decimal) : (ofDecimal value).Prints value where
  plain := decimal_plain value
  mantissa := decimal_mantissa value
  scale := decimal_scale value
  sign := rfl
  shortest zero := by
    have more := more_digits value
    have first : (decimalDigits value).head? = some '0' := by
      simpa [ofDecimal, List.head?_take, Nat.sub_eq_zero_iff_le, Nat.not_le.mpr more] using zero
    have length := ((padded_iff (Nat.succ_pos value.scale) (decimal_all_digit value)).mp rfl).2.2 first
    obtain ⟨rest, begins⟩ := List.head?_eq_some_iff.mp first
    change (decimalDigits value).take ((decimalDigits value).length - value.scale) = ['0']
    rw [length, Nat.succ_sub (Nat.le_refl value.scale), Nat.sub_self, begins]
    rfl

theorem prints_unique (numeral : Numeral) (value : Decimal) (prints : numeral.Prints value) :
    numeral = ofDecimal value := by
  obtain ⟨plain, mantissa, scale, sign, shortest⟩ := prints
  have allDigits : ∀ c ∈ numeral.whole ++ numeral.fraction.getD [], c.isDigit = true := by
    refine List.forall_mem_append.mpr ⟨plain.whole, ?_⟩
    cases places : numeral.fraction with
    | none => nofun
    | some _ => exact (plain.fraction _ places).2
  have digits : numeral.whole ++ numeral.fraction.getD [] = decimalDigits value := by
    refine (padded_iff (Nat.succ_pos value.scale) allDigits).mpr ⟨?_, ?_, fun zero => ?_⟩
    · simp only [Numeral.mantissa] at mantissa
      split_ifs at mantissa <;> omega
    · have whole := List.length_pos_iff.mpr plain.present
      rw [List.length_append, ← scale, Numeral.scale]
      omega
    · rw [List.head?_append_of_ne_nil _ plain.present] at zero
      rw [List.length_append, shortest zero, ← scale, Numeral.scale, List.length_singleton,
        Nat.add_comm]
  obtain ⟨negative, whole, fraction, exponent⟩ := numeral
  have count : (whole ++ fraction.getD []).length - value.scale = whole.length := by
    rw [List.length_append, ← scale, Numeral.scale, Nat.add_sub_cancel]
  obtain rfl : exponent = none := plain.exponent
  obtain rfl : negative = _ := sign
  simp only [ofDecimal, ← digits, count, List.take_left, List.drop_left]
  cases fraction with
  | none => simp [← scale, Numeral.scale]
  | some places =>
      obtain ⟨present, _⟩ := plain.fraction places rfl
      simp [← scale, Numeral.scale, present]

theorem characters_injective (first second : Numeral) (one : first.Plain) (other : second.Plain)
    (same : first.characters = second.characters) : first = second := by
  have ended : Ended [] := by simp [Ended]
  have read := read_back first one [] ended
  rw [same, read_back second other [] ended] at read
  exact (Prod.mk.inj (Option.some.inj read)).1.symm

theorem decimal_text_iff (value : Decimal) (numeral : Numeral) (plain : numeral.Plain) :
    value.text.toList = numeral.characters ↔ numeral.Prints value := by
  rw [decimal_characters]
  constructor
  · intro same
    rw [← characters_injective _ numeral (decimal_plain value) plain same]
    exact decimal_prints value
  · intro prints
    rw [prints_unique numeral value prints]

end Numeral

end MappedSql.Number
