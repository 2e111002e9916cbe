import MappedSql.Expr.Lowering
import MappedSql.Proofs.Lexer
import MappedSql.Proofs.Outcome

/-!
Literals as tokens. A sound literal is a finite number or a text between quotes; every literal that
lowering makes is sound, and its text is one token, or two if it is a negative number.
-/

namespace MappedSql

namespace Number

open Lexer

theorem number_of_digits (digits : List Char) (present : digits ≠ [])
    (all : ∀ c ∈ digits, c.isDigit = true) : IsNumber digits := by
  cases digits with
  | nil => exact present rfl
  | cons c rest =>
      refine ⟨all c List.mem_cons_self, fun d member => ?_⟩
      simp [isNumberChar, Char.isAlphanum, all d (List.mem_cons_of_mem c member)]

-- Digits with a point after the first `whole` of them.
theorem number_of_point (digits : List Char) (whole : Nat) (present : digits ≠ [])
    (all : ∀ c ∈ digits, c.isDigit = true) (positive : 0 < whole) :
    IsNumber (digits.take whole ++ '.' :: digits.drop whole) := by
  cases digits with
  | nil => exact absurd rfl present
  | cons c rest =>
      obtain ⟨before, rfl⟩ := Nat.exists_eq_succ_of_ne_zero (Nat.ne_of_gt positive)
      simp only [List.take_succ_cons, List.cons_append, List.drop_succ_cons]
      refine ⟨all c List.mem_cons_self, fun d member => ?_⟩
      have digitOrPoint : d ∈ rest ∨ d = '.' := by
        rw [List.mem_append, List.mem_cons] at member
        rcases member with taken | point | dropped
        · exact .inl (List.mem_of_mem_take taken)
        · exact .inr point
        · exact .inl (List.mem_of_mem_drop dropped)
      rcases digitOrPoint with digit | rfl
      · simp [isNumberChar, Char.isAlphanum, all d (List.mem_cons_of_mem c digit)]
      · decide

theorem decimal_digits (n : Nat) : ∀ c ∈ Nat.toDigits 10 n, c.isDigit = true :=
  fun _ member => Nat.isDigit_of_mem_toDigits (by decide) (by decide) member

theorem decimal_digits_number (n : Nat) : IsNumber (Nat.toDigits 10 n) :=
  number_of_digits _ Nat.toDigits_ne_nil (decimal_digits n)

-- Digits filled up with zeros on the left.
theorem filled_digits (count n : Nat) :
    ∀ c ∈ List.replicate count '0' ++ Nat.toDigits 10 n, c.isDigit = true := by
  intro c member
  rcases List.mem_append.mp member with zero | digit
  · rw [List.eq_of_mem_replicate zero]
    decide
  · exact decimal_digits n c digit

theorem positional_number (d : ShortDecimal) : IsNumber (positional false d).toList := by
  unfold positional
  by_cases large : 0 ≤ d.exponent
  · simp only [large, ↓reduceIte, Bool.false_eq_true, String.append_empty, String.toList_ofList]
    refine number_of_digits _ (by simp [Nat.toDigits_ne_nil]) fun c member => ?_
    rcases List.mem_append.mp member with digit | zero
    · exact decimal_digits _ c digit
    · rw [List.eq_of_mem_replicate zero]
      decide
  · simp only [large, ↓reduceIte, String.toList_ofList]
    refine number_of_point _ _ (by simp [Nat.toDigits_ne_nil]) (filled_digits _ _) ?_
    have filled : (-d.exponent).toNat + 1 ≤ (List.replicate ((-d.exponent).toNat + 1 -
        (Nat.toDigits 10 d.digits).length) '0' ++ Nat.toDigits 10 d.digits).length := by
      simp only [List.length_append, List.length_replicate]
      omega
    omega

theorem magnitude_number (format : BinaryFormat) (significand : Nat) (exponent : Int) :
    IsNumber (magnitudeText .statement format significand exponent).toList := by
  have unscaled : magnitudeText .statement format significand exponent =
      positional false (ShortDecimal.ofBinary format .up significand exponent) := by
    simp [magnitudeText, Layout.statement]
  rw [unscaled]
  exact positional_number _

end Number

open Lexer

/-- A literal as a reader sees it: what kind of token it is, and what it holds. -/
inductive Leaf where
  | null
  | number (negative : Bool) (digits : List Char)
  | text (content : List Char)
  deriving DecidableEq, Repr

namespace Leaf

def tokens : Leaf → List Lexeme
  | null => [.word "NULL".toList]
  | number true digits => [.sign ['-'], .number digits]
  | number false digits => [.number digits]
  | text content => [.text content]

theorem tokenize_signed (negative : Bool) (digits : List Char) (number : IsNumber digits) :
    tokenize ((if negative then "-" else "").toList ++ digits) =
      some (Leaf.number negative digits).tokens := by
  cases negative with
  | false => exact tokenize_number digits number
  | true => exact tokenize_negative digits number

end Leaf

namespace Literal

def Sound : Literal → Prop
  | float _ value => value.isFinite = true
  | text _ quoted => quoted = true
  | _ => True

def leaf : Literal → Leaf
  | null => .null
  | integer value => .number (decide (value < 0)) (Nat.toDigits 10 value.natAbs)
  | float width (.finite negative significand exponent) =>
      .number negative (Number.magnitudeText .statement width.format significand exponent).toList
  | float _ _ => .null
  | decimal value =>
      .number (decide (value.mantissa < 0))
        (Number.Decimal.text ⟨value.mantissa.natAbs, value.scale⟩).toList
  | bytes value => .number false ('0' :: 'x' :: value.flatMap byteDigits)
  | text content _ => .text content.toList

theorem integer_text_signed (value : Int) : (Number.integerText value).toList =
    (if decide (value < 0) then "-" else "").toList ++ Nat.toDigits 10 value.natAbs := by
  cases value with
  | ofNat n => simp [Number.integerText, Number.digitsText]
  | negSucc n => simp [Number.integerText, Number.digitsText, Int.negSucc_lt_zero]

theorem decimal_text_signed (value : Number.Decimal) : value.text.toList =
    (if decide (value.mantissa < 0) then "-" else "").toList ++
      (Number.Decimal.text ⟨value.mantissa.natAbs, value.scale⟩).toList := by
  have nonnegative : ¬ ((value.mantissa.natAbs : Int) < 0) := by omega
  simp only [Number.Decimal.text, nonnegative, ↓reduceIte, Int.natAbs_natCast, decide_eq_true_eq,
    String.toList_append, String.toList_empty, List.nil_append]

theorem decimal_number (mantissa scale : Nat) :
    IsNumber (Number.Decimal.text ⟨mantissa, scale⟩).toList := by
  have nonnegative : ¬ ((mantissa : Int) < 0) := by omega
  simp only [Number.Decimal.text, nonnegative, ↓reduceIte, String.empty_append,
    String.toList_ofList, Int.natAbs_natCast, Number.padded]
  have present (count : Nat) : List.replicate count '0' ++ Nat.toDigits 10 mantissa ≠ [] := by
    simp [Nat.toDigits_ne_nil]
  by_cases unscaled : scale = 0
  · have all := Number.number_of_digits _ (present (1 - (Nat.toDigits 10 mantissa).length))
      (Number.filled_digits _ mantissa)
    subst unscaled
    rw [Nat.sub_zero, List.take_length]
    simpa using all
  · simp only [unscaled, ↓reduceIte]
    refine Number.number_of_point _ _ (present _) (Number.filled_digits _ mantissa) ?_
    simp only [List.length_append, List.length_replicate]
    omega

theorem byte_digits_alphanum (byte : UInt8) :
    ∀ c ∈ byteDigits byte, c.isAlphanum = true := by
  have digit : ∀ n < 16,
      (if n < 10 then Char.ofNat (48 + n) else Char.ofNat (55 + n)).isAlphanum = true := by decide
  have bounded : byte.toNat < 256 := byte.toNat_lt
  intro c member
  simp only [byteDigits, List.mem_cons, List.not_mem_nil, or_false] at member
  rcases member with rfl | rfl
  · exact digit _ (by omega)
  · exact digit _ (by omega)

theorem bytes_number (value : List UInt8) :
    IsNumber ('0' :: 'x' :: value.flatMap byteDigits) := by
  refine ⟨by decide, fun c member => ?_⟩
  rcases List.mem_cons.mp member with rfl | digit
  · decide
  · obtain ⟨byte, _, written⟩ := List.mem_flatMap.mp digit
    simp [isNumberChar, byte_digits_alphanum byte c written]

theorem tokenize_render (literal : Literal) (sound : literal.Sound) :
    tokenize literal.render.toList = some literal.leaf.tokens := by
  cases literal with
  | null => rfl
  | integer value =>
      rw [render, integer_text_signed]
      exact Leaf.tokenize_signed _ _ (Number.decimal_digits_number _)
  | float width value =>
      cases value with
      | nan => exact absurd sound (by simp [Sound, Number.Binary.isFinite])
      | infinite negative => exact absurd sound (by simp [Sound, Number.Binary.isFinite])
      | finite negative significand exponent =>
          rw [render, Number.Binary.text, String.toList_append]
          exact Leaf.tokenize_signed _ _ (Number.magnitude_number _ _ _)
  | decimal value =>
      rw [render, decimal_text_signed]
      exact Leaf.tokenize_signed _ _ (decimal_number _ _)
  | bytes value =>
      simp only [render, String.toList_append, String.toList_ofList]
      exact tokenize_number _ (bytes_number value)
  | text content quoted =>
      have closed : quoted = true := sound
      subst closed
      rw [render, textForm, String.toList_ofList]
      exact tokenize_quoted content.toList

end Literal

namespace Value

open Outcome

theorem scalar_literal_sound (policy : LiteralPolicy) (value : Value) (literal : Literal)
    (quoted : policy.quoted = true) (written : value.scalarLiteral policy = .ok literal) :
    literal.Sound := by
  cases value with
  | float width number =>
      by_cases finite : number.isFinite = true
      · simp only [scalarLiteral, finite, ↓reduceIte, Except.ok.injEq] at written
        exact written ▸ finite
      · simp [scalarLiteral, finite] at written
  | enumeration known =>
      cases stored : policy.enumAs <;>
        simp only [scalarLiteral, stored, Except.ok.injEq] at written <;>
        subst written <;> simp [Literal.Sound]
  | document _ | list _ | record _ _ => simp [scalarLiteral] at written
  | _ =>
      simp only [scalarLiteral, Except.ok.injEq] at written
      subst written
      simp [Literal.Sound, quoted]

theorem literal_sound (policy : LiteralPolicy) (value : Value) (literal : Literal)
    (quoted : policy.quoted = true) (written : value.literal policy = .ok literal) :
    literal.Sound := by
  unfold Value.literal at written
  split at written
  · obtain ⟨content, _, same⟩ := bind_ok_iff.mp written
    rw [pure_ok_iff] at same
    exact same ▸ quoted
  · obtain ⟨content, _, same⟩ := bind_ok_iff.mp written
    rw [pure_ok_iff] at same
    exact same ▸ quoted
  · exact scalar_literal_sound policy _ literal quoted written

-- The policies of columns ask for quotes, and so does the plain one.
theorem literal_beside_sound (value : Value) (beside : Option Column) (literal : Literal)
    (written : value.literalBeside beside = .ok literal) : literal.Sound := by
  cases beside with
  | none => exact literal_sound .plain value literal rfl written
  | some column =>
      cases known : column.kind.enumeration? with
      | none =>
          simp only [literalBeside, known] at written
          exact literal_sound column.policy value literal rfl written
      | some enumeration =>
          simp only [literalBeside, known] at written
          obtain ⟨coerced, _, rest⟩ := bind_ok_iff.mp written
          exact literal_sound column.policy coerced literal rfl rest

end Value

end MappedSql
