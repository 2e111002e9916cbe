import MappedSql.Proofs.WrittenNumbers

/-!
Literals of scalars read back. A reader takes one literal from the front of a text, a number, bytes
in hexadecimal or a text between quotes, and says what it holds. What was written for a scalar is
found again exactly, and the reader stops where the literal ends, whatever delimits it.
-/

namespace MappedSql

open Number (Numeral)

/-- What a literal holds. A number is given without its point and with the number of its places. -/
inductive Payload where
  | number (mantissa : Int) (scale : Nat)
  | bytes (content : List UInt8)
  | text (content : List Char)
  deriving DecidableEq, Repr

namespace Payload

def readQuoted : List Char → Option (List Char × List Char)
  | [] => none
  | '\'' :: '\'' :: rest => (readQuoted rest).map fun (content, left) => ('\'' :: content, left)
  | '\'' :: rest => some ([], rest)
  | c :: rest => (readQuoted rest).map fun (content, left) => (c :: content, left)

def isHexDigit (c : Char) : Bool :=
  (Guid.digitValue? c).isSome

def readBytes : List Char → Option (List UInt8)
  | [] => some []
  | [_] => none
  | high :: low :: rest => do
      let upper ← Guid.digitValue? high
      let lower ← Guid.digitValue? low
      let others ← readBytes rest
      return UInt8.ofNat (upper * 16 + lower) :: others

def ofNumeral (numeral : Numeral) : Option Payload :=
  if numeral.exponent.isNone then some (number numeral.mantissa numeral.scale) else none

def read? (characters : List Char) : Option (Payload × List Char) :=
  match characters with
  | '\'' :: rest => (readQuoted rest).map fun (content, left) => (text content, left)
  | '0' :: 'x' :: rest =>
      (readBytes (rest.takeWhile isHexDigit)).map fun content =>
        (bytes content, rest.dropWhile isHexDigit)
  | _ => do
      let (numeral, left) ← Numeral.read characters
      let payload ← ofNumeral numeral
      return (payload, left)

example : read? "'it''s'''; GO".toList = some (text ['i', 't', '\'', 's', '\''], "; GO".toList) := by
  decide

def Delimited (rest : List Char) : Prop :=
  ∀ c ∈ rest.head?, c = ')' ∨ c = ',' ∨ c = ' ' ∨ c = ';'

theorem quoted_read_back (content rest : List Char) (unquoted : ∀ c ∈ rest.head?, c ≠ '\'') :
    readQuoted (Literal.escape content ++ '\'' :: rest) = some (content, rest) := by
  induction content with
  | nil =>
      cases rest with
      | nil => rfl
      | cons c more =>
          have other := unquoted c rfl
          simp [Literal.escape, readQuoted, other]
  | cons c more ih =>
      by_cases quote : c = '\''
      · subst quote
        simp [Literal.escape, readQuoted, ih]
      · rw [Literal.escape, if_neg quote, List.cons_append]
        unfold readQuoted
        split <;> simp_all

theorem delimited_unquoted (rest : List Char) (delimited : Delimited rest) :
    ∀ c ∈ rest.head?, c ≠ '\'' := by
  intro c first
  rcases delimited c first with rfl | rfl | rfl | rfl <;> decide

theorem text_read_back (content rest : List Char) (delimited : Delimited rest) :
    read? ('\'' :: (Literal.escape content ++ '\'' :: rest)) = some (text content, rest) := by
  simp [read?, quoted_read_back content rest (delimited_unquoted rest delimited)]

theorem byte_digits_values (byte : UInt8) :
    ∃ high low, Literal.byteDigits byte = [high, low] ∧
      Guid.digitValue? high = some (byte.toNat / 16) ∧
      Guid.digitValue? low = some (byte.toNat % 16) := by
  have digit : ∀ n < 16,
      Guid.digitValue? (if n < 10 then Char.ofNat (48 + n) else Char.ofNat (55 + n)) = some n := by
    decide
  have bounded : byte.toNat < 256 := byte.toNat_lt
  exact ⟨_, _, rfl, digit _ (by omega), digit _ (by omega)⟩

theorem digits_hexadecimal (content : List UInt8) :
    ∀ c ∈ content.flatMap Literal.byteDigits, isHexDigit c = true := by
  intro c member
  obtain ⟨byte, _, written⟩ := List.mem_flatMap.mp member
  obtain ⟨high, low, digits, upper, lower⟩ := byte_digits_values byte
  rw [digits, List.mem_cons, List.mem_singleton] at written
  rcases written with rfl | rfl
  · simp [isHexDigit, upper]
  · simp [isHexDigit, lower]

theorem bytes_of_digits (content : List UInt8) :
    readBytes (content.flatMap Literal.byteDigits) = some content := by
  induction content with
  | nil => rfl
  | cons byte rest ih =>
      obtain ⟨high, low, digits, upper, lower⟩ := byte_digits_values byte
      have whole : byte.toNat / 16 * 16 + byte.toNat % 16 = byte.toNat := by omega
      have same : UInt8.ofNat (byte.toNat / 16 * 16 + byte.toNat % 16) = byte := by
        rw [whole, UInt8.ofNat_toNat]
      rw [List.flatMap_cons, digits, List.cons_append, List.cons_append, List.nil_append]
      simp only [readBytes, upper, lower, ih, same, Option.bind_eq_bind, Option.bind_some]
      rfl

theorem bytes_read_back (content : List UInt8) (rest : List Char) (delimited : Delimited rest) :
    read? ('0' :: 'x' :: (content.flatMap Literal.byteDigits ++ rest)) =
      some (bytes content, rest) := by
  have all := digits_hexadecimal content
  have ends : ∀ c ∈ rest.head?, isHexDigit c = false := by
    intro c first
    rcases delimited c first with rfl | rfl | rfl | rfl <;> decide
  obtain ⟨taken, left⟩ := Number.span_exact isHexDigit _ rest all ends
  simp [read?, taken, left, bytes_of_digits]

theorem delimited_ended (rest : List Char) (delimited : Delimited rest) : Numeral.Ended rest := by
  intro c first
  rcases delimited c first with rfl | rfl | rfl | rfl <;> decide

-- A numeral begins neither with a quote nor like bytes: the numeral reader would find no numeral in
-- the one case, and a zero with an `x` behind it in the other.
theorem number_read_back (numeral : Numeral) (plain : numeral.Plain) (rest : List Char)
    (delimited : Delimited rest) :
    read? (numeral.characters ++ rest) =
      some (number numeral.mantissa numeral.scale, rest) := by
  have found := Numeral.read_back numeral plain rest (delimited_ended rest delimited)
  unfold read?
  split
  · rename_i after same
    rw [same] at found
    cases found
  · rename_i after same
    rw [same] at found
    obtain ⟨-, rfl⟩ := Prod.mk.inj (Option.some.inj found)
    rcases delimited 'x' rfl with other | other | other | other <;> cases other
  · simp [found, ofNumeral, plain.exponent]

end Payload

/-- What a literal holds for a reader. Floating-point numbers are written as decimal numbers that
stand for them, and an absent value is no scalar. -/
def Literal.payload? : Literal → Option Payload
  | integer value => some (.number value 0)
  | decimal value => some (.number value.mantissa value.scale)
  | bytes value => some (.bytes value)
  | text content true => some (.text content.toList)
  | _ => none

theorem Literal.payload_read_back (literal : Literal) (payload : Payload)
    (held : literal.payload? = some payload) (rest : List Char)
    (delimited : Payload.Delimited rest) :
    Payload.read? (literal.render.toList ++ rest) = some (payload, rest) := by
  cases literal with
  | null | float _ _ => cases held
  | integer value =>
      cases held
      rw [render, Numeral.integer_characters,
        Payload.number_read_back _ (Numeral.integer_plain value) rest delimited,
        Numeral.integer_mantissa, Numeral.integer_scale]
  | decimal value =>
      cases held
      have prints := Numeral.decimal_prints value
      rw [render, Numeral.decimal_characters,
        Payload.number_read_back _ prints.plain rest delimited, prints.mantissa, prints.scale]
  | bytes value =>
      cases held
      have closed := Payload.bytes_read_back value rest delimited
      simpa [render] using closed
  | text content quoted =>
      cases quoted with
      | false => cases held
      | true =>
          cases held
          have closed := Payload.text_read_back content.toList rest delimited
          simpa [render, textForm] using closed

theorem Literal.form_read (content : String) :
    Payload.read? (textForm content true).toList = some (.text content.toList, []) := by
  have read := (text content true).payload_read_back _ rfl [] nofun
  rwa [List.append_nil] at read

namespace Guid

theorem hex_digits_values (n : Nat) :
    ∃ values, (Nat.toDigits 16 n).mapM digitValue? = some values ∧
      values.length = (Nat.toDigits 16 n).length ∧
      values.foldl (fun total value => total * 16 + value) 0 = n := by
  have digit : ∀ n < 16, digitValue? n.digitChar = some n := by decide
  refine Number.digits_induction
    (motive := fun n digits => ∃ values, digits.mapM digitValue? = some values ∧
      values.length = digits.length ∧ values.foldl (fun total value => total * 16 + value) 0 = n)
    (by decide) (fun n small => ?_) (fun n front reached ih => ?_) n
  · exact ⟨[n], by simp [digit n small], rfl, by simp⟩
  · obtain ⟨values, read, length, total⟩ := ih
    have last := digit (n % 16) (by omega)
    refine ⟨values ++ [n % 16], by simp [List.mapM_append, read, last], by simp [length], ?_⟩
    rw [List.foldl_append, total]
    simp only [List.foldl_cons, List.foldl_nil]
    omega

theorem hex_digits_lower (n : Nat) :
    ∀ c ∈ Nat.toDigits 16 n, c.isUpper = false ∧ c ≠ '-' := by
  have digit : ∀ n < 16, n.digitChar.isUpper = false ∧ n.digitChar ≠ '-' := by decide
  refine Number.digits_induction
    (motive := fun _ digits => ∀ c ∈ digits, c.isUpper = false ∧ c ≠ '-')
    (by decide) (fun n small => ?_) (fun n front reached ih => ?_) n
  · exact List.forall_mem_singleton.mpr (digit n small)
  · exact List.forall_mem_append.mpr
      ⟨ih, List.forall_mem_singleton.mpr (digit (n % 16) (by omega))⟩

theorem digits_lower (guid : Guid) : ∀ c ∈ guid.digits, c.isUpper = false ∧ c ≠ '-' := by
  intro c member
  rcases List.mem_append.mp member with zero | digit
  · rw [List.eq_of_mem_replicate zero]
    decide
  · exact hex_digits_lower _ c digit

theorem grouped_digits (digits : List Char) (sizes : List Nat) (plain : ∀ c ∈ digits, c ≠ '-') :
    (grouped digits sizes).filter (· != '-') = digits := by
  induction sizes generalizing digits with
  | nil => simpa [grouped, List.filter_eq_self] using plain
  | cons size rest ih =>
      have front : (digits.take size).filter (· != '-') = digits.take size := by
        simpa [List.filter_eq_self] using fun c member => plain c (List.mem_of_mem_take member)
      have back := ih (digits.drop size) fun c member => plain c (List.mem_of_mem_drop member)
      simp [grouped, front, back]

theorem text_lower (guid : Guid) : ∀ c ∈ guid.text.toList, c.isUpper = false := by
  intro c member
  rw [text, String.toList_ofList] at member
  by_cases dash : c = '-'
  · subst dash
    decide
  · have digit : c ∈ guid.digits := by
      rw [← grouped_digits guid.digits [8, 4, 4, 4] fun c member => (guid.digits_lower c member).2]
      simpa [dash] using member
    exact (guid.digits_lower c digit).1

theorem text_read_back (guid : Guid) : ofText? guid.text = some guid := by
  obtain ⟨values, read, length, total⟩ := hex_digits_values guid.bits.toNat
  have short : (Nat.toDigits 16 guid.bits.toNat).length ≤ 32 :=
    (Nat.length_toDigits_le_iff (by decide) (by decide)).mpr guid.bits.isLt
  have zeros (count : Nat) :
      (List.replicate count '0').mapM digitValue? = some (List.replicate count 0) := by
    induction count with
    | zero => rfl
    | succ count ih =>
        have zero : digitValue? '0' = some 0 := by decide
        simp [List.replicate_succ, ih, zero]
  have nothing (count : Nat) :
      (List.replicate count 0).foldl (fun total value => total * 16 + value) 0 = 0 := by
    induction count with
    | zero => rfl
    | succ count ih => simpa [List.replicate_succ] using ih
  have digits : guid.text.toList.filter (· != '-') = guid.digits := by
    rw [text, String.toList_ofList]
    exact grouped_digits _ _ fun c member => (guid.digits_lower c member).2
  rw [ofText?, digits, Guid.digits]
  simp [List.mapM_append, zeros, read, length, total, nothing, Nat.sub_add_cancel short]

end Guid

namespace Value

def payload? (enumAs : EnumStorage) : Value → Option Payload
  | bool value => some (.number (if value then 1 else 0) 0)
  | integer _ value => some (.number value 0)
  | decimal value => some (.number value.mantissa value.scale)
  | bytes value => some (.bytes value)
  | char value => some (.text [value])
  | text value => some (.text value.toList)
  | guid value => some (.text value.text.toList)
  | enumeration value =>
      match enumAs with
      | .number => some (.number value.variant.discriminant 0)
      | .name => some (.text value.variant.name.toList)
  | _ => none

theorem literal_holds (policy : LiteralPolicy) (quoted : policy.quoted = true) (value : Value)
    (payload : Payload) (held : value.payload? policy.enumAs = some payload) :
    ∃ literal, value.literal policy = .ok literal ∧ literal.payload? = some payload := by
  cases value with
  | enumeration known =>
      cases stored : policy.enumAs with
      | number =>
          simp only [payload?, stored] at held
          exact ⟨.integer known.variant.discriminant, by simp [literal, scalarLiteral, stored], held⟩
      | name =>
          simp only [payload?, stored] at held
          exact ⟨.text known.variant.name true, by simp [literal, scalarLiteral, stored], held⟩
  | char _ | text _ | guid _ =>
      refine ⟨_, rfl, ?_⟩
      simpa [Literal.payload?, quoted, payload?] using held
  | bool _ | integer _ _ | decimal _ | bytes _ => exact ⟨_, rfl, held⟩
  | _ => cases held

/-- The literal of a scalar is read back from the front of a text, up to what delimits it, and holds
all there was in the value. The text of an identifier is in lower case and has that identifier. -/
theorem scalar_read_back (policy : LiteralPolicy) (quoted : policy.quoted = true) (value : Value)
    (payload : Payload) (held : value.payload? policy.enumAs = some payload) (rest : List Char)
    (delimited : Payload.Delimited rest) :
    (∃ written, value.render policy = .ok written ∧
        Payload.read? (written.toList ++ rest) = some (payload, rest)) ∧
      ∀ identifier, value = guid identifier →
        Guid.ofText? identifier.text = some identifier ∧
          ∀ c ∈ identifier.text.toList, c.isUpper = false := by
  obtain ⟨literal, made, holds⟩ := literal_holds policy quoted value payload held
  refine ⟨⟨literal.render, ?_, literal.payload_read_back payload holds rest delimited⟩, ?_⟩
  · rw [render, made]
    rfl
  · rintro identifier -
    exact ⟨identifier.text_read_back, identifier.text_lower⟩

/-- Quotes at both ends of a text, a decimal number below one, and no bytes at all. -/
theorem awkward_scalars_read_back :
    (∃ written, (text "'it's'").render .plain = .ok written ∧
        Payload.read? (written.toList ++ [';']) = some (.text "'it's'".toList, [';'])) ∧
      (∃ written, (decimal ⟨-5, 2⟩).render .plain = .ok written ∧
        Payload.read? (written.toList ++ [')']) = some (.number (-5) 2, [')'])) ∧
      ∃ written, (bytes []).render .plain = .ok written ∧
        Payload.read? (written.toList ++ []) = some (.bytes [], []) :=
  ⟨(scalar_read_back .plain rfl _ _ rfl [';'] (by simp [Payload.Delimited])).1,
    (scalar_read_back .plain rfl _ _ rfl [')'] (by simp [Payload.Delimited])).1,
    (scalar_read_back .plain rfl _ _ rfl [] nofun).1⟩

end Value

end MappedSql
