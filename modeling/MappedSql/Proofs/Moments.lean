import MappedSql.Proofs.DayNumbers
import MappedSql.Proofs.ItemLists
import MappedSql.Proofs.WrittenNumbers

/-!
Moments, and how statements show them. A moment is a count of seconds since the start of Unix time;
a local clock is ahead of it by its offset. Each moment has one timestamp in universal time, and
the literal of a time with an offset shows the date and the clock of that one, whatever the offset.
-/

namespace MappedSql

namespace Calendar

structure Moment where
  seconds : Int
  nanosecond : Nat
  deriving DecidableEq, Repr

namespace Timestamp

def moment (timestamp : Timestamp) : Moment where
  seconds := secondsPerDay * (timestamp.date.number - Date.epoch.number) + timestamp.time.second
  nanosecond := timestamp.time.nanosecond

example : moment ⟨⟨1969, 12, 31, by decide, by decide, by decide, by decide⟩,
    ⟨86399, 5, by decide⟩⟩ = ⟨-1, 5⟩ := by
  decide

theorem moment_injective (first second : Timestamp) (same : first.moment = second.moment) :
    first = second := by
  obtain ⟨seconds, nanosecond⟩ := Moment.mk.inj same
  obtain ⟨date, time⟩ := first
  obtain ⟨other, clock⟩ := second
  have early := time.second_lt
  have late := clock.second_lt
  dsimp only at seconds nanosecond
  simp only [secondsPerDay] at seconds early late
  have day : date.number = other.number := by omega
  have second : time.second = clock.second := by omega
  obtain rfl := Date.number_injective date other day
  cases time
  cases clock
  simp_all

-- The seconds that go over midnight on either side are days that the date is moved by.
theorem minus_seconds_moment (timestamp : Timestamp) (seconds : Int) :
    (timestamp.minusSeconds seconds).moment =
      ⟨timestamp.moment.seconds - seconds, timestamp.moment.nanosecond⟩ := by
  simp only [moment, minusSeconds, Date.number_add_days, Moment.mk.injEq, and_true, secondsPerDay]
  omega

end Timestamp

namespace OffsetTimestamp

/-- A local clock that is east of universal time shows a moment so much later. -/
def moment (timestamp : OffsetTimestamp) : Moment where
  seconds := timestamp.localTime.moment.seconds - timestamp.offset
  nanosecond := timestamp.localTime.moment.nanosecond

theorem utc_moment (timestamp : OffsetTimestamp) : timestamp.utc.moment = timestamp.moment :=
  timestamp.localTime.minus_seconds_moment timestamp.offset

theorem utc_iff (timestamp : OffsetTimestamp) (utc : Timestamp) :
    utc.moment = timestamp.moment ↔ utc = timestamp.utc := by
  rw [← timestamp.utc_moment]
  exact ⟨utc.moment_injective timestamp.utc, congrArg Timestamp.moment⟩

end OffsetTimestamp

structure ClockFields where
  year : Int
  month : Nat
  day : Nat
  hour : Nat
  minute : Nat
  second : Nat
  deriving DecidableEq, Repr

def Timestamp.fields (timestamp : Timestamp) : ClockFields where
  year := timestamp.date.year
  month := timestamp.date.month
  day := timestamp.date.day
  hour := timestamp.time.hour
  minute := timestamp.time.minute
  second := timestamp.time.clockSecond

namespace ClockFields

def sign : List Char → Bool × List Char
  | '-' :: rest => (true, rest)
  | '+' :: rest => (false, rest)
  | text => (false, text)

def numberBefore? (mark : Char) (text : List Char) : Option (Nat × List Char) :=
  let digits := text.takeWhile Char.isDigit
  match text.dropWhile Char.isDigit with
  | c :: rest =>
      if digits ≠ [] ∧ c = mark then some (Number.digitsValue digits, rest) else none
  | [] => none

def read? (text : List Char) : Option ClockFields := do
  let (negative, text) := sign text
  let (year, text) ← numberBefore? '-' text
  let (month, text) ← numberBefore? '-' text
  let (day, text) ← numberBefore? 'T' text
  let (hour, text) ← numberBefore? ':' text
  let (minute, text) ← numberBefore? ':' text
  let (second, text) ← numberBefore? 'Z' text
  if text.isEmpty then
    some ⟨if negative then -year else year, month, day, hour, minute, second⟩
  else none

example : read? "-0044-03-15T12:00:60Z".toList = some ⟨-44, 3, 15, 12, 0, 60⟩ := by decide

section Padded

variable (width n : Nat)

theorem padded_digits : ∀ c ∈ (Number.padded width n).toList, c.isDigit = true := by
  rw [Number.padded_chars]
  exact Number.filled_digits _ n

theorem padded_value : Number.digitsValue (Number.padded width n).toList = n := by
  rw [Number.padded_chars]
  exact Number.filled_digits_value _ n

theorem padded_present : (Number.padded width n).toList ≠ [] := by
  rw [Number.padded_chars]
  simp [Nat.toDigits_ne_nil]

theorem number_before_padded (mark : Char) (noDigit : mark.isDigit = false) (rest : List Char) :
    numberBefore? mark ((Number.padded width n).toList ++ mark :: rest) = some (n, rest) := by
  obtain ⟨taken, left⟩ := Number.span_exact Char.isDigit _ (mark :: rest) (padded_digits width n)
    (by simpa using noDigit)
  simp only [numberBefore?, taken, left]
  rw [if_pos ⟨padded_present width n, trivial⟩, padded_value]

-- A digit is no sign.
theorem sign_padded (rest : List Char) : sign ((Number.padded width n).toList ++ rest) =
    (false, (Number.padded width n).toList ++ rest) := by
  obtain ⟨c, more, begins⟩ := List.exists_cons_of_ne_nil (padded_present width n)
  have digit := padded_digits width n c (begins ▸ List.mem_cons_self)
  rw [begins, List.cons_append]
  unfold sign
  split
  · rename_i same
    rw [(List.cons.inj same).1] at digit
    cases digit
  · rename_i same
    rw [(List.cons.inj same).1] at digit
    cases digit
  · rfl

end Padded

theorem sign_year (year : Int) (rest : List Char) : sign ((yearText year).toList ++ rest) =
    (decide (year < 0), (Number.padded 4 year.natAbs).toList ++ rest) := by
  unfold yearText
  split_ifs with negative large
  · rw [String.toList_append, decide_eq_true negative]
    rfl
  · rw [String.toList_append, decide_eq_false negative]
    rfl
  · rw [sign_padded, decide_eq_false negative]

theorem statement_characters (timestamp : Timestamp) : timestamp.statementText.toList =
    (yearText timestamp.date.year).toList ++ '-' :: ((Number.padded 2 timestamp.date.month).toList ++
      '-' :: ((Number.padded 2 timestamp.date.day).toList ++
        'T' :: ((Number.padded 2 timestamp.time.hour).toList ++
          ':' :: ((Number.padded 2 timestamp.time.minute).toList ++
            ':' :: ((Number.padded 2 timestamp.time.clockSecond).toList ++ ['Z']))))) := by
  simp [Timestamp.statementText, Date.text, TimeOfDay.clockText]

theorem fields_read (timestamp : Timestamp) :
    read? timestamp.statementText.toList = some timestamp.fields := by
  have dash : '-'.isDigit = false := by decide
  have letter : 'T'.isDigit = false := by decide
  have colon : ':'.isDigit = false := by decide
  have zone : 'Z'.isDigit = false := by decide
  have year := Number.Numeral.signed_magnitude timestamp.date.year
  simp only [read?, statement_characters, sign_year, number_before_padded, dash, letter, colon, zone,
    Option.bind_eq_bind, Option.bind_some, year]
  rfl

-- The fields are all that a statement shows of a timestamp.
theorem statement_text_iff (first second : Timestamp) :
    first.statementText = second.statementText ↔ first.fields = second.fields := by
  constructor
  · intro same
    have read := fields_read first
    rw [same, fields_read] at read
    exact (Option.some.inj read).symm
  · intro same
    simp only [Timestamp.fields, mk.injEq] at same
    obtain ⟨year, month, day, hour, minute, second⟩ := same
    simp only [Timestamp.statementText, Date.text, TimeOfDay.clockText, year, month, day, hour,
      minute, second]

-- Digits, signs, colons and letters.
theorem statement_unquoted (timestamp : Timestamp) : '\'' ∉ timestamp.statementText.toList := by
  have digits (width n : Nat) : '\'' ∉ (Number.padded width n).toList := fun member =>
    absurd (padded_digits width n _ member) (by decide)
  have year : '\'' ∉ (yearText timestamp.date.year).toList := by
    unfold yearText
    split_ifs <;> simp [digits]
  simp [statement_characters, year, digits]

end ClockFields

end Calendar

theorem Literal.escape_unquoted (content : List Char) (unquoted : '\'' ∉ content) :
    escape content = content := by
  induction content with
  | nil => rfl
  | cons c rest ih =>
      obtain ⟨first, more⟩ := not_or.mp (List.mem_cons.not.mp unquoted)
      rw [escape, if_neg (Ne.symm first), ih more]

open Calendar

/-- The fields that the literal of a time shows, with its quotes or without. -/
def Calendar.ClockFields.ofLiteral? (quoted : Bool) (text : String) : Option ClockFields :=
  if quoted then (Reading.between? "'".toList "'".toList text.toList).bind read? else read? text.toList

namespace Value

theorem timestamp_written (policy : LiteralPolicy) (shown : Timestamp) :
    ∃ text, (timestamp shown).render policy = .ok text ∧
      ClockFields.ofLiteral? policy.quoted text = some shown.fields := by
  have plain := Literal.escape_unquoted _ (ClockFields.statement_unquoted shown)
  refine ⟨Literal.textForm shown.statementText policy.quoted, rfl, ?_⟩
  cases policy.quoted with
  | false =>
      simp [ClockFields.ofLiteral?, Literal.textForm, plain, ClockFields.fields_read]
  | true =>
      have text : Literal.textForm shown.statementText true = "'" ++ shown.statementText ++ "'" := by
        rw [Literal.textForm, plain, ← String.toList_inj]
        simp
      rw [text, ClockFields.ofLiteral?, if_pos rfl, Reading.between_read, Option.bind_some,
        ClockFields.fields_read]

/-- For a time with an offset there is one timestamp in universal time of the same moment, and the
literals of the two, of that timestamp without a zone, and of all times with an offset that are this
moment are one text; it shows the date and the clock of that timestamp, and no fraction of a second.
A date is written as its midnight. -/
theorem moment_written (policy : LiteralPolicy) (value : OffsetTimestamp) :
    ∃ utc text, (∀ zoneless : Timestamp, zoneless.moment = value.moment ↔ zoneless = utc) ∧
      (offsetTimestamp value).render policy = .ok text ∧
      (utcTimestamp utc).render policy = .ok text ∧
      (timestamp utc).render policy = .ok text ∧
      ClockFields.ofLiteral? policy.quoted text = some utc.fields ∧
      (∀ other : OffsetTimestamp, other.moment = value.moment →
        (offsetTimestamp other).render policy = .ok text) ∧
      ∀ date, (Value.date date).render policy = (timestamp (.atMidnight date)).render policy := by
  obtain ⟨text, written, read⟩ := timestamp_written policy value.utc
  have alike (other : OffsetTimestamp) (same : other.moment = value.moment) :
      (offsetTimestamp other).render policy = .ok text := by
    have utc : other.utc = value.utc := (value.utc_iff other.utc).mp (other.utc_moment.trans same)
    rw [← written, ← utc]
    rfl
  exact ⟨value.utc, text, value.utc_iff, alike value rfl, written, written, read, alike,
    fun _ => rfl⟩

def lateLeapDay : OffsetTimestamp :=
  let date := { Date.firstOfYear (-4) with
    month := 3, month_pos := by decide, month_le := by decide, day_le := by decide }
  ⟨⟨date, ⟨1800, 999999999, by decide⟩⟩, 3600⟩

theorem late_leap_day_written :
    (offsetTimestamp lateLeapDay).render .plain = .ok "'-0004-02-29T23:30:00Z'" ∧
      ClockFields.ofLiteral? true "'-0004-02-29T23:30:00Z'" = some ⟨-4, 2, 29, 23, 30, 0⟩ ∧
      ∀ other : OffsetTimestamp, other.moment = lateLeapDay.moment →
        (offsetTimestamp other).render .plain = .ok "'-0004-02-29T23:30:00Z'" := by
  obtain ⟨_, text, _, written, _, _, _, alike, _⟩ := moment_written .plain lateLeapDay
  obtain rfl : "'-0004-02-29T23:30:00Z'" = text := Except.ok.inj written
  exact ⟨written, by decide, alike⟩

end Value

end MappedSql
