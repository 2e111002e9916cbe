import MappedSql.Json
import MappedSql.Proofs.WrittenNumbers

/-!
Documents read back from their compact text. A document without floating-point numbers, in which
whole numbers fit sixty-four bits and the members of each object stand in order, is what the reader
finds in the text, up to the character after the document.
-/

namespace MappedSql.Json

open Number (Numeral)

/-- There are no floating-point numbers in the document, whole numbers can be read as such, and the
members of each object increase by name. -/
inductive Exact : Json → Prop where
  | null : Exact null
  | bool (value : Bool) : Exact (bool value)
  | integer {value : Int} : fitsInteger value = true → Exact (integer value)
  | text (value : String) : Exact (text value)
  | array {items : List Json} : (∀ item ∈ items, Exact item) → Exact (array items)
  | object {members : List (String × Json)} :
      members.Pairwise (fun first second => first.1 < second.1) →
      (∀ member ∈ members, Exact member.2) → Exact (object members)

theorem unit_digits_read (code : Nat) (control : code < 0x20) :
    unitDigits code = ['0', '0', (code / 16).digitChar, (code % 16).digitChar] ∧
      codeUnit? '0' '0' (code / 16).digitChar (code % 16).digitChar = some code := by
  have each : ∀ code < 0x20,
      unitDigits code = ['0', '0', (code / 16).digitChar, (code % 16).digitChar] ∧
        codeUnit? '0' '0' (code / 16).digitChar (code % 16).digitChar = some code := by decide
  exact each code control

theorem simple_escape_read (letter c : Char) (rest : List Char)
    (known : simpleEscape? letter = some c) (simple : letter ≠ 'u') :
    readText ('\\' :: letter :: rest) =
      (readText rest).map fun (chars, left) => (c :: chars, left) := by
  rw [readText]
  · rw [known]
  · exact fun _ _ _ _ _ same _ => simple same

theorem escaped_read (c : Char) (rest : List Char) :
    readText (escapeChar c ++ rest) =
      (readText rest).map fun (chars, left) => (c :: chars, left) := by
  unfold escapeChar
  split_ifs with quote backslash line carriage tab back feed control
  · exact quote ▸ simple_escape_read '"' '"' rest rfl (by decide)
  · exact backslash ▸ simple_escape_read '\\' '\\' rest rfl (by decide)
  · exact line ▸ simple_escape_read 'n' '\n' rest rfl (by decide)
  · exact carriage ▸ simple_escape_read 'r' '\r' rest rfl (by decide)
  · exact tab ▸ simple_escape_read 't' '\t' rest rfl (by decide)
  · obtain rfl : Char.ofNat 0x08 = c := by rw [← back, Char.ofNat_toNat]
    exact simple_escape_read 'b' _ rest rfl (by decide)
  · obtain rfl : Char.ofNat 0x0C = c := by rw [← feed, Char.ofNat_toNat]
    exact simple_escape_read 'f' _ rest rfl (by decide)
  · obtain ⟨digits, unit⟩ := unit_digits_read c.toNat control
    have low : isLowSurrogate c.toNat = false := by
      simp only [isLowSurrogate, Bool.and_eq_false_iff, decide_eq_false_iff_not]
      omega
    have high : isHighSurrogate c.toNat = false := by
      simp only [isHighSurrogate, Bool.and_eq_false_iff, decide_eq_false_iff_not]
      omega
    simp [digits, readText, unit, low, high]
  · rw [List.singleton_append, readText]
    · simp [control]
    · exact quote
    · exact fun _ _ _ _ _ same _ => backslash same
    · exact fun _ _ same _ => backslash same

theorem escaped_text_read (chars rest : List Char) :
    readText (chars.flatMap escapeChar ++ '"' :: rest) = some (chars, rest) := by
  induction chars with
  | nil => rfl
  | cons c more ih =>
      rw [List.flatMap_cons, List.append_assoc, escaped_read, ih]
      rfl

theorem quoted_text (value : String) (rest : List Char) :
    (quoted value).toList ++ rest = '"' :: (value.toList.flatMap escapeChar ++ '"' :: rest) := by
  simp [quoted]

theorem integer_whole_value (value : Int) : (Numeral.ofInteger value).wholeValue = value := by
  have mantissa := Numeral.integer_mantissa value
  simpa [Numeral.mantissa, Numeral.ofInteger, Numeral.wholeValue] using mantissa

theorem integer_of_numeral (value : Int) (fits : fitsInteger value = true) :
    ofNumeral (Numeral.ofInteger value) = integer value := by
  have signed : (decide (value < 0) && value == 0) = false := by
    simp only [Bool.and_eq_false_iff, decide_eq_false_iff_not, beq_eq_false_iff_ne]
    omega
  rw [ofNumeral, integer_whole_value, fits]
  simp [Numeral.isWhole, Numeral.ofInteger, signed]

theorem integer_read (value : Int) (fits : fitsInteger value = true) (rest : List Char)
    (ended : Numeral.Ended rest) :
    readNumber ((Number.integerText value).toList ++ rest) = some (integer value, rest) := by
  rw [Numeral.integer_characters, readNumber,
    Numeral.read_back _ (Numeral.integer_plain value) rest ended]
  dsimp only
  split
  · rename_i c more digits
    exact absurd (Number.leading_zero _ _ digits) (List.cons_ne_nil c more)
  · rw [integer_of_numeral value fits]

def Begun (text : List Char) : Prop :=
  ∃ c more, text = c :: more ∧ isSpace c = false ∧ c ≠ ']'

theorem skip_dense (c : Char) (rest : List Char) (dense : isSpace c = false) :
    skipSpace (c :: rest) = c :: rest := by
  simp [skipSpace, dense]

theorem integer_signs (value : Int) :
    ∀ c ∈ (Number.integerText value).toList, c = '-' ∨ c.isDigit = true := by
  rw [Numeral.integer_characters, Numeral.characters]
  refine List.forall_mem_append.mpr ⟨?_, fun c member => ?_⟩
  · split_ifs <;> simp
  · exact .inr ((Numeral.integer_plain value).whole c (by simpa [Numeral.ofInteger] using member))

theorem integer_begins (value : Int) :
    ∃ c more, (Number.integerText value).toList = c :: more ∧ (c = '-' ∨ c.isDigit = true) := by
  have present : (Number.integerText value).toList ≠ [] := by
    rw [Numeral.integer_characters, Numeral.characters]
    simp [(Numeral.integer_plain value).present]
  obtain ⟨c, more, text⟩ := List.exists_cons_of_ne_nil present
  exact ⟨c, more, text, integer_signs value c (text ▸ List.mem_cons_self)⟩

theorem number_sign_dense (c : Char) (first : c = '-' ∨ c.isDigit = true) :
    isSpace c = false ∧ c ∉ ['"', '[', ']', '\x7b', 't', 'f', 'n'] := by
  rcases first with rfl | digit
  · decide
  · constructor
    · simp only [isSpace, Bool.or_eq_false_iff, beq_eq_false_iff_ne]
      refine ⟨⟨⟨?_, ?_⟩, ?_⟩, ?_⟩ <;> rintro rfl <;> cases digit
    · intro member
      simp only [List.mem_cons, List.not_mem_nil, or_false] at member
      rcases member with rfl | rfl | rfl | rfl | rfl | rfl | rfl <;> cases digit

theorem render_begun (document : Json) (exact : document.Exact) :
    Begun document.render.toList := by
  cases exact with
  | null => exact ⟨'n', _, rfl, rfl, by decide⟩
  | bool value =>
      cases value with
      | true => exact ⟨'t', _, rfl, rfl, by decide⟩
      | false => exact ⟨'f', _, rfl, rfl, by decide⟩
  | @integer value _ =>
      obtain ⟨c, more, text, first⟩ := integer_begins value
      have dense := number_sign_dense c first
      refine ⟨c, more, text, dense.1, ?_⟩
      rintro rfl
      exact dense.2 (by decide)
  | text value => exact ⟨'"', _, by rw [render, quoted, String.toList_ofList], rfl, by decide⟩
  | array _ => exact ⟨'[', _, by rw [render]; simp; rfl, rfl, by decide⟩
  | object _ _ => exact ⟨'\x7b', _, by rw [render]; simp; rfl, rfl, by decide⟩

/-! The reader is bounded by fuel. Twice the length of a text is enough, for an item takes one step
of its own and one of the list that it stands in. -/

def ReadsBack (document : Json) : Prop :=
  ∀ (fuel : Nat) (rest : List Char), Numeral.Ended rest →
    2 * document.render.toList.length ≤ fuel →
    readValue fuel (document.render.toList ++ rest) = some (document, rest)

def itemsText (items : List Json) : List Char :=
  [','].intercalate (items.map fun item => item.render.toList)

def memberText (member : String × Json) : List Char :=
  (quoted member.1).toList ++ ':' :: member.2.render.toList

def membersText (members : List (String × Json)) : List Char :=
  [','].intercalate (members.map memberText)

theorem array_text (items : List Json) :
    (array items).render.toList = '[' :: (itemsText items ++ [']']) := by
  have each : renderItems items = items.map render := by
    induction items with
    | nil => rfl
    | cons item rest ih => rw [renderItems, ih, List.map_cons]
  simp [render, each, itemsText, String.toList_intercalate, Function.comp_def]

theorem object_text (members : List (String × Json)) :
    (object members).render.toList = '\x7b' :: (membersText members ++ ['\x7d']) := by
  have each : (renderMembers members).map String.toList = members.map memberText := by
    induction members with
    | nil => rfl
    | cons member rest ih => simp [renderMembers, ih, memberText]
  simp [render, each, membersText, String.toList_intercalate]

theorem items_read (items : List Json) (present : items ≠ [])
    (each : ∀ item ∈ items, item.ReadsBack) (fuel : Nat) (rest : List Char)
    (enough : 2 * (itemsText items).length + 1 ≤ fuel) :
    readItems fuel (itemsText items ++ ']' :: rest) = some (items, rest) := by
  induction items generalizing fuel with
  | nil => exact absurd rfl present
  | cons item more ih =>
      obtain ⟨first, others⟩ := List.forall_mem_cons.mp each
      obtain ⟨fuel, rfl⟩ := Nat.exists_eq_succ_of_ne_zero (show fuel ≠ 0 by omega)
      cases more with
      | nil =>
          have text : itemsText [item] = item.render.toList := by simp [itemsText]
          rw [text] at enough ⊢
          rw [readItems, first fuel (']' :: rest) (by simp [Numeral.Ended]) (by omega)]
          simp [skipSpace, isSpace]
      | cons second later =>
          have text : itemsText (item :: second :: later) =
              item.render.toList ++ ',' :: itemsText (second :: later) := by simp [itemsText]
          rw [text, List.length_append, List.length_cons] at enough
          rw [text, List.append_assoc, List.cons_append, readItems,
            first fuel (',' :: _) (by simp [Numeral.Ended]) (by omega)]
          simp [skipSpace, isSpace, ih (List.cons_ne_nil _ _) others fuel (by omega)]

theorem array_read (items : List Json) (each : ∀ item ∈ items, item.Exact)
    (parts : ∀ item ∈ items, item.ReadsBack) : (array items).ReadsBack := by
  intro fuel rest ended enough
  rw [array_text] at enough ⊢
  rw [List.length_cons, List.length_append, List.length_singleton] at enough
  obtain ⟨fuel, rfl⟩ := Nat.exists_eq_succ_of_ne_zero (show fuel ≠ 0 by omega)
  rw [List.cons_append, List.append_assoc, List.singleton_append, readValue,
    skip_dense '[' _ (by decide)]
  cases items with
  | nil => simp [itemsText, skip_dense ']' rest (by decide)]
  | cons item more =>
      have read := items_read (item :: more) (List.cons_ne_nil _ _) parts fuel rest (by omega)
      have begun : Begun (itemsText (item :: more)) := by
        obtain ⟨c, text, begins, dense⟩ := render_begun item (each item List.mem_cons_self)
        cases more <;> simp [itemsText, begins, Begun, dense]
      obtain ⟨c, text, begins, dense, other⟩ := begun
      rw [begins, List.cons_append] at read ⊢
      simp [skip_dense c _ dense, other, read]

theorem member_text (member : String × Json) (rest : List Char) :
    memberText member ++ rest =
      '"' :: (member.1.toList.flatMap escapeChar ++
        '"' :: ':' :: (member.2.render.toList ++ rest)) := by
  rw [memberText, List.append_assoc, List.cons_append, quoted_text]

theorem last_member_read (member : String × Json) (value : member.2.ReadsBack) (fuel : Nat)
    (rest : List Char) (enough : 2 * member.2.render.toList.length ≤ fuel) :
    readMembers (fuel + 1) (memberText member ++ '\x7d' :: rest) = some ([member], rest) := by
  have read := value fuel ('\x7d' :: rest) (by simp [Numeral.Ended]) enough
  rw [member_text, readMembers, skip_dense '"' _ (by decide)]
  simp [escaped_text_read, skip_dense ':' _ (by decide), read, skip_dense '\x7d' _ (by decide)]

theorem next_member_read (member : String × Json) (value : member.2.ReadsBack) (fuel : Nat)
    (rest : List Char) (enough : 2 * member.2.render.toList.length ≤ fuel) :
    readMembers (fuel + 1) (memberText member ++ ',' :: rest) =
      (readMembers fuel rest).map fun (members, left) => (member :: members, left) := by
  have read := value fuel (',' :: rest) (by simp [Numeral.Ended]) enough
  rw [member_text, readMembers, skip_dense '"' _ (by decide)]
  simp [escaped_text_read, skip_dense ':' _ (by decide), read, skip_dense ',' _ (by decide)]

theorem members_read (members : List (String × Json)) (present : members ≠ [])
    (each : ∀ member ∈ members, member.2.ReadsBack) (fuel : Nat) (rest : List Char)
    (enough : 2 * (membersText members).length + 1 ≤ fuel) :
    readMembers fuel (membersText members ++ '\x7d' :: rest) = some (members, rest) := by
  induction members generalizing fuel with
  | nil => exact absurd rfl present
  | cons member more ih =>
      obtain ⟨first, others⟩ := List.forall_mem_cons.mp each
      obtain ⟨fuel, rfl⟩ := Nat.exists_eq_succ_of_ne_zero (show fuel ≠ 0 by omega)
      have longer : member.2.render.toList.length < (memberText member).length := by
        simp only [memberText, List.length_append, List.length_cons]
        omega
      cases more with
      | nil =>
          have text : membersText [member] = memberText member := by simp [membersText]
          rw [text] at enough ⊢
          rw [last_member_read member first fuel rest (by omega)]
      | cons second later =>
          have text : membersText (member :: second :: later) =
              memberText member ++ ',' :: membersText (second :: later) := by simp [membersText]
          rw [text, List.length_append, List.length_cons] at enough
          rw [text, List.append_assoc, List.cons_append,
            next_member_read member first fuel _ (by omega),
            ih (List.cons_ne_nil _ _) others fuel (by omega), Option.map_some]

theorem insert_last (name : String) (value : Json) (sorted : List (String × Json))
    (last : ∀ member ∈ sorted, member.1 < name) :
    insertMember name value sorted = sorted ++ [(name, value)] := by
  induction sorted with
  | nil => rfl
  | cons member rest ih =>
      obtain ⟨before, others⟩ := List.forall_mem_cons.mp last
      rw [insertMember, if_neg (String.lt_asymm before), if_neg (String.ne_of_lt before).symm,
        ih others, List.cons_append]

theorem of_ordered_members (members : List (String × Json))
    (ordered : members.Pairwise fun first second => first.1 < second.1) :
    ofMembers members = object members := by
  have all : ∀ sorted : List (String × Json),
      (sorted ++ members).Pairwise (fun first second => first.1 < second.1) →
      members.foldl (fun sorted member => insertMember member.1 member.2 sorted) sorted =
        sorted ++ members := by
    clear ordered
    induction members with
    | nil => simp
    | cons member rest ih =>
        intro sorted ordered
        have last : ∀ earlier ∈ sorted, earlier.1 < member.1 := fun earlier before =>
          (List.pairwise_append.mp ordered).2.2 earlier before member List.mem_cons_self
        rw [List.foldl_cons, insert_last member.1 member.2 sorted last, ih _ (by simpa using ordered),
          List.append_assoc, List.singleton_append]
  rw [ofMembers, all [] ordered, List.nil_append]

theorem inserted_member (name : String) (value : Json) (sorted : List (String × Json)) :
    ∀ member ∈ insertMember name value sorted, member = (name, value) ∨ member ∈ sorted := by
  induction sorted with
  | nil => exact fun member within => .inl (List.mem_singleton.mp within)
  | cons first rest ih =>
      intro member within
      unfold insertMember at within
      split_ifs at within
      · exact List.mem_cons.mp within
      · exact (List.mem_cons.mp within).imp_right (List.mem_cons_of_mem first)
      · rcases List.mem_cons.mp within with same | later
        · exact .inr (same ▸ List.mem_cons_self)
        · exact (ih member later).imp_right (List.mem_cons_of_mem first)

theorem inserted_ordered (name : String) (value : Json) (sorted : List (String × Json))
    (ordered : sorted.Pairwise fun first second => first.1 < second.1) :
    (insertMember name value sorted).Pairwise fun first second => first.1 < second.1 := by
  induction sorted with
  | nil => exact List.pairwise_singleton _ _
  | cons first rest ih =>
      obtain ⟨below, others⟩ := List.pairwise_cons.mp ordered
      unfold insertMember
      split_ifs with before same
      · refine List.pairwise_cons.mpr ⟨fun member within => ?_, ordered⟩
        rcases List.mem_cons.mp within with rfl | later
        · exact before
        · exact String.lt_trans before (below member later)
      · exact List.pairwise_cons.mpr ⟨fun member later => same ▸ below member later, others⟩
      · refine List.pairwise_cons.mpr ⟨fun member within => ?_, ih others⟩
        rcases inserted_member name value rest member within with rfl | later
        · by_contra behind
          exact same (String.le_antisymm (String.not_lt.mp behind) (String.not_lt.mp before))
        · exact below member later

-- In whatever order the members are given, and whichever names come more than once.
theorem of_members_exact (members : List (String × Json))
    (each : ∀ member ∈ members, member.2.Exact) : (ofMembers members).Exact := by
  have all : ∀ sorted : List (String × Json),
      (sorted.Pairwise fun first second => first.1 < second.1) →
      (∀ member ∈ sorted, member.2.Exact) →
      (object (members.foldl (fun sorted member =>
        insertMember member.1 member.2 sorted) sorted)).Exact := by
    induction members with
    | nil => exact fun sorted ordered exact => .object ordered exact
    | cons member rest ih =>
        obtain ⟨first, others⟩ := List.forall_mem_cons.mp each
        intro sorted ordered exact
        refine ih others _ (inserted_ordered _ _ sorted ordered) fun inserted within => ?_
        rcases inserted_member _ _ sorted inserted within with rfl | earlier
        · exact first
        · exact exact inserted earlier
  exact all [] .nil nofun

theorem object_read (members : List (String × Json))
    (ordered : members.Pairwise fun first second => first.1 < second.1)
    (parts : ∀ member ∈ members, member.2.ReadsBack) : (object members).ReadsBack := by
  intro fuel rest ended enough
  rw [object_text] at enough ⊢
  rw [List.length_cons, List.length_append, List.length_singleton] at enough
  obtain ⟨fuel, rfl⟩ := Nat.exists_eq_succ_of_ne_zero (show fuel ≠ 0 by omega)
  rw [List.cons_append, List.append_assoc, List.singleton_append, readValue,
    skip_dense '\x7b' _ (by decide)]
  cases members with
  | nil => simp [membersText, skip_dense '\x7d' rest (by decide)]
  | cons member more =>
      have read := members_read (member :: more) (List.cons_ne_nil _ _) parts fuel rest (by omega)
      obtain ⟨text, begins⟩ : ∃ text, membersText (member :: more) = '"' :: text := by
        cases more <;> simp [membersText, memberText, quoted]
      rw [begins, List.cons_append] at read ⊢
      simp [skip_dense '"' _ (by decide), read, of_ordered_members _ ordered]

-- What holds no other documents takes one step.
theorem simple_reads_back (document : Json) (exact : document.Exact)
    (step : ∀ (fuel : Nat) (rest : List Char), Numeral.Ended rest →
      readValue (fuel + 1) (document.render.toList ++ rest) = some (document, rest)) :
    document.ReadsBack := by
  intro fuel rest ended enough
  obtain ⟨c, more, text, _⟩ := render_begun document exact
  rw [text, List.length_cons] at enough
  obtain ⟨fuel, rfl⟩ := Nat.exists_eq_succ_of_ne_zero (show fuel ≠ 0 by omega)
  exact step fuel rest ended

theorem integer_step (value : Int) (fits : fitsInteger value = true) (fuel : Nat)
    (rest : List Char) (ended : Numeral.Ended rest) :
    readValue (fuel + 1) ((Number.integerText value).toList ++ rest) =
      some (integer value, rest) := by
  have read := integer_read value fits rest ended
  obtain ⟨c, more, text, first⟩ := integer_begins value
  obtain ⟨dense, other⟩ := number_sign_dense c first
  rw [text, List.cons_append] at read ⊢
  rw [readValue, skip_dense c _ dense]
  simp only [List.mem_cons, List.not_mem_nil, or_false, not_or] at other
  simp [other, read]

theorem text_step (value : String) (fuel : Nat) (rest : List Char) :
    readValue (fuel + 1) ((quoted value).toList ++ rest) = some (text value, rest) := by
  rw [quoted_text, readValue, skip_dense '"' _ (by decide)]
  simp [escaped_text_read]

theorem exact_reads_back (document : Json) (exact : document.Exact) : document.ReadsBack := by
  induction exact with
  | null =>
      refine simple_reads_back null .null fun fuel rest _ => ?_
      simp [render, readValue, skip_dense 'n' _ (by decide), afterWord?]
  | bool value =>
      refine simple_reads_back (bool value) (.bool value) fun fuel rest _ => ?_
      cases value with
      | true => simp [render, readValue, skip_dense 't' _ (by decide), afterWord?]
      | false => simp [render, readValue, skip_dense 'f' _ (by decide), afterWord?]
  | @integer value fits =>
      exact simple_reads_back _ (.integer fits) fun fuel rest ended => by
        rw [render, integer_step value fits fuel rest ended]
  | text value =>
      exact simple_reads_back _ (.text value) fun fuel rest _ => by
        rw [render, text_step value fuel rest]
  | array each parts => exact array_read _ each parts
  | object ordered _ parts => exact object_read _ ordered parts

theorem render_read_back (document : Json) (exact : document.Exact) :
    ofText? document.render = some document := by
  have read := exact_reads_back document exact (2 * document.render.toList.length + 2) []
    (by simp [Numeral.Ended]) (by omega)
  rw [List.append_nil] at read
  simp [ofText?, read, skipSpace]

/-- What stands outside of quoted texts; `inside` tells whether one is open. -/
def bare : Bool → List Char → List Char
  | _, [] => []
  | true, '\\' :: _ :: rest => bare true rest
  | inside, c :: rest =>
      if c = '"' then bare (!inside) rest
      else if inside then bare inside rest
      else c :: bare inside rest

/-- No blank stands outside of quoted texts, and these are closed. -/
def Dense (text : List Char) : Prop :=
  ∃ signs, (∀ c ∈ signs, isSpace c = false) ∧
    ∀ rest, bare false (text ++ rest) = signs ++ bare false rest

namespace Dense

theorem append {first second : List Char} (one : Dense first) (other : Dense second) :
    Dense (first ++ second) := by
  obtain ⟨front, dense, before⟩ := one
  obtain ⟨back, tight, behind⟩ := other
  refine ⟨front ++ back, List.forall_mem_append.mpr ⟨dense, tight⟩, fun rest => ?_⟩
  rw [List.append_assoc, before, behind, List.append_assoc]

theorem of_signs {signs : List Char} (dense : signs.all fun c => !isSpace c && c != '"') :
    Dense signs := by
  have each : ∀ c ∈ signs, isSpace c = false ∧ c ≠ '"' := by simpa using dense
  clear dense
  refine ⟨signs, fun c member => (each c member).1, fun rest => ?_⟩
  induction signs with
  | nil => rfl
  | cons c more ih =>
      obtain ⟨first, others⟩ := List.forall_mem_cons.mp each
      rw [List.cons_append, bare, if_neg first.2, if_neg Bool.false_ne_true, ih others]
      · rfl
      · nofun

theorem bare_inside (plain rest : List Char) (unescaped : '\\' ∉ plain) (unquoted : '"' ∉ plain) :
    bare true (plain ++ rest) = bare true rest := by
  induction plain with
  | nil => rfl
  | cons c more ih =>
      have slash := List.ne_of_not_mem_cons unescaped
      have quote := List.ne_of_not_mem_cons unquoted
      rw [List.cons_append, bare, if_neg quote.symm, if_pos rfl,
        ih (List.not_mem_of_not_mem_cons unescaped) (List.not_mem_of_not_mem_cons unquoted)]
      exact fun _ _ _ same => absurd same.symm slash

theorem bare_escaped (c : Char) (rest : List Char) :
    bare true (escapeChar c ++ rest) = bare true rest := by
  have units : ∀ code < 0x20, '\\' ∉ unitDigits code ∧ '"' ∉ unitDigits code := by decide
  unfold escapeChar
  split_ifs with quote backslash line carriage tab back feed control
  iterate 7 exact bare.eq_2 _ _
  · obtain ⟨unescaped, unquoted⟩ := units c.toNat control
    rw [List.cons_append, List.cons_append, bare, bare_inside _ rest unescaped unquoted]
  · exact bare_inside [c] rest (by simpa using Ne.symm backslash) (by simpa using Ne.symm quote)

theorem of_quoted (value : String) : Dense (quoted value).toList := by
  refine ⟨[], nofun, fun rest => ?_⟩
  have inside : bare true (value.toList.flatMap escapeChar ++ '"' :: rest) = bare false rest := by
    induction value.toList with
    | nil => rw [List.flatMap_nil, List.nil_append, bare, if_pos rfl]; rfl; nofun
    | cons c more ih => rw [List.flatMap_cons, List.append_assoc, bare_escaped, ih]
  rw [quoted_text, bare, if_pos rfl]
  · exact inside
  · nofun

theorem separated {texts : List (List Char)} (each : ∀ text ∈ texts, Dense text) :
    Dense ([','].intercalate texts) := by
  induction texts with
  | nil => exact .of_signs rfl
  | cons first more ih =>
      obtain ⟨dense, others⟩ := List.forall_mem_cons.mp each
      cases more with
      | nil => simpa using dense
      | cons second later =>
          have comma : Dense [','] := .of_signs (by decide)
          simpa using dense.append (comma.append (ih others))

end Dense

theorem render_dense (document : Json) (exact : document.Exact) :
    Dense document.render.toList := by
  induction exact with
  | null => exact .of_signs (by decide)
  | bool value => cases value <;> exact .of_signs (by decide)
  | @integer value _ =>
      refine .of_signs (List.all_eq_true.mpr fun c member => ?_)
      obtain ⟨dense, other⟩ := number_sign_dense c (integer_signs value c member)
      have unquoted : c ≠ '"' := fun quote => other (quote ▸ List.mem_cons_self)
      simp [dense, unquoted]
  | text value => exact .of_quoted value
  | @array items _ each =>
      have opened : Dense ['['] := .of_signs (by decide)
      have closed : Dense [']'] := .of_signs (by decide)
      rw [array_text]
      exact opened.append (.append (.separated (List.forall_mem_map.mpr each)) closed)
  | @object members _ _ each =>
      have opened : Dense ['\x7b'] := .of_signs (by decide)
      have closed : Dense ['\x7d'] := .of_signs (by decide)
      have colon : Dense [':'] := .of_signs (by decide)
      rw [object_text]
      refine opened.append (.append (.separated ?_) closed)
      rw [List.forall_mem_map]
      exact fun member within =>
        (Dense.of_quoted member.1).append (colon.append (each member within))

/-- What a printer of documents is relied on for: a reader finds the document in the text again, and
no blank stands in the text but in quotes. -/
structure Prints (text : String) (document : Json) : Prop where
  read : ofText? text = some document
  compact : ∀ c ∈ bare false text.toList, isSpace c = false

theorem render_prints (document : Json) (exact : document.Exact) :
    Prints document.render document where
  read := render_read_back document exact
  compact := by
    obtain ⟨signs, dense, outside⟩ := render_dense document exact
    have whole := outside []
    rw [List.append_nil, bare, List.append_nil] at whole
    rwa [whole]

end MappedSql.Json
