import MappedSql.Proofs.DeclaredSettings

/-!
A member's entries, cut into several attributes. The entries of one attribute are taken one after
the other; the settings of several are read apart and merged. Merging goes on where taking stopped,
whatever an entry says and however often it is said, so the settings of a member, or the first
reason why they are refused, do not depend on where one attribute ends and the next begins.
-/

namespace MappedSql

open Outcome

namespace Token

def depthAfter? (depth : Nat) : List Token → Option Nat
  | [] => some depth
  | token :: rest =>
      if depth = 0 ∧ token = mark ',' then none
      else if token.opens then depthAfter? (depth + 1) rest
      else if token.closes then depthAfter? (depth - 1) rest
      else depthAfter? depth rest

/-- What a reader of attributes is relied on for: the parts have all tokens in order, but for the
commas between them, and just these commas are outside all brackets. -/
inductive Cut : List Token → List (List Token) → Prop where
  | last {part : List Token} : (depthAfter? 0 part).isSome = true → Cut part [part]
  | more {part rest : List Token} {parts : List (List Token)} : depthAfter? 0 part = some 0 →
      Cut rest parts → Cut (part ++ mark ',' :: rest) (part :: parts)

theorem depth_append (depth : Nat) (front rest : List Token) :
    depthAfter? depth (front ++ rest) = (depthAfter? depth front).bind (depthAfter? · rest) := by
  induction front generalizing depth with
  | nil => rfl
  | cons token more ih =>
      simp only [List.cons_append, depthAfter?]
      split_ifs
      exacts [rfl, ih _, ih _, ih _]

theorem depth_plain {depth : Nat} {tokens : List Token}
    (plain : ∀ token ∈ tokens, token ≠ .mark ',' ∧ token.opens = false ∧ token.closes = false) :
    depthAfter? depth tokens = some depth := by
  induction tokens with
  | nil => rfl
  | cons token rest ih =>
      obtain ⟨⟨noComma, opens, closes⟩, later⟩ := List.forall_mem_cons.mp plain
      simp [depthAfter?, noComma, opens, closes, ih later]

theorem cut_part (depth after : Nat) (before part rest : List Token)
    (within : depthAfter? depth part = some after) :
    cutCommas depth before (part ++ rest) = cutCommas after (part.reverse ++ before) rest := by
  induction part generalizing depth before with
  | nil =>
      cases within
      rfl
  | cons token more ih =>
      simp only [List.cons_append, cutCommas, depthAfter?] at within ⊢
      split_ifs at within ⊢ <;> simp [ih _ _ within]

theorem cut_parts {tokens : List Token} {pieces : List (List Token)} (cut : Cut tokens pieces) :
    parts tokens = pieces := by
  induction cut with
  | @last part within =>
      obtain ⟨depth, within⟩ := Option.isSome_iff_exists.mp within
      have whole := cut_part 0 depth [] part [] within
      simpa [parts, cutCommas] using whole
  | @more part rest pieces within _ ih =>
      rw [parts, cut_part 0 0 [] part _ within, cutCommas, if_pos ⟨rfl, rfl⟩, List.append_nil,
        List.reverse_reverse, ← parts, ih]

theorem parts_cut (depth : Nat) (part rest : List Token)
    (within : depthAfter? 0 part.reverse = some depth) :
    Cut (part.reverse ++ rest) (cutCommas depth part rest) := by
  induction rest generalizing depth part with
  | nil =>
      rw [List.append_nil]
      exact .last (by rw [within]; rfl)
  | cons token rest ih =>
      have longer (after : Nat) (next : depthAfter? depth [token] = some after) :
          Cut (part.reverse ++ token :: rest) (cutCommas after (token :: part) rest) := by
        have grown : depthAfter? 0 (token :: part).reverse = some after := by
          rw [List.reverse_cons, depth_append, within, Option.bind_some, next]
        simpa using ih after (token :: part) grown
      rw [cutCommas]
      split_ifs with comma opens closes
      · obtain ⟨rfl, rfl⟩ := comma
        exact .more within (ih 0 [] rfl)
      · exact longer _ (by simp [depthAfter?, comma, opens])
      · exact longer _ (by simp [depthAfter?, comma, opens, closes])
      · exact longer _ (by simp [depthAfter?, comma, opens, closes])

theorem parts_iff {tokens : List Token} {pieces : List (List Token)} :
    parts tokens = pieces ↔ Cut tokens pieces :=
  ⟨fun same => same ▸ parts_cut 0 [] tokens rfl, cut_parts⟩

end Token

namespace MemberEntry

def tokens (entry : MemberEntry) : List Token :=
  .word entry.key :: match entry.value with
    | some value => [.mark '=', .text value]
    | none => []

def listed : List MemberEntry → List Token
  | [] => []
  | [entry] => entry.tokens
  | entry :: rest => entry.tokens ++ .mark ',' :: listed rest

/-- The tokens hold the entries in order. A comma can stand behind the last one. -/
inductive Hold (entries : List MemberEntry) : List Token → Prop where
  | plain : Hold entries (listed entries)
  | closed (present : entries ≠ []) : Hold entries (listed entries ++ [.mark ','])

theorem read_tokens (last : Bool) (entry : MemberEntry) :
    read last entry.tokens =
      if Token.isKeyword entry.key then .error (.keyword entry.key) else .ok (entry, []) := by
  obtain ⟨key, value⟩ := entry
  cases value <;> rfl

theorem tokens_plain (entry : MemberEntry) :
    ∀ token ∈ entry.tokens, token ≠ .mark ',' ∧ token.opens = false ∧ token.closes = false := by
  obtain ⟨key, value⟩ := entry
  cases value <;> simp [tokens, Token.opens, Token.closes]

theorem parts_single (entry : MemberEntry) : Token.parts entry.tokens = [entry.tokens] :=
  Token.parts_iff.mpr (.last (by simp [Token.depth_plain entry.tokens_plain]))

theorem parts_entry (entry : MemberEntry) (rest : List Token) :
    Token.parts (entry.tokens ++ .mark ',' :: rest) = entry.tokens :: Token.parts rest :=
  Token.parts_iff.mpr (.more (Token.depth_plain entry.tokens_plain) (Token.parts_iff.mp rfl))

theorem parts_present (rest : List Token) : Token.parts rest ≠ [] := by
  intro nothing
  cases Token.parts_iff.mp nothing

end MemberEntry

namespace MemberSettings

open MemberEntry

def take (settings : MemberSettings) (entry : MemberEntry) :
    Except DeclarationFault MemberSettings :=
  if Token.isKeyword entry.key then .error (.keyword entry.key) else settings.apply entry

theorem read_part_take (last : Bool) (settings : MemberSettings) (entry : MemberEntry) :
    settings.readPart last entry.tokens = settings.take entry := by
  rw [readPart, read_tokens, take]
  split_ifs
  · rfl
  · change settings.apply entry >>= pure = _
    rw [bind_pure]

theorem read_parts_entry (settings : MemberSettings) (entry : MemberEntry) (rest : List Token) :
    settings.readParts (Token.parts (entry.tokens ++ .mark ',' :: rest)) =
      settings.take entry >>= fun next => next.readParts (Token.parts rest) := by
  rw [parts_entry, readParts, read_part_take]
  exact fun nothing => parts_present rest nothing

theorem read_parts_listed (settings : MemberSettings) (entries : List MemberEntry) :
    settings.readParts (Token.parts (listed entries)) = entries.foldlM take settings := by
  induction entries using listed.induct generalizing settings with
  | case1 => rfl
  | case2 entry =>
      rw [listed, parts_single, readParts, if_neg (by simp [tokens]), read_part_take]
      simp
  | case3 entry rest several ih =>
      rw [listed, read_parts_entry, List.foldlM_cons]
      · exact congrArg _ (funext ih)
      · exact several

theorem read_parts_closed (settings : MemberSettings) (entries : List MemberEntry)
    (present : entries ≠ []) :
    settings.readParts (Token.parts (listed entries ++ [.mark ','])) =
      entries.foldlM take settings := by
  induction entries using listed.induct generalizing settings with
  | case1 => exact absurd rfl present
  | case2 entry =>
      rw [listed, read_parts_entry, List.foldlM_cons]
      rfl
  | case3 entry rest several ih =>
      rw [listed, List.append_assoc, List.cons_append, read_parts_entry, List.foldlM_cons]
      · exact congrArg _ (funext fun next => ih next (several ·))
      · exact several

theorem of_tokens_held (entries : List MemberEntry) (content : List Token)
    (held : Hold entries content) : ofTokens content = entries.foldlM take {} := by
  cases held with
  | plain => exact read_parts_listed {} entries
  | closed present => exact read_parts_closed {} entries present

@[simp] theorem merge_empty (settings : MemberSettings) : settings.merge {} = settings := by
  simp [merge]

-- An entry changes only what it is about, and changes it to the same whatever was there before.
theorem merge_take (settings later : MemberSettings) (entry : MemberEntry) :
    (settings.merge later).take entry = (later.take entry).map settings.merge := by
  obtain ⟨key, value⟩ := entry
  unfold take
  split_ifs
  · rfl
  · cases value with
    | none =>
        simp only [apply, mark]
        split <;> simp [merge, Except.map]
    | some value =>
        simp only [apply, assign]
        split
        · simp [merge, Except.map]
        · cases writeRule? value <;> simp [merge, Except.map]
        · cases storage? value <;> simp [merge, Except.map]
        · rfl

theorem merge_foldl (settings later : MemberSettings) (entries : List MemberEntry) :
    entries.foldlM take (settings.merge later) =
      (entries.foldlM take later).map settings.merge := by
  induction entries generalizing later with
  | nil => rfl
  | cons entry rest ih =>
      rw [List.foldlM_cons, List.foldlM_cons, merge_take]
      cases later.take entry with
      | error fault => rfl
      | ok next => exact ih next

/-- Entries are taken on top of settings as they are taken alone and merged with these. -/
theorem foldl_merged (settings : MemberSettings) (entries : List MemberEntry) :
    entries.foldlM take settings = (entries.foldlM take {}).map settings.merge := by
  simpa using merge_foldl settings {} entries

theorem merge_all_held (settings : MemberSettings) (groups : List (List MemberEntry))
    (contents : List (List Token)) (held : List.Forall₂ Hold groups contents) :
    settings.mergeAll contents = groups.flatten.foldlM take settings := by
  induction held generalizing settings with
  | nil => rfl
  | @cons entries content groups contents first _ ih =>
      rw [mergeAll, of_tokens_held entries content first, List.flatten_cons, List.foldlM_append,
        foldl_merged settings entries]
      cases entries.foldlM take {} with
      | error fault => rfl
      | ok later => exact ih (settings.merge later)

/-- The settings of a member are its entries, taken in order and looked at as a whole. -/
theorem attributes_taken (groups : List (List MemberEntry)) (attributes : List Attribute)
    (held : List.Forall₂ Hold groups (Attribute.contents attributes)) :
    ofAttributes attributes = groups.flatten.foldlM take {} >>= check := by
  rw [ofAttributes, merge_all_held {} groups _ held]

/-- Wherever the entries of a member are cut, and whatever other attributes stand between, its
settings or the fault in them are those of one attribute that holds all the entries. -/
theorem cuts_immaterial (groups : List (List MemberEntry)) (attributes : List Attribute)
    (whole : List Token) (cut : List.Forall₂ Hold groups (Attribute.contents attributes))
    (together : Hold groups.flatten whole) :
    ofAttributes attributes = ofAttributes [⟨"orm", whole⟩] := by
  have one : List.Forall₂ Hold [groups.flatten] (Attribute.contents [⟨"orm", whole⟩]) :=
    .cons together .nil
  rw [attributes_taken groups attributes cut, attributes_taken _ _ one, List.flatten_singleton]

-- A name that an earlier attribute gives is kept by a bare key, and the last rule of writing counts.
theorem named_column_cut :
    ofAttributes
        [⟨"orm", [.word "column", .mark '=', .text "Total", .mark ',', .word "primary_key"]⟩,
          ⟨"doc", [.text "The total."]⟩,
          ⟨"orm", [.word "insert_update", .mark '=', .text "neither", .mark ',', .word "column",
            .mark ',']⟩,
          ⟨"orm", []⟩,
          ⟨"orm", [.word "insert_update", .mark '=', .text "only_insert"]⟩] =
        ofAttributes
          [⟨"orm", [.word "column", .mark '=', .text "Total", .mark ',', .word "primary_key",
            .mark ',', .word "insert_update", .mark '=', .text "neither", .mark ',', .word "column",
            .mark ',', .word "insert_update", .mark '=', .text "only_insert"]⟩] ∧
      ofAttributes
          [⟨"orm", [.word "column", .mark '=', .text "Total", .mark ',', .word "primary_key",
            .mark ',', .word "insert_update", .mark '=', .text "neither", .mark ',', .word "column",
            .mark ',', .word "insert_update", .mark '=', .text "only_insert"]⟩] =
        .ok { mapped := true, column := some "Total", primaryKey := true,
              writes := some .onlyInsert } :=
  ⟨cuts_immaterial
      [[⟨"column", some "Total"⟩, ⟨"primary_key", none⟩],
        [⟨"insert_update", some "neither"⟩, ⟨"column", none⟩], [],
        [⟨"insert_update", some "only_insert"⟩]] _ _
      (.cons .plain (.cons (.closed (by decide)) (.cons .plain (.cons .plain .nil)))) .plain,
    by decide⟩

-- The faults inside the attributes come before those of the settings as a whole.
example :
    ofAttributes [⟨"orm", [.word "ignore"]⟩, ⟨"orm", [.word "column", .mark ',', .word "colum"]⟩] =
        .error (.unknownMemberSetting "colum") ∧
      ofAttributes [⟨"orm", [.word "ignore"]⟩, ⟨"orm", [.word "column"]⟩] =
        .error .ignoredWithSettings := by
  decide

end MemberSettings

end MappedSql
