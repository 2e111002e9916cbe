import MappedSql.Declaration.Outline
import MappedSql.Declaration.Settings
import MappedSql.Proofs.Outcome
import MappedSql.Text.CamelCase

/-!
What the settings of a member are made of. The entries of all its attributes stand one behind the
other; a member has a column, is a document or is left out if there is an entry that says so, and
the name of the column is the one that was given last. The settings that are read tell just this.
-/

namespace MappedSql

namespace MemberEntry

def ofPart (part : List Token) : List MemberEntry :=
  match read true part with
  | .ok (entry, _) => [entry]
  | .error _ => []

def ofContent (content : List Token) : List MemberEntry :=
  (Token.parts content).flatMap ofPart

def mentions (key : String) (entries : List MemberEntry) : Bool :=
  entries.any (·.key == key)

def columnName? (entry : MemberEntry) : Option String :=
  if entry.key = "column" then entry.value else none

def lastColumnName? (entries : List MemberEntry) : Option String :=
  (entries.filterMap columnName?).getLast?

theorem mentions_append (key : String) (first second : List MemberEntry) :
    mentions key (first ++ second) = (mentions key first || mentions key second) :=
  List.any_append

theorem last_name_append (first second : List MemberEntry) :
    lastColumnName? (first ++ second) = (lastColumnName? second).or (lastColumnName? first) := by
  rw [lastColumnName?, List.filterMap_append, List.getLast?_append]
  rfl

-- Where a part stands makes a difference to the reason of a refusal only.
theorem read_part (last : Bool) (part : List Token) (entry : MemberEntry) (rest : List Token)
    (success : read last part = .ok (entry, rest)) : ofPart part = [entry] := by
  unfold read at success
  unfold ofPart read
  split at success
  · split_ifs at success ⊢
    split at success
    · cases success
      rfl
    · cases success
    · cases success
      rfl
  · cases success

end MemberEntry

namespace MemberDeclaration

def entries (member : MemberDeclaration) : List MemberEntry :=
  (Attribute.contents member.attributes).flatMap MemberEntry.ofContent

def hasColumn (member : MemberDeclaration) : Bool :=
  MemberEntry.mentions "column" member.entries

def isDocument (member : MemberDeclaration) : Bool :=
  MemberEntry.mentions "json" member.entries

def isIgnored (member : MemberDeclaration) : Bool :=
  MemberEntry.mentions "ignore" member.entries

def plainName (member : MemberDeclaration) : String :=
  Declaration.plainName member.name

def columnName (member : MemberDeclaration) : String :=
  (MemberEntry.lastColumnName? member.entries).getD (Text.camelCase member.plainName)

end MemberDeclaration

namespace MemberSettings

open Outcome

/-- The settings say of the column, of the document and of leaving out what the entries say. -/
structure Tells (entries : List MemberEntry) (settings : MemberSettings) : Prop where
  mapped : settings.mapped = MemberEntry.mentions "column" entries
  column : settings.column = MemberEntry.lastColumnName? entries
  json : settings.json = MemberEntry.mentions "json" entries
  ignored : settings.ignored = MemberEntry.mentions "ignore" entries

theorem empty_tells : Tells [] {} :=
  ⟨rfl, rfl, rfl, rfl⟩

theorem merge_tells (first second : List MemberEntry) (settings later : MemberSettings)
    (before : Tells first settings) (after : Tells second later) :
    Tells (first ++ second) (settings.merge later) where
  mapped := by rw [merge, before.mapped, after.mapped, MemberEntry.mentions_append]
  column := by rw [merge, before.column, after.column, MemberEntry.last_name_append]
  json := by rw [merge, before.json, after.json, MemberEntry.mentions_append]
  ignored := by rw [merge, before.ignored, after.ignored, MemberEntry.mentions_append]

-- One more entry changes only what it is about.
theorem tells_append (entries : List MemberEntry) (settings next : MemberSettings)
    (entry : MemberEntry) (before : Tells entries settings)
    (mapped : next.mapped = (settings.mapped || entry.key == "column"))
    (column : next.column = entry.columnName?.or settings.column)
    (json : next.json = (settings.json || entry.key == "json"))
    (ignored : next.ignored = (settings.ignored || entry.key == "ignore")) :
    Tells (entries ++ [entry]) next where
  mapped := by rw [mapped, before.mapped, MemberEntry.mentions_append]; simp [MemberEntry.mentions]
  column := by
    rw [column, before.column, MemberEntry.last_name_append]
    cases named : entry.columnName? <;> simp [MemberEntry.lastColumnName?, named]
  json := by rw [json, before.json, MemberEntry.mentions_append]; simp [MemberEntry.mentions]
  ignored := by rw [ignored, before.ignored, MemberEntry.mentions_append]; simp [MemberEntry.mentions]

theorem mark_tells (entries : List MemberEntry) (settings next : MemberSettings) (key : String)
    (before : Tells entries settings) (taken : settings.mark key = .ok next) :
    Tells (entries ++ [⟨key, none⟩]) next := by
  unfold mark at taken
  -- One case for each key that stands alone; any other is refused.
  split at taken
  all_goals cases taken
  all_goals
    exact tells_append entries _ _ _ before (by simp) (by simp [MemberEntry.columnName?]) (by simp)
      (by simp)

theorem assign_tells (entries : List MemberEntry) (settings next : MemberSettings)
    (key value : String) (before : Tells entries settings)
    (taken : settings.assign key value = .ok next) : Tells (entries ++ [⟨key, some value⟩]) next := by
  have unsaid (same : next.mapped = settings.mapped ∧ next.column = settings.column ∧
      next.json = settings.json ∧ next.ignored = settings.ignored)
      (other : key ≠ "column" ∧ key ≠ "json" ∧ key ≠ "ignore") :
      Tells (entries ++ [⟨key, some value⟩]) next :=
    tells_append entries settings next _ before (by simp [same, other])
      (by simp [MemberEntry.columnName?, same, other]) (by simp [same, other]) (by simp [same, other])
  unfold assign at taken
  split at taken
  · cases taken
    exact tells_append entries _ _ _ before (by simp) (by simp [MemberEntry.columnName?]) (by simp)
      (by simp)
  · split at taken
    · cases taken
      exact unsaid ⟨rfl, rfl, rfl, rfl⟩ (by decide)
    · cases taken
  · split at taken
    · cases taken
      exact unsaid ⟨rfl, rfl, rfl, rfl⟩ (by decide)
    · cases taken
  · cases taken

theorem apply_tells (entries : List MemberEntry) (settings next : MemberSettings)
    (entry : MemberEntry) (before : Tells entries settings)
    (taken : settings.apply entry = .ok next) : Tells (entries ++ [entry]) next := by
  obtain ⟨key, value⟩ := entry
  cases value with
  | none => exact mark_tells entries settings next key before taken
  | some value => exact assign_tells entries settings next key value before taken

theorem read_part_tells (last : Bool) (entries : List MemberEntry) (settings next : MemberSettings)
    (part : List Token) (before : Tells entries settings)
    (taken : settings.readPart last part = .ok next) :
    Tells (entries ++ MemberEntry.ofPart part) next := by
  obtain ⟨⟨entry, rest⟩, read, more⟩ := bind_ok_iff.mp taken
  obtain ⟨applied, done, whole⟩ := bind_ok_iff.mp more
  rw [MemberEntry.read_part last part entry rest read]
  split_ifs at whole
  cases whole
  exact apply_tells entries settings next entry before done

theorem read_parts_tells (entries : List MemberEntry) (settings final : MemberSettings)
    (parts : List (List Token)) (before : Tells entries settings)
    (taken : settings.readParts parts = .ok final) :
    Tells (entries ++ parts.flatMap MemberEntry.ofPart) final := by
  induction settings, parts using readParts.induct generalizing entries with
  | case1 settings =>
      cases taken
      simpa using before
  | case2 settings part empty =>
      rw [readParts, if_pos empty] at taken
      cases taken
      rw [List.isEmpty_iff.mp empty]
      simpa [MemberEntry.ofPart, MemberEntry.read] using before
  | case3 settings part present =>
      rw [readParts, if_neg present] at taken
      simpa using read_part_tells true entries settings final part before taken
  | case4 settings part rest several ih =>
      rw [readParts] at taken
      · obtain ⟨next, first, more⟩ := bind_ok_iff.mp taken
        have later := ih next _ (read_part_tells false entries settings next part before first) more
        rwa [List.append_assoc] at later
      · exact several

theorem tokens_tell (content : List Token) (settings : MemberSettings)
    (taken : ofTokens content = .ok settings) : Tells (MemberEntry.ofContent content) settings := by
  have all := read_parts_tells [] {} settings (Token.parts content) empty_tells taken
  rwa [List.nil_append] at all

-- The settings of an attribute are merged with those before it, whose entries stand before its own.
theorem merge_all_tells (entries : List MemberEntry) (settings final : MemberSettings)
    (contents : List (List Token)) (before : Tells entries settings)
    (taken : settings.mergeAll contents = .ok final) :
    Tells (entries ++ contents.flatMap MemberEntry.ofContent) final := by
  induction contents generalizing entries settings with
  | nil =>
      cases taken
      simpa using before
  | cons content rest ih =>
      obtain ⟨later, read, more⟩ := bind_ok_iff.mp taken
      have merged := merge_tells entries _ settings later before (tokens_tell content later read)
      rw [List.flatMap_cons, ← List.append_assoc]
      exact ih _ _ merged more

theorem check_ok (settings checked : MemberSettings) (passed : settings.check = .ok checked) :
    checked = settings := by
  unfold check at passed
  split_ifs at passed
  cases passed
  rfl

theorem attributes_tell (member : MemberDeclaration) (settings : MemberSettings)
    (read : ofAttributes member.attributes = .ok settings) : Tells member.entries settings := by
  obtain ⟨merged, taken, passed⟩ := bind_ok_iff.mp read
  obtain rfl := merged.check_ok settings passed
  have all := merge_all_tells [] {} settings _ empty_tells taken
  rwa [List.nil_append] at all

end MemberSettings

end MappedSql
