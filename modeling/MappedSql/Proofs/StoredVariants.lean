import Mathlib.Data.List.Nodup
import MappedSql.Declaration.Outline
import MappedSql.Proofs.Outcome
import MappedSql.Proofs.ScalarLiterals

/-!
Variants that are stored by name and read back. The table of a declared enumeration lists every
variant once, in order, under the name that it was given last or else under its own. A stored name
is looked up by first match, and nothing keeps two variants from being given one name: they are
written alike, and what is read back is the first of them. Where no name is given twice, every
variant is found again.
-/

namespace MappedSql

open Outcome

namespace Setting

def names : Setting → List String
  | .assigned (some "rename") (.text value) => [value]
  | _ => []

def ofContent (content : List Token) : List Setting :=
  match ofTokens content with
  | .ok settings => settings
  | .error _ => []

end Setting

namespace VariantDeclaration

def renames (variant : VariantDeclaration) : List String :=
  (Attribute.contents variant.attributes).flatMap fun content =>
    (Setting.ofContent content).flatMap Setting.names

/-- The name under which a variant is stored: the one that was given last, or else its own. -/
def storedName (variant : VariantDeclaration) : String :=
  variant.renames.getLast?.getD (Declaration.plainName variant.name)

def numberBehind (last : Int) (variant : VariantDeclaration) : Int :=
  variant.discriminant.getD (last + 1)

def numbers (variants : List VariantDeclaration) : List Int :=
  (variants.scanl numberBehind (-1)).tail.map VariantOutline.asInt64

end VariantDeclaration

namespace VariantSettings

-- A fold in which every item that gives names puts the last of them in place of the name before.
theorem last_name_kept {α : Type} {step : Option String → α → Except DeclarationFault (Option String)}
    {given : α → List String}
    (each : ∀ before item after, step before item = .ok after →
      after = (given item).getLast?.or before)
    (items : List α) (before after : Option String) (taken : items.foldlM step before = .ok after) :
    after = (items.flatMap given).getLast?.or before := by
  induction items generalizing before with
  | nil =>
      cases taken
      rfl
  | cons item rest ih =>
      rw [List.foldlM_cons] at taken
      obtain ⟨middle, first, more⟩ := bind_ok_iff.mp taken
      rw [ih middle more, each before item middle first, List.flatMap_cons, List.getLast?_append,
        Option.or_assoc]

theorem rename_names (setting : Setting) (name : String) (read : rename setting = .ok name) :
    setting.names = [name] := by
  unfold rename at read
  split at read
  · cases read
    rfl
  · cases read
  · cases read

theorem read_last (before : Option String) (content : List Token) (after : Option String)
    (taken : read before content = .ok after) :
    after = ((Setting.ofContent content).flatMap Setting.names).getLast?.or before := by
  obtain ⟨settings, parted, more⟩ := bind_ok_iff.mp taken
  have own : Setting.ofContent content = settings := by rw [Setting.ofContent, parted]
  rw [own]
  refine last_name_kept (fun before setting after renamed => ?_) settings before after more
  obtain ⟨name, read, same⟩ := bind_ok_iff.mp renamed
  cases same
  rw [rename_names setting name read]
  rfl

theorem attributes_rename (variant : VariantDeclaration) (name : Option String)
    (read : ofAttributes variant.attributes = .ok name) : name = variant.renames.getLast? := by
  rw [last_name_kept read_last _ none name read, Option.or_none]
  rfl

end VariantSettings

namespace VariantOutline

/-- Every variant has one outline, in order, with its name, its stored name and its number; `last`
is the number before the first. -/
structure Outlined (last : Int) (variants : List VariantDeclaration)
    (outlines : List VariantOutline) : Prop where
  declared : outlines.map (·.declared) = variants.map (·.name)
  stored : outlines.map (·.stored) = variants.map (·.storedName)
  discriminants : outlines.map (·.discriminant) =
    (variants.scanl VariantDeclaration.numberBehind last).tail.map asInt64

theorem outlined_cons (last : Int) (variant : VariantDeclaration) (rest : List VariantDeclaration)
    (others : List VariantOutline) (outlined : Outlined (variant.numberBehind last) rest others) :
    Outlined last (variant :: rest)
      (⟨variant.name, variant.storedName, asInt64 (variant.numberBehind last)⟩ :: others) where
  declared := by rw [List.map_cons, outlined.declared, List.map_cons]
  stored := by rw [List.map_cons, outlined.stored, List.map_cons]
  discriminants := by
    have front (number : Int) : rest.scanl VariantDeclaration.numberBehind number =
        number :: (rest.scanl VariantDeclaration.numberBehind number).tail := by
      cases rest <;> simp
    rw [List.map_cons, outlined.discriminants, List.scanl_cons, List.tail_cons, front,
      List.map_cons, List.tail_cons]

-- The induction carries the number of the variant before those that are left.
theorem declarations_outlined (last : Int) (variants : List VariantDeclaration)
    (outlines : List VariantOutline) (accepted : ofDeclarations (last + 1) variants = .ok outlines) :
    Outlined last variants outlines := by
  induction variants generalizing last outlines with
  | nil =>
      cases accepted
      exact ⟨rfl, rfl, by simp⟩
  | cons variant rest ih =>
      unfold ofDeclarations at accepted
      split_ifs at accepted with members
      · cases accepted
      · obtain ⟨name, read, more⟩ := bind_ok_iff.mp accepted
        obtain ⟨others, later, same⟩ := bind_ok_iff.mp more
        cases same
        rw [VariantSettings.attributes_rename variant name read]
        exact outlined_cons last variant rest others (ih _ others later)

end VariantOutline

namespace Enumeration

def FirstNamed (known : Enumeration) (name : String) (found : Variant) : Prop :=
  ∃ before after, known.variants = before ++ found :: after ∧ found.name = name ∧
    ∀ other ∈ before, other.name ≠ name

theorem FirstNamed.listed {known : Enumeration} {name : String} {found : Variant}
    (first : known.FirstNamed name found) : found ∈ known.variants ∧ found.name = name := by
  obtain ⟨before, after, table, named, _⟩ := first
  rw [table]
  exact ⟨List.mem_append_cons_self, named⟩

theorem by_name_iff (known : Enumeration) (name : String) (found : Variant) :
    known.byName? name = some ⟨known, found⟩ ↔ known.FirstNamed name found := by
  rw [byName?, FirstNamed, Option.map_eq_some_iff]
  simp only [EnumValue.mk.injEq, true_and, exists_eq_right, List.find?_eq_some_iff_append, beq_iff_eq,
    Bool.not_eq_true', beq_eq_false_iff_ne]
  constructor
  · rintro ⟨named, before, after, table, others⟩
    exact ⟨before, after, table, named, others⟩
  · rintro ⟨before, after, table, named, others⟩
    exact ⟨named, before, after, table, others⟩

-- The name of a variant finds a variant of this name, though it may be another one.
theorem first_named_exists (known : Enumeration) (variant : Variant)
    (listed : variant ∈ known.variants) : ∃ found, known.FirstNamed variant.name found := by
  cases search : known.variants.find? fun other => other.name == variant.name with
  | none => exact absurd (List.find?_eq_none.mp search variant listed) (by simp)
  | some found => exact ⟨found, (known.by_name_iff _ _).mp (by rw [byName?, search]; rfl)⟩

theorem found_own_iff (known : Enumeration) :
    (∀ variant ∈ known.variants, known.byName? variant.name = some ⟨known, variant⟩) ↔
      ∀ first ∈ known.variants, ∀ second ∈ known.variants, first.name = second.name →
        first.discriminant = second.discriminant := by
  constructor
  · intro own first listed second other same
    have found := own first listed
    rw [same, own second other] at found
    cases found
    rfl
  · intro alike variant listed
    obtain ⟨found, first⟩ := known.first_named_exists variant listed
    have named : found.name = variant.name := first.listed.2
    have number := alike found first.listed.1 variant listed named
    obtain rfl : found = variant := congrArg₂ Variant.mk named number
    exact (known.by_name_iff found.name found).mpr first

end Enumeration

theorem Literal.form_injective : Function.Injective fun content => textForm content true := by
  intro first second (same : textForm first true = textForm second true)
  have read := form_read first
  rw [same, form_read second] at read
  simpa [String.toList_inj] using read.symm

theorem Value.variant_rendered (policy : LiteralPolicy) (byName : policy.enumAs = .name)
    (value : EnumValue) :
    (enumeration value).render policy = .ok (Literal.textForm value.variant.name true) := by
  simp only [render, literal, scalarLiteral, byName]
  rfl

namespace Enumeration

def readBack? (known : Enumeration) (written : String) : Option EnumValue :=
  match Payload.read? written.toList with
  | some (.text content, []) => known.byName? (String.ofList content)
  | _ => none

theorem read_back_form (known : Enumeration) (name : String) :
    known.readBack? (Literal.textForm name true) = known.byName? name := by
  rw [readBack?, Literal.form_read]
  exact congrArg known.byName? String.ofList_toList

end Enumeration

namespace EnumerationOutline

structure Lists (outline : EnumerationOutline) (variants : List VariantDeclaration) : Prop where
  declared : outline.variants.map (·.declared) = variants.map (·.name)
  names : outline.enumeration.variants.map (·.name) = variants.map (·.storedName)
  discriminants : outline.enumeration.variants.map (·.discriminant) =
    VariantDeclaration.numbers variants

theorem declaration_listed (declaration : Declaration) (outline : EnumerationOutline)
    (accepted : ofDeclaration declaration = .ok outline) :
    ∃ variants, declaration.body = .enumeration variants ∧ outline.Lists variants := by
  unfold ofDeclaration at accepted
  split at accepted
  · rename_i variants body
    split_ifs at accepted
    obtain ⟨outlines, read, rfl⟩ := map_ok_iff.mp accepted
    have outlined := VariantOutline.declarations_outlined (-1) variants outlines
      (by rwa [Int.add_left_neg])
    refine ⟨variants, body, outlined.declared, ?_, ?_⟩
    · rw [enumeration, List.map_map, ← outlined.stored]
      rfl
    · rw [enumeration, List.map_map, VariantDeclaration.numbers, ← outlined.discriminants]
      rfl
  · cases accepted

def literals (outline : EnumerationOutline) (policy : LiteralPolicy) : Except Fault (List String) :=
  outline.variants.mapM fun variant => (Value.enumeration (outline.valueOf variant)).render policy

/-- Whatever is written for a variant, the first that is stored under its name is read in it. -/
def ReadsFirst (outline : EnumerationOutline) (literals : List String) : Prop :=
  List.Forall₂ (fun variant literal => ∃ found,
    outline.enumeration.FirstNamed variant.stored found ∧
      outline.enumeration.readBack? literal = some ⟨outline.enumeration, found⟩)
    outline.variants literals

def ReadsBack (outline : EnumerationOutline) (literals : List String) : Prop :=
  List.Forall₂ (fun variant literal =>
    outline.enumeration.readBack? literal = some (outline.valueOf variant)) outline.variants literals

theorem literals_written (outline : EnumerationOutline) (policy : LiteralPolicy)
    (byName : policy.enumAs = .name) :
    outline.literals policy =
      .ok (outline.variants.map fun variant => Literal.textForm variant.stored true) :=
  mapM_ok_iff.mpr <| List.forall₂_map_right_iff.mpr <| List.forall₂_same.mpr fun variant _ =>
    Value.variant_rendered policy byName (outline.valueOf variant)

theorem forms_read_first (outline : EnumerationOutline) :
    outline.ReadsFirst (outline.variants.map fun variant => Literal.textForm variant.stored true) := by
  refine List.forall₂_map_right_iff.mpr (List.forall₂_same.mpr fun variant member => ?_)
  obtain ⟨found, first⟩ := outline.enumeration.first_named_exists _ (List.mem_map_of_mem member)
  refine ⟨found, first, ?_⟩
  rw [Enumeration.read_back_form, Enumeration.by_name_iff]
  exact first

theorem forms_read_back_iff (outline : EnumerationOutline) :
    outline.ReadsBack (outline.variants.map fun variant => Literal.textForm variant.stored true) ↔
      ∀ first ∈ outline.variants, ∀ second ∈ outline.variants, first.stored = second.stored →
        first.discriminant = second.discriminant := by
  have own := outline.enumeration.found_own_iff
  simp only [enumeration, List.forall_mem_map] at own
  rw [ReadsBack, List.forall₂_map_right_iff, List.forall₂_same]
  simp only [Enumeration.read_back_form]
  exact own

theorem forms_distinct_iff (outline : EnumerationOutline) :
    (outline.variants.map fun variant => Literal.textForm variant.stored true).Nodup ↔
      (outline.variants.map (·.stored)).Nodup := by
  have forms : (outline.variants.map fun variant => Literal.textForm variant.stored true) =
      (outline.variants.map (·.stored)).map fun name => Literal.textForm name true := by
    rw [List.map_map, Function.comp_def]
  rw [forms, List.nodup_map_iff Literal.form_injective]

/-- The table of a declared enumeration lists every variant once, in order, with its stored name and
its number. Each variant has a literal, and the first one with its stored name is read in it. The
literals differ from each other just when the stored names do, and every variant is read again just
when no two of one stored name have different numbers; so both is the case if and only if no stored
name is given twice. -/
theorem variants_read_back_iff (declaration : Declaration) (outline : EnumerationOutline)
    (accepted : ofDeclaration declaration = .ok outline) (policy : LiteralPolicy)
    (byName : policy.enumAs = .name) :
    ∃ variants literals, declaration.body = .enumeration variants ∧ outline.Lists variants ∧
      outline.literals policy = .ok literals ∧ outline.ReadsFirst literals ∧
      (literals.Nodup ↔ (variants.map (·.storedName)).Nodup) ∧
      (outline.ReadsBack literals ↔
        ∀ first ∈ outline.variants, ∀ second ∈ outline.variants, first.stored = second.stored →
          first.discriminant = second.discriminant) ∧
      (literals.Nodup ∧ outline.ReadsBack literals ↔ (variants.map (·.storedName)).Nodup) := by
  obtain ⟨variants, body, lists⟩ := declaration_listed declaration outline accepted
  have names : outline.variants.map (·.stored) = variants.map (·.storedName) := by
    rw [← lists.names, enumeration, List.map_map]
    rfl
  have distinct := outline.forms_distinct_iff
  have found := outline.forms_read_back_iff
  rw [names] at distinct
  refine ⟨variants, _, body, lists, outline.literals_written policy byName,
    outline.forms_read_first, distinct, found, fun both => distinct.mp both.1, fun apart => ?_⟩
  refine ⟨distinct.mpr apart, found.mpr fun first listed second other same => ?_⟩
  rw [← names] at apart
  rw [List.inj_on_of_nodup_map apart listed other same]

def sides : Declaration where
  name := "Side"
  body := .enumeration [
    ⟨"Left", [⟨"orm", [.word "rename", .mark '=', .text "Right"]⟩], false, none⟩,
    ⟨"r#else", [], false, some 7⟩,
    ⟨"Its", [⟨"orm", [.word "rename", .mark '=', .text "it's", .mark ',']⟩], false, none⟩,
    ⟨"Right", [⟨"orm", [.word "rename", .mark '=', .text "Its"]⟩, ⟨"doc", []⟩,
      ⟨"orm", [.word "rename", .mark '=', .text "Left"]⟩], false, some 18446744073709551615⟩]

theorem exchanged_sides_read_back :
    ∃ outline, ofDeclaration sides = .ok outline ∧
      outline.enumeration.variants.map (·.discriminant) = [0, 7, 8, -1] ∧
      outline.literals ⟨.name, true, false⟩ =
        .ok ["'Right'", "'else'", "'it''s'", "'Left'"] ∧
      outline.ReadsBack ["'Right'", "'else'", "'it''s'", "'Left'"] := by
  obtain ⟨variants, literals, body, _, written, _, _, _, both⟩ :=
    variants_read_back_iff sides _ rfl ⟨.name, true, false⟩ rfl
  cases body
  obtain rfl : literals = ["'Right'", "'else'", "'it''s'", "'Left'"] :=
    Except.ok.inj (written.symm.trans rfl)
  exact ⟨_, rfl, rfl, written, (both.mpr (by decide)).2⟩

def renamedStatus : Declaration where
  name := "Status"
  body := .enumeration [⟨"Active", [], false, some 1⟩,
    ⟨"Inactive", [⟨"orm", [.word "rename", .mark '=', .text "Active"]⟩], false, some 2⟩]

/-- The second status is written as the first one and is read as the first one. -/
theorem renamed_status_lost :
    ∃ outline active inactive, ofDeclaration renamedStatus = .ok outline ∧
      outline.variants = [active, inactive] ∧
      active = ⟨"Active", "Active", 1⟩ ∧ inactive = ⟨"Inactive", "Active", 2⟩ ∧
      outline.literals ⟨.name, false, true⟩ = .ok ["'Active'", "'Active'"] ∧
      outline.enumeration.readBack? "'Active'" = some (outline.valueOf active) ∧
      ¬ outline.ReadsBack ["'Active'", "'Active'"] := by
  refine ⟨_, _, _, rfl, rfl, rfl, rfl, rfl, rfl, fun found => ?_⟩
  obtain _ | ⟨_, _ | ⟨lost, _⟩⟩ := found
  exact absurd lost (by decide)

end EnumerationOutline

end MappedSql
