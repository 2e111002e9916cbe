import MappedSql.Proofs.DocumentTexts
import MappedSql.Proofs.ScalarLiterals
import MappedSql.Proofs.UnwritableValues

/-!
Document literals read back. A document or a list is written as the text of its document between
quotes. Taking the quotes off and reading the text gives the document again.
-/

namespace MappedSql.Value

open Outcome

def isDocumentary : Value → Bool
  | document _ | list _ => true
  | _ => false

def ExactPart : Value → Prop
  | float _ _ => False
  | integer _ value => Json.fitsInteger value = true
  | document content => content.Exact
  | _ => True

/-- No part is a floating-point number, whole numbers fit sixty-four bits, signed or unsigned, and
the documents are exact. -/
def Exact (value : Value) : Prop :=
  ∀ part, Within part value → part.ExactPart

theorem exact_simple_iff (value : Value) (simple : value.isList = false) :
    value.Exact ↔ value.ExactPart :=
  all_parts_simple_iff ExactPart value simple

theorem exact_list_iff (items : List Value) :
    (list items).Exact ↔ ∀ item ∈ items, item.Exact := by
  rw [Exact, all_parts_list_iff ExactPart]
  exact and_iff_right trivial

theorem exact_document (value : Value) (exact : value.Exact) (document : Json)
    (made : value.toDocument = .ok document) : document.Exact := by
  induction value using of_items generalizing document with
  | simple value plain =>
      have part := (exact_simple_iff value plain).mp exact
      cases value with
      | list _ => cases plain
      | float _ _ => cases part
      | bytes _ | record _ _ => cases made
      | integer _ _ => cases made; exact .integer part
      | document _ => cases made; exact part
      | null => cases made; exact .null
      | bool value => cases made; exact .bool value
      | _ => cases made; exact .text _
  | listed items ih =>
      rw [toDocument, toDocuments_mapM] at made
      obtain ⟨documents, each, rfl⟩ := map_ok_iff.mp made
      refine .array fun one member => ?_
      obtain ⟨item, within, document⟩ := mapM_member each member
      exact ih item within ((exact_list_iff items).mp exact item within) one document

theorem documentary_rendered (policy : LiteralPolicy) (json : policy.json = true)
    (quoted : policy.quoted = true) (value : Value) (documentary : value.isDocumentary = true) :
    value.render policy =
      value.toDocument.map fun document => Literal.textForm document.render true := by
  cases value with
  | document _ | list _ =>
      simp only [render, literal, json, quoted, Except.map]
      cases toDocument _ <;> rfl
  | _ => cases documentary

theorem document_form_read (document : Json) :
    Payload.read? (Literal.textForm document.render true).toList =
      some (.text document.render.toList, []) :=
  Literal.form_read document.render

/-- A document or a list has a literal exactly when nothing in it is without a document. Without
its quotes, and with doubled quotes undone, the literal is a text in which the document is read
again. -/
theorem document_read_back (policy : LiteralPolicy) (json : policy.json = true)
    (quoted : policy.quoted = true) (value : Value) (documentary : value.isDocumentary = true)
    (exact : value.Exact) :
    ((∃ text, value.render policy = .ok text) ↔ value.Transparent) ∧
      ∀ text, value.render policy = .ok text →
        ∃ document content, value.toDocument = .ok document ∧
          Payload.read? text.toList = some (.text content, []) ∧
          Json.ofText? (String.ofList content) = some document := by
  rw [documentary_rendered policy json quoted value documentary]
  constructor
  · rw [← document_exists_iff]
    constructor
    · rintro ⟨_, written⟩
      obtain ⟨document, made, _⟩ := map_ok_iff.mp written
      exact ⟨document, made⟩
    · rintro ⟨document, made⟩
      exact ⟨_, map_ok_iff.mpr ⟨document, made, rfl⟩⟩
  · intro text written
    obtain ⟨document, made, rfl⟩ := map_ok_iff.mp written
    refine ⟨document, document.render.toList, made, document_form_read document, ?_⟩
    rw [String.ofList_toList]
    exact (Json.render_prints document (exact_document value exact document made)).read

def settings : Json :=
  .ofMembers [("it's", .text "''"), ("b", .array [.bool true])]

theorem settings_exact : settings.Exact := by
  refine Json.of_members_exact _ fun member within => ?_
  rcases List.mem_pair.mp within with rfl | rfl
  · exact .text "''"
  · exact .array fun item only => List.mem_singleton.mp only ▸ .bool true

def escapes : Value :=
  list [text "it's \"\\\u0001", list [integer .int32 (-7), document settings]]

theorem escapes_exact : escapes.Exact := by
  have inner : (list [integer .int32 (-7), document settings]).Exact := by
    refine (exact_list_iff _).mpr fun item member => ?_
    rcases List.mem_pair.mp member with rfl | rfl
    · exact (exact_simple_iff _ rfl).mpr rfl
    · exact (exact_simple_iff _ rfl).mpr settings_exact
  refine (exact_list_iff _).mpr fun item member => ?_
  rcases List.mem_pair.mp member with rfl | rfl
  · exact (exact_simple_iff _ rfl).mpr trivial
  · exact inner

theorem escapes_read_back :
    ∃ text, escapes.render ⟨.name, true, true⟩ = .ok text ∧
      ∃ document content, escapes.toDocument = .ok document ∧
        Payload.read? text.toList = some (.text content, []) ∧
        Json.ofText? (String.ofList content) = some document := by
  have read := document_read_back ⟨.name, true, true⟩ rfl rfl escapes rfl escapes_exact
  obtain ⟨text, written⟩ := read.1.mpr ((document_exists_iff escapes).mp ⟨_, rfl⟩)
  exact ⟨text, written, read.2 text written⟩

end MappedSql.Value
