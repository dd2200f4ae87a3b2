import PowerDisasm.Proofs.FormEncodings
import PowerDisasm.Table.Primary

/-! # The encodings of the instruction tables

What the instruction tables promise to every theorem about them: their keys are
free of overlap, nothing is below a fallback, and no form is one of the illegal
record. -/

namespace PowerDisasm

namespace Table

theorem primary_entriesOnly (has128 : Bool) : (primary has128).entriesOnly = true := by
  cases has128 <;> decide +kernel

theorem primary_keys_separate (has128 : Bool) :
    ∀ key ∈ (primary has128).keys, Field.Separate key := by
  cases has128 <;> decide +kernel

theorem primary_forms_valid (has128 : Bool) :
    ∀ form ∈ (primary has128).forms, form.tags.invalid = false := by
  cases has128 <;> decide +kernel

theorem primary_forms_eq (has128 : Bool) :
    (primary has128).forms = (primary has128).encodings.map Encoding.form := by
  cases has128 <;> decide +kernel

end Table

namespace Model

theorem tree_eq (model : Model) : model.tree = Table.primary model.hasVector128 := by
  cases model <;> rfl

theorem tree_entriesOnly (model : Model) : model.tree.entriesOnly = true := by
  rw [tree_eq]
  exact Table.primary_entriesOnly _

theorem tree_keys_separate (model : Model) : ∀ key ∈ model.tree.keys, Field.Separate key := by
  rw [tree_eq]
  exact Table.primary_keys_separate _

theorem tree_forms_valid (model : Model) :
    ∀ form ∈ model.tree.forms, form.tags.invalid = false := by
  rw [tree_eq]
  exact Table.primary_forms_valid _

theorem exists_encoding {model : Model} {form : InstructionForm}
    (member : form ∈ model.tree.forms) :
    ∃ encoding ∈ model.tree.encodings, encoding.form = form := by
  rw [tree_eq, Table.primary_forms_eq] at member
  rw [tree_eq]
  exact List.mem_map.mp member

theorem reach_tree_eq_form_iff {model : Model} {word : Word} {form : InstructionForm} :
    model.tree.reach word = .form form ↔
      ∃ pattern : Pattern, pattern.Matches word ∧ ⟨pattern, form⟩ ∈ model.tree.encodings :=
  DecodeTree.reach_eq_form_iff model.tree_entriesOnly model.tree_keys_separate

end Model

end PowerDisasm
