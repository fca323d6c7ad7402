import AccessAudit.Audit.Context
import AccessAudit.Proofs.Document.Actions

/-!
# What scripts do not change

A document without what scripts and style sheets say about its elements is its markup. Merges of the
same fragments have the same markup, whatever the scripts (`markup_merge`), so what is read off the
markup alone is the same for them.

What is attached to an element comes from all scripts together: of the actions in sequence, those
whose selector is resolved to the element (`actionsFor_merge_eq`). Which script an action is in
plays no part.
-/

namespace AccessAudit

/-! ## Markup -/

namespace Document

/-- A document without what scripts and style sheets say about its elements. -/
def markup (d : Document) : Document :=
  { d with annotations := [], actions := #[], orphanActions := [], orphanRules := [] }

variable (d : Document)

@[simp] theorem fragments_markup : d.markup.fragments = d.fragments := rfl

@[simp] theorem references_markup : d.markup.references = d.references := rfl

@[simp] theorem keys_markup : d.markup.keys = d.keys := rfl

@[simp] theorem element_markup : d.markup.element = d.element := rfl

@[simp] theorem valueOf_markup : d.markup.valueOf = d.valueOf := rfl

@[simp] theorem spotOf_markup : d.markup.spotOf = d.spotOf := rfl

@[simp] theorem ancestors_markup : d.markup.ancestors = d.ancestors := rfl

@[simp] theorem descendants_markup : d.markup.descendants = d.descendants := rfl

@[simp] theorem roleOf_markup : d.markup.roleOf = d.roleOf := rfl

@[simp] theorem owned_markup : d.markup.owned = d.owned := rfl

/-- What is read off the markup is the same for documents with the same markup. -/
theorem eq_of_markup {β : Sort*} {view : Document → β} {d d' : Document}
    (hview : ∀ d : Document, view d.markup = view d) (h : d'.markup = d.markup) :
    view d' = view d := by
  rw [← hview d', h, hview d]

end Document

section Merge

variable (config : Config) (inputs : List FragmentInput) (scripts : List Script)
  (sheets : List StyleSheet) (scope : Json)

theorem markup_merge (scripts' : List Script) :
    (merge config inputs scripts' sheets scope).markup =
      (merge config inputs scripts sheets scope).markup := rfl

/-! ## Actions in sequence -/

/-- The actions of an element are those of all scripts whose selector is resolved to it. -/
theorem actionsFor_merge_eq (key : Key) :
    (merge config inputs scripts sheets scope).actionsFor key =
      (scripts.flatMap Script.actions).filter fun a =>
        (resolvedKeys (indexInputs 0 inputs).1.toArray a.selector).contains key := by
  rw [actionsFor_merge, ← map_snd_flattenScripts, List.filter_map]
  rfl

end Merge

end AccessAudit
