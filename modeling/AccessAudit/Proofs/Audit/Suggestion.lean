import AccessAudit.Proofs.Audit.Ownership
import AccessAudit.Proofs.Text.Normal

/-!
# Suggested ids

For an id that does not exist, the closest of the known ids is suggested. Whatever the ranking
prefers, it only ever picks from the ids of the document, so a suggestion leads to an element
(`suggestion?_spec`). About its text no more is known than about any id: it is not empty and has no
blanks at its ends (`Element.id?_spec`), but it may have some inside.
-/

namespace AccessAudit

open Text

namespace Similarity

theorem mem_takeLimit {α : Type} {limit : Int} {items : List α} {a : α}
    (h : a ∈ takeLimit limit items) : a ∈ items := by
  unfold takeLimit at h
  split at h
  · exact List.mem_of_mem_take h
  · exact List.mem_of_mem_take h

/-- What is suggested is one of the known names and not the unknown one. -/
theorem mem_suggest {missing name : String} {names : List String} {maxDistance limit : Int}
    (h : name ∈ suggest missing names maxDistance limit) : name ∈ names ∧ name ≠ missing := by
  obtain ⟨candidate, hcandidate, rfl⟩ := List.mem_map.mp h
  have hranked := mem_takeLimit hcandidate
  rw [rank, List.mem_mergeSort] at hranked
  obtain ⟨near, hnear, rfl⟩ := List.mem_map.mp hranked
  obtain ⟨hknown, hother⟩ := List.mem_filter.mp (List.mem_of_mem_filter hnear)
  rw [List.mem_eraseDups] at hknown
  exact ⟨hknown, bne_iff_ne.mp hother⟩

end Similarity

theorem Element.id?_spec {e : Element} {id : String} (h : e.id? = some id) :
    id ≠ "" ∧ trim id.toList = id.toList := by
  unfold Element.id? at h
  dsimp only at h
  split at h
  case isTrue => cases h
  case isFalse hne =>
    cases h
    refine ⟨by simpa using hne, ?_⟩
    rw [strip, String.toList_ofList, trim_trim]

/-- A suggestion leads to an element that has it as its id. -/
theorem Integrity.suggestion?_spec {d : Document} {context : AnalysisContext} {id best : String}
    (h : suggestion? d context id = some best) : best ≠ id ∧ ∃ key ∈ d.keys,
      d.elementById? best = some key ∧ (d.element key).id? = some best := by
  obtain ⟨hknown, hother⟩ := Similarity.mem_suggest (List.mem_of_mem_head? h)
  obtain ⟨owner, howner, hid⟩ := Document.mem_allIds.mp hknown
  refine ⟨hother, ?_⟩
  cases hfind : d.elementById? best with
  | none =>
    rw [Document.elementById?_eq_find?, List.find?_eq_none] at hfind
    exact absurd (beq_iff_eq.mpr hid) (hfind owner howner)
  | some key =>
    obtain ⟨hkey, hbest⟩ := Document.id?_of_elementById? hfind
    exact ⟨key, hkey, rfl, hbest⟩

/-- The only id of a document is suggested for any other that is close to it. -/
theorem Integrity.suggestion?_of_idOf {d : Document} {known missing : String}
    (hids : d.keys.filterMap d.idOf = [known]) (hother : known ≠ missing)
    (hnear : (Similarity.distance missing known : Int) ≤ Config.suggestionThreshold {} missing) :
    suggestion? d {} missing = some known := by
  have honce : [known].eraseDups = [known] := rfl
  have hall : d.allIds = [known] := by
    rw [allIds_eq, Document.usedIds, hids]
    simp [sortTexts, honce]
  simp [suggestion?, hall, honce, Similarity.suggest, Similarity.rank, hother, hnear,
    Similarity.takeLimit, Similarity.Candidate.ofName]

end AccessAudit
