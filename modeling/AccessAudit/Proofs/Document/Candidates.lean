import AccessAudit.Proofs.Document.Breakdown
import AccessAudit.Proofs.Document.Owners
import AccessAudit.Proofs.Markup.Index
import AccessAudit.Proofs.Selector.Reading

/-!
# The index of simple selectors and the matcher

An action's selector is looked up, as a text, among the texts by which elements can be referred
to, and only if that finds nothing is it parsed and matched. The two ways agree
(`resolve_refers`): the texts of an element are those of conditions it satisfies
(`Element.handles`), each of them is read as its condition, so different conditions have different
texts, and an element satisfies a condition that comes from another element exactly when it has
that condition among its own.

The index is filled selector by selector, and whether an element is already in a bucket is only
looked up at its end. That is enough, since the elements are gone through in order: a bucket holds the
elements with its text, each once (`lookup_build`).

This holds as long as the names in the markup can be written in a selector without backslashes
(`Element.Plain`).
-/

namespace AccessAudit

open Text Selector

variable {fragments : Array Fragment} {key : Key}

/-! ## The conditions an element is referred to by -/

namespace Element

/-- The condition on a value of the role attribute. -/
def roleTest (value : String) : Simple := .attribute "role" (some ⟨.equals, value, false⟩)

/-- The conditions by which an element can be referred to. -/
def handles (e : Element) : List Simple :=
  (e.id?.map Simple.id).toList ++ e.classes.map Simple.className ++ [.type e.tag]
    ++ (e.explicitRole?.map fun _ => roleTest (e.valueOf "role")).toList
    ++ e.ariaAttributes.map fun entry => .attribute entry.1 none

theorem render_roleTest (value : String) :
    (roleTest value).render = "[role=\"" ++ value ++ "\"]" := by
  rw [← String.toList_inj]
  simp [roleTest, Simple.render, ValueTest.render, Comparison.symbol]

theorem candidateSelectors_eq (e : Element) :
    e.candidateSelectors = e.handles.map Simple.render := by
  unfold candidateSelectors handles
  simp only [List.map_append, List.map_map, List.map_cons, List.map_nil, Option.toList_map,
    Function.comp_def, render_roleTest, Simple.render]

/-- The names in an element's markup are made of word characters and hyphens, those that are
compared in small letters are in small letters, and no double quote is in its role. -/
structure Plain (e : Element) : Prop where
  tag : IsName e.tag.toList ∧ lower e.tag = e.tag
  id : ∀ value ∈ e.id?, IsName value.toList
  classes : ∀ name ∈ e.classes, IsName name.toList
  aria : ∀ entry ∈ e.ariaAttributes, IsName entry.1.toList ∧ lower entry.1 = entry.1
  role : '"' ∉ (e.valueOf "role").toList

instance (e : Element) : Decidable e.Plain :=
  decidable_of_iff
    ((IsName e.tag.toList ∧ lower e.tag = e.tag) ∧ (∀ value ∈ e.id?, IsName value.toList) ∧
      (∀ name ∈ e.classes, IsName name.toList) ∧
      (∀ entry ∈ e.ariaAttributes, IsName entry.1.toList ∧ lower entry.1 = entry.1) ∧
      '"' ∉ (e.valueOf "role").toList)
    ⟨fun ⟨tag, id, classes, aria, role⟩ => ⟨tag, id, classes, aria, role⟩,
      fun h => ⟨h.tag, h.id, h.classes, h.aria, h.role⟩⟩

variable {e other : Element} {part : Simple}

theorem mem_handles : part ∈ e.handles ↔
    (∃ value, e.id? = some value ∧ part = .id value) ∨
    (∃ name ∈ e.classes, part = .className name) ∨ part = .type e.tag ∨
    (words (e.valueOf "role") ≠ [] ∧ part = roleTest (e.valueOf "role")) ∨
    ∃ entry ∈ e.ariaAttributes, part = .attribute entry.1 none := by
  have hrole : part ∈ (e.explicitRole?.map fun _ => roleTest (e.valueOf "role")).toList ↔
      words (e.valueOf "role") ≠ [] ∧ part = roleTest (e.valueOf "role") := by
    unfold explicitRole?
    cases words (e.valueOf "role") with
    | nil => simp
    | cons word rest => simp
  unfold handles
  simp only [List.mem_append, hrole, List.mem_map, Option.mem_toList, Option.map_eq_some_iff,
    List.mem_singleton, or_assoc, @eq_comm Simple _ part]

theorem Plain.handle (h : e.Plain) (hpart : part ∈ e.handles) : part.Plain := by
  rcases mem_handles.mp hpart with ⟨value, hvalue, rfl⟩ | ⟨name, hname, rfl⟩ | rfl | ⟨-, rfl⟩ |
    ⟨entry, hentry, rfl⟩
  · exact h.id value hvalue
  · exact h.classes name hname
  · exact h.tag
  · refine ⟨by decide, ?_, ?_⟩
    · rw [lower, lowerChars, lowerFrom_ascii _ (by decide)]
      decide
    · rintro _ ⟨⟩
      exact h.role
  · exact ⟨(h.aria entry hentry).1, (h.aria entry hentry).2, nofun⟩

/-- An attribute that no word is in has no role to be referred to by. -/
theorem get?_role_iff {value : String} (h : words value ≠ []) :
    e.get? "role" = some value ↔ e.valueOf "role" = value := by
  unfold valueOf
  cases e.get? "role" with
  | some actual => simp
  | none =>
    constructor
    · nofun
    · rintro rfl
      exact absurd rfl h

theorem get?_isSome_iff {name : String} :
    (e.get? name).isSome = true ↔ ∃ entry ∈ e.attributes, entry.1 = name := by
  rw [get?, Entries.get?, List.lookup_isSome_iff]
  simp only [beq_iff_eq, @eq_comm String name]

/-- A condition that one element is referred to by holds of another one exactly when that can be
referred to by it, too. -/
theorem mem_handles_iff_matches (hpart : part ∈ other.handles) {f : Fragment} {states : States}
    {order : Nat} : part ∈ e.handles ↔ part.matches f states order e = true := by
  rcases mem_handles.mp hpart with ⟨value, hvalue, rfl⟩ | ⟨name, hname, rfl⟩ | rfl | ⟨hrole, rfl⟩ |
    ⟨entry, hentry, rfl⟩
  · simp [mem_handles, roleTest, Simple.matches]
  · simp [mem_handles, roleTest, Simple.matches]
  · simp [mem_handles, roleTest, Simple.matches, @eq_comm String other.tag]
  · have hmatch : (roleTest (other.valueOf "role")).matches f states order e = true ↔
        e.get? "role" = some (other.valueOf "role") := by
      rw [roleTest, Simple.matches, attributeHolds]
      cases e.get? "role" with
      | none => simp
      | some actual => simp [ValueTest.holds, Comparison.holds]
    have hmem : roleTest (other.valueOf "role") ∈ e.handles ↔
        words (e.valueOf "role") ≠ [] ∧ other.valueOf "role" = e.valueOf "role" := by
      simp [mem_handles, roleTest]
    rw [hmatch, get?_role_iff hrole, hmem]
    exact ⟨fun h => h.2.symm, fun h => ⟨h ▸ hrole, h.symm⟩⟩
  · obtain ⟨-, haria⟩ := List.mem_filter.mp hentry
    have hmatch : (Simple.attribute entry.1 none).matches f states order e = true ↔
        (e.get? entry.1).isSome = true := by
      rw [Simple.matches, attributeHolds]
      cases e.get? entry.1 <;> simp
    have hmem : Simple.attribute entry.1 none ∈ e.handles ↔
        ∃ own ∈ e.ariaAttributes, own.1 = entry.1 := by
      simp [mem_handles, roleTest, @eq_comm String entry.1]
    rw [hmatch, get?_isSome_iff, hmem]
    constructor
    · rintro ⟨own, hown, hname⟩
      exact ⟨own, (List.mem_filter.mp hown).1, hname⟩
    · rintro ⟨own, hown, hname⟩
      exact ⟨own, List.mem_filter.mpr ⟨hown, by rw [hname]; exact haria⟩, hname⟩

/-- A condition can be told from its text. -/
theorem mem_candidateSelectors (h : e.Plain) (hpart : part.Plain) :
    part.render ∈ e.candidateSelectors ↔ part ∈ e.handles := by
  rw [candidateSelectors_eq, List.mem_map]
  constructor
  · rintro ⟨own, hown, htext⟩
    have hread := parse_render (h.handle hown)
    rw [htext, parse_render hpart] at hread
    obtain rfl : part = own := by simpa using hread
    exact hown
  · intro hpart
    exact ⟨part, hpart, rfl⟩

theorem id_mem_handles {value : String} : Simple.id value ∈ e.handles ↔ e.id? = some value := by
  simp [mem_handles, roleTest]

theorem startsWith_of_isName {name : String} (h : IsName name.toList) :
    name.startsWith "#" = false := by
  rw [← Bool.not_eq_true, String.startsWith_string_iff]
  rintro ⟨left, htext⟩
  have hsign : '#' ∈ name.toList := by simp [← htext]
  exact absurd (h.2 '#' hsign) (by decide)

/-- Only conditions on the id are written with a number sign. -/
theorem render_startsWith_iff : (part : Simple) → part.Plain →
    (part.render.startsWith "#" = true ↔ ∃ value, part = .id value)
  | .id value, _ => by simp [Simple.render, String.startsWith_string_iff]
  | .className name, _ => by simp [Simple.render, String.startsWith_string_iff]
  | .attribute name none, _ => by simp [Simple.render, String.startsWith_string_iff]
  | .attribute name (some test), _ => by simp [Simple.render, String.startsWith_string_iff]
  | .type name, ⟨hname, _⟩ => by simp [Simple.render, startsWith_of_isName hname]

/-- Of the texts by which an element can be referred to, only those for its id and its tag may begin
with a number sign. -/
theorem mem_candidateSelectors_id (htag : e.tag.startsWith "#" = false) {value : String} :
    "#" ++ value ∈ e.candidateSelectors ↔ e.id? = some value := by
  rw [candidateSelectors_eq, List.mem_map]
  constructor
  · rintro ⟨own, hown, htext⟩
    have hsign : own.render.startsWith "#" = true := by
      rw [htext, String.startsWith_string_iff]
      simp
    rcases mem_handles.mp hown with ⟨actual, hactual, rfl⟩ | ⟨name, -, rfl⟩ | rfl | ⟨-, rfl⟩ |
      ⟨entry, -, rfl⟩
    · obtain rfl : actual = value := by simpa [Simple.render] using htext
      exact hactual
    · simp [Simple.render, String.startsWith_string_iff] at hsign
    · rw [Simple.render, htag] at hsign
      cases hsign
    · simp [render_roleTest, String.startsWith_string_iff] at hsign
    · simp [Simple.render, String.startsWith_string_iff] at hsign
  · intro hid
    exact ⟨.id value, id_mem_handles.mpr hid, rfl⟩

end Element

/-! ## Looking up and matching -/

/-- All elements of some fragments have plain names. -/
def AllPlain (fragments : Array Fragment) : Prop :=
  ∀ key e, elementAt? fragments key = some e → e.Plain

theorem lookup_note (index : CandidateIndex) (selector s : String) :
    (index.note key selector).lookup s =
      if s = selector ∧ (index.lookup s).getLast? ≠ some key then index.lookup s ++ [key]
      else index.lookup s := by
  rw [CandidateIndex.lookup, CandidateIndex.note, Table.getD_get?_update, ← CandidateIndex.lookup]
  by_cases hs : s = selector
  · by_cases hlast : (index.lookup s).getLast? = some key
    · simp [hs, hs ▸ hlast]
    · simp [hs, hs ▸ hlast]
  · simp [hs]

-- An element's selectors may repeat, and between two equal ones others are entered, but these go
-- into other buckets: in its own bucket the element is still the last.
theorem lookup_foldl_note {index : CandidateIndex} {s : String} (hnew : key ∉ index.lookup s)
    (selectors : List String) : (selectors.foldl (CandidateIndex.note key) index).lookup s =
      if s ∈ selectors then index.lookup s ++ [key] else index.lookup s := by
  induction selectors using List.reverseRecOn with
  | nil => simp
  | append_singleton selectors selector ih =>
    rw [List.foldl_concat, lookup_note, ih]
    by_cases hold : s ∈ selectors
    · simp [hold]
    · have hlast : (index.lookup s).getLast? ≠ some key :=
        fun hlast => hnew (List.mem_of_getLast? hlast)
      simp [hold, hlast]

theorem lookup_noteAll {index : CandidateIndex} {s : String} (hnew : key ∉ index.lookup s) :
    (index.noteAll fragments key).lookup s =
      if (elementAt? fragments key).any fun e => e.candidateSelectors.contains s then
        index.lookup s ++ [key]
      else index.lookup s := by
  rw [CandidateIndex.noteAll, lookup_foldl_note hnew]
  cases elementAt? fragments key with
  | none => simp
  | some e => simp

/-- The bucket of a text holds the elements that have it among their selectors, each once. -/
theorem lookup_build (fragments : Array Fragment) (s : String) :
    (CandidateIndex.build fragments).lookup s = (keysOf fragments).filter fun key =>
      (elementAt? fragments key).any fun e => e.candidateSelectors.contains s := by
  have hrun (keys : List Key) (hkeys : keys.Nodup) :
      CandidateIndex.lookup (keys.foldl (CandidateIndex.noteAll fragments) []) s =
        keys.filter fun key =>
          (elementAt? fragments key).any fun e => e.candidateSelectors.contains s := by
    induction keys using List.reverseRecOn with
    | nil => rfl
    | append_singleton keys key ih =>
      obtain ⟨hbefore, -, hdisjoint⟩ := List.nodup_append.mp hkeys
      have hnew : key ∉ CandidateIndex.lookup
          (keys.foldl (CandidateIndex.noteAll fragments) []) s := by
        rw [ih hbefore]
        intro hmem
        exact hdisjoint key (List.mem_of_mem_filter hmem) key (by simp) rfl
      rw [List.foldl_concat, lookup_noteAll hnew, ih hbefore, List.filter_append, List.filter_cons]
      split
      · rfl
      · exact (List.append_nil _).symm
  exact hrun (keysOf fragments) (nodup_keysOf fragments)

theorem lookup_sign (htags : ∀ key e, elementAt? fragments key = some e →
    e.tag.startsWith "#" = false) (value : String) :
    (CandidateIndex.build fragments).lookup ("#" ++ value) = ownersOf fragments value := by
  rw [lookup_build]
  apply List.filter_congr
  intro key hkey
  obtain ⟨e, he⟩ := mem_keysOf.mp hkey
  rw [he, Option.any_some, Option.any_some, Bool.eq_iff_iff, List.contains_iff_mem, beq_iff_eq]
  exact Element.mem_candidateSelectors_id (htags key e he)

theorem lookup_id (hplain : AllPlain fragments) (value : String) :
    (CandidateIndex.build fragments).lookup ("#" ++ value) = ownersOf fragments value :=
  lookup_sign (fun key e he => Element.startsWith_of_isName (hplain key e he).tag.1) value

theorem lookup_handle (hplain : AllPlain fragments) {other : Element} {part : Simple}
    (hother : elementAt? fragments key = some other) (hpart : part ∈ other.handles) :
    (CandidateIndex.build fragments).lookup part.render =
      matchingKeys fragments [.compound [part]] := by
  rw [lookup_build]
  apply List.filter_congr
  intro key' hkey
  obtain ⟨e, he⟩ := mem_keysOf.mp hkey
  obtain ⟨f, hf, hef⟩ := Option.bind_eq_some_iff.mp he
  have hown : part.render ∈ e.candidateSelectors ↔ part ∈ e.handles :=
    Element.mem_candidateSelectors (hplain key' e he) ((hplain key other hother).handle hpart)
  have hmatch : part ∈ e.handles ↔ part.matches f .every key'.order e = true :=
    Element.mem_handles_iff_matches hpart
  rw [he, Option.any_some, hf, Option.any_some, Bool.eq_iff_iff, List.contains_iff_mem, hown,
    hmatch]
  simp [SelectorList.matches, anyMatches, Complex.matches, partsMatch, hef]

/-! ## The elements a selector refers to -/

/-- The elements that a selector refers to by its meaning: none when it is no selector; of the
elements with an id the first; otherwise all that match when all states hold, in document order. -/
def Refers (fragments : Array Fragment) (s : String) (keys : List Key) : Prop :=
  match SelectorList.parse s with
  | .error _ => keys = []
  | .ok list =>
    match list.pureId? with
    | some value =>
      (∃ key e, keys = [key] ∧ elementAt? fragments key = some e ∧ e.id? = some value ∧
        ∀ key' e', elementAt? fragments key' = some e' → e'.id? = some value →
          key' = key ∨ key.Before key') ∨
      (keys = [] ∧ ∀ key e, elementAt? fragments key = some e → e.id? ≠ some value)
    | none => keys.Pairwise Key.Before ∧ ∀ key, key ∈ keys ↔
        ∃ f e, fragments[key.fragment]? = some f ∧ f.element? key.order = some e ∧
          list.matches f .every key.order = true

theorem mem_matchingKeys {list : SelectorList} :
    key ∈ matchingKeys fragments list ↔ ∃ f e, fragments[key.fragment]? = some f ∧
      f.element? key.order = some e ∧ list.matches f .every key.order = true := by
  unfold matchingKeys
  rw [List.mem_filter, mem_keysOf]
  constructor
  · rintro ⟨⟨e, he⟩, hmatch⟩
    obtain ⟨f, hf, he⟩ := Option.bind_eq_some_iff.mp he
    rw [hf, Option.any_some] at hmatch
    exact ⟨f, e, hf, he, hmatch⟩
  · rintro ⟨f, e, hf, he, hmatch⟩
    exact ⟨⟨e, by simp [elementAt?, hf, he]⟩, by simp [hf, hmatch]⟩

variable {s : String} {list : SelectorList}

theorem refers_owners {value : String} (hparse : SelectorList.parse s = .ok list)
    (hid : list.pureId? = some value) :
    Refers fragments s (ownersOf fragments value).head?.toList := by
  unfold Refers
  rw [hparse]
  dsimp only
  rw [hid]
  dsimp only
  have hsorted : (ownersOf fragments value).Pairwise Key.Before :=
    (keysOf_sorted fragments).filter _
  cases howners : ownersOf fragments value with
  | nil =>
    refine .inr ⟨rfl, fun key e he hvalue => ?_⟩
    have hmem := mem_ownersOf.mpr ⟨e, he, hvalue⟩
    rw [howners] at hmem
    cases hmem
  | cons first others =>
    rw [howners] at hsorted
    obtain ⟨e, he, hvalue⟩ := mem_ownersOf.mp (howners ▸ List.mem_cons_self)
    refine .inl ⟨first, e, rfl, he, hvalue, fun key' e' he' hvalue' => ?_⟩
    have hmem := mem_ownersOf.mpr ⟨e', he', hvalue'⟩
    rw [howners, List.mem_cons] at hmem
    exact hmem.imp id fun hmem => (List.pairwise_cons.mp hsorted).1 key' hmem

theorem refers_matchingKeys (hparse : SelectorList.parse s = .ok list)
    (hid : list.pureId? = none) : Refers fragments s (matchingKeys fragments list) := by
  unfold Refers
  rw [hparse]
  dsimp only
  rw [hid]
  exact ⟨(keysOf_sorted fragments).filter _, fun key => mem_matchingKeys⟩

theorem pureId?_single {part : Simple} (h : ∀ value, part ≠ .id value) :
    SelectorList.pureId? [.compound [part]] = none := by
  unfold SelectorList.pureId?
  split
  case h_1 value heq =>
    cases heq
    exact absurd rfl (h value)
  case h_2 => rfl

/-- A text that is found in the index writes a condition by which an element is referred to. -/
theorem exists_handle_of_lookup {first : Key} {others : List Key}
    (hlookup : (CandidateIndex.build fragments).lookup s = first :: others) :
    ∃ e part, elementAt? fragments first = some e ∧ part ∈ e.handles ∧ s = part.render := by
  have hfirst : first ∈ (CandidateIndex.build fragments).lookup s := by simp [hlookup]
  rw [lookup_build, List.mem_filter, Option.any_eq_true] at hfirst
  obtain ⟨-, e, he, hs⟩ := hfirst
  rw [List.contains_iff_mem, Element.candidateSelectors_eq, List.mem_map] at hs
  obtain ⟨part, hpart, hs⟩ := hs
  exact ⟨e, part, he, hpart, hs.symm⟩

/-- What a text that is one of an element's simple selectors refers to. -/
theorem refers_lookup (hplain : AllPlain fragments) {first : Key} {others : List Key}
    (hlookup : (CandidateIndex.build fragments).lookup s = first :: others) :
    Refers fragments s (if s.startsWith "#" then [first] else first :: others) := by
  obtain ⟨e, part, he, hpart, rfl⟩ := exists_handle_of_lookup hlookup
  have hpartplain : part.Plain := (hplain first e he).handle hpart
  have hparse := parse_render hpartplain
  by_cases hsign : part.render.startsWith "#" = true
  · obtain ⟨value, rfl⟩ := (Element.render_startsWith_iff part hpartplain).mp hsign
    have howners : ownersOf fragments value = first :: others := by
      rw [← lookup_id hplain, ← hlookup]
      rfl
    have hrefers : Refers fragments _ (ownersOf fragments value).head?.toList :=
      refers_owners hparse rfl
    rw [howners] at hrefers
    rw [if_pos hsign]
    exact hrefers
  · rw [if_neg hsign, ← hlookup, lookup_handle hplain he hpart]
    refine refers_matchingKeys hparse (pureId?_single fun value hvalue => hsign ?_)
    exact (Element.render_startsWith_iff part hpartplain).mpr ⟨value, hvalue⟩

theorem refers_resolve (hplain : AllPlain fragments) (s : String) :
    Refers fragments s
      ((resolve fragments (CandidateIndex.build fragments) s).toOption.getD []) := by
  unfold resolve
  by_cases hempty : s.isEmpty = true
  · obtain rfl : s = "" := by simpa using hempty
    rw [if_pos hempty]
    rfl
  rw [if_neg hempty]
  cases hlookup : (CandidateIndex.build fragments).lookup s with
  | cons first others => exact refers_lookup hplain hlookup
  | nil =>
    dsimp only
    cases hparse : SelectorList.parse s with
    | error why =>
      unfold Refers
      rw [hparse]
      rfl
    | ok list =>
      dsimp only
      cases hid : list.pureId? with
      | some value =>
        have hrefers : Refers fragments s (ownersOf fragments value).head?.toList :=
          refers_owners hparse hid
        dsimp only
        rw [lookup_id hplain]
        cases howners : ownersOf fragments value with
        | nil => rwa [howners] at hrefers
        | cons first others => rwa [howners] at hrefers
      | none =>
        have hrefers : Refers fragments s (matchingKeys fragments list) :=
          refers_matchingKeys hparse hid
        dsimp only
        cases hm : matchingKeys fragments list with
        | nil => rwa [hm] at hrefers
        | cons first others => rwa [hm] at hrefers

/-! ## Breakdowns -/

theorem depth_of_plain (counts : String → Bool) {part : Simple} (h : part.Plain) :
    part.depth counts = 0 := by
  cases part with
  | pseudoClass name argument => cases h
  | _ => rfl

/-- A condition on the markup has no arguments to be followed down. -/
theorem breakdown?_render (use : Use) {part : Simple} (h : part.Plain) :
    breakdown? use part.render = none := by
  have hdepth : ∀ use' : Use, use'.depth [.compound [part]] = 0 := by
    intro use'
    cases use' <;> simp [Use.depth, branchesDepth, Complex.depth, partsDepth, depth_of_plain _ h]
  rw [breakdown?, parse_render h]
  simp [hdepth]

/-- A page with an id that two elements have, and a class that is listed twice. -/
def repeatedId : Graph where
  size := 3
  cells := #v[.element { tag := "main", attributes := [("id", "top")] } [.node 1, .node 2],
    .element { tag := "p", attributes := [("class", "a b a"), ("aria-label", "note")] } [],
    .element { tag := "p", attributes := [("id", " top ")] } []]
  root := .node 0

/-- Looking a selector up in the index of simple selectors, and parsing and matching it only if it
is not there, finds what the selector refers to by its meaning, and breaks down over those selectors
that cannot be read, or matched if there is an element, and over no others. -/
theorem resolve_refers (hplain : AllPlain fragments) (s : String) :
    Refers fragments s
        ((resolve fragments (CandidateIndex.build fragments) s).toOption.getD []) ∧
      resolveBreakdown? fragments (CandidateIndex.build fragments) s =
        breakdown? (mergeUse fragments) s := by
  refine ⟨refers_resolve hplain s, ?_⟩
  cases hlookup : (CandidateIndex.build fragments).lookup s with
  | nil => rw [resolveBreakdown?_eq, hlookup, if_pos rfl]
  | cons first others =>
    obtain ⟨e, part, he, hpart, rfl⟩ := exists_handle_of_lookup hlookup
    rw [resolveBreakdown?_eq, breakdown?_render _ ((hplain first e he).handle hpart), ite_self]

/-- The names on that page are plain, so a selector for the shared id finds what it refers to. -/
theorem resolve_refers_repeatedId :
    ∃ f, Fragment.ofGraph repeatedId "page" = .ok f ∧ AllPlain #[f] ∧
      Refers #[f] "#top" ((resolve #[f] (CandidateIndex.build #[f]) "#top").toOption.getD []) ∧
      resolveBreakdown? #[f] (CandidateIndex.build #[f]) "#top" = breakdown? .matching "#top" := by
  have hrun : (repeatedId.index "page").toOption.map (fun f =>
      f.entries.toList.map Fragment.Entry.element) = some [
        { tag := "main", attributes := [("id", "top")] },
        { tag := "p", attributes := [("class", "a b a"), ("aria-label", "note")] },
        { tag := "p", attributes := [("id", " top ")] }] := by cbv
  obtain ⟨f, hf, helements⟩ := Fragment.exists_of_index (by decide) hrun
  have hall : ∀ e ∈ f.entries.toList.map Fragment.Entry.element, e.Plain := by
    rw [helements]
    decide +kernel
  have hplain : AllPlain #[f] := by
    intro key e he
    obtain ⟨f', hf', he⟩ := Option.bind_eq_some_iff.mp he
    obtain ⟨entry, hentry, rfl⟩ := Option.map_eq_some_iff.mp he
    obtain rfl : f' = f := by simpa using Array.mem_of_getElem? hf'
    exact hall _ (List.mem_map_of_mem (Array.mem_toList_iff.mpr (Array.mem_of_getElem? hentry)))
  exact ⟨f, hf, hplain, resolve_refers hplain "#top"⟩

end AccessAudit
