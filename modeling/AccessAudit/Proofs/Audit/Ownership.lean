import AccessAudit.Audit.Widget
import AccessAudit.Proofs.Audit.Checks
import AccessAudit.Proofs.Document.Ids
import AccessAudit.Proofs.Document.Styles

/-!
# Parts and their containers

A widget owns its descendants, and what its attribute `aria-owns` names with all that is in it. An
element whose role needs a container is looked at the other way round: it has to have an ancestor
with a fitting role, or its own id has to be named by an element with a fitting role.

The two agree for parts that the container has inside it or names itself, which rests on ancestors
and descendants being the same relation in a fragment (`Document.mem_ancestors_of_mem_descendants`).
They part for what is inside an element that the container names: it counts as owned, but neither is
the container among its ancestors nor does the container name its id. `owned_placed` says exactly
when such a part is reported, and `owned_misplaced` is a menu with such an item.
-/

namespace AccessAudit

open Text

/-! ## Above and below -/

/-- A fragment is the index of a graph. -/
def Fragment.Built (f : Fragment) : Prop := ∃ g source, Fragment.ofGraph g source = .ok f

theorem Fragment.Built.laidOut {f : Fragment} (h : f.Built) : ∃ paths, f.LaidOut paths := by
  obtain ⟨g, source, hg⟩ := h
  have hcases := Fragment.ofGraph_cases g source
  rw [hg] at hcases
  obtain ⟨-, paths, -, hlaid, -⟩ := hcases
  exact ⟨paths, hlaid⟩

theorem built_of_mem_indexInputs {inputs : List FragmentInput} {place : Nat} {f : Fragment}
    (hbuilt : ∀ f, FragmentInput.indexed f ∈ inputs → f.Built)
    (hf : f ∈ (indexInputs place inputs).1) : f.Built := by
  induction inputs generalizing place with
  | nil => cases hf
  | cons input rest ih =>
    have hrest (hf : f ∈ (indexInputs (place + 1) rest).1) : f.Built :=
      ih (fun g hg => hbuilt g (List.mem_cons_of_mem input hg)) hf
    have hhere : ∀ g, input.toFragment (toString place) = .ok g → g.Built := by
      intro g hg
      cases input with
      | indexed _ =>
        cases hg
        exact hbuilt g List.mem_cons_self
      | bare graph => exact ⟨graph, _, hg⟩
    unfold indexInputs at hf
    cases hinput : input.toFragment (toString place) with
    | ok g =>
      simp only [hinput] at hf
      rcases List.mem_cons.mp hf with rfl | hf
      · exact hhere _ hinput
      · exact hrest hf
    | error why =>
      simp only [hinput] at hf
      exact hrest hf

namespace Document

variable {d : Document} {c x : Key}

theorem fragment_of_mem_descendants (h : x ∈ d.descendants c) : ∃ f order,
    d.fragments[c.fragment]? = some f ∧ order ∈ f.descendants c.order ∧
      x = ⟨c.fragment, order⟩ := by
  obtain ⟨order, horder, rfl⟩ := List.mem_map.mp h
  cases hf : d.fragments[c.fragment]? with
  | none =>
    rw [hf] at horder
    cases horder
  | some f =>
    rw [hf] at horder
    exact ⟨f, order, rfl, horder, rfl⟩

/-- In fragments that were built, an element is below another when that one is above it. -/
theorem mem_ancestors_of_mem_descendants (hbuilt : ∀ f ∈ d.fragments, f.Built)
    (h : x ∈ d.descendants c) : c ∈ d.ancestors x := by
  obtain ⟨f, order, hf, horder, rfl⟩ := fragment_of_mem_descendants h
  obtain ⟨paths, hlaid⟩ := (hbuilt f (Array.mem_of_getElem? hf)).laidOut
  have hbelow := hlaid.isDescendant_iff.mp (Fragment.mem_descendants.mp horder)
  unfold ancestors
  rw [hf]
  exact List.mem_map.mpr ⟨c.order, hlaid.mem_ancestors.mpr hbelow, rfl⟩

/-! ## What an element owns -/

/-- An element names another: the id of the other is one of those in its attribute `aria-owns`. -/
def Names (d : Document) (c x : Key) : Prop :=
  ∃ id, (d.element x).id? = some id ∧ id ∈ words (d.valueOf c "aria-owns")

theorem id?_of_elementById? {id : String} (h : d.elementById? id = some x) :
    x ∈ d.keys ∧ (d.element x).id? = some id := by
  rw [elementById?_eq_find?] at h
  have hid := List.find?_some h
  exact ⟨List.mem_of_find?_eq_some h, by simpa [idOf] using hid⟩

theorem mem_addOwned {owned : List Key} {id : String} (h : x ∈ d.addOwned owned id) :
    x ∈ owned ∨ ∃ t, d.elementById? id = some t ∧ (x = t ∨ x ∈ d.descendants t) := by
  unfold addOwned at h
  cases ht : d.elementById? id with
  | none =>
    rw [ht] at h
    exact .inl h
  | some t =>
    simp only [ht] at h
    split at h
    · exact .inl h
    · rcases List.mem_append.mp h with h | h
      · rcases List.mem_append.mp h with h | h
        · exact .inl h
        · exact .inr ⟨t, rfl, .inl (List.mem_singleton.mp h)⟩
      · exact .inr ⟨t, rfl, .inr (List.mem_filter.mp h).1⟩

/-- What an element owns is in it, or is named by it, or is in something named by it. -/
theorem mem_owned (h : x ∈ d.owned c) :
    x ∈ d.descendants c ∨ d.Names c x ∨ ∃ t ∈ d.keys, d.Names c t ∧ x ∈ d.descendants t := by
  unfold owned at h
  have hfold (ids : List String) (start : List Key) (hx : x ∈ ids.foldl d.addOwned start) :
      x ∈ start ∨ ∃ id ∈ ids, ∃ t, d.elementById? id = some t ∧ (x = t ∨ x ∈ d.descendants t) := by
    induction ids generalizing start with
    | nil => exact .inl hx
    | cons id rest ih =>
      rcases ih _ hx with hx | ⟨other, hother, ht⟩
      · rcases mem_addOwned hx with hx | ht
        · exact .inl hx
        · exact .inr ⟨id, List.mem_cons_self, ht⟩
      · exact .inr ⟨other, List.mem_cons_of_mem id hother, ht⟩
  rcases hfold _ _ h with hbelow | ⟨id, hid, t, ht, hx⟩
  · exact .inl hbelow
  · obtain ⟨htkey, htid⟩ := id?_of_elementById? ht
    rcases hx with rfl | hx
    · exact .inr (.inl ⟨id, htid, hid⟩)
    · exact .inr (.inr ⟨t, htkey, ⟨id, htid, hid⟩, hx⟩)

/-! ## What the check looks for -/

/-- An element is inside one of some containers, or is named by one. -/
def Placed (d : Document) (containers : List String) (x : Key) : Prop :=
  (∃ above ∈ d.ancestors x, d.hasRole containers above = .ok true) ∨
    ∃ owner ∈ d.keys, d.hasRole containers owner = .ok true ∧ d.Names owner x

theorem hasRole_of_roleOf {containers : List String} {role : String}
    (hrole : d.roleOf c = .ok (some role)) (hmem : role ∈ containers) :
    d.hasRole containers c = .ok true := by
  unfold hasRole
  rw [hrole]
  show Except.ok (containers.contains role) = .ok true
  rw [List.contains_iff_mem.mpr hmem]

/-- Roles can be looked up everywhere when they can be for the elements there are. -/
theorem exists_hasRole (hroles : ∀ key ∈ d.keys, ∃ role, d.roleOf key = .ok role)
    (containers : List String) (key : Key) : ∃ b, d.hasRole containers key = .ok b := by
  have hrole : ∃ role, d.roleOf key = .ok role := by
    cases he : d.element? key with
    | some e => exact hroles key (mem_keysOf.mpr ⟨e, he⟩)
    | none =>
      rw [roleOf, element, he]
      exact ⟨_, rfl⟩
  obtain ⟨role, hrole⟩ := hrole
  rw [hasRole, hrole]
  exact ⟨_, rfl⟩

end Document

namespace Widget

variable {d : Document} {x : Key}

theorem exists_checkPlace (hroles : ∀ key ∈ d.keys, ∃ role, d.roleOf key = .ok role)
    (role : String) : ∃ findings, checkPlace d x role = .ok findings := by
  have hhas := Document.exists_hasRole hroles
  unfold checkPlace
  cases Pattern.containers.get? role with
  | none => exact ⟨[], rfl⟩
  | some containers =>
    have hadopted : ∃ b, isAdopted d x containers = .ok b := by
      unfold isAdopted
      cases (d.element x).id? with
      | none => exact ⟨false, rfl⟩
      | some id =>
        refine exists_anyM_ok fun owner _ => ?_
        obtain ⟨fits, hfits⟩ := hhas containers owner
        rw [hfits]
        exact ⟨_, rfl⟩
    obtain ⟨enclosed, henclosed⟩ :=
      exists_anyM_ok (l := d.ancestors x) fun above _ => hhas containers above
    obtain ⟨adopted, hadopted⟩ := hadopted
    simp only [henclosed, hadopted]
    cases enclosed <;> exact ⟨_, rfl⟩

theorem isAdopted_iff {containers : List String} {adopted : Bool}
    (h : isAdopted d x containers = .ok adopted) : adopted = true ↔
      ∃ owner ∈ d.keys, d.hasRole containers owner = .ok true ∧ d.Names owner x := by
  unfold isAdopted at h
  cases hid : (d.element x).id? with
  | none =>
    rw [hid] at h
    cases h
    refine ⟨fun hfalse => absurd hfalse Bool.false_ne_true, ?_⟩
    rintro ⟨owner, -, -, id, hsome, -⟩
    rw [hid] at hsome
    cases hsome
  | some id =>
    simp only [hid] at h
    have htest (owner : Key) (b : Bool) :
        (do let fits ← d.hasRole containers owner
            pure (fits && (words (d.valueOf owner "aria-owns")).contains id)) =
          (.ok b : Except Failure Bool) → (b = true ↔
            d.hasRole containers owner = .ok true ∧ d.Names owner x) := by
      intro hb
      obtain ⟨fits, hfits, hb⟩ := ok_of_bind hb
      obtain rfl := Except.ok.inj hb
      rw [hfits, Bool.and_eq_true_iff, List.contains_iff_mem]
      simp [Document.Names, hid]
    cases adopted with
    | true =>
      obtain ⟨owner, hkey, hb⟩ := exists_of_anyM_ok_true h
      exact ⟨fun _ => ⟨owner, hkey, (htest owner true hb).mp rfl⟩, fun _ => rfl⟩
    | false =>
      refine ⟨fun hfalse => absurd hfalse Bool.false_ne_true, ?_⟩
      rintro ⟨owner, hkey, howner⟩
      exact (htest owner false (anyM_eq_ok_false.mp h owner hkey)).mpr howner

/-- The check of a place reports an element that is not placed, and only such. -/
theorem checkPlace_cases {role : String} {containers : List String} {findings : List Finding}
    (hcontainers : Pattern.containers.get? role = some containers)
    (h : checkPlace d x role = .ok findings) :
    findings = [] ∧ d.Placed containers x ∨
      findings = [misplaced d x role containers] ∧ ¬ d.Placed containers x := by
  unfold checkPlace at h
  rw [hcontainers] at h
  obtain ⟨enclosed, henclosed, h⟩ := ok_of_bind h
  cases enclosed with
  | true =>
    cases h
    exact .inl ⟨rfl, .inl (exists_of_anyM_ok_true henclosed)⟩
  | false =>
    have hnone : ¬ ∃ above ∈ d.ancestors x, d.hasRole containers above = .ok true := by
      rintro ⟨above, habove, hrole⟩
      rw [anyM_eq_ok_false.mp henclosed above habove] at hrole
      cases hrole
    obtain ⟨adopted, hadopted, h⟩ := ok_of_bind h
    have hiff := isAdopted_iff hadopted
    cases adopted with
    | true =>
      cases h
      exact .inl ⟨rfl, .inr (hiff.mp rfl)⟩
    | false =>
      cases h
      refine .inr ⟨rfl, ?_⟩
      rintro (hinside | hnamed)
      · exact hnone hinside
      · exact Bool.false_ne_true (hiff.mpr hnamed)

end Widget

/-! ## Ownership and place -/

/-- The place of a part can be checked when the roles of the elements can be looked up. A part that
a container has inside it or names is not reported. Of all parts that the container owns, those are
reported that no fitting element has inside it or names, and they are inside something that the
container names. -/
theorem owned_placed (config : Config) (inputs : List FragmentInput) (scripts : List Script)
    (sheets : List StyleSheet) (scope : Json)
    (hbuilt : ∀ f, FragmentInput.indexed f ∈ inputs → f.Built) :
    let d := merge config inputs scripts sheets scope
    ∀ c ∈ d.keys, ∀ x ∈ d.owned c, ∀ role containers container,
      (d.element x).explicitRole? = some role → Pattern.containers.get? role = some containers →
      d.roleOf c = .ok (some container) → container ∈ containers →
      ((∀ key ∈ d.keys, ∃ found, d.roleOf key = .ok found) →
        ∃ findings, Widget.checkPlace d x role = .ok findings) ∧
      ∀ findings, Widget.checkPlace d x role = .ok findings →
        (x ∈ d.descendants c ∨ d.Names c x → findings = []) ∧
        (findings = [Widget.misplaced d x role containers] ↔ ¬ d.Placed containers x) ∧
        (findings ≠ [] → ∃ t ∈ d.keys, d.Names c t ∧ x ∈ d.descendants t) := by
  intro d c hc x hx role containers container _ hcontainers hrole hfits
  refine ⟨fun hroles => Widget.exists_checkPlace hroles role, fun findings hcheck => ?_⟩
  have hcontainer : d.hasRole containers c = .ok true := Document.hasRole_of_roleOf hrole hfits
  have hbuilt' : ∀ f ∈ d.fragments, f.Built := by
    intro f hf
    rw [fragments_merge, List.mem_toArray] at hf
    exact built_of_mem_indexInputs hbuilt hf
  -- above and below, and naming and being named, are the same relations read the other way
  have hdirect (h : x ∈ d.descendants c ∨ d.Names c x) : d.Placed containers x := by
    rcases h with hbelow | hnamed
    · exact .inl ⟨c, Document.mem_ancestors_of_mem_descendants hbuilt' hbelow, hcontainer⟩
    · exact .inr ⟨c, hc, hcontainer, hnamed⟩
  rcases Widget.checkPlace_cases hcontainers hcheck with ⟨rfl, hplaced⟩ | ⟨rfl, hmisplaced⟩
  · exact ⟨fun _ => rfl, by simp [hplaced], fun h => absurd rfl h⟩
  · refine ⟨fun h => absurd (hdirect h) hmisplaced, by simp [hmisplaced], fun _ => ?_⟩
    rcases Document.mem_owned hx with hbelow | hnamed | hinside
    · exact absurd (hdirect (.inl hbelow)) hmisplaced
    · exact absurd (hdirect (.inr hnamed)) hmisplaced
    · exact hinside

/-! ## A menu and its items -/

/-- A menu that names an item, and something else that has an item in it. -/
def menu : Element :=
  { tag := "div", attributes := [("role", "menu"), ("aria-owns", "open items")] }

/-- An element to keep items in. -/
def itemBox : Element := { tag := "div", attributes := [("id", "items")] }

/-- An item without an id. -/
def menuItem : Element := { tag := "span", attributes := [("role", "menuitem")] }

/-- An item with an id. -/
def namedItem : Element := { tag := "span", attributes := [("id", "open"), ("role", "menuitem")] }

/-- A page with a menu and two items, one of them in a box. -/
def menuPage : Graph where
  size := 5
  cells := #v[.element { tag := "div" } [.node 1, .node 2, .node 4], .element menu [],
    .element itemBox [.node 3], .element menuItem [], .element namedItem []]
  root := .node 0

/-- A fragment is the index of that page. -/
structure ShowsMenu (f : Fragment) : Prop where
  size : f.size = 5
  root : f.element? 0 = some { tag := "div" }
  menu : f.element? 1 = some menu
  box : f.element? 2 = some itemBox
  item : f.element? 3 = some menuItem
  named : f.element? 4 = some namedItem
  belowMenu : f.descendants 1 = []
  belowBox : f.descendants 2 = [3]
  belowNamed : f.descendants 4 = []
  aboveItem : f.ancestors 3 = [2, 0]
  aboveNamed : f.ancestors 4 = [0]

theorem exists_menuPage : ∃ f, Fragment.ofGraph menuPage "page" = .ok f ∧ ShowsMenu f := by
  have hrun : (menuPage.index "page").toOption.map (fun f => (f.size,
      (f.element? 0, f.element? 1, f.element? 2, f.element? 3, f.element? 4),
      (f.descendants 1, f.descendants 2, f.descendants 4), f.ancestors 3, f.ancestors 4)) =
      some (5, (some { tag := "div" }, some menu, some itemBox, some menuItem, some namedItem),
        ([], [3], []), [2, 0], [0]) := by cbv
  obtain ⟨f, hf, hview⟩ := Fragment.exists_of_index (by decide) hrun
  simp only [Prod.mk.injEq] at hview
  obtain ⟨hsize, ⟨h0, h1, h2, h3, h4⟩, ⟨hmenu, hbox, hnamed⟩, habove, habove'⟩ := hview
  exact ⟨f, hf, hsize, h0, h1, h2, h3, h4, hmenu, hbox, hnamed, habove, habove'⟩

/-- The document of that page alone. -/
def menuDocument (f : Fragment) : Document := merge {} [.indexed f] [] [] .null

section Menu

variable {f : Fragment}

theorem ShowsMenu.keys (h : ShowsMenu f) :
    (menuDocument f).keys = [⟨0, 0⟩, ⟨0, 1⟩, ⟨0, 2⟩, ⟨0, 3⟩, ⟨0, 4⟩] := by
  rw [menuDocument, keys_single, Fragment.orders, h.size]
  rfl

theorem ShowsMenu.find (h : ShowsMenu f) : (menuDocument f).elementById? "open" = some ⟨0, 4⟩ ∧
    (menuDocument f).elementById? "items" = some ⟨0, 2⟩ := by
  rw [Document.elementById?_eq_find?, Document.elementById?_eq_find?, h.keys]
  simp only [menuDocument, List.find?_cons, Document.idOf, element_single h.root,
    element_single h.menu, element_single h.box, element_single h.item, element_single h.named]
  exact ⟨rfl, rfl⟩

/-- The menu owns the box and both items. -/
theorem ShowsMenu.owned (h : ShowsMenu f) :
    (menuDocument f).owned ⟨0, 1⟩ = [⟨0, 4⟩, ⟨0, 2⟩, ⟨0, 3⟩] := by
  have hnames : words ((menuDocument f).valueOf ⟨0, 1⟩ "aria-owns") = ["open", "items"] := by
    rw [menuDocument, Document.valueOf, element_single h.menu]
    rfl
  have hbelow (order : Nat) :
      (menuDocument f).descendants ⟨0, order⟩ = (f.descendants order).map (⟨0, ·⟩) := rfl
  unfold Document.owned
  rw [hnames]
  simp [Document.addOwned, h.find, hbelow, h.belowMenu, h.belowBox, h.belowNamed]

theorem ShowsMenu.roleOf (h : ShowsMenu f) :
    (menuDocument f).roleOf ⟨0, 1⟩ = .ok (some "menu") := by
  rw [menuDocument, Document.roleOf, element_single h.menu]
  rfl

theorem ShowsMenu.roles (h : ShowsMenu f) :
    ∀ key ∈ (menuDocument f).keys, ∃ role, (menuDocument f).roleOf key = .ok role := by
  rw [h.keys]
  simp only [List.forall_mem_cons, menuDocument, Document.roleOf, element_single h.root,
    element_single h.menu, element_single h.box, element_single h.item, element_single h.named]
  exact ⟨⟨_, rfl⟩, ⟨_, rfl⟩, ⟨_, rfl⟩, ⟨_, rfl⟩, ⟨_, rfl⟩, fun _ hnone => absurd hnone
    List.not_mem_nil⟩

/-- The item in the box is reported for its place. -/
theorem ShowsMenu.checkPlace_item (h : ShowsMenu f) :
    Widget.checkPlace (menuDocument f) ⟨0, 3⟩ "menuitem" = .ok [Widget.misplaced (menuDocument f)
      ⟨0, 3⟩ "menuitem" ["menu", "menubar", "group"]] := by
  have habove : (menuDocument f).ancestors ⟨0, 3⟩ = [⟨0, 2⟩, ⟨0, 0⟩] := by
    show (f.ancestors 3).map _ = _
    rw [h.aboveItem]
    rfl
  have henclosed : ((menuDocument f).ancestors ⟨0, 3⟩).anyM
      ((menuDocument f).hasRole ["menu", "menubar", "group"]) = .ok false := by
    rw [habove, anyM_eq_ok_false]
    simp only [List.forall_mem_cons, Document.hasRole, Document.roleOf, menuDocument,
      element_single h.box, element_single h.root]
    exact ⟨rfl, rfl, fun _ hnone => absurd hnone List.not_mem_nil⟩
  have hadopted : Widget.isAdopted (menuDocument f) ⟨0, 3⟩ ["menu", "menubar", "group"] =
      .ok false := by
    rw [Widget.isAdopted, menuDocument, element_single h.item]
    rfl
  show (do
    let enclosed ← ((menuDocument f).ancestors ⟨0, 3⟩).anyM
      ((menuDocument f).hasRole ["menu", "menubar", "group"])
    if enclosed then pure []
    else
      let adopted ← Widget.isAdopted (menuDocument f) ⟨0, 3⟩ ["menu", "menubar", "group"]
      pure (if adopted then [] else [Widget.misplaced (menuDocument f) ⟨0, 3⟩ "menuitem"
        ["menu", "menubar", "group"]])) = _
  rw [henclosed, hadopted]
  rfl

end Menu

/-- The item that the menu names is not reported. -/
theorem owned_placed_named : ∃ f, Fragment.ofGraph menuPage "page" = .ok f ∧
    Widget.checkPlace (menuDocument f) ⟨0, 4⟩ "menuitem" = .ok [] := by
  obtain ⟨f, hf, h⟩ := exists_menuPage
  have hbuilt : ∀ g, FragmentInput.indexed g ∈ [.indexed f] → g.Built := by
    intro g hg
    cases List.mem_singleton.mp hg
    exact ⟨menuPage, "page", hf⟩
  have hkey : ⟨0, 1⟩ ∈ (menuDocument f).keys := by simp [h.keys]
  have howned : ⟨0, 4⟩ ∈ (menuDocument f).owned ⟨0, 1⟩ := by simp [h.owned]
  have hpart : ((menuDocument f).element ⟨0, 4⟩).explicitRole? = some "menuitem" := by
    rw [menuDocument, element_single h.named]
    rfl
  have hnames : (menuDocument f).Names ⟨0, 1⟩ ⟨0, 4⟩ := by
    rw [Document.Names, Document.valueOf, menuDocument, element_single h.menu,
      element_single h.named]
    exact ⟨"open", rfl, by decide⟩
  obtain ⟨hruns, hplaced⟩ := owned_placed {} [.indexed f] [] [] .null hbuilt ⟨0, 1⟩ hkey ⟨0, 4⟩
    howned "menuitem" ["menu", "menubar", "group"] "menu" hpart rfl h.roleOf List.mem_cons_self
  obtain ⟨findings, hrun⟩ := hruns h.roles
  obtain rfl := (hplaced findings hrun).1 (.inr hnames)
  exact ⟨f, hf, hrun⟩

/-- The item in the box counts as owned by the menu, which has a fitting role, and is reported. -/
theorem owned_misplaced : ∃ f, Fragment.ofGraph menuPage "page" = .ok f ∧
    let d := menuDocument f
    ⟨0, 1⟩ ∈ d.keys ∧ ⟨0, 3⟩ ∈ d.owned ⟨0, 1⟩ ∧
      (d.element ⟨0, 3⟩).explicitRole? = some "menuitem" ∧
      Pattern.containers.get? "menuitem" = some ["menu", "menubar", "group"] ∧
      d.roleOf ⟨0, 1⟩ = .ok (some "menu") ∧
      ∃ finding, Widget.checkPlace d ⟨0, 3⟩ "menuitem" = .ok [finding] ∧
        finding.kind = "misplaced-menuitem" := by
  obtain ⟨f, hf, h⟩ := exists_menuPage
  refine ⟨f, hf, ?_, ?_, ?_, rfl, h.roleOf, _, h.checkPlace_item, rfl⟩
  · simp [h.keys]
  · simp [h.owned]
  · rw [menuDocument, element_single h.item]
    rfl

end AccessAudit
