import AccessAudit.Proofs.Audit.Resending
import AccessAudit.Proofs.Markup.Rereading

/-!
# Trees that are sent to workers

The trees of a job cross to its worker in written form. No tree ever arrives altered: over any carrier
a job is received with the trees that were sent, or it is not received at all (`elements_survive`).
A job that is received and fails has an outcome that says so. One that is not received has none, and
leaves all the others of its batch without theirs.

Of the carrier one thing is assumed, where it is needed: that its reader stops at some number of
brackets inside each other (`Carrier.StopsAt`). Every element takes two brackets, so no tree crosses
that has half that number of elements inside each other or more, although it was read itself and
could be analyzed (`nested_elements_refused`).
-/

namespace AccessAudit

/-- The carrier reads no text with more brackets inside each other than the limit. -/
def Carrier.StopsAt (carrier : Carrier) (limit : Nat) : Prop :=
  ∀ v : Json, limit < v.nesting → carrier.reads v = false

theorem Carrier.stopsAt_upTo (nesting writing reading : Nat) :
    (upTo nesting writing reading).StopsAt reading := by
  intro v hdeep
  have hnot : ¬ v.nesting ≤ reading := Nat.not_le_of_lt hdeep
  simp [upTo, hnot]

theorem Json.height_le_itemsHeight {items : List Json} {item : Json} (h : item ∈ items) :
    item.height ≤ itemsHeight items := by
  induction items with
  | nil => cases h
  | cons first rest ih =>
    rw [itemsHeight]
    rcases List.mem_cons.mp h with rfl | hrest
    · exact Nat.le_max_left _ _
    · exact (ih hrest).trans (Nat.le_max_right _ _)

theorem Checked.exists_of_inTurn {α : Type} {results : List (Checked α)} {values : List α}
    (h : Checked.inTurn results = .ok values) : ∀ x ∈ results, ∃ value, x = .ok value := by
  induction results generalizing values with
  | nil =>
    intro x hx
    cases hx
  | cons first rest ih =>
    rw [Checked.inTurn] at h
    obtain ⟨value, hfirst, hrest⟩ := Checked.andThen_eq_ok h
    obtain ⟨others, hothers, -⟩ := Checked.map_eq_ok hrest
    rintro x (_ | ⟨_, hx⟩)
    · exact ⟨value, hfirst⟩
    · exact ih hothers x hx

namespace Job

variable {carrier : Carrier} {j j' : Job}

/-- The trees of the job are constructed. -/
def TreesMade (j : Job) : Prop := ∀ t, .tree t ∈ j.fragments → t.Constructed

/-- The job with its scripts and style sheets read once more. -/
def reread (j : Job) : Job :=
  { j with scripts := j.scripts.map Script.reread, sheets := j.sheets.map StyleSheet.reread }

/-- The carrier can deal with the job: it writes all parts, reads what was written, and follows the
elements of each tree. -/
structure Crosses (carrier : Carrier) (j : Job) : Prop where
  written : j.unwritable? carrier = none
  read : carrier.reads j.dump = true
  followed : ∀ t, .tree t ∈ j.fragments → t.toNode.levels ≤ carrier.nesting

/-! ## Fragments -/

theorem okIff_treeFragment {t : Tree} (h : t.Constructed) (carrier : Carrier) :
    (JobFragment.read carrier t.dump).OkIff (t.toNode.levels ≤ carrier.nesting) (.tree t) := by
  obtain ⟨fields, hfields⟩ : ∃ fields, t.dump = .obj fields := by
    rw [Tree.dump, Tree.toNode, Node.dump]
    exact ⟨_, rfl⟩
  have htree := (okIff_tree h carrier.nesting).under "Element"
  rw [hfields] at htree ⊢
  unfold JobFragment.read
  dsimp only
  refine ⟨?_, ?_⟩
  · intro hlevels
    rw [htree.1 hlevels]
  · intro hlevels
    obtain ⟨faults, hfaults⟩ := htree.2 hlevels
    rw [hfaults]
    exact ⟨_, rfl⟩

theorem finite_fragment (f : JobFragment) : f.dump.Finite := by
  cases f with
  | markup text => trivial
  | tree t => exact finite_node t.toNode

theorem writable_fragments (j : Job) :
    Json.writableItems (j.fragments.map JobFragment.dump) = j.fragments.map JobFragment.dump :=
  Json.writableItems_of_finite _ (Json.finiteItems_map fun f _ => finite_fragment f)

theorem list_fragments (hmade : j.TreesMade)
    (hlevels : ∀ t, .tree t ∈ j.fragments → t.toNode.levels ≤ carrier.nesting) :
    Schema.list (JobFragment.read carrier)
      (.arr (Json.writableItems (j.fragments.map JobFragment.dump))) = .ok j.fragments := by
  have hread : Schema.itemsFrom (JobFragment.read carrier) 0 (j.fragments.map JobFragment.dump) =
      .ok (j.fragments.map id) := by
    refine Schema.itemsFrom_map ?_ 0
    intro f hf
    cases f with
    | markup text => rfl
    | tree t => exact (okIff_treeFragment (hmade t hf) carrier).1 (hlevels t hf)
  rw [writable_fragments]
  rwa [List.map_id] at hread

/-- Where a list of fragments is read again, it is that list, and each tree in it was followed. -/
theorem fragments_of_list {fragments : List JobFragment} (hmade : j.TreesMade)
    (h : Schema.list (JobFragment.read carrier)
      (.arr (Json.writableItems (j.fragments.map JobFragment.dump))) = .ok fragments) :
    fragments = j.fragments ∧
      ∀ t, .tree t ∈ j.fragments → t.toNode.levels ≤ carrier.nesting := by
  have hback : ∀ f ∈ j.fragments, ∀ found, JobFragment.read carrier f.dump = .ok found →
      found = f := by
    intro f hf found hfound
    cases f with
    | markup text => exact (Checked.ok.inj hfound).symm
    | tree t => exact (okIff_treeFragment (hmade t hf) carrier).eq_of_ok hfound
  rw [writable_fragments] at h
  obtain ⟨heq, hread⟩ := Schema.itemsFrom_eq_self hback h
  exact ⟨heq, fun t ht => (okIff_treeFragment (hmade t ht) carrier).of_ok (hread _ ht)⟩

/-- No tree arrives altered. -/
theorem resent_fragments (hmade : j.TreesMade) (h : j.resent carrier = .ok j') :
    j'.fragments = j.fragments := by
  obtain ⟨-, -, hreceived⟩ := sent_of_resent h
  exact (fragments_of_list hmade hreceived.fragments).1

/-! ## What crosses -/

theorem resent_of_crosses (hmade : j.TreesMade) (hrules : j.RulesMade) (hactions : j.ActionsMade)
    (h : j.Crosses carrier) : j.resent carrier = .ok j.reread :=
  resent_of_received h.written h.read
    ⟨rfl, list_fragments hmade h.followed, list_scripts hactions, list_sheets hrules, rfl⟩

theorem crosses_of_resent (hmade : j.TreesMade) (h : j.resent carrier = .ok j') :
    j.Crosses carrier := by
  obtain ⟨hwritten, hread, hreceived⟩ := sent_of_resent h
  exact ⟨hwritten, hread, (fragments_of_list hmade hreceived.fragments).2⟩

/-- Around a tree there are a list and the job itself. -/
theorem lt_nesting_dump {t : Tree} (ht : .tree t ∈ j.fragments) :
    2 * t.toNode.depth < j.dump.nesting := by
  have hdepth : 2 * t.toNode.depth ≤ t.dump.height := depth_le_height t.toNode
  have hitem : t.dump.height ≤ Json.itemsHeight (j.fragments.map JobFragment.dump) :=
    Json.height_le_itemsHeight (List.mem_map.mpr ⟨.tree t, ht, rfl⟩)
  simp only [Json.nesting, dump, Json.height, Json.fieldsHeight]
  omega

theorem not_resent_of_deep {limit : Nat} (hlimit : carrier.StopsAt limit) {t : Tree}
    (ht : .tree t ∈ j.fragments) (hdeep : limit ≤ 2 * t.toNode.depth) :
    j.resent carrier ≠ .ok j' := by
  intro hresent
  obtain ⟨-, hread, -⟩ := sent_of_resent hresent
  rw [hlimit j.dump (hdeep.trans_lt (lt_nesting_dump ht))] at hread
  cases hread

/-- A batch has outcomes only if every job of it is received. -/
theorem exists_resent_of_runBatch {config : Config} {workers : Json} {jobs : List Job}
    {outcomes : List Outcome} (h : runBatch config workers jobs carrier = .ok outcomes)
    (hj : j ∈ jobs) : ∃ j', j.resent carrier = .ok j' := by
  unfold runBatch at h
  split at h
  · cases h
  · obtain ⟨-, hall⟩ | ⟨-, hbroken⟩ := ite_eq_iff.mp h
    · obtain ⟨outcome, hrun⟩ := Checked.exists_of_inTurn hall _ (List.mem_map_of_mem hj)
      obtain ⟨j', hresent, -⟩ := Checked.map_eq_ok hrun
      exact ⟨j', hresent⟩
    · cases hbroken

/-! ## What is received -/

/-- Pairs are turned down over the first name that repeats one before it, in its usual form, and
become the attributes otherwise, one each and in order. A tree that was read is constructed, and is
read again as it is; so is any constructed tree that the carrier follows. A job is received with the
trees that were sent, if the carrier can deal with it, and otherwise not at all. A job that is not
received has no outcome, and neither has any other of its batch; and no job is received that has a
tree with at least half as many elements inside each other as the brackets at which the carrier
stops. -/
theorem elements_survive (carrier : Carrier) :
    (∀ (pairs : List (Json × Json)) (rest : Entries Json) (t : Tree),
      Tree.read (.obj (("attributes", .arr []) :: rest)) carrier.nesting = .ok t →
      ((attributeNames pairs).Nodup →
        Tree.read (.obj (("attributes", .arr (pairValues pairs)) :: rest)) carrier.nesting =
          .ok (t.withAttributes (attributeEntries pairs))) ∧
      (¬ (attributeNames pairs).Nodup →
        ∃ before key after, attributeNames pairs = before ++ key :: after ∧ before.Nodup ∧
          key ∈ before ∧
          Tree.read (.obj (("attributes", .arr (pairValues pairs)) :: rest)) carrier.nesting =
            .refused [⟨["attributes"], duplicateAttribute key⟩])) ∧
    (∀ (v : Json) (t : Tree), Tree.read v carrier.nesting = .ok t →
      t.Constructed ∧ Tree.read t.dump carrier.nesting = .ok t) ∧
    (∀ t : Tree, t.Constructed →
      (Tree.read t.dump carrier.nesting).OkIff (t.toNode.levels ≤ carrier.nesting) t) ∧
    (∀ j : Job, j.TreesMade →
      (∀ j', j.resent carrier = .ok j' → j'.fragments = j.fragments ∧ j.Crosses carrier) ∧
      (j.RulesMade → j.ActionsMade → j.Crosses carrier → j.resent carrier = .ok j.reread)) ∧
    (∀ (config : Config) (workers : Json) (jobs : List Job), ∀ j ∈ jobs,
      (∀ j', j.resent carrier ≠ .ok j') →
        ∀ outcomes, runBatch config workers jobs carrier ≠ .ok outcomes) ∧
    ∀ limit, carrier.StopsAt limit → ∀ (j : Job) (t : Tree), .tree t ∈ j.fragments →
      limit ≤ 2 * t.toNode.depth → ∀ j', j.resent carrier ≠ .ok j' := by
  refine ⟨?_, ?_, fun t h => okIff_tree h carrier.nesting, ?_, ?_, ?_⟩
  · intro pairs rest t h
    exact ⟨read_pairs_of_nodup h, read_pairs_of_clash h⟩
  · intro v t h
    obtain ⟨hconstructed, hlevels⟩ := constructed_of_read h
    exact ⟨hconstructed, (okIff_tree hconstructed carrier.nesting).1 hlevels⟩
  · intro j hmade
    refine ⟨fun j' h => ⟨resent_fragments hmade h, crosses_of_resent hmade h⟩, ?_⟩
    intro hrules hactions hcrosses
    exact resent_of_crosses hmade hrules hactions hcrosses
  · intro config workers jobs j hj hnever outcomes hbatch
    obtain ⟨j', hresent⟩ := exists_resent_of_runBatch hbatch hj
    exact hnever j' hresent
  · intro limit hlimit j t ht hdeep j'
    exact not_resent_of_deep hlimit ht hdeep

/-- The tree of a menu. -/
def menuTree : Tree :=
  ⟨{ tag := "nav", attributes := [("id", "menu"), ("class", "wide open")] }, []⟩

/-- Elements inside each other, so many below the first. -/
def nested : Nat → List Node
  | 0 => []
  | n + 1 => [.element { tag := "div" } (nested n)]

/-- A tree of elements inside each other, so many below the root. -/
def nestedTree (n : Nat) : Tree := ⟨{ tag := "div" }, nested n⟩

/-- A job of one tree. -/
def treeJob (t : Tree) : Job := { name := "page", fragments := [.tree t] }

theorem elements_survive_menuTree :
    Tree.read (.obj [("attributes", .arr (pairValues
      [(.str " ID", .str "menu"), (.str "class", .arr [.str "wide", .str "open"])])),
      ("tag", .str "NAV")]) = .ok menuTree ∧
    (∃ faults, Tree.read (.obj [("attributes", .arr (pairValues
      [(.str " ID", .str "menu"), (.str "id", .null)])), ("tag", .str "NAV")]) =
        .refused faults) ∧
    Tree.read menuTree.dump = .ok menuTree ∧
    (treeJob menuTree).resent .usual = .ok (treeJob menuTree) ∧
    Carrier.usual.StopsAt 200 ∧ (nestedTree 99).toNode.depth = 100 ∧
    ∀ outcomes, runBatch {} .null [treeJob menuTree, treeJob (nestedTree 99)] ≠ .ok outcomes := by
  obtain ⟨hattributes, hread, -, hjobs, hbatch, hdeep⟩ := elements_survive .usual
  have hnav : Text.normalize "NAV" = "nav" := by decide +kernel
  have hbase : Tree.read (.obj [("attributes", .arr []), ("tag", .str "NAV")]) =
      .ok ⟨{ tag := "nav" }, []⟩ := by
    rw [← hnav]
    rfl
  have hmenu := (hattributes [(.str " ID", .str "menu"),
    (.str "class", .arr [.str "wide", .str "open"])] _ _ hbase).1 (by decide +kernel)
  have hentries : attributeEntries [(.str " ID", .str "menu"),
      (.str "class", .arr [.str "wide", .str "open"])] =
        [("id", "menu"), ("class", "wide open")] := by decide +kernel
  rw [hentries] at hmenu
  obtain ⟨_, key, _, -, -, -, hclash⟩ :=
    (hattributes [(.str " ID", .str "menu"), (.str "id", .null)] _ _ hbase).2 (by decide +kernel)
  obtain ⟨hconstructed, hagain⟩ := hread _ _ hmenu
  have hmade : (treeJob menuTree).TreesMade := by
    intro t ht
    cases List.mem_singleton.mp ht
    exact hconstructed
  have hcrosses : (treeJob menuTree).Crosses .usual := by
    refine ⟨by decide +kernel, by decide +kernel, ?_⟩
    intro t ht
    cases List.mem_singleton.mp ht
    decide +kernel
  have hstops : Carrier.usual.StopsAt 200 := Carrier.stopsAt_upTo 255 255 200
  have hdepth : (nestedTree 99).toNode.depth = 100 := by decide +kernel
  refine ⟨hmenu, ⟨_, hclash⟩, hagain, ?_, hstops, hdepth, ?_⟩
  · refine (hjobs _ hmade).2 ?_ ?_ hcrosses
    · intro sheet hsheet
      cases hsheet
    · intro script hscript
      cases hscript
  · refine hbatch {} .null _ (treeJob (nestedTree 99)) (by simp) ?_
    exact hdeep 200 hstops _ (nestedTree 99) (List.mem_singleton_self _) (by rw [hdepth])

theorem constructed_div : ({ tag := "div" } : Element).Constructed :=
  ⟨⟨.str "div", by decide +kernel⟩, .null, rfl⟩

theorem constructed_nested (n : Nat) : ∀ node ∈ nested n, node.Constructed := by
  induction n with
  | zero =>
    intro node hnode
    cases hnode
  | succ n ih =>
    intro node hnode
    obtain rfl := List.mem_singleton.mp hnode
    exact .element constructed_div ih

/-- A hundred elements inside each other are read again as they are, but no worker receives them, and
no job has an outcome in a batch with them. -/
theorem nested_elements_refused : (nestedTree 99).Constructed ∧
    Tree.read (nestedTree 99).dump = .ok (nestedTree 99) ∧
    (treeJob (nestedTree 99)).resent .usual = .fault .jsonInvalid ∧
    ∀ config workers jobs, treeJob (nestedTree 99) ∈ jobs →
      ∀ outcomes, runBatch config workers jobs ≠ .ok outcomes := by
  have hconstructed : (nestedTree 99).Constructed :=
    .element constructed_div (constructed_nested 99)
  have hwritten : (treeJob (nestedTree 99)).unwritable? .usual = none := by decide +kernel
  have hunread : Carrier.usual.reads (treeJob (nestedTree 99)).dump = false := by decide +kernel
  have hrefused : (treeJob (nestedTree 99)).resent .usual = .fault .jsonInvalid := by
    unfold resent
    rw [hwritten, hunread]
    rfl
  refine ⟨hconstructed, (okIff_tree hconstructed _).1 (by decide +kernel), hrefused, ?_⟩
  intro config workers jobs hmem outcomes hbatch
  obtain ⟨j', hresent⟩ := exists_resent_of_runBatch hbatch hmem
  cases hresent.symm.trans hrefused

end Job

end AccessAudit
