import AccessAudit.Audit.Job
import AccessAudit.Proofs.Behavior.Rereading
import AccessAudit.Proofs.Style.Rereading

/-!
# What a worker receives

A job is written to be sent to a worker, and the worker analyzes what it reads. Its style sheets and
scripts are then those of the job, read once more. Reading is meant to leave alone what was read
before, but there are two places where it does not: of two marks of importance at the end of a value
one is left after the first reading, and taking the `on` off the name of an event may leave another,
or a blank. `rules_survive_iff` and `actions_survive_iff` say what a worker receives in every case,
and that it is what was sent exactly if neither occurs.

Numbers that are not finite are not received either. Of all that style sheets and scripts hold, only
what else is known of an action can have such numbers.
-/

namespace AccessAudit

open Text

namespace Job

variable {carrier : Carrier} {j j' : Job}

theorem read_writable (carrier : Carrier) (j : Job) : read j.dump.writable carrier =
    mk <$> .ok j.name
      <*> (Schema.list (JobFragment.read carrier)
        (.arr (Json.writableItems (j.fragments.map JobFragment.dump)))).under "fragments"
      <*> (Schema.list Script.read
        (.arr (Json.writableItems (j.scripts.map Script.dump)))).under "behaviors"
      <*> (Schema.list StyleSheet.read
        (.arr (Json.writableItems (j.sheets.map StyleSheet.dump)))).under "styles"
      <*> .ok j.scope := by
  have hscope : Scope.read (.str j.scope.name) = .ok j.scope := by
    cases j.scope <;> rfl
  unfold dump
  simp only [Json.writable, Json.writableFields]
  show mk <$> .ok j.name <*> _ <*> _ <*> _ <*> (Scope.read (.str j.scope.name)).under "scope" = _
  rw [hscope]
  rfl

/-- What a job becomes when it is written and read: its parts are read by themselves. -/
structure Received (carrier : Carrier) (j j' : Job) : Prop where
  name : j'.name = j.name
  fragments : Schema.list (JobFragment.read carrier)
    (.arr (Json.writableItems (j.fragments.map JobFragment.dump))) = .ok j'.fragments
  scripts : Schema.list Script.read
    (.arr (Json.writableItems (j.scripts.map Script.dump))) = .ok j'.scripts
  sheets : Schema.list StyleSheet.read
    (.arr (Json.writableItems (j.sheets.map StyleSheet.dump))) = .ok j'.sheets
  scope : j'.scope = j.scope

theorem read_writable_iff : read j.dump.writable carrier = .ok j' ↔ Received carrier j j' := by
  rw [read_writable]
  constructor
  · intro h
    obtain ⟨_, scope, htoSheets, hscope, rfl⟩ := Checked.seq_eq_ok h
    obtain ⟨_, sheets, htoScripts, hsheets, rfl⟩ := Checked.seq_eq_ok htoSheets
    obtain ⟨_, scripts, htoFragments, hscripts, rfl⟩ := Checked.seq_eq_ok htoScripts
    obtain ⟨_, fragments, htoName, hfragments, rfl⟩ := Checked.seq_eq_ok htoFragments
    obtain ⟨name, hname, rfl⟩ := Checked.map_eq_ok htoName
    exact ⟨(Checked.ok.inj hname).symm, Checked.under_eq_ok hfragments,
      Checked.under_eq_ok hscripts, Checked.under_eq_ok hsheets, (Checked.ok.inj hscope).symm⟩
  · intro h
    rw [h.fragments, h.scripts, h.sheets, ← h.name, ← h.scope]
    rfl

/-- A job that is received was written and could be read back. -/
theorem sent_of_resent (h : j.resent carrier = .ok j') :
    j.unwritable? carrier = none ∧ carrier.reads j.dump = true ∧ Received carrier j j' := by
  unfold resent at h
  split at h
  · cases h
  · split at h
    · exact ⟨‹_›, ‹_›, read_writable_iff.mp h⟩
    · cases h

theorem parts_of_resent (h : j.resent carrier = .ok j') :
    Schema.list Script.read (.arr (Json.writableItems (j.scripts.map Script.dump))) =
      .ok j'.scripts ∧
    Schema.list StyleSheet.read (.arr (Json.writableItems (j.sheets.map StyleSheet.dump))) =
      .ok j'.sheets := by
  obtain ⟨-, -, hreceived⟩ := sent_of_resent h
  exact ⟨hreceived.scripts, hreceived.sheets⟩

theorem resent_of_received (hwritten : j.unwritable? carrier = none)
    (hreadable : carrier.reads j.dump = true) (h : Received carrier j j') :
    j.resent carrier = .ok j' := by
  unfold resent
  rw [hwritten]
  dsimp only
  rw [if_pos hreadable]
  exact read_writable_iff.mpr h

/-! ## Style sheets -/

/-- The rules of the job are read, or made of declaration blocks or style attributes. -/
def RulesMade (j : Job) : Prop := ∀ sheet ∈ j.sheets, ∀ r ∈ sheet.rules, r.Made

theorem list_sheets (h : j.RulesMade) :
    Schema.list StyleSheet.read (.arr (Json.writableItems (j.sheets.map StyleSheet.dump))) =
      .ok (j.sheets.map StyleSheet.reread) := by
  have hfinite := Json.finiteItems_map fun sheet (_ : sheet ∈ j.sheets) => sheet.finite_dump
  rw [Json.writableItems_of_finite _ hfinite]
  exact Schema.itemsFrom_map (fun sheet hsheet => StyleSheet.read_dump (h sheet hsheet)) 0

theorem map_reread_sheets (h : j.RulesMade) : j.sheets.map StyleSheet.reread = j.sheets ↔
    ∀ sheet ∈ j.sheets, ∀ r ∈ sheet.rules, ∀ p ∈ r.properties, ¬ Declaration.Marked p.2 := by
  rw [map_eq_self_iff]
  exact forall₂_congr fun sheet hsheet => StyleSheet.reread_eq_self_iff (h sheet hsheet)

/-! ## Scripts -/

/-- The actions of the job are read, and the numbers in what else is known of them are finite. -/
def ActionsMade (j : Job) : Prop :=
  ∀ script ∈ j.scripts, ∀ a ∈ script.actions,
    (∃ v, Action.read v = .ok a) ∧ (Json.obj a.metadata).Finite

theorem ActionsMade.formed (h : j.ActionsMade) {script : Script} (hscript : script ∈ j.scripts) :
    ∀ a ∈ script.actions, a.deed.Formed := by
  intro a ha
  obtain ⟨⟨v, hread⟩, -⟩ := h script hscript a ha
  exact Action.formed_of_read hread

theorem list_scripts (h : j.ActionsMade) :
    Schema.list Script.read (.arr (Json.writableItems (j.scripts.map Script.dump))) =
      .ok (j.scripts.map Script.reread) := by
  have hfinite := Json.finiteItems_map fun script hscript =>
    Script.finite_dump fun a ha => (h script hscript a ha).2
  rw [Json.writableItems_of_finite _ hfinite]
  exact Schema.itemsFrom_map (fun script hscript => Script.read_dump (h.formed hscript)) 0

theorem map_reread_scripts (h : j.ActionsMade) : j.scripts.map Script.reread = j.scripts ↔
    ∀ script ∈ j.scripts, ∀ a ∈ script.actions, ∀ event ∈ a.event?, EventSettled event := by
  rw [map_eq_self_iff]
  exact forall₂_congr fun script hscript => Script.reread_eq_self_iff (h.formed hscript)

/-! ## Jobs of markup -/

/-- Markup is received as it was sent, so a job without trees is received if it can be written and
read at all. -/
theorem resent_of_markup (hmarkup : ∀ f ∈ j.fragments, ∃ text, f = .markup text)
    (hwritten : j.unwritable? carrier = none) (hreadable : carrier.reads j.dump = true)
    (hrules : j.RulesMade) (hactions : j.ActionsMade) :
    j.resent carrier = .ok { j with
      scripts := j.scripts.map Script.reread, sheets := j.sheets.map StyleSheet.reread } := by
  have hfinite : Json.FiniteItems (j.fragments.map JobFragment.dump) := by
    refine Json.finiteItems_map fun f hf => ?_
    obtain ⟨text, rfl⟩ := hmarkup f hf
    trivial
  have hfragments : Schema.list (JobFragment.read carrier) (.arr (Json.writableItems
      (j.fragments.map JobFragment.dump))) = .ok (j.fragments.map id) := by
    rw [Json.writableItems_of_finite _ hfinite]
    refine Schema.itemsFrom_map (fun f hf => ?_) 0
    obtain ⟨text, rfl⟩ := hmarkup f hf
    rfl
  rw [List.map_id] at hfragments
  exact resent_of_received hwritten hreadable
    ⟨rfl, hfragments, list_scripts hactions, list_sheets hrules, rfl⟩

/-- A job with a style sheet and a script. -/
def menuJob : Job :=
  { name := "page", fragments := [.markup "<button id=menu>Menu</button>"]
    scripts := [{ actions := [{ element := { id := some "menu" }, deed := .handle "click" none }] }]
    sheets := [{ rules := [Rule.inline "color: red; display: none !important" none] }] }

theorem rulesMade_menuJob : menuJob.RulesMade := by
  intro sheet hsheet r hr
  obtain rfl := List.mem_singleton.mp hsheet
  obtain rfl := List.mem_singleton.mp hr
  exact .inline _ _

theorem actionsMade_menuJob : menuJob.ActionsMade := by
  intro script hscript a ha
  obtain rfl := List.mem_singleton.mp hscript
  obtain rfl := List.mem_singleton.mp ha
  have hevent : eventName "onclick" = "click" := by decide +kernel
  refine ⟨⟨.obj [("kind", .str "event-handler"), ("element", .obj [("id", .str "menu")]),
    ("event", .str "onclick")], ?_⟩, trivial⟩
  show Checked.ok ({ element := { id := some "menu" }
                     deed := .handle (eventName "onclick") none } : Action) = _
  rw [hevent]

theorem resent_menuJob : ∃ j', menuJob.resent .usual = .ok j' :=
  ⟨_, resent_of_markup (by simp [menuJob]) (by decide +kernel) (by decide +kernel) rulesMade_menuJob
    actionsMade_menuJob⟩

/-! ## What is received -/

/-- A rule is read again as it is, but for a mark of importance at the end of a value, which is
taken off. So the rules that a worker receives, over any carrier, are those that were sent exactly if
no value ends with such a mark. -/
theorem rules_survive_iff (j : Job) (h : j.RulesMade) :
    (∀ r : Rule, r.Made → Rule.read r.dump = .ok r.reread ∧
      (Rule.read r.dump = .ok r ↔ ∀ p ∈ r.properties, ¬ Declaration.Marked p.2)) ∧
    ∀ carrier j', j.resent carrier = .ok j' → j'.sheets = j.sheets.map StyleSheet.reread ∧
      (j'.sheets = j.sheets ↔
        ∀ sheet ∈ j.sheets, ∀ r ∈ sheet.rules, ∀ p ∈ r.properties, ¬ Declaration.Marked p.2) := by
  constructor
  · intro r hmade
    have hread := Rule.read_dump hmade
    refine ⟨hread, ?_⟩
    rw [hread, Checked.ok.injEq]
    exact Rule.reread_eq_self_iff hmade
  · intro carrier j' hresent
    obtain ⟨-, hsheets⟩ := parts_of_resent hresent
    have hreceived := Checked.ok.inj (hsheets.symm.trans (list_sheets h))
    rw [hreceived]
    exact ⟨rfl, map_reread_sheets h⟩

theorem rules_survive_menuJob : menuJob.RulesMade ∧
    ∃ j', menuJob.resent .usual = .ok j' ∧ j'.sheets = menuJob.sheets := by
  obtain ⟨j', hresent⟩ := resent_menuJob
  obtain ⟨-, hreceived⟩ := rules_survive_iff menuJob rulesMade_menuJob
  refine ⟨rulesMade_menuJob, j', hresent, (hreceived _ j' hresent).2.mpr ?_⟩
  intro sheet hsheet r hr p hp
  obtain rfl := List.mem_singleton.mp hsheet
  obtain rfl := List.mem_singleton.mp hr
  have hproperties : (Rule.inline "color: red; display: none !important" none).properties =
    [("color", "red"), ("display", "none")] := by decide +kernel
  rw [hproperties] at hp
  simp only [List.mem_cons, List.not_mem_nil, or_false] at hp
  rcases hp with rfl | rfl
  · exact (Declaration.readValue_eq_self_iff (by decide +kernel)).mp (by decide +kernel)
  · exact (Declaration.readValue_eq_self_iff (by decide +kernel)).mp (by decide +kernel)

/-- A value that ends with two marks keeps one, and loses it on the way to a worker: what was no
`none` is `none` there. -/
theorem rule_loses_second_mark : ∃ r r',
    Rule.read (.obj [("selector", .str "p"),
      ("properties", .obj [("display", .str "none !important !important")]),
      ("important", .arr [])]) = .ok r ∧
    r.properties = [("display", "none !important")] ∧
    Rule.read r.dump = .ok r' ∧ r'.properties = [("display", "none")] := by
  have hderivable : Rule.derivable "p" .null = .ok () := by
    unfold Rule.derivable
    rw [breakdown?_paragraph]
  have hread := (Rule.read_blockFields (.str "p")
    (d := { properties := [("display", "none !important !important")] }) [] List.nodup_nil).trans
    (congrArg (Checked.andThen · _) hderivable)
  refine ⟨_, _, hread, ?_, Rule.read_dump (.read hread), ?_⟩
  · decide +kernel
  · decide +kernel

/-- The form of an attribute's name stays what it is, and that of an event's name exactly if it is
settled. So an action is read again as it is, but for the name of its event, and the actions that a
worker receives, over any carrier, are those that were sent exactly if all their events are
settled. -/
theorem actions_survive_iff (j : Job) (h : j.ActionsMade) :
    (∀ s, Text.normalize (Text.normalize s) = Text.normalize s) ∧
    (∀ s, eventName (eventName s) = eventName s ↔ EventSettled (eventName s)) ∧
    (∀ v a, Action.read v = .ok a → Action.read a.dump = .ok a.reread ∧
      (Action.read a.dump = .ok a ↔ ∀ event ∈ a.event?, EventSettled event)) ∧
    ∀ carrier j', j.resent carrier = .ok j' → j'.scripts = j.scripts.map Script.reread ∧
      (j'.scripts = j.scripts ↔
        ∀ script ∈ j.scripts, ∀ a ∈ script.actions, ∀ event ∈ a.event?, EventSettled event) := by
  refine ⟨normalize_normalize, eventName_eq_self_iff, ?_, ?_⟩
  · intro v a hmade
    have hformed := Action.formed_of_read hmade
    have hread := Action.read_dump hformed
    refine ⟨hread, ?_⟩
    rw [hread, Checked.ok.injEq]
    exact Action.reread_eq_self_iff hformed
  · intro carrier j' hresent
    obtain ⟨hscripts, -⟩ := parts_of_resent hresent
    have hreceived := Checked.ok.inj (hscripts.symm.trans (list_scripts h))
    rw [hreceived]
    exact ⟨rfl, map_reread_scripts h⟩

theorem actions_survive_menuJob : menuJob.ActionsMade ∧
    ∃ j', menuJob.resent .usual = .ok j' ∧ j'.scripts = menuJob.scripts := by
  obtain ⟨j', hresent⟩ := resent_menuJob
  obtain ⟨-, hsettled, -, hreceived⟩ := actions_survive_iff menuJob actionsMade_menuJob
  refine ⟨actionsMade_menuJob, j', hresent, (hreceived _ j' hresent).2.mpr ?_⟩
  intro script hscript a ha event hevent
  obtain rfl := List.mem_singleton.mp hscript
  obtain rfl := List.mem_singleton.mp ha
  obtain rfl : "click" = event := Option.some.inj hevent
  have hname : eventName "onclick" = "click" := by decide +kernel
  have htwice : eventName "click" = "click" := by decide +kernel
  rw [← hname]
  exact (hsettled "onclick").mp (by rw [hname, htwice])

/-- The attribute `ononline` is for the event `online`, which a worker receives as `line`; and what
was no click is one there. -/
theorem action_loses_second_on :
    (∃ a a',
      Action.read (.obj [("kind", .str "event-handler"), ("event", .str "ononline")]) = .ok a ∧
      a.event? = some "online" ∧ Action.read a.dump = .ok a' ∧ a'.event? = some "line") ∧
    ∃ a a',
      Action.read (.obj [("kind", .str "event-handler"), ("event", .str "ononclick")]) = .ok a ∧
      a.isClick = false ∧ Action.read a.dump = .ok a' ∧ a'.isClick = true := by
  have hread (event : String) :
      Action.read (.obj [("kind", .str "event-handler"), ("event", .str event)]) =
        .ok { deed := .handle (eventName event) none } := rfl
  constructor
  · refine ⟨_, _, hread "ononline", ?_, Action.read_dump ⟨_, rfl⟩, ?_⟩
    · decide +kernel
    · decide +kernel
  · refine ⟨_, _, hread "ononclick", ?_, Action.read_dump ⟨_, rfl⟩, ?_⟩
    · decide +kernel
    · decide +kernel

end Job

end AccessAudit
