import Gamebook.Proofs.Registering
import Gamebook.Proofs.Script.Alike

/-!
# Names that cover a gamebook

Whether names cover everything that a gamebook asks for can be worked out from its text: what its
scripts read, its reserved names, its variables, and the namespaces of its sections. All that
loading brings into an interpreter is covered as well, so that the interpreter of a story that was
just loaded is alike to itself, and the story is a twin of itself.

* `Names.coversDocument` : the names cover everything that the gamebook asks for.
* `Interpreter.Covered` : loading brings in nothing that is not covered.
* `Script.twins_ofDocument` : a story that was just loaded is a twin of itself.
-/

namespace Gamebook

namespace Script

namespace Names

/-- The names cover a piece of code, if it can be read. -/
def coversCode (names : Names) (code : String) : Bool :=
  match Program.ofText code with
  | .ok program => program.within names
  | .error _ => true

/-- The names cover an expression, if it can be read. -/
def coversExpression (names : Names) (expression : String) : Bool :=
  match Expr.ofText expression with
  | .ok e => e.within names
  | .error _ => true

/-- The names cover what a body reads besides its parameters, if it can be read. -/
def coversBody (names : Names) (params : List String) (body : String) : Bool :=
  match Program.ofText body with
  | .ok program => Procedure.within names ⟨params, program⟩
  | .error _ => true

/-- The names cover the expressions of a template. -/
def coversTemplate (names : Names) (template : String) : Bool :=
  (Template.parse template.toList).all fun
    | .literal _ => true
    | .expression source => names.coversExpression (String.ofList source)

/-- The names cover what an option asks for. -/
def coversChoice (names : Names) (choice : Choice) : Bool :=
  names.coversTemplate choice.text && choice.condition.all names.coversExpression
    && choice.effect.all names.coversCode && choice.notice.all names.coversTemplate

/-- The names cover what a section asks for after it was entered. -/
def coversChoices (names : Names) (s : Section) : Bool :=
  names.has (sectionNamespace s.id) && s.choices.all (fun entry => names.coversChoice entry.2)

/-- The names cover what a section asks for when it is entered and shown. -/
def coversEntry (names : Names) (s : Section) : Bool :=
  s.run.all names.coversCode && names.coversTemplate s.text

/-- The names cover everything that a gamebook asks for but for the code and the texts of its
sections. -/
def coversMoves (names : Names) (document : Document) : Bool :=
  (document.init.bind Text.nonBlank).all names.coversCode
    && document.events.all (fun entry => names.coversBody entry.2.params entry.2.run)
    && document.hooks.all (fun entry => names.coversBody [] entry.2.run)
    && document.sections.all (fun entry => names.coversChoices (.ofSpec entry.1 entry.2))
    && ([Stage.redirectName, Stage.aliasName] ++ document.vars.names).all names.has

/-- The names cover everything that a gamebook asks for. -/
def coversDocument (names : Names) (document : Document) : Bool :=
  names.coversMoves document
    && document.sections.all (fun entry => names.coversEntry (.ofSpec entry.1 entry.2))

variable {names : Names}

theorem demands_code {code : String} (h : names.coversCode code = true) :
    names.demands.code code := by
  intro program hprogram
  rwa [coversCode, hprogram] at h

theorem demands_expression {expression : String} (h : names.coversExpression expression = true) :
    names.demands.expression expression := by
  intro e he
  rwa [coversExpression, he] at h

theorem within_template {template : String} (h : names.coversTemplate template = true) :
    Template.Within names.demands template := fun _ hmem =>
  demands_expression (List.all_eq_true.mp h _ hmem)

theorem within_choice {choice : Choice} (h : names.coversChoice choice = true) :
    choice.Within names.demands := by
  simp only [coversChoice, Bool.and_eq_true, Option.all_eq_true] at h
  obtain ⟨⟨⟨htext, hcondition⟩, heffect⟩, hnotice⟩ := h
  exact ⟨within_template htext, fun _ hsome => demands_expression (hcondition _ hsome),
    fun _ hsome => demands_code (heffect _ hsome), fun _ hsome => within_template (hnotice _ hsome)⟩

theorem within_choices {s : Section} (h : names.coversChoices s = true) :
    names.has (sectionNamespace s.id) = true ∧
      ∀ entry ∈ s.choices, entry.2.Within names.demands := by
  simp only [coversChoices, Bool.and_eq_true, List.all_eq_true] at h
  exact ⟨h.1, fun entry hmem => within_choice (h.2 entry hmem)⟩

theorem within_section {s : Section} (h : names.coversChoices s = true)
    (hentry : names.coversEntry s = true) : s.Within names.demands := by
  simp only [coversEntry, Bool.and_eq_true, Option.all_eq_true] at hentry
  obtain ⟨howned, hchoices⟩ := within_choices h
  exact ⟨howned, within_template hentry.2, fun _ hsome => demands_code (hentry.1 _ hsome), hchoices⟩

theorem within_early {choice : Choice} (h : choice.Within names.demands)
    (h' : choice.Within names.withScratch.demands) : choice.Within names.early where
  text chars hmem := ⟨h.text chars hmem, h'.text chars hmem⟩
  condition expression hsome := ⟨h.condition expression hsome, h'.condition expression hsome⟩
  effect code hsome := ⟨h.effect code hsome, h'.effect code hsome⟩
  notice template hsome chars hmem :=
    ⟨h.notice template hsome chars hmem, h'.notice template hsome chars hmem⟩

end Names

end Script

/-! ## Loading -/

namespace Script

variable {names : Names}

/-- All functions and procedures are covered. -/
structure Interpreter.Covered (names : Names) (it : Interpreter) : Prop where
  functions : ∀ f ∈ it.functions, f.within names = true
  procedures : ∀ entry ∈ it.procedures, entry.2.within names = true

namespace Interpreter.Covered

variable {it : Interpreter}

/-- An interpreter with covered functions is alike to itself. -/
theorem alike (h : it.Covered names) : Alike names it it it :=
  ⟨.refl _ _, rfl, rfl, h.functions, ⟨rfl, rfl⟩, ⟨rfl, rfl⟩⟩

theorem write (h : it.Covered names) (name : String) (value : Value) :
    (it.write name value).2.Covered names := by
  unfold Interpreter.write
  split
  · exact h
  · exact ⟨h.functions, h.procedures⟩

theorem execute (h : it.Covered names) {code : String} (hcode : names.coversCode code = true) :
    (it.execute code).2.Covered names := by
  have hsame := (h.alike.execute (Names.demands_code hcode)).state
  exact ⟨hsame.covered, hsame.procedures.1 ▸ h.procedures⟩

theorem define (h : it.Covered names) (name : String) {params : List String} {body : String}
    (hbody : names.coversBody params body = true) :
    (it.define name params body).2.Covered names := by
  unfold Interpreter.define
  split
  · exact h
  · next program hprogram =>
    rw [Names.coversBody, hprogram] at hbody
    refine ⟨h.functions, fun entry hmem => ?_⟩
    rcases Fields.mem_insert hmem with rfl | hmem
    · exact hbody
    · exact h.procedures entry hmem

/-- Loading a covered gamebook into a fresh interpreter brings in nothing that is not covered. -/
theorem registered {document : Document} (hd : names.coversMoves document = true)
    {seed : UInt32} {loaded : Interpreter}
    (h : Story.register engine document (.seeded seed) = (.ok (), loaded)) :
    loaded.Covered names := by
  simp only [Names.coversMoves, Bool.and_eq_true, Option.all_eq_true, List.all_eq_true] at hd
  obtain ⟨⟨⟨⟨hinit, hevents⟩, hhooks⟩, -⟩, -⟩ := hd
  exact Story.register_keeps (fun name value _ h => h.write name value)
    (fun _ h => ⟨h.functions, h.procedures⟩) (fun code hcode _ h => h.execute (hinit code hcode))
    (fun entry hmem _ h => h.define _ (hevents entry hmem))
    (fun entry hmem _ h => h.define _ (hhooks entry hmem)) h
    ⟨List.forall_mem_nil _, List.forall_mem_nil _⟩

end Interpreter.Covered

section Twins

variable {document : Document} {it : Interpreter}

/-- A story whose interpreter is covered is a twin of itself, if it asks for what is covered. -/
theorem twins_ofDocument (hcovers : names.coversDocument document = true)
    (hit : it.Covered names) : (Story.ofDocument document it).Twins names.demands
      (Interpreter.Alike names it) (Story.ofDocument document it) := by
  simp only [Names.coversDocument, Names.coversMoves, Bool.and_eq_true, Option.all_eq_true,
    List.all_eq_true] at hcovers
  obtain ⟨⟨⟨-, hsections⟩, hnames⟩, hentries⟩ := hcovers
  have hwithin : ∀ entry ∈ (Story.ofDocument document it).sections,
      entry.2.Within names.demands := by
    intro entry hmem
    obtain ⟨⟨id, spec⟩, hspec, rfl⟩ := List.mem_map.mp hmem
    have hchoices : names.coversChoices (.ofSpec id spec) = true := hsections (id, spec) hspec
    have hentry : names.coversEntry (.ofSpec id spec) = true := hentries (id, spec) hspec
    exact Names.within_section hchoices hentry
  refine ⟨rfl, ⟨rfl, hit.alike⟩, hwithin, ?_, ?_⟩
  · intro name hname
    exact hnames name (List.mem_append_right _ hname)
  · intro id hid
    obtain ⟨entry, hentry, rfl⟩ := List.mem_map.mp hid
    obtain ⟨⟨id, spec⟩, -, rfl⟩ := List.mem_map.mp hentry
    exact (hwithin _ hentry).owned

/-- It is one before a section is entered, too. -/
theorem twins_ofDocument_early (hmoves : names.coversMoves document = true)
    (hcovers : names.withScratch.coversDocument document = true) (hit : it.Covered names)
    (hit' : it.Covered names.withScratch) : (Story.ofDocument document it).Twins names.early
      (Interpreter.AlikeApart names it) (Story.ofDocument document it) := by
  have htwins := twins_ofDocument hcovers hit'
  simp only [Names.coversMoves, Bool.and_eq_true, List.all_eq_true] at hmoves
  obtain ⟨⟨-, hsections⟩, hnames⟩ := hmoves
  have hchoices : ∀ entry ∈ (Story.ofDocument document it).sections,
      names.has (sectionNamespace entry.2.id) = true ∧
        ∀ choice ∈ entry.2.choices, choice.2.Within names.demands := by
    intro entry hmem
    obtain ⟨⟨id, spec⟩, hspec, rfl⟩ := List.mem_map.mp hmem
    have hcovered : names.coversChoices (.ofSpec id spec) = true := hsections (id, spec) hspec
    exact Names.within_choices hcovered
  refine ⟨rfl, ⟨rfl, hit.alike, hit'.functions, .inr rfl⟩, fun entry hmem => ?_, ?_, ?_⟩
  · obtain ⟨howned, hwithin⟩ := hchoices entry hmem
    exact ⟨howned, trivial, fun _ _ => trivial, fun choice hchoice =>
      Names.within_early (hwithin choice hchoice) ((htwins.sections entry hmem).choices _ hchoice)⟩
  · intro name hname
    exact hnames name (List.mem_append_right _ hname)
  · intro id hid
    obtain ⟨entry, hentry, rfl⟩ := List.mem_map.mp hid
    obtain ⟨⟨id, spec⟩, -, rfl⟩ := List.mem_map.mp hentry
    exact (hchoices _ hentry).1

end Twins

end Script

end Gamebook
