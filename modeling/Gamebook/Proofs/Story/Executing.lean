import Gamebook.Proofs.Story.Failures
import Gamebook.Proofs.Templates

/-!
# Executing options

An option is executed in four steps: its effect, the procedure that runs after every option, the
redirect, the notice. The alias is copied back after the effect and after the procedure. The
redirect is read when both are done, and cleared unless there is none; so an option is not
redirected by what an option before it has asked for.

* `Stage.effectCalls`, `Stage.procedureCalls`, `Stage.clearingCalls` : the calls of each step.
* `Choice.asked`, `Choice.execute_eq_asked` : all of them, in their order.
* `Choice.redirected_value_iff` : when an option is redirected, and where it leads.
* `Engine.SetsRedirect`, `Choice.redirected_anew` : a redirect is taken by one option only.
* `Story.executeOption_executing` : all that comes of executing an option.
-/

namespace Gamebook

variable {σ : Type} {E : Engine σ}

namespace Stage

/-! ## The calls of each step -/

/-- The call that copies the alias back, if a section is bound and the alias holds a record. -/
def commitCalls (E : Engine σ) (st : Stage σ) : List EngineCall :=
  match st.bound, E.read aliasName st.engine with
  | some sectionId, .ok (.record fields) =>
    [.write (sectionNamespace sectionId) (.record fields)]
  | _, _ => []

/-- A call, and then the alias is copied back. -/
def committing (E : Engine σ) (call : EngineCall) (st : Stage σ) : List EngineCall :=
  call :: commitCalls E (st.afterCalls E [call])

/-- The effect of an option, if it has one. -/
def effectCalls (E : Engine σ) (effect : Option String) (st : Stage σ) : List EngineCall :=
  match effect with
  | some code => committing E (.execute code) st
  | none => []

/-- The procedure that runs after every option, if it is defined. -/
def procedureCalls (E : Engine σ) (st : Stage σ) : List EngineCall :=
  if E.hasFunction afterOptionName st.engine then committing E (.call afterOptionName []) st
  else []

/-- The redirect is cleared, unless there is none. -/
def clearingCalls (E : Engine σ) (st : Stage σ) : List EngineCall :=
  match valueOf E redirectName st with
  | .nil => []
  | _ => [.write redirectName .nil]

theorem commit_eq (E : Engine σ) (st : Stage σ) :
    commit E st = st.afterCalls E (commitCalls E st) := by
  unfold commit commitCalls valueOf
  cases st.bound with
  | none => rfl
  | some sectionId =>
    cases E.read aliasName st.engine with
    | error fault => rfl
    | ok value => cases value <;> rfl

theorem runCode_eq (E : Engine σ) (effect : Option String) (st : Stage σ) :
    runCode E effect st = st.afterCalls E (effectCalls E effect st) := by
  cases effect with
  | none => rfl
  | some code => exact commit_eq E (st.afterCalls E [.execute code])

theorem callHook_eq (E : Engine σ) (st : Stage σ) :
    (callHook E afterOptionName st).2 = st.afterCalls E (procedureCalls E st) := by
  unfold callHook procedureCalls
  split
  · exact commit_eq E (st.afterCalls E [.call afterOptionName []])
  · rfl

/-- What is asked of the engine for the effect of an option and for the procedure after it. -/
def effectedCalls (E : Engine σ) (effect : Option String) (st : Stage σ) : List EngineCall :=
  effectCalls E effect st ++ procedureCalls E (st.afterCalls E (effectCalls E effect st))

theorem effected_eq (E : Engine σ) (effect : Option String) (st : Stage σ) :
    effected E effect st = st.afterCalls E (effectedCalls E effect st) := by
  rw [effected, callHook_eq, runCode_eq, effectedCalls, afterCalls_append]

theorem takeRedirect_eq (E : Engine σ) (st : Stage σ) :
    takeRedirect E st =
      (redirectOf (valueOf E redirectName st), st.afterCalls E (clearingCalls E st)) := by
  unfold takeRedirect clearingCalls
  cases valueOf E redirectName st <;> rfl

/-- A value of the redirect variable leads somewhere unless it is nothing, false, or no text. -/
theorem redirectOf_eq_some_iff {value : Value} {text : String} :
    redirectOf value = some text ↔
      value ≠ .nil ∧ value ≠ .bool false ∧ value.toText ≠ "" ∧ text = value.toText := by
  unfold redirectOf
  split
  · simp
  · simp
  · next hnil hfalse =>
    split
    · next hempty => simp [hempty]
    · next hempty =>
      rw [Option.some.injEq, eq_comm]
      exact ⟨fun h => ⟨hnil, hfalse, hempty, h⟩, fun h => h.2.2.2⟩

theorem redirectOf_isSome_iff {value : Value} :
    (redirectOf value).isSome = true ↔
      value ≠ .nil ∧ value ≠ .bool false ∧ value.toText ≠ "" := by
  rw [Option.isSome_iff_exists]
  simp [redirectOf_eq_some_iff]

end Stage

namespace Choice

/-! ## Targets and notices -/

/-- What the redirect variable holds when the effect and the procedure are done; nothing if it
cannot be read. -/
def redirectValue (E : Engine σ) (choice : Choice) (st : Stage σ) : Value :=
  Stage.valueOf E Stage.redirectName (Stage.effected E choice.effect st)

/-- The placeholders of the option's notice. -/
def noticePlaceholders (choice : Choice) : List String :=
  (choice.notice.map fun template => (Template.cut template.toList).expressions).getD []

theorem renderNotice_eq (E : Engine σ) (choice : Choice) (st : Stage σ) :
    choice.renderNotice E st =
      ((choice.notice.map fun template => (Stage.render E template st).1).filter (· ≠ ""),
        st.afterCalls E (Stage.evaluations choice.noticePlaceholders)) := by
  unfold renderNotice noticePlaceholders
  cases choice.notice with
  | none => rfl
  | some template =>
    refine Prod.ext ?_ ?_
    · simp only [Option.map_some, Option.filter_some]
      split <;> simp_all
    · exact Stage.render_asks E template st

/-- What is asked of the engine when an option is executed, in order: the effect and the procedure,
each followed by what copies the alias back, then what clears the redirect, then the placeholders of
the notice. -/
def asked (E : Engine σ) (choice : Choice) (st : Stage σ) : List EngineCall :=
  Stage.effectedCalls E choice.effect st ++
    Stage.clearingCalls E (Stage.effected E choice.effect st) ++
    Stage.evaluations choice.noticePlaceholders

theorem execute_eq_asked (E : Engine σ) (choice : Choice) (st : Stage σ) :
    (choice.execute E st).2 = st.afterCalls E (choice.asked E st) := by
  rw [execute_eq, renderNotice_eq, Stage.takeRedirect_eq, asked, Stage.afterCalls_append,
    Stage.afterCalls_append, ← Stage.effected_eq]

/-- An option is redirected if it is no restart and the value of the redirect leads somewhere. -/
theorem redirected_value_iff {choice : Choice} {st : Stage σ} :
    (choice.execute E st).1.redirected = true ↔ choice.target ≠ .restart ∧
      choice.redirectValue E st ≠ .nil ∧ choice.redirectValue E st ≠ .bool false ∧
      (choice.redirectValue E st).toText ≠ "" := by
  rw [redirected_iff, Stage.redirectOf_isSome_iff, redirectValue]

/-- A redirected option leads where the text of the redirect says, any other to its own target. -/
theorem target_execute (choice : Choice) (st : Stage σ) :
    (choice.execute E st).1.target =
      if (choice.execute E st).1.redirected then .ofText (choice.redirectValue E st).toText
      else choice.target := by
  have htarget := congrArg Prod.fst (choice.execute_target (E := E) st)
  have hredirected := congrArg Prod.snd (choice.execute_target (E := E) st)
  dsimp only at htarget hredirected
  rw [htarget, hredirected, redirectValue]
  cases hredirect : Stage.redirectOf (Stage.valueOf E Stage.redirectName
    (Stage.effected E choice.effect st)) with
  | none => rfl
  | some text =>
    obtain ⟨-, -, -, rfl⟩ := Stage.redirectOf_eq_some_iff.mp hredirect
    unfold finalTarget
    by_cases hrestart : choice.target = .restart
    · simp [hrestart]
    · simp [hrestart]

theorem notice_execute (choice : Choice) (st : Stage σ) :
    (choice.execute E st).1.notice = (choice.notice.map fun template =>
      (Stage.render E template (Stage.takeRedirect E
        (Stage.effected E choice.effect st)).2).1).filter (· ≠ "") := by
  rw [execute_steps]
  exact congrArg Prod.fst (renderNotice_eq E choice _)

end Choice

/-! ## Redirects that come from elsewhere -/

namespace Engine

/-- There is no redirect in a state of the engine, or none that can be read. -/
def NoRedirect (E : Engine σ) (state : σ) : Prop :=
  ∀ value, E.read Stage.redirectName state = .ok value → value = .nil

theorem noRedirect_iff {st : Stage σ} :
    E.NoRedirect st.engine ↔ Stage.valueOf E Stage.redirectName st = .nil := by
  unfold NoRedirect Stage.valueOf
  cases E.read Stage.redirectName st.engine <;> simp

/-- One of the calls sets a redirect where there was none. -/
def SetsRedirect (E : Engine σ) (calls : List EngineCall) (state : σ) : Prop :=
  ∃ before call after, calls = before ++ call :: after ∧
    E.NoRedirect (E.performAll before state) ∧
    ¬ E.NoRedirect (E.perform call (E.performAll before state)).2

/-- What holds before calls and not after them, one of the calls has ended. -/
theorem exists_changing {P : σ → Prop} {calls : List EngineCall} {state : σ} (h : P state)
    (hn : ¬ P (E.performAll calls state)) :
    ∃ before call after, calls = before ++ call :: after ∧ P (E.performAll before state) ∧
      ¬ P (E.perform call (E.performAll before state)).2 := by
  induction calls generalizing state with
  | nil => exact absurd h hn
  | cons call rest ih =>
    by_cases hcall : P (E.perform call state).2
    · obtain ⟨before, changing, after, rfl, hbefore, hchanging⟩ := ih hcall hn
      exact ⟨call :: before, changing, after, rfl, hbefore, hchanging⟩
    · exact ⟨[], call, rest, rfl, h, hcall⟩

end Engine

namespace Stage

/-- Once the redirect was taken there is none, if the engine lets it be cleared. -/
theorem noRedirect_taken
    (hclears : ∀ state, E.NoRedirect (E.write redirectName .nil state).2) (st : Stage σ) :
    E.NoRedirect (takeRedirect E st).2.engine := by
  rw [takeRedirect_eq]
  unfold clearingCalls
  split
  · next hnil => exact Engine.noRedirect_iff.mpr hnil
  · exact hclears st.engine

end Stage

namespace Choice

/-- A redirect is taken by one option only. Where an option is executed, whatever is called between,
and then another is redirected, some call has set a redirect anew since the first was taken. -/
theorem redirected_anew
    (hclears : ∀ state, E.NoRedirect (E.write Stage.redirectName .nil state).2)
    {choice next : Choice} {st later : Stage σ} {between : List EngineCall}
    (hbetween : later.engine = E.performAll between (choice.execute E st).2.engine)
    (hredirected : (next.execute E later).1.redirected = true) :
    E.SetsRedirect (Stage.evaluations choice.noticePlaceholders ++ between ++
        Stage.effectedCalls E next.effect later)
      (Stage.takeRedirect E (Stage.effected E choice.effect st)).2.engine := by
  refine Engine.exists_changing (Stage.noRedirect_taken hclears _) fun hnone => ?_
  have hlater : (Stage.effected E next.effect later).engine =
      E.performAll (Stage.evaluations choice.noticePlaceholders ++ between ++
        Stage.effectedCalls E next.effect later)
        (Stage.takeRedirect E (Stage.effected E choice.effect st)).2.engine := by
    rw [Stage.effected_eq, Stage.afterCalls, hbetween, execute_eq, renderNotice_eq,
      Stage.afterCalls, Engine.performAll_append, Engine.performAll_append]
  rw [← hlater, Engine.noRedirect_iff] at hnone
  exact (redirected_value_iff.mp hredirected).2.1 hnone

/-- All that comes of executing an option: what the engine is asked, in order, where the option
leads, and its notice. -/
structure Executing (E : Engine σ) (choice : Choice) (st : Stage (Recorded σ)) (outcome : Outcome)
    (after : Stage (Recorded σ)) : Prop where
  /-- The engine is asked this and nothing else. -/
  asked : after = { st with
    engine := ⟨E.performAll (choice.asked E.recording st) st.engine.state,
      st.engine.calls ++ choice.asked E.recording st⟩ }
  redirected : outcome.redirected = true ↔ choice.target ≠ .restart ∧
    choice.redirectValue E.recording st ≠ .nil ∧
    choice.redirectValue E.recording st ≠ .bool false ∧
    (choice.redirectValue E.recording st).toText ≠ ""
  target : outcome.target =
    if outcome.redirected then .ofText (choice.redirectValue E.recording st).toText
    else choice.target
  /-- The notice is rendered once the redirect is taken; one without text is none. -/
  notice : outcome.notice = (choice.notice.map fun template =>
    (Stage.render E.recording template (Stage.takeRedirect E.recording
      (Stage.effected E.recording choice.effect st)).2).1).filter (· ≠ "")
  /-- On an engine that lets the redirect be cleared, another option is redirected later only if
  some call has set a redirect anew since this one was taken. -/
  anew (hclears : ∀ state, E.NoRedirect (E.write Stage.redirectName .nil state).2)
    {next : Choice} {later : Stage (Recorded σ)} {between : List EngineCall}
    (hbetween : later.engine = E.recording.performAll between after.engine)
    (hredirected : (next.execute E.recording later).1.redirected = true) :
    E.recording.SetsRedirect (Stage.evaluations choice.noticePlaceholders ++ between ++
        Stage.effectedCalls E.recording next.effect later)
      (Stage.takeRedirect E.recording
        (Stage.effected E.recording choice.effect st)).2.engine

theorem executing (E : Engine σ) (choice : Choice) (st : Stage (Recorded σ)) :
    Executing E choice st (choice.execute E.recording st).1 (choice.execute E.recording st).2 where
  asked := by rw [execute_eq_asked, Stage.afterCalls_recording]
  redirected := redirected_value_iff
  target := target_execute choice st
  notice := notice_execute choice st
  anew hclears _ _ _ hbetween hredirected :=
    redirected_anew (fun state => hclears state.state) hbetween hredirected

end Choice

namespace Story

/-- An option of a story is executed as it is on its own, and is hidden afterwards if it can be
executed once only; nothing else in the story is hidden or shown. -/
theorem executeOption_executing (E : Engine σ) {story : Story (Recorded σ)}
    {sectionId optionId : String} {choice : Choice}
    (hc : story.choice? sectionId optionId = some choice) :
    ∃ outcome after, Choice.Executing E choice story.stage outcome after ∧
      story.executeOption E.recording sectionId optionId =
        (.ok outcome, { story with
          sections := story.sections.modify sectionId (Section.spend optionId), stage := after }) ∧
      ∀ other otherOption,
        (story.executeOption E.recording sectionId optionId).2.hiddenOf other otherOption =
          if other = sectionId ∧ otherOption = optionId then some (choice.hidden || choice.isOnce)
          else story.hiddenOf other otherOption := by
  refine ⟨_, _, choice.executing E story.stage, executeOption_choice hc, ?_⟩
  intro other otherOption
  obtain ⟨s, hs, hfound⟩ := Option.bind_eq_some_iff.mp hc
  rw [executeOption_choice hc]
  exact hiddenOf_spend story _ hs hfound other otherOption

/-- An engine whose states are lists of variables. A script is the text of a redirect, every call
fails, and an expression gives its own text. -/
def pointing : Engine Variables where
  isReady _ := true
  execute code vars := (.ok .nil, vars.put Stage.redirectName (.text code))
  evaluate expression vars := (.ok (.text expression), vars)
  read name vars := .ok ((vars.find? name).getD .nil)
  write name value vars := (.ok (), vars.put name value)
  readAll := Fields.sorted
  hasFunction name _ := name == Stage.afterOptionName
  define _ _ _ vars := (.ok (), vars)
  call name _ vars := (.error (.sectionNotFound name), vars)
  addHelpers vars := (.ok (), vars)
  dice? _ := none
  setDice _ vars := vars

theorem pointing_clears (vars : Variables) :
    pointing.NoRedirect (pointing.write Stage.redirectName .nil vars).2 := by
  intro value hread
  simpa [pointing, Fields.find?_put] using hread.symm

/-- A signpost that points to the attic, once, in a yard. -/
def signpost : Choice :=
  ⟨"post", "Read it", .goTo "yard", none, some "attic", some "Up {here}", ["once"], false⟩

/-- A story in the yard. -/
def inYard : Story (Recorded Variables) where
  title := "Yard"
  author := none
  version := none
  roster := []
  events := []
  hooks := []
  sections := [("yard", ⟨"yard", none, "", none, [], [("post", signpost)], 1⟩)]
  stage := ⟨⟨[], []⟩, some "yard"⟩

/-- The signpost leads to the attic although the procedure after it fails, and is hidden then. What
it has pointed to is no redirect any more. -/
theorem executeOption_executing_signpost :
    (∃ outcome after, Choice.Executing pointing signpost inYard.stage outcome after ∧
      inYard.executeOption pointing.recording "yard" "post" = (.ok outcome, { inYard with
        sections := inYard.sections.modify "yard" (Section.spend "post"), stage := after }) ∧
      ∀ other otherOption,
        (inYard.executeOption pointing.recording "yard" "post").2.hiddenOf other otherOption =
          if other = "yard" ∧ otherOption = "post" then some true
          else inYard.hiddenOf other otherOption) ∧
      (∀ vars, pointing.NoRedirect (pointing.write Stage.redirectName .nil vars).2) ∧
      (inYard.executeOption pointing.recording "yard" "post").1.toOption.map
        (fun outcome => (outcome.target, outcome.notice, outcome.redirected)) =
          some (.goTo "attic", some "Up here", true) :=
  ⟨executeOption_executing pointing rfl, pointing_clears, by decide +kernel⟩

end Story

end Gamebook
