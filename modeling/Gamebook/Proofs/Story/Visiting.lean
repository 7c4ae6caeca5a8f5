import Gamebook.Proofs.Documents
import Gamebook.Proofs.Script.Constants
import Gamebook.Proofs.Story.Operations

/-!
# Clean starts

Whatever scripts have done before, a section that is entered finds an empty scratch record, its own
private variables with the new visit count under the alias, and itself bound; and the redirect that
an option has left is cleared once it was taken, so that it leads nowhere a second time. Constants
are the exception: a script that makes one of the reserved names a constant keeps the host from
writing it.

* `Stage.reads_redirect_taken` : a redirect that was taken is gone.
* `Story.visits_start_clean` : what every visit and every option finds and leaves.
-/

namespace Gamebook

open Script (Interpreter)

namespace Stage

/-- A redirect that could be read is gone once it was taken, unless it is a constant. -/
theorem reads_redirect_taken {st : Stage Interpreter} {value : Value}
    (hread : reads Script.engine redirectName st = .ok value)
    (hfree : st.isConstant redirectName = false) :
    reads Script.engine redirectName (takeRedirect Script.engine st).2 = .ok .nil := by
  rw [takeRedirect]
  dsimp only
  rw [valueOf_reads hread]
  cases value with
  | nil => exact hread
  | bool | int | number | text | list | record => exact reads_put_free hfree .nil

end Stage

namespace Story

/-- What a section and an option of a story find when they are entered or executed, and what they
leave. -/
structure StartsClean (story : Story Interpreter) : Prop where
  /-- The section that is entered is bound when its code starts. The scratch record is empty then,
  and the private variables stand under the alias with the new visit count. -/
  entered {id : String} {s : Section} (hs : story.section? id = some s) :
    let handed := s.counted.rebind Script.engine story.stage
    (story.perform Script.engine (.visit id)).stage = Stage.runCode Script.engine s.run handed ∧
    (story.perform Script.engine (.visit id)).visitsOf id = some s.counted.visits ∧
    handed.bound = some id ∧
    (story.stage.isConstant Stage.scratchName = false →
      Stage.reads Script.engine Stage.scratchName handed = .ok (.record [])) ∧
    (story.stage.isConstant Stage.aliasName = false →
      Stage.reads Script.engine Stage.aliasName handed =
        .ok (.record ((Stage.privates Script.engine id story.stage).insert Stage.visitsName
          (.int (Int64.ofNat s.counted.visits.toNat)))))
  /-- A redirect that could be read is gone when the notice of an option is rendered. -/
  taken {id optionId : String} {choice : Choice} {value : Value}
    (hc : story.choice? id optionId = some choice) :
    let effected := Stage.effected Script.engine choice.effect story.stage
    let taken := (Stage.takeRedirect Script.engine effected).2
    (Stage.reads Script.engine Stage.redirectName effected = .ok value →
      effected.isConstant Stage.redirectName = false →
      Stage.reads Script.engine Stage.redirectName taken = .ok .nil) ∧
    (story.perform Script.engine (.executeOption id optionId)).stage =
      (choice.renderNotice Script.engine taken).2 ∧
    (choice.notice = none →
      (story.perform Script.engine (.executeOption id optionId)).stage = taken)
  /-- An option is redirected by what its own effect, or the procedure after it, has left. -/
  redirected {id optionId : String} {choice : Choice} {outcome : Outcome}
    (hc : story.choice? id optionId = some choice)
    (h : (story.executeOption Script.engine id optionId).1 = .ok outcome) :
    outcome.redirected = true ↔ choice.target ≠ .restart ∧
      (Stage.redirectOf (Stage.valueOf Script.engine Stage.redirectName
        (Stage.effected Script.engine choice.effect story.stage))).isSome = true
  /-- Where there is no redirect before an option, and its effect and the procedure leave it so, the
  option leads where it says. -/
  unredirected {id optionId : String} {choice : Choice} {outcome : Outcome}
    (hc : story.choice? id optionId = some choice)
    (h : (story.executeOption Script.engine id optionId).1 = .ok outcome)
    (hnil : Stage.reads Script.engine Stage.redirectName story.stage = .ok .nil)
    (hleft : Stage.reads Script.engine Stage.redirectName
        (Stage.effected Script.engine choice.effect story.stage) =
      Stage.reads Script.engine Stage.redirectName story.stage) :
    outcome.redirected = false ∧ outcome.target = choice.target

theorem startsClean_of_keyed {story : Story Interpreter} (hk : story.Keyed) :
    story.StartsClean where
  entered := by
    intro id s hs
    have hid := hk id s hs
    refine ⟨by rw [perform_visit hs], ?_, by rw [Section.bound_rebind, Section.id_counted, hid],
      fun hfree => Stage.reads_scratch_rebind s.counted hfree, fun hfree => ?_⟩
    · rw [perform, visitsOf_visit hs, if_pos rfl, visitsOf, hs]
      rfl
    · rw [Stage.reads_alias_rebind s.counted hfree, Section.noted, Section.id_counted, hid]
  taken := by
    intro id optionId choice value hc
    rw [perform_executeOption hc]
    refine ⟨Stage.reads_redirect_taken, rfl, fun hnotice => ?_⟩
    simp only [Choice.renderNotice, hnotice]
  redirected := by
    intro id optionId choice outcome hc h
    rw [executeOption_choice hc] at h
    obtain rfl := Except.ok.inj h
    exact choice.redirected_iff story.stage
  unredirected := by
    intro id optionId choice outcome hc h hnil hleft
    rw [executeOption_choice hc] at h
    obtain rfl := Except.ok.inj h
    have htarget := choice.execute_target (E := Script.engine) story.stage
    rw [Stage.valueOf_reads (hleft.trans hnil)] at htarget
    obtain ⟨htarget, hredirected⟩ := Prod.mk.inj htarget
    exact ⟨hredirected, htarget⟩

/-- Whatever scripts have done in a story that was loaded and played, the next visit and the next
option start clean. -/
theorem visits_start_clean {document : Document} {engine : Interpreter}
    {story : Story Interpreter} (hload : (load Script.engine document engine).1 = .ok story)
    (operations : List Operation) : (story.play Script.engine operations).StartsClean := by
  obtain ⟨loaded, -, rfl⟩ := load_ok hload
  exact startsClean_of_keyed ((sameBook_play Script.engine _ operations).keyed
    (keyed_ofDocument document loaded))

/-- A hall that leaves something in the scratch record and under the alias, with a door that opens
elsewhere once. -/
def drawnHall : Source Interpreter :=
  ⟨"sections: \x7bhall: \x7brun: 'temp = 5; s = 7;', options: \x7bdoor: \x7btext: Door, " ++
    "run: 'goto_section = \"yard\"'\x7d\x7d\x7d, yard: \x7bvars: \x7bsteps: 2\x7d\x7d\x7d",
    .seeded 1⟩

/-- The yard is clean after the hall and its door. -/
theorem visits_start_clean_yard :
    ∃ document story, Document.ofText drawnHall.text = .ok document ∧
      (load Script.engine document drawnHall.engine).1 = .ok story ∧
      StartsClean (story.play Script.engine [.visit "hall", .executeOption "hall" "door"]) := by
  have hok : (drawnHall.opened? Script.engine).isSome = true := by decide +kernel
  obtain ⟨⟨document, story⟩, hopened⟩ := Option.isSome_iff_exists.mp hok
  obtain ⟨hdocument, hload⟩ := Source.opened?_eq_some hopened
  exact ⟨document, story, hdocument, hload, visits_start_clean hload _⟩

/-- A hall that makes the scratch record a constant, with a door that makes the redirect one. -/
def lockedHall : Source Interpreter :=
  ⟨"sections: \x7bhall: \x7brun: 'const temp = 5;', options: \x7bdoor: \x7btext: Door, " ++
    "run: 'const goto_section = \"yard\";'\x7d\x7d\x7d, yard: \x7b\x7d\x7d", .seeded 1⟩

/-- The yard does not find an empty scratch record after the hall, and the door leads elsewhere
again and again. -/
theorem constants_stay :
    ∃ document story s, Document.ofText lockedHall.text = .ok document ∧
      (load Script.engine document lockedHall.engine).1 = .ok story ∧
      (story.play Script.engine [.visit "hall"]).section? "yard" = some s ∧
      Stage.reads Script.engine Stage.scratchName
        (s.counted.rebind Script.engine (story.play Script.engine [.visit "hall"]).stage) ≠
          .ok (.record []) ∧
      Stage.reads Script.engine Stage.redirectName
        (story.play Script.engine [.visit "hall", .executeOption "hall" "door"]).stage ≠
          .ok .nil := by
  have htest : ((lockedHall.opened? Script.engine).any fun opened =>
      ((opened.2.play Script.engine [.visit "hall"]).section? "yard").any (fun s =>
        (Stage.valueOf Script.engine Stage.scratchName (s.counted.rebind Script.engine
          (opened.2.play Script.engine [.visit "hall"]).stage)).asInt? == some 5) &&
      (Stage.valueOf Script.engine Stage.redirectName (opened.2.play Script.engine
        [.visit "hall", .executeOption "hall" "door"]).stage).asText? == some "yard") = true := by
    decide +kernel
  obtain ⟨⟨document, story⟩, hopened, htest⟩ := (Option.any_eq_true ..).mp htest
  obtain ⟨hdocument, hload⟩ := Source.opened?_eq_some hopened
  obtain ⟨hscratch, hredirect⟩ := Bool.and_eq_true_iff.mp htest
  obtain ⟨s, hs, hfive⟩ := (Option.any_eq_true ..).mp hscratch
  refine ⟨document, story, s, hdocument, hload, hs, fun hread => ?_, fun hread => ?_⟩
  · rw [Stage.valueOf_reads hread] at hfive
    cases hfive
  · rw [Stage.valueOf_reads hread] at hredirect
    cases hredirect

end Story

end Gamebook
