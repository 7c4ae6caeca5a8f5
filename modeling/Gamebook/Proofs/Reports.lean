import Gamebook.Proofs.Json.Quoting
import Gamebook.Proofs.Restarting
import Gamebook.Proofs.Session.Belonging

/-!
# Reports can be read back

A report has a line for each thing that a boundary shows: a tag, a colon, and a body. Texts stand in
quotes, which hides their line breaks, but ids stand as they are. If no id of a gamebook contains a
line break, the lines of a report tell what was shown. An id that does contain one can pass for two
options.

* `LineMode.textOf_inj` : lines without line breaks can be told apart in a text.
* `Boundary.bodies`, `Boundary.report_eq` : the tags and the bodies of a report.
* `Boundary.report_inj` : a report determines its boundary.
* `Agent.Prints` : what a command prints of a boundary.
* `Agent.output_determines` : what commands print determines what they show.
* `Agent.id_passes_for_options` : an id with a line break.
-/

namespace Gamebook

/-! ## Lines in a text -/

/-- What stands before the first stop, and what stands behind it. -/
theorem append_stop_inj {α : Type} {stop : α} {before before' behind behind' : List α}
    (h : stop ∉ before) (h' : stop ∉ before')
    (heq : before ++ stop :: behind = before' ++ stop :: behind') :
    before = before' ∧ behind = behind' := by
  obtain ⟨more, rfl, hrest⟩ | ⟨more, rfl, hrest⟩ := List.append_eq_append_iff.mp heq
  · cases more with
    | nil => exact ⟨(List.append_nil before).symm, (List.cons.inj hrest).2⟩
    | cons c more =>
      obtain ⟨rfl, -⟩ := List.cons.inj hrest
      exact absurd (List.mem_append_right before List.mem_cons_self) h'
  · cases more with
    | nil => exact ⟨List.append_nil before', (List.cons.inj hrest).2.symm⟩
    | cons c more =>
      obtain ⟨rfl, -⟩ := List.cons.inj hrest
      exact absurd (List.mem_append_right before' List.mem_cons_self) h

namespace LineMode

theorem toList_textOf_cons (line : String) (lines : List String) :
    (textOf (line :: lines)).toList = line.toList ++ '\n' :: (textOf lines).toList := by
  simp [textOf, String.join_cons]

theorem textOf_append (lines more : List String) :
    textOf (lines ++ more) = textOf lines ++ textOf more := by
  rw [textOf, List.map_append, String.join_append]
  rfl

/-- Lines without line breaks can be told apart in a text. -/
theorem textOf_inj {lines lines' : List String} (h : ∀ line ∈ lines, '\n' ∉ line.toList)
    (h' : ∀ line ∈ lines', '\n' ∉ line.toList) (heq : textOf lines = textOf lines') :
    lines = lines' := by
  induction lines generalizing lines' with
  | nil =>
    cases lines' with
    | nil => rfl
    | cons line' lines' =>
      have hnil := congrArg String.toList heq
      rw [toList_textOf_cons] at hnil
      exact absurd hnil.symm (List.append_ne_nil_of_right_ne_nil _ (List.cons_ne_nil _ _))
  | cons line lines ih =>
    cases lines' with
    | nil =>
      have hnil := congrArg String.toList heq
      rw [toList_textOf_cons] at hnil
      exact absurd hnil (List.append_ne_nil_of_right_ne_nil _ (List.cons_ne_nil _ _))
    | cons line' lines' =>
      rw [List.forall_mem_cons] at h h'
      have hchars := congrArg String.toList heq
      rw [toList_textOf_cons, toList_textOf_cons] at hchars
      obtain ⟨hline, hlines⟩ := append_stop_inj h.1 h'.1 hchars
      rw [String.toList_inj.mp hline, ih h.2 h'.2 (String.toList_inj.mp hlines)]

end LineMode

/-! ## Lines under tags -/

/-- The line of a body under a tag. -/
def tagged (tag body : String) : String := tag ++ ":" ++ body

/-- A line tells its tag and its body, if no tag contains a colon. -/
theorem tagged_inj {tag tag' body body' : String} (h : ':' ∉ tag.toList) (h' : ':' ∉ tag'.toList)
    (heq : tagged tag body = tagged tag' body') : tag = tag' ∧ body = body' := by
  have hchars := congrArg String.toList heq
  simp only [tagged, String.toList_append, List.append_assoc] at hchars
  obtain ⟨htag, hbody⟩ := append_stop_inj h h' hchars
  exact ⟨String.toList_inj.mp htag, String.toList_inj.mp hbody⟩

/-- The lines of bodies under their tags. -/
def taggedLines (bodies : Fields (List String)) : List String :=
  bodies.flatMap fun entry => entry.2.map (tagged entry.1)

theorem mem_taggedLines {bodies : Fields (List String)} {line : String}
    (h : line ∈ taggedLines bodies) :
    ∃ entry ∈ bodies, ∃ body ∈ entry.2, line = tagged entry.1 body := by
  obtain ⟨entry, hentry, hline⟩ := List.mem_flatMap.mp h
  obtain ⟨body, hbody, heq⟩ := List.mem_map.mp hline
  exact ⟨entry, hentry, body, hbody, heq.symm⟩

/-- The lines under a tag end where lines under other tags begin. -/
theorem tagged_append_inj {tag : String} (htag : ':' ∉ tag.toList) {bodies bodies' : List String}
    {lines lines' : List String} (hother : ∀ body, tagged tag body ∉ lines)
    (hother' : ∀ body, tagged tag body ∉ lines')
    (h : bodies.map (tagged tag) ++ lines = bodies'.map (tagged tag) ++ lines') :
    bodies = bodies' ∧ lines = lines' := by
  induction bodies generalizing bodies' with
  | nil =>
    cases bodies' with
    | nil => exact ⟨rfl, h⟩
    | cons body' bodies' =>
      have hmem : tagged tag body' ∈ lines := by
        rw [← List.nil_append lines, ← List.map_nil, h]
        exact List.mem_cons_self
      exact absurd hmem (hother body')
  | cons body bodies ih =>
    cases bodies' with
    | nil =>
      have hmem : tagged tag body ∈ lines' := by
        rw [← List.nil_append lines', ← List.map_nil, ← h]
        exact List.mem_cons_self
      exact absurd hmem (hother' body)
    | cons body' bodies' =>
      obtain ⟨hline, hrest⟩ := List.cons.inj h
      obtain ⟨rfl, hlines⟩ := ih hrest
      rw [(tagged_inj htag htag hline).2, hlines]
      exact ⟨rfl, rfl⟩

/-- Lines under different tags, in a fixed order, tell the bodies under each. -/
theorem taggedLines_inj {bodies bodies' : Fields (List String)}
    (hnames : bodies.names = bodies'.names) (hnodup : bodies.names.Nodup)
    (htags : ∀ tag ∈ bodies.names, ':' ∉ tag.toList)
    (h : taggedLines bodies = taggedLines bodies') : bodies = bodies' := by
  induction bodies generalizing bodies' with
  | nil =>
    cases bodies' with
    | nil => rfl
    | cons => cases hnames
  | cons entry rest ih =>
    cases bodies' with
    | nil => cases hnames
    | cons entry' rest' =>
      obtain ⟨tag, bodies⟩ := entry
      obtain ⟨tag', bodies'⟩ := entry'
      obtain ⟨rfl, hrest⟩ := List.cons.inj hnames
      obtain ⟨hfresh, hnodup⟩ := List.nodup_cons.mp hnodup
      obtain ⟨htag, htags⟩ := List.forall_mem_cons.mp htags
      -- the names are distinct, so no later line is under the first tag
      have hother {rest' : Fields (List String)} (hsame : Fields.names rest = rest'.names)
          (body : String) : tagged tag body ∉ taggedLines rest' := by
        intro hmem
        obtain ⟨other, hother, body', -, heq⟩ := mem_taggedLines hmem
        have hname : other.1 ∈ Fields.names rest := hsame ▸ List.mem_map_of_mem hother
        exact hfresh ((tagged_inj htag (htags _ hname) heq).1 ▸ hname)
      obtain ⟨rfl, hlines⟩ := tagged_append_inj htag (hother rfl) (hother hrest) h
      rw [ih hrest hnodup htags hlines]

namespace Boundary

variable {boundary boundary' : Boundary} {stateOut : String}

/-- The tags of the lines that programs read. -/
def tags : List String :=
  ["RESULT", "EVENT", "MESSAGE_JSON", "NOTIFY_JSON", "NAV_ERROR_JSON", "SECTION", "TITLE_JSON",
    "TEXT_JSON", "OPTION", "STATE_OUT"]

theorem lineFeed_notMem_tags : ∀ tag ∈ tags, '\n' ∉ tag.toList := by decide

/-- What a report says under each tag, but for the path of the state. -/
def bodies (boundary : Boundary) : Fields (List String) :=
  [("RESULT", ["OK"]), ("EVENT", [if boundary.isEnd then "END" else "OPTIONS"]),
    ("MESSAGE_JSON", boundary.message.toList.map Json.quote),
    ("NOTIFY_JSON", boundary.notice.toList.map Json.quote),
    ("NAV_ERROR_JSON", boundary.blocked.toList.map Json.quote),
    ("SECTION", [boundary.sectionId]), ("TITLE_JSON", [Json.quote boundary.title]),
    ("TEXT_JSON", [Json.quote boundary.text]),
    ("OPTION", boundary.offers.map fun offer => offer.id ++ "|" ++ Json.quote offer.text)]

theorem names_bodies (boundary : Boundary) : boundary.bodies.names = tags.dropLast := rfl

/-- A report consists of the lines under its tags. -/
theorem report_eq (stateOut : String) (boundary : Boundary) :
    boundary.report stateOut = taggedLines boundary.bodies ++ [tagged "STATE_OUT" stateOut] := by
  have hoptional (tag : String) (text : Option String) :
      optional tag text = (text.toList.map Json.quote).map (tagged tag) := by
    cases text <;> rfl
  have hoffer : (fun offer : Offer => "OPTION:" ++ offer.id ++ "|" ++ Json.quote offer.text) =
      fun offer => tagged "OPTION" (offer.id ++ "|" ++ Json.quote offer.text) := by
    funext offer
    simp only [tagged, String.append_assoc]
    rfl
  simp only [report, bodies, taggedLines, hoptional, hoffer, List.flatMap_cons, List.flatMap_nil,
    List.map_map, List.append_assoc]
  cases boundary.isEnd <;> rfl

/-- What stands under the tags determines the boundary. -/
theorem bodies_inj (h : boundary.bodies = boundary'.bodies) : boundary = boundary' := by
  have hquoted {text text' : Option String}
      (h : text.toList.map Json.quote = text'.toList.map Json.quote) : text = text' := by
    cases text <;> cases text'
    · rfl
    · cases h
    · cases h
    · exact congrArg some (Json.quote_inj (List.cons.inj h).1)
  have hoffers : Function.Injective fun offer : Offer =>
      offer.id ++ "|" ++ Json.quote offer.text := by
    intro offer offer' h
    obtain ⟨hid, htext⟩ := Json.bar_quote_inj h
    cases offer
    cases offer'
    exact congrArg₂ Offer.mk hid htext
  simp only [bodies, List.cons.injEq, Prod.mk.injEq, true_and, and_true] at h
  obtain ⟨-, hmessage, hnotice, hblocked, hsection, htitle, htext, hoptions⟩ := h
  cases boundary
  cases boundary'
  simp only [mk.injEq]
  exact ⟨hsection, Json.quote_inj htitle, Json.quote_inj htext,
    hoffers.list_map hoptions, hquoted hnotice, hquoted hmessage, hquoted hblocked⟩

/-- No id of the boundary contains a line break. -/
structure Unbroken (boundary : Boundary) : Prop where
  sectionId : '\n' ∉ boundary.sectionId.toList
  offers : ∀ offer ∈ boundary.offers, '\n' ∉ offer.id.toList

theorem Unbroken.bodies (h : boundary.Unbroken) :
    ∀ entry ∈ boundary.bodies, ∀ body ∈ entry.2, '\n' ∉ body.toList := by
  have hquoted (text : Option String) :
      ∀ body ∈ text.toList.map Json.quote, '\n' ∉ body.toList := by
    intro body hbody
    obtain ⟨text, -, rfl⟩ := List.mem_map.mp hbody
    exact Json.lineFeed_notMem_quote text
  simp only [Boundary.bodies, List.forall_mem_cons, List.not_mem_nil, false_imp_iff, implies_true,
    and_true]
  refine ⟨by decide, ?_, hquoted _, hquoted _, hquoted _, h.sectionId,
    Json.lineFeed_notMem_quote _, Json.lineFeed_notMem_quote _, ?_⟩
  · split <;> decide
  · intro body hbody
    obtain ⟨offer, hoffer, rfl⟩ := List.mem_map.mp hbody
    have hquote := Json.lineFeed_notMem_quote offer.text
    simp [h.offers offer hoffer, hquote]

/-- The lines in front of the state's path contain no line breaks, and each has its tag. -/
theorem Unbroken.taggedLines (h : boundary.Unbroken) :
    ∀ line ∈ taggedLines boundary.bodies, '\n' ∉ line.toList ∧
      ∃ tag ∈ tags, ∃ body, line = tagged tag body := by
  intro line hline
  obtain ⟨entry, hentry, body, hbody, rfl⟩ := mem_taggedLines hline
  have htag : entry.1 ∈ tags := by
    refine List.dropLast_subset tags ?_
    rw [← names_bodies boundary]
    exact List.mem_map_of_mem hentry
  have hline : '\n' ∉ (tagged entry.1 body).toList := by
    simp [tagged, lineFeed_notMem_tags _ htag, h.bodies entry hentry body hbody]
  exact ⟨hline, _, htag, body, rfl⟩

/-- The lines of a report determine the boundary. -/
theorem report_inj (h : boundary.Unbroken) (h' : boundary'.Unbroken)
    (heq : LineMode.textOf (boundary.report stateOut) =
      LineMode.textOf (boundary'.report stateOut)) : boundary = boundary' := by
  -- the last line is the same in both, whatever the path contains
  rw [report_eq, report_eq, LineMode.textOf_append, LineMode.textOf_append,
    String.append_left_inj] at heq
  have hlines := LineMode.textOf_inj (fun line hline => (h.taggedLines line hline).1)
    (fun line hline => (h'.taggedLines line hline).1) heq
  refine bodies_inj (taggedLines_inj rfl ?_ ?_ hlines)
  · rw [names_bodies]
    decide
  · rw [names_bodies]
    decide

/-- A report consists of lines with tags, if the path of the state has no line break. -/
theorem Unbroken.report (h : boundary.Unbroken) (hpath : '\n' ∉ stateOut.toList) :
    ∀ line ∈ boundary.report stateOut, '\n' ∉ line.toList ∧
      ∃ tag ∈ tags, ∃ body, line = tagged tag body := by
  intro line hline
  rw [report_eq, List.mem_append, List.mem_singleton] at hline
  obtain hline | rfl := hline
  · exact h.taggedLines line hline
  · refine ⟨?_, "STATE_OUT", by decide, stateOut, rfl⟩
    simp [tagged, hpath]

end Boundary

/-! ## What commands print -/

/-- No section id and no option id of the document contains a line break. -/
def Document.Unbroken (document : Document) : Prop :=
  ∀ entry ∈ document.sections, '\n' ∉ entry.1.toList ∧
    ∀ optionId ∈ entry.2.options.names, '\n' ∉ optionId.toList

instance (document : Document) : Decidable document.Unbroken :=
  inferInstanceAs (Decidable (∀ entry ∈ document.sections, '\n' ∉ entry.1.toList ∧
    ∀ optionId ∈ entry.2.options.names, '\n' ∉ optionId.toList))

/-- A boundary that shows a session has ids of its document. -/
theorem Session.Belongs.unbroken {σ : Type} {E : Engine σ} {document : Document}
    {session final : Session σ} {boundary : Boundary} (h : session.Belongs document)
    (hshows : boundary.Shows E session final) (hdocument : document.Unbroken) :
    boundary.Unbroken := by
  obtain ⟨spec, hspec, hoffers⟩ := h.shown hshows
  obtain ⟨hsection, hoptions⟩ := hdocument _ (Fields.mem_of_find? hspec)
  exact ⟨hsection, fun offer hoffer => hoptions _ (hoffers offer hoffer)⟩

namespace Agent

section Prints

variable {σ σ' : Type} {host : Host (StateM Disk) σ} {host' : Host (StateM Disk) σ'}
  {disk disk' : Disk} {command command' : Command} {stateOut output output' : String}
  {document document' : Document} {boundary boundary' : Boundary}

/-- On a disk, a command that plays a document succeeds, and prints a text for the boundary that its
step shows. -/
structure Prints (host : Host (StateM Disk) σ) (disk : Disk) (command : Command)
    (stateOut : String) (document : Document) (boundary : Boundary) (output : String) : Prop where
  files : host.files = Disk.files
  clock : ∀ disk, (host.clock disk).2 = disk
  writes : command.stateOut? = some stateOut
  shown : ∃ story seed session final, Opens host disk command story seed session ∧
    Document.ofText story.text = .ok document ∧
    command.step host.engine session = (.ok boundary, final)
  ended : ∃ after, CommandLine.openCommand host command disk =
    (.ended { output, code := 0 }, after)

theorem Opens.text {story : StoryFile} {seed : Option UInt32} {session : Session σ}
    (h : Opens host disk command story seed session) : session.source.text = story.text := by
  rw [h.source.1]
  cases seed <;> rfl

/-- The session after the choice or the event of a command plays the document of its text. -/
theorem belongs_acted {session : Session σ} (command : Command)
    (h : session.Belongs document) : (command.acted host.engine session).Belongs document := by
  have hclosed := Session.Belongs.closed host.engine document
  cases command with
  | choose stateIn optionId stateOut => exact hclosed.step h (.choose optionId)
  | trigger stateIn eventId args stateOut =>
    exact hclosed.step h (.trigger eventId (args.map Value.ofTyped))
  | start | play | list => exact h

/-- The text is the report of the boundary. -/
theorem Prints.report (h : Prints host disk command stateOut document boundary output) :
    output = LineMode.textOf (boundary.report stateOut) := by
  obtain ⟨story, seed, session, final, hopens, -, hstep⟩ := h.shown
  obtain ⟨after, hended⟩ := h.ended
  rw [openCommand_opens h.files (fun _ => h.clock) h.writes hopens, hstep] at hended
  obtain ⟨kept, -, hfinish⟩ | ⟨-, fault, left, hfinish, -⟩ :=
    finish_shown h.files boundary final story.ref seed stateOut disk
  · rw [hfinish] at hended
    cases hended
    rfl
  · rw [hfinish] at hended
    cases hended

/-- The boundary has ids of the document. -/
theorem Prints.unbroken (h : Prints host disk command stateOut document boundary output)
    (hdocument : document.Unbroken) : boundary.Unbroken := by
  obtain ⟨story, seed, session, final, hopens, hloaded, hstep⟩ := h.shown
  have hat := hopens.opened.atCursor
  obtain ⟨fault, failed, hfails⟩ | ⟨shown, last, hshown, hshows⟩ := command.step_cases
    (E := host.engine) hat
  · rw [hstep] at hfails
    cases hfails
  · rw [hstep] at hshown
    cases hshown
    rw [← hopens.text] at hloaded
    exact (belongs_acted command (hopens.opened.belongs hloaded)).unbroken hshows hdocument

/-- What commands print can be read back, if no id contains a line break: two commands with the same
path for the state print the same text only if they show the same boundary, whatever the stories and
the disks are. Every line that is printed begins with a tag. -/
theorem output_determines (h : Prints host disk command stateOut document boundary output)
    (h' : Prints host' disk' command' stateOut document' boundary' output')
    (hdocument : document.Unbroken) (hdocument' : document'.Unbroken) :
    (output = output' ↔ boundary = boundary') ∧
      ('\n' ∉ stateOut.toList → ∃ lines, output = LineMode.textOf lines ∧
        ∀ line ∈ lines, '\n' ∉ line.toList ∧
          ∃ tag ∈ Boundary.tags, ∃ body, line = tag ++ ":" ++ body) := by
  rw [h.report, h'.report]
  refine ⟨⟨Boundary.report_inj (h.unbroken hdocument) (h'.unbroken hdocument'), ?_⟩,
    fun hpath => ?_⟩
  · rintro rfl
    rfl
  · exact ⟨_, rfl, (h.unbroken hdocument).report hpath⟩

end Prints

/-! ## Ids in lines -/

/-- What a first step shows of a story, and what a choice shows that goes on from its state file,
pass a check together with the document. -/
def twoShown (text optionId : String) (check : Document → Boundary → Boundary → Bool) : Bool :=
  (Document.ofText text).toOption.any fun document =>
    (Session.create Script.engine ⟨text, .seeded 1⟩ none).toOption.any fun created =>
      (Boundary.ofSession Script.engine created).1.toOption.any fun first =>
        goesOn ⟨text, .seeded 1⟩ (fun resumed =>
            (choosing Script.engine optionId resumed).1.toOption.any (check document first))
          (Boundary.ofSession Script.engine created).2

/-- Two commands print what passes such a check, on a disk with nothing but the story. -/
theorem prints_of_twoShown {text optionId : String} {check : Document → Boundary → Boundary → Bool}
    (h : twoShown text optionId check = true) :
    ∃ document first second middle, check document first second = true ∧
      Prints (Disk.host (pure 0)) (shelf text)
        (.start (.file "/story.yaml") none (some 1) "/first.json") "/first.json" document first
        (endingOf "/first.json" first).output ∧
      Prints (Disk.host (pure 0)) middle (.choose "/first.json" optionId "/first.json")
        "/first.json" document second (endingOf "/first.json" second).output := by
  obtain ⟨document, hdocument, h⟩ := (Option.any_eq_true ..).mp h
  obtain ⟨created, hcreated, h⟩ := (Option.any_eq_true ..).mp h
  obtain ⟨first, hfirst, hgoes⟩ := (Option.any_eq_true ..).mp h
  obtain ⟨hlasts, resumed, hresume, h⟩ := resumed_of_goesOn hgoes
  obtain ⟨second, hsecond, hcheck⟩ := (Option.any_eq_true ..).mp h
  have hloaded := toOption_eq_some hdocument
  have hcreate := toOption_eq_some hcreated
  have hshown : Boundary.ofSession Script.engine created =
      (.ok first, (Boundary.ofSession Script.engine created).2) :=
    Prod.ext (toOption_eq_some hfirst) rfl
  have hchosen : choosing Script.engine optionId resumed =
      (.ok second, (choosing Script.engine optionId resumed).2) :=
    Prod.ext (toOption_eq_some hsecond) rfl
  -- both commands can write the state file
  have hshelf : (shelf text).Takes (.ofText "/story.yaml" text) ["/first.json", "/first.json"] :=
    shelf_takes _ (by simp)
  obtain ⟨middle, hkeep, hstory, htakes⟩ := hshelf (stateText "/story.yaml" text 1
    (Boundary.ofSession Script.engine created).2)
  obtain ⟨last, hlast, -⟩ := htakes (stateText "/story.yaml" text 1
    (choosing Script.engine optionId resumed).2)
  have hparked : Parked "/story.yaml" text 1 middle "/first.json"
      (Boundary.ofSession Script.engine created).2 := ⟨Disk.read_keep hkeep, hstory⟩
  refine ⟨document, first, second, middle, hcheck, ⟨rfl, fun _ => rfl, rfl, ?_, ?_⟩,
    ⟨rfl, fun _ => rfl, rfl, ?_, ?_⟩⟩
  · exact ⟨_, _, _, _, opens_new (congrArg Prod.fst (find_shelf text)) hcreate, hloaded, hshown⟩
  · exact ⟨middle, start_disk (find_shelf text) hcreate hshown hkeep⟩
  · exact ⟨_, _, _, _, opens_parked (by decide) rfl hparked hlasts hresume, hloaded, hchosen⟩
  · exact ⟨last, command_disk (by decide) hparked hlasts hresume
      (show ((Move.choose optionId).step Script.engine resumed).1 = .ok second from
        congrArg Prod.fst hchosen) hlast⟩

/-- A hall whose first option has an id like an option with its text. -/
def hallOfBars : String :=
  "sections: \x7bhall: \x7boptions: \x7b\"a|\\\"1\\\"\": " ++
    "\x7btext: \"2\", flags: [first]\x7d, " ++
    "a: \x7btext: \"1\\\"|\\\"2\", flags: [not_first]\x7d\x7d\x7d\x7d"

/-- Bars and quotes in an id, and in a text, deceive nobody. -/
theorem output_determines_bars :
    ∃ document first second middle output output', document.Unbroken ∧
      Prints (Disk.host (pure 0)) (shelf hallOfBars)
        (.start (.file "/story.yaml") none (some 1) "/first.json") "/first.json" document first
        output ∧
      Prints (Disk.host (pure 0)) middle (.choose "/first.json" "a|\"1\"" "/first.json")
        "/first.json" document second output' ∧
      output ≠ output' ∧ ∃ lines, output = LineMode.textOf lines ∧
        ∀ line ∈ lines, '\n' ∉ line.toList ∧
          ∃ tag ∈ Boundary.tags, ∃ body, line = tag ++ ":" ++ body := by
  have hshown : twoShown hallOfBars "a|\"1\"" (fun document first second =>
      decide document.Unbroken && first.offers != second.offers) = true := by decide +kernel
  obtain ⟨document, first, second, middle, hcheck, hfirst, hsecond⟩ := prints_of_twoShown hshown
  rw [Bool.and_eq_true, decide_eq_true_eq, bne_iff_ne] at hcheck
  obtain ⟨hiff, hlines⟩ := output_determines hfirst hsecond hcheck.1 hcheck.1
  refine ⟨document, first, second, middle, _, _, hcheck.1, hfirst, hsecond, ?_, hlines (by decide)⟩
  intro hsame
  exact hcheck.2 (congrArg Boundary.offers (hiff.mp hsame))

/-- A hall whose first option has an id with a line break, like two options with a text. -/
def hallOfBreaks : String :=
  "sections: \x7bhall: \x7boptions: \x7b\"a|\\\"1\\\"\\nOPTION:b\": " ++
    "\x7btext: \"2\", flags: [first]\x7d, " ++
    "a: \x7btext: \"1\", flags: [not_first]\x7d, " ++
    "b: \x7btext: \"2\", flags: [not_first]\x7d\x7d\x7d\x7d"

/-- The id passes for two options: what is shown before the choice and after it is printed alike. -/
theorem id_passes_for_options :
    ∃ document first second middle output,
      Prints (Disk.host (pure 0)) (shelf hallOfBreaks)
        (.start (.file "/story.yaml") none (some 1) "/first.json") "/first.json" document first
        output ∧
      Prints (Disk.host (pure 0)) middle
        (.choose "/first.json" "a|\"1\"\nOPTION:b" "/first.json") "/first.json" document second
        output ∧
      first.offers ≠ second.offers := by
  have hshown : twoShown hallOfBreaks "a|\"1\"\nOPTION:b" (fun _ first second =>
      first.offers != second.offers &&
        (endingOf "/first.json" first).output == (endingOf "/first.json" second).output) =
          true := by decide +kernel
  obtain ⟨document, first, second, middle, hcheck, hfirst, hsecond⟩ := prints_of_twoShown hshown
  rw [Bool.and_eq_true, bne_iff_ne, beq_iff_eq] at hcheck
  exact ⟨document, first, second, middle, _, hfirst, hcheck.2 ▸ hsecond, hcheck.1⟩

end Agent

end Gamebook
