import Gamebook.Proofs.Asking

/-!
# What templates consist of

A template is literals and placeholders by turns, and it can be cut up in one way only: an opening
brace begins a placeholder exactly if a closing brace follows it on its line. Expanding a template
evaluates its expressions once each, from left to right, and puts the results in their places.

* `Template.closing?_eq_some_iff`, `Template.closing?_eq_none_iff` : where a placeholder ends.
* `Template.Cutting`, `Template.cut` : a template cut into literals and expressions.
* `Template.proper_cut`, `Template.cut_source` : there is one proper cutting, and no other.
* `Template.expand_eq` : expanding evaluates the expressions and fills the cutting.
* `Stage.render_eq` : what a template asks of an engine, and the text that it leaves.
* `Template.expands` : all of it, for every template, evaluation and engine.
-/

namespace Gamebook

namespace Template

/-! ## Closing braces -/

/-- A line break comes, and no closing brace before it. -/
def Breaks (cs : List Char) : Prop := ∃ line rest, cs = line ++ '\n' :: rest ∧ '}' ∉ line

theorem not_breaks_brace (cs : List Char) : ¬ Breaks ('}' :: cs) := by
  rintro ⟨_ | ⟨c, line⟩, rest, heq, hline⟩
  · cases heq
  · obtain ⟨rfl, -⟩ := List.cons.inj heq
    exact hline List.mem_cons_self

theorem breaks_cons {c : Char} {cs : List Char} (hbrace : c ≠ '}') :
    Breaks (c :: cs) ↔ c = '\n' ∨ Breaks cs := by
  constructor
  · rintro ⟨_ | ⟨d, line⟩, rest, heq, hline⟩
    · exact .inl (List.cons.inj heq).1
    · obtain ⟨rfl, rfl⟩ := List.cons.inj heq
      exact .inr ⟨line, rest, rfl, fun h => hline (List.mem_cons_of_mem _ h)⟩
  · rintro (rfl | ⟨line, rest, rfl, hline⟩)
    · exact ⟨[], cs, rfl, List.not_mem_nil⟩
    · exact ⟨c :: line, rest, rfl, by simp [hline, hbrace.symm]⟩

theorem Breaks.append {cs : List Char} (h : Breaks cs) (more : List Char) :
    Breaks (cs ++ more) := by
  obtain ⟨line, rest, rfl, hline⟩ := h
  exact ⟨line, rest ++ more, by simp, hline⟩

theorem Breaks.of_append {cs more : List Char} (h : Breaks (cs ++ more)) (hmore : ¬ Breaks more) :
    Breaks cs := by
  induction cs with
  | nil => exact absurd h hmore
  | cons c rest ih =>
    have hbrace : c ≠ '}' := by
      rintro rfl
      exact not_breaks_brace _ h
    rw [List.cons_append, breaks_cons hbrace] at h
    exact (breaks_cons hbrace).mpr (h.imp_right ih)

theorem closing?_cons {c : Char} (hbrace : c ≠ '}') (hbreak : c ≠ '\n') (rest : List Char) :
    closing? (c :: rest) =
      (closing? rest).map fun (expression, after) => (c :: expression, after) := by
  rw [closing?]
  · exact hbrace
  · exact hbreak

/-- A placeholder ends at the first closing brace, if no line break comes before it. -/
theorem closing?_eq_some_iff {cs expression after : List Char} :
    closing? cs = some (expression, after) ↔
      cs = expression ++ '}' :: after ∧ '}' ∉ expression ∧ '\n' ∉ expression := by
  constructor
  · intro h
    refine ⟨eq_of_closing? h, ?_⟩
    induction cs generalizing expression with
    | nil => cases h
    | cons c rest ih =>
      by_cases hbrace : c = '}'
      · subst hbrace
        cases h
        exact ⟨List.not_mem_nil, List.not_mem_nil⟩
      by_cases hbreak : c = '\n'
      · subst hbreak
        cases h
      · rw [closing?_cons hbrace hbreak, Option.map_eq_some_iff] at h
        obtain ⟨⟨e, a⟩, he, hp⟩ := h
        cases hp
        obtain ⟨hbrace', hbreak'⟩ := ih he
        simp [Ne.symm hbrace, Ne.symm hbreak, hbrace', hbreak']
  · rintro ⟨rfl, hbrace, hbreak⟩
    induction expression with
    | nil => rfl
    | cons c rest ih =>
      rw [List.mem_cons, not_or] at hbrace hbreak
      rw [List.cons_append, closing?_cons (Ne.symm hbrace.1) (Ne.symm hbreak.1),
        ih hbrace.2 hbreak.2]
      rfl

/-- An opening brace begins no placeholder if a line break comes first, or no closing brace. -/
theorem closing?_eq_none_iff {cs : List Char} :
    closing? cs = none ↔ Breaks cs ∨ '}' ∉ cs := by
  induction cs with
  | nil => simp [closing?]
  | cons c rest ih =>
    by_cases hbrace : c = '}'
    · subst hbrace
      simp [closing?, not_breaks_brace]
    by_cases hbreak : c = '\n'
    · subst hbreak
      simp [closing?, breaks_cons]
    · rw [closing?_cons hbrace hbreak, Option.map_eq_none_iff, ih, breaks_cons hbrace]
      simp [Ne.symm hbrace, hbreak]

/-- In a literal before a placeholder, an opening brace begins no placeholder only if the line ends
within the literal. -/
theorem breaks_of_closing? {literal expression rest : List Char} (hbrace : '}' ∉ expression)
    (hbreak : '\n' ∉ expression)
    (h : closing? (literal ++ '{' :: (expression ++ '}' :: rest)) = none) : Breaks literal := by
  have hclosed : closing? (expression ++ '}' :: rest) ≠ none := by
    rw [closing?_eq_some_iff.mpr ⟨rfl, hbrace, hbreak⟩]
    exact Option.some_ne_none _
  rcases closing?_eq_none_iff.mp h with hbreaks | hnone
  · refine hbreaks.of_append fun hafter => ?_
    rw [breaks_cons (by decide)] at hafter
    rcases hafter with heq | hafter
    · cases heq
    · exact hclosed (closing?_eq_none_iff.mpr (.inl hafter))
  · simp at hnone

/-! ## Cuttings -/

/-- A template cut up: expressions, each with the literal before it, and the literal at the end. -/
structure Cutting where
  parts : List (List Char × List Char)
  last : List Char

namespace Cutting

/-- The template that was cut up. -/
def source (c : Cutting) : List Char :=
  c.parts.flatMap (fun (literal, expression) => literal ++ '{' :: expression ++ ['}']) ++ c.last

/-- The expressions in order. -/
def expressions (c : Cutting) : List String := c.parts.map fun part => String.ofList part.2

/-- Expressions and the literals before them, with results in place of the expressions. -/
def fillParts : List (List Char × List Char) → List String → String
  | [], _ => ""
  | (literal, _) :: rest, results =>
    String.ofList literal ++ results.headD "" ++ fillParts rest results.tail

/-- The template with results in place of its expressions. -/
def fill (c : Cutting) (results : List String) : String :=
  fillParts c.parts results ++ String.ofList c.last

/-- Every expression stands on one line and holds no closing brace, and no opening brace in a
literal begins a placeholder: in its literal it is followed by a line break before any closing
brace, or in the last literal by no closing brace at all. -/
structure Proper (c : Cutting) : Prop where
  expressions : ∀ part ∈ c.parts, '}' ∉ part.2 ∧ '\n' ∉ part.2
  literals : ∀ part ∈ c.parts, ∀ before after, part.1 = before ++ '{' :: after → Breaks after
  last : ∀ before after, c.last = before ++ '{' :: after → Breaks after ∨ '}' ∉ after

/-- Puts characters in front of the first literal. -/
def prepend (chars : List Char) : Cutting → Cutting
  | ⟨[], last⟩ => ⟨[], chars ++ last⟩
  | ⟨(literal, expression) :: rest, last⟩ => ⟨(chars ++ literal, expression) :: rest, last⟩

/-- The cutting that pieces make up. -/
def ofPieces : List Piece → Cutting
  | [] => ⟨[], []⟩
  | .literal chars :: rest => (ofPieces rest).prepend chars
  | .expression chars :: rest => ⟨([], chars) :: (ofPieces rest).parts, (ofPieces rest).last⟩

@[simp] theorem prepend_nil (c : Cutting) : c.prepend [] = c := by
  obtain ⟨_ | ⟨⟨literal, expression⟩, rest⟩, last⟩ := c <;> rfl

theorem prepend_prepend (chars more : List Char) (c : Cutting) :
    (c.prepend more).prepend chars = c.prepend (chars ++ more) := by
  obtain ⟨_ | ⟨⟨literal, expression⟩, rest⟩, last⟩ := c <;> simp [prepend]

@[simp] theorem source_prepend (chars : List Char) (c : Cutting) :
    (c.prepend chars).source = chars ++ c.source := by
  obtain ⟨_ | ⟨⟨literal, expression⟩, rest⟩, last⟩ := c <;> simp [prepend, source]

@[simp] theorem expressions_prepend (chars : List Char) (c : Cutting) :
    (c.prepend chars).expressions = c.expressions := by
  obtain ⟨_ | ⟨⟨literal, expression⟩, rest⟩, last⟩ := c <;> rfl

theorem fill_prepend (chars : List Char) (c : Cutting) :
    (c.prepend chars).fill = fun results => String.ofList chars ++ c.fill results := by
  funext results
  obtain ⟨_ | ⟨⟨literal, expression⟩, rest⟩, last⟩ := c <;>
    simp [prepend, fill, fillParts, String.append_assoc]

theorem source_cons (literal expression last : List Char) (rest : List (List Char × List Char)) :
    source ⟨(literal, expression) :: rest, last⟩ =
      literal ++ '{' :: (expression ++ '}' :: source ⟨rest, last⟩) := by
  simp [source]

/-- A cutting filled with its own placeholders is the template. -/
theorem fill_placeholders (c : Cutting) :
    c.fill (c.expressions.map fun expression => "\x7b" ++ expression ++ "\x7d") =
      String.ofList c.source := by
  obtain ⟨parts, last⟩ := c
  induction parts with
  | nil => simp [fill, fillParts, source]
  | cons part rest ih =>
    obtain ⟨literal, expression⟩ := part
    rw [fill, expressions] at ih
    rw [source_cons, fill, expressions, List.map_cons, List.map_cons, fillParts, List.headD_cons,
      List.tail_cons, String.append_assoc, ih]
    apply String.toList_injective
    simp

theorem source_ofPieces (pieces : List Piece) :
    (ofPieces pieces).source = Template.source pieces := by
  induction pieces with
  | nil => rfl
  | cons piece rest ih =>
    cases piece with
    | literal chars =>
      rw [ofPieces, source_prepend, ih]
      rfl
    | expression chars =>
      rw [Template.source, List.flatMap_cons, ← Template.source, ← ih]
      simp [ofPieces, source, Piece.source]

theorem ofPieces_consLiteral (c : Char) (pieces : List Piece) :
    ofPieces (consLiteral c pieces) = (ofPieces pieces).prepend [c] := by
  cases pieces with
  | nil => rfl
  | cons piece rest =>
    cases piece with
    | literal chars => simp [consLiteral, ofPieces, prepend_prepend]
    | expression chars => rfl

end Cutting

/-! ## The one proper cutting -/

/-- The cutting of a template. -/
def cut (template : List Char) : Cutting := .ofPieces (parse template)

theorem cut_nil : cut [] = ⟨[], []⟩ := by
  rw [cut, parse, Cutting.ofPieces]

theorem cut_placeholder {rest expression after : List Char}
    (h : closing? rest = some (expression, after)) :
    cut ('{' :: rest) = ⟨([], expression) :: (cut after).parts, (cut after).last⟩ := by
  rw [cut, parse, if_pos rfl]
  split
  · next heq =>
    rw [h] at heq
    cases heq
    rfl
  · next heq =>
    rw [h] at heq
    cases heq

theorem cut_cons {c : Char} {rest : List Char} (h : c = '{' → closing? rest = none) :
    cut (c :: rest) = (cut rest).prepend [c] := by
  rw [cut, cut, parse]
  split
  · next hopen =>
    split
    · next heq =>
      rw [h hopen] at heq
      cases heq
    · exact Cutting.ofPieces_consLiteral c _
  · exact Cutting.ofPieces_consLiteral c _

theorem source_cut (template : List Char) : (cut template).source = template := by
  rw [cut, Cutting.source_ofPieces, source_parse]

/-- A character in front of the first literal keeps a cutting proper, unless it is an opening brace
that begins a placeholder. -/
theorem Cutting.Proper.prepend {c : Cutting} (hc : c.Proper) {char : Char}
    (h : char = '{' → closing? c.source = none) : (c.prepend [char]).Proper := by
  obtain ⟨_ | ⟨⟨literal, expression⟩, rest⟩, last⟩ := c
  · refine ⟨hc.expressions, hc.literals, ?_⟩
    rintro (_ | ⟨_, before⟩) after heq
    · obtain ⟨rfl, rfl⟩ := List.cons.inj heq
      exact closing?_eq_none_iff.mp (h rfl)
    · exact hc.last before after (List.cons.inj heq).2
  · obtain ⟨hexpression, hexpressions⟩ := List.forall_mem_cons.mp hc.expressions
    obtain ⟨hliteral, hliterals⟩ := List.forall_mem_cons.mp hc.literals
    refine ⟨List.forall_mem_cons.mpr ⟨hexpression, hexpressions⟩,
      List.forall_mem_cons.mpr ⟨?_, hliterals⟩, hc.last⟩
    rintro (_ | ⟨_, before⟩) after heq
    · obtain ⟨rfl, rfl⟩ := List.cons.inj heq
      rw [Cutting.source_cons] at h
      exact breaks_of_closing? hexpression.1 hexpression.2 (h rfl)
    · exact hliteral before after (List.cons.inj heq).2

/-- The cutting of a template is proper. -/
theorem proper_cut (template : List Char) : (cut template).Proper := by
  fun_induction parse template with
  | case1 =>
    rw [cut_nil]
    exact ⟨by simp, by simp, by simp⟩
  | case2 rest expression after h ih =>
    rw [cut_placeholder h]
    obtain ⟨-, hexpression⟩ := closing?_eq_some_iff.mp h
    refine ⟨List.forall_mem_cons.mpr ⟨hexpression, ih.expressions⟩,
      List.forall_mem_cons.mpr ⟨fun before after' heq => ?_, ih.literals⟩, ih.last⟩
    simp at heq
  | case3 rest h ih =>
    rw [cut_cons fun _ => h]
    exact ih.prepend fun _ => by rwa [source_cut]
  | case4 c rest hc ih =>
    rw [cut_cons fun h => absurd h hc]
    exact ih.prepend fun h => absurd h hc

/-- A literal in which no placeholder begins stays a literal. -/
theorem cut_append {literal rest : List Char}
    (h : ∀ before after, literal = before ++ '{' :: after → closing? (after ++ rest) = none) :
    cut (literal ++ rest) = (cut rest).prepend literal := by
  induction literal with
  | nil => rw [List.nil_append, Cutting.prepend_nil]
  | cons c literal ih =>
    have hrest := ih fun before after heq => h (c :: before) after (by rw [heq]; rfl)
    rw [List.cons_append, cut_cons, hrest, Cutting.prepend_prepend]
    · rfl
    · rintro rfl
      exact h [] literal rfl

/-- A proper cutting is found again. -/
theorem cut_source {c : Cutting} (hc : c.Proper) : cut c.source = c := by
  obtain ⟨parts, last⟩ := c
  induction parts with
  | nil =>
    have hlast : cut (last ++ []) = (cut []).prepend last := by
      refine cut_append fun before after heq => ?_
      rw [List.append_nil]
      exact closing?_eq_none_iff.mpr (hc.last before after heq)
    rw [List.append_nil, cut_nil] at hlast
    rw [Cutting.source, List.flatMap_nil, List.nil_append, hlast, Cutting.prepend, List.append_nil]
  | cons part rest ih =>
    obtain ⟨literal, expression⟩ := part
    obtain ⟨⟨hbrace, hbreak⟩, hexpressions⟩ := List.forall_mem_cons.mp hc.expressions
    obtain ⟨hliteral, hliterals⟩ := List.forall_mem_cons.mp hc.literals
    have hrest : Cutting.Proper ⟨rest, last⟩ := ⟨hexpressions, hliterals, hc.last⟩
    rw [Cutting.source_cons, cut_append,
      cut_placeholder (closing?_eq_some_iff.mpr ⟨rfl, hbrace, hbreak⟩), ih hrest,
      Cutting.prepend, List.append_nil]
    intro before after heq
    exact closing?_eq_none_iff.mpr (.inl ((hliteral before after heq).append _))

/-! ## Expanding -/

variable {m : Type → Type} [Monad m] [LawfulMonad m]

theorem expandPieces_eq (eval : String → m String) (pieces : List Piece) :
    expandPieces eval pieces =
      (Cutting.ofPieces pieces).fill <$> (Cutting.ofPieces pieces).expressions.mapM eval := by
  induction pieces with
  | nil => simp [expandPieces, Cutting.ofPieces, Cutting.expressions, Cutting.fill,
      Cutting.fillParts]
  | cons piece rest ih =>
    cases piece with
    | literal chars =>
      rw [expandPieces, ih, Cutting.ofPieces, Cutting.expressions_prepend, Cutting.fill_prepend,
        bind_pure_comp, Functor.map_map]
    | expression chars =>
      rw [expandPieces, ih, Cutting.ofPieces]
      simp only [Cutting.expressions, List.map_cons, List.mapM_cons, bind_pure_comp, map_bind,
        Functor.map_map, Cutting.fill, Cutting.fillParts, List.headD_cons, List.tail_cons,
        String.ofList_nil, String.empty_append, String.append_assoc]

/-- Expanding a template evaluates its expressions in order and fills in the results. -/
theorem expand_eq (template : String) (eval : String → m String) :
    expand template eval =
      (cut template.toList).fill <$> (cut template.toList).expressions.mapM eval :=
  expandPieces_eq eval _

/-- Where every expression gives its own placeholder, a template expands to itself. -/
theorem expand_placeholders (template : String) :
    expand template (fun expression => (pure ("\x7b" ++ expression ++ "\x7d") : m String)) =
      pure template := by
  rw [expand_eq, List.mapM_pure, map_pure, Cutting.fill_placeholders, source_cut,
    String.ofList_toList]

end Template

namespace Stage

variable {σ : Type}

/-- What a template asks of an engine, and the text that it leaves. -/
theorem render_eq (E : Engine σ) (template : String) (st : Stage σ) :
    render E template st =
      ((Template.cut template.toList).fill
        ((Template.cut template.toList).expressions.mapIdx fun index expression =>
          textIn E (E.performAll (evaluations
            ((Template.cut template.toList).expressions.take index)) st.engine) expression),
        st.afterCalls E (evaluations (Template.cut template.toList).expressions)) := by
  have hfilled (c : Template.Cutting) :
      (c.fill <$> c.expressions.mapM (evalText E) : StateM (Stage σ) String) st =
        (c.fill (c.expressions.mapM (evalText E) st).1,
          (c.expressions.mapM (evalText E) st).2) := rfl
  rw [render, Template.expand_eq, hfilled, mapM_evalText]

theorem render_asks (E : Engine σ) (template : String) (st : Stage σ) :
    (render E template st).2 =
      st.afterCalls E (evaluations (Template.cut template.toList).expressions) :=
  congrArg Prod.snd (render_eq E template st)

end Stage

/-- A template has one proper cutting, by which it is expanded. -/
structure Template.Expands (template : String) (c : Cutting) : Prop where
  source : c.source = template.toList
  proper : c.Proper
  unique : ∀ other : Cutting, other.source = template.toList → other.Proper → other = c
  /-- Whatever evaluates them, the expressions are evaluated once each and in order, and the results
  stand in their places as they are. -/
  expanded {m : Type → Type} [Monad m] [LawfulMonad m] (eval : String → m String) :
    expand template eval = c.fill <$> c.expressions.mapM eval
  /-- Where every expression gives its own placeholder, the template comes back. -/
  restored {m : Type → Type} [Monad m] [LawfulMonad m] :
    expand template (fun expression => (pure ("\x7b" ++ expression ++ "\x7d") : m String)) =
      pure template
  /-- An engine is asked to evaluate the placeholders that are not blank, in order, and nothing
  else. One that fails leaves no text, and all else is rendered in spite of it. -/
  rendered {σ : Type} (E : Engine σ) (st : Stage (Recorded σ)) :
    Stage.render E.recording template st =
      (c.fill (c.expressions.mapIdx fun index expression =>
        Stage.textIn E (E.performAll (Stage.evaluations (c.expressions.take index))
          st.engine.state) expression),
        { st with engine :=
          ⟨E.performAll (Stage.evaluations c.expressions) st.engine.state,
            st.engine.calls ++ Stage.evaluations c.expressions⟩ })

/-- Every template is expanded by its cutting. -/
theorem Template.expands (template : String) : Expands template (cut template.toList) where
  source := source_cut _
  proper := proper_cut _
  unique := by
    intro other hsource hproper
    rw [← hsource, cut_source hproper]
  expanded := expand_eq template
  restored := expand_placeholders template
  rendered E st := by
    rw [Stage.render_eq, Stage.afterCalls_recording]
    simp only [Engine.performAll_recording]
    rfl

/-- An opening brace whose line ends before it is closed stays what it is. -/
example : Template.cut ['x', '{', 'y', '\n', '{', 'a', '{', 'b', '}', '}'] =
    ⟨[(['x', '{', 'y', '\n'], ['a', '{', 'b'])], ['}']⟩ := by cbv

end Gamebook
