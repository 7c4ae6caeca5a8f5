import Gamebook.Proofs.Screen.Changes
import Mathlib.Algebra.GroupWithZero.Nat

/-!
# Typing out and skipping

The typewriter shows its lines character by character, and the enter key shows them at once. Both
end with the same lines, and it is known beforehand how many ticks the first takes.

* `Typewriter.Ticked` : the five ways in which a tick goes.
* `Typewriter.ticksLeft` : the ticks until everything has appeared.
* `Typewriter.ticks_eq` : several ticks, by those that are left.
* `Typewriter.TypesOut` : typing out, compared with skipping.
* `ScreenGame.typing_agrees` : every typewriter that a game comes to does so.
-/

namespace Gamebook

namespace Typewriter

variable {t : Typewriter}

/-! ## One tick -/

/-- What a tick does: nothing if everything has appeared; else it lays the typed line aside, shows
one more of its characters, lays an empty line aside, or takes another line from the queue. -/
inductive Ticked : Typewriter → Bool × Typewriter → Prop where
  | idle (shown : List String) : Ticked ⟨shown, none, []⟩ (false, ⟨shown, none, []⟩)
  | finished (shown : List String) {line : String} {typed : Nat} (queued : List String)
    (h : line.length ≤ typed) :
    Ticked ⟨shown, some ⟨line, typed⟩, queued⟩ (true, ⟨shown ++ [line], none, queued⟩)
  | typed (shown : List String) {line : String} {typed : Nat} (queued : List String)
    (h : typed < line.length) :
    Ticked ⟨shown, some ⟨line, typed⟩, queued⟩ (true, ⟨shown, some ⟨line, typed + 1⟩, queued⟩)
  | passed (shown queued : List String) :
    Ticked ⟨shown, none, "" :: queued⟩ (true, ⟨shown ++ [""], none, queued⟩)
  | begun (shown : List String) {line : String} (queued : List String) (h : line ≠ "") :
    Ticked ⟨shown, none, line :: queued⟩ (true, ⟨shown, some ⟨line, 1⟩, queued⟩)

theorem ticked (t : Typewriter) : Ticked t t.tick := by
  obtain ⟨shown, _ | ⟨line, typed⟩, queued⟩ := t
  · cases queued with
    | nil => exact .idle shown
    | cons line queued =>
      by_cases hempty : line = ""
      · subst hempty
        exact .passed shown queued
      · simp only [tick, if_neg hempty]
        exact .begun shown queued hempty
  · simp only [tick]
    split
    · next h => exact .finished shown queued h
    · next h => exact .typed shown queued (Nat.lt_of_not_le h)

theorem isBusy_eq_false_iff : t.isBusy = false ↔ t.typing = none ∧ t.queued = [] := by
  simp [isBusy]

/-- A tick tells whether anything had not appeared before it. -/
theorem tick_fst (t : Typewriter) : t.tick.1 = t.isBusy := by
  have hticked := t.ticked
  generalize t.tick = result at hticked
  cases hticked <;> rfl

/-- Once everything has appeared, a tick changes nothing, and there is nothing to skip. -/
theorem tick_of_idle (h : t.isBusy = false) : t.tick = (false, t) ∧ t.skip = t := by
  obtain ⟨shown, typing, queued⟩ := t
  obtain ⟨rfl, rfl⟩ := isBusy_eq_false_iff.mp h
  exact ⟨rfl, by simp [skip, script]⟩

/-! ## Ticks that are left -/

/-- The line that is being typed shows a character, and no more than it has. -/
def Sound (t : Typewriter) : Prop :=
  ∀ current, t.typing = some current → 0 < current.typed ∧ current.typed ≤ current.line.length

/-- The lines that have not appeared: the one that is being typed, and those that wait. -/
def unfinished (t : Typewriter) : List String := (t.typing.map (·.line)).toList ++ t.queued

/-- The ticks that a line takes: one for each character and one to lay it aside. An empty line is
laid aside at once. -/
def ticksOf (line : String) : Nat := if line = "" then 1 else line.length + 1

/-- The ticks that the line being typed has had. -/
def spent (t : Typewriter) : Nat := (t.typing.map (·.typed)).getD 0

/-- The ticks until everything has appeared. -/
def ticksLeft (t : Typewriter) : Nat := (t.unfinished.map ticksOf).sum - t.spent

theorem ticksOf_of_ne_empty {line : String} (h : line ≠ "") : ticksOf line = line.length + 1 :=
  if_neg h

theorem length_le_ticksOf (line : String) : line.length ≤ ticksOf line := by
  unfold ticksOf
  split
  · next h =>
    rw [h]
    exact Nat.zero_le 1
  · omega

theorem ticksLeft_waiting (shown queued : List String) :
    ticksLeft ⟨shown, none, queued⟩ = (queued.map ticksOf).sum := rfl

theorem ticksLeft_typing (shown : List String) (line : String) (typed : Nat)
    (queued : List String) : ticksLeft ⟨shown, some ⟨line, typed⟩, queued⟩ =
      ticksOf line + (queued.map ticksOf).sum - typed := rfl

/-- The ticks of the line being typed are among those of all. -/
theorem ticksLeft_add_spent (h : t.Sound) :
    t.ticksLeft + t.spent = (t.unfinished.map ticksOf).sum := by
  obtain ⟨shown, _ | ⟨line, typed⟩, queued⟩ := t
  · rfl
  · obtain ⟨-, hle⟩ : 0 < typed ∧ typed ≤ line.length := h _ rfl
    have hline := length_le_ticksOf line
    change ticksOf line + (queued.map ticksOf).sum - typed + typed =
      ticksOf line + (queued.map ticksOf).sum
    omega

theorem Sound.tick (h : t.Sound) : t.tick.2.Sound := by
  have hticked := t.ticked
  generalize t.tick = result at hticked
  rintro current hcurrent
  cases hticked with
  | idle | finished | passed => cases hcurrent
  | typed shown queued hlt =>
    cases hcurrent
    exact ⟨Nat.succ_pos _, hlt⟩
  | begun shown queued hne =>
    cases hcurrent
    exact ⟨Nat.one_pos, Nat.pos_of_ne_zero fun hzero => hne (String.length_eq_zero_iff.mp hzero)⟩

/-- As long as something has not appeared, a tick is one of those that are left. -/
theorem ticksLeft_tick (h : t.Sound) (hbusy : t.isBusy = true) :
    t.tick.2.ticksLeft + 1 = t.ticksLeft := by
  have hticked := t.ticked
  generalize t.tick = result at hticked
  cases hticked with
  | idle => cases hbusy
  | @finished shown line typed queued hle =>
    obtain ⟨hpos, hle'⟩ : 0 < typed ∧ typed ≤ line.length := h _ rfl
    have hne : line ≠ "" := by
      rintro rfl
      rw [String.length_empty] at hle'
      omega
    simp only [ticksLeft_waiting, ticksLeft_typing, ticksOf_of_ne_empty hne]
    omega
  | @typed shown line typed queued hlt =>
    have hline := length_le_ticksOf line
    simp only [ticksLeft_typing]
    omega
  | passed shown queued =>
    simp only [ticksLeft_waiting, List.map_cons, List.sum_cons]
    exact Nat.add_comm _ _
  | @begun shown line queued hne =>
    simp only [ticksLeft_waiting, ticksLeft_typing, List.map_cons, List.sum_cons,
      ticksOf_of_ne_empty hne]
    omega

theorem ticksLeft_of_idle (h : t.isBusy = false) : t.ticksLeft = 0 := by
  obtain ⟨shown, typing, queued⟩ := t
  obtain ⟨rfl, rfl⟩ := isBusy_eq_false_iff.mp h
  rfl

/-! ## Several ticks -/

theorem script_ticks (n : Nat) (t : Typewriter) : (t.ticks n).2.script = t.script := by
  induction n generalizing t with
  | zero => rfl
  | succ n ih => exact (ih t.tick.2).trans (script_tick t)

theorem skip_tick (t : Typewriter) : t.tick.2.skip = t.skip := by
  rw [skip, script_tick, skip]

/-- The ticks that are left find something to do, and those after them do not. When they are
through, everything is shown as if it had been skipped. -/
theorem ticks_eq (h : t.Sound) (n : Nat) :
    (t.ticks n).1 = List.replicate (min n t.ticksLeft) true ++
        List.replicate (n - t.ticksLeft) false ∧
      (t.ticksLeft ≤ n → (t.ticks n).2 = t.skip) := by
  induction n generalizing t with
  | zero =>
    rw [Nat.zero_min, Nat.zero_sub]
    refine ⟨rfl, fun hnone => ?_⟩
    cases hbusy : t.isBusy with
    | false => exact (tick_of_idle hbusy).2.symm
    | true =>
      have hleft := ticksLeft_tick h hbusy
      omega
  | succ n ih =>
    have hfirst : (t.ticks (n + 1)).1 = t.isBusy :: (t.tick.2.ticks n).1 := by
      rw [← tick_fst]
      rfl
    have hrest : (t.ticks (n + 1)).2 = (t.tick.2.ticks n).2 := rfl
    rw [hfirst, hrest]
    cases hbusy : t.isBusy with
    | false =>
      obtain ⟨htells, hshows⟩ := ih h
      rw [ticksLeft_of_idle hbusy] at htells hshows ⊢
      rw [(tick_of_idle hbusy).1, htells]
      refine ⟨?_, fun _ => hshows (Nat.zero_le n)⟩
      simp only [Nat.min_zero, Nat.sub_zero, List.replicate_zero, List.nil_append,
        List.replicate_succ]
    | true =>
      obtain ⟨htells, hshows⟩ := ih h.tick
      rw [htells, ← ticksLeft_tick h hbusy, Nat.add_min_add_right, Nat.add_sub_add_right]
      refine ⟨rfl, fun hthrough => ?_⟩
      rw [hshows (Nat.le_of_succ_le_succ hthrough), skip_tick]

/-! ## What is to be seen -/

/-- Lines show a text up to some point: all of its first lines, and after them perhaps the beginning
of one more. -/
def Reveals (seen lines : List String) : Prop :=
  seen <+: lines ∨ ∃ whole line piece, whole ++ [line] <+: lines ∧
    piece.toList <+: line.toList ∧ seen = whole ++ [piece]

theorem reveals_visible (t : Typewriter) : Reveals t.visible t.script := by
  obtain ⟨shown, _ | ⟨line, typed⟩, queued⟩ := t
  · left
    simp [visible, script]
  · refine .inr ⟨shown, line, _, ⟨queued, rfl⟩, ?_, rfl⟩
    rw [String.toList_ofList]
    exact List.take_prefix typed line.toList

/-- Typing out leads to what skipping shows, by the way of its beginnings, and takes the ticks that
the lines still need. -/
structure TypesOut (t : Typewriter) : Prop where
  script : ∀ n, (t.ticks n).2.script = t.script
  idle : t.tick.1 = false ↔ t.typing = none ∧ t.queued = []
  reveals : ∀ n, Reveals (t.ticks n).2.visible t.script
  left : t.ticksLeft + t.spent = (t.unfinished.map ticksOf).sum
  tells : ∀ n, (t.ticks n).1 = List.replicate (min n t.ticksLeft) true ++
    List.replicate (n - t.ticksLeft) false
  ends : ∀ n, t.ticksLeft ≤ n → (t.ticks n).2 = t.skip

theorem Sound.typesOut (h : t.Sound) : t.TypesOut where
  script n := script_ticks n t
  idle := by rw [tick_fst, isBusy_eq_false_iff]
  reveals n := by
    rw [← script_ticks n t]
    exact reveals_visible _
  left := ticksLeft_add_spent h
  tells n := (ticks_eq h n).1
  ends n := (ticks_eq h n).2

end Typewriter

/-! ## In a game -/

/-- No change of a screen spoils its typewriter. -/
theorem Screen.Change.sound {before after : Screen} (h : before.Change after)
    (hbefore : before.pane.Sound) : after.pane.Sound := by
  cases h with
  | told hpane | moved _ _ hpane => rwa [hpane]
  | ticked hpane =>
    rw [hpane]
    exact hbefore.tick
  | appended boundary hpane =>
    rw [hpane]
    exact hbefore
  | skipped hpane | replaced boundary hpane =>
    rw [hpane]
    rintro current ⟨⟩

namespace ScreenGame

variable {σ τ : Type} {host : Host (StateM τ) σ} {player : Player}

/-- Ticks change the typewriter and nothing else. -/
theorem run_ticks (n : Nat) (now : ScreenGame σ × τ) :
    run host player now (List.replicate n .tick) =
      ({ now.1 with screen := { now.1.screen with pane := (now.1.screen.pane.ticks n).2 } },
        now.2) := by
  induction n generalizing now with
  | zero => rfl
  | succ n ih => exact ih _

/-- Wherever a game has come to, typing out and skipping agree: the typewriter takes the ticks that
its lines still need, and after them the game is where the enter key would have brought it. -/
theorem typing_agrees {now : ScreenGame σ × τ} (h : Reached host player now) :
    now.1.screen.pane.TypesOut ∧
      (now.1.screen.pane.isBusy = true →
        run host player now (List.replicate now.1.screen.pane.ticksLeft .tick) =
          happen host player now (.key .enter)) := by
  have hsound : now.1.screen.pane.Sound :=
    h.keeps (P := fun pane _ => pane.Sound) (by rintro current ⟨⟩)
      fun before after hbefore hchange => hchange.sound hbefore
  refine ⟨hsound.typesOut, fun hbusy => ?_⟩
  rw [run_ticks, hsound.typesOut.ends _ (Nat.le_refl _)]
  change _ = ((now.1.enter host.engine).2, now.2)
  rw [enter, if_pos hbusy]
  rfl

/-- A player of the hall of doors. -/
def visitor : Player := ⟨.ofText "/story.yaml" Agent.hallOfDoors, "/state.json", some 7⟩

/-- A game whose first line is being typed when more lines come, one of them empty. -/
def interrupted (game : ScreenGame Script.Interpreter) : ScreenGame Script.Interpreter × Disk :=
  let begun := run (Disk.host (pure 0)) visitor (game, ⟨.folder [], "/"⟩) (List.replicate 4 .tick)
  (⟨game.session, begun.1.screen.append { title := "Yard", text := "Rain." }⟩, begun.2)

/-- Thirty ticks later, the game is where the enter key brings it at once. -/
theorem typing_agrees_hall :
    ∃ game, opening? Script.engine ⟨Agent.hallOfDoors, .seeded 7⟩ = some game ∧
      (interrupted game).1.screen.pane.TypesOut ∧
      (interrupted game).1.screen.pane.script = ["== hall ==", "Hall", "", "== Yard ==", "Rain."] ∧
      run (Disk.host (pure 0)) visitor (interrupted game) (List.replicate 30 .tick) =
        happen (Disk.host (pure 0)) visitor (interrupted game) (.key .enter) := by
  have htest : ((opening? Script.engine ⟨Agent.hallOfDoors, .seeded 7⟩).any fun game =>
      (interrupted game).1.screen.pane.isBusy &&
      decide ((interrupted game).1.screen.pane.ticksLeft = 30) &&
      decide ((interrupted game).1.screen.pane.script =
        ["== hall ==", "Hall", "", "== Yard ==", "Rain."])) = true := by
    decide +kernel
  obtain ⟨game, hgame, htest⟩ := (Option.any_eq_true ..).mp htest
  simp only [Bool.and_eq_true, decide_eq_true_eq] at htest
  obtain ⟨⟨hbusy, hleft⟩, hscript⟩ := htest
  have hbegun := reached_run
    (reached_opening (Disk.host (pure 0)) visitor hgame ⟨.folder [], "/"⟩) (List.replicate 4 .tick)
  obtain ⟨htypes, hagree⟩ := typing_agrees (Reached.appended game.session
    { title := "Yard", text := "Rain." } _ hbegun)
  refine ⟨game, hgame, htypes, hscript, ?_⟩
  rw [← hleft]
  exact hagree hbusy

end ScreenGame

end Gamebook
