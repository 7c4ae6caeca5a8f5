import Gamebook.Proofs.Session.Twins

/-!
# Twins that are told apart until a section is entered

Entering a section resets the scratch record. So two sessions whose engines differ in it as well are
twins again as soon as a section is entered: what is asked for until then must not tell the scratch
records apart, and from then on they are the same.

* `Engine.Settles` : resetting the scratch record makes engines alike that were alike but for it.
* `Agent.same_choosing_entering` : choosing an option that leads into a section makes twins of
  sessions that were twins but for the scratch record.
-/

namespace Gamebook

variable {σ : Type} {E : Engine σ} {early demands : Demands} {rel₀ rel : σ → σ → Prop}

/-- Two relations between engines of which resetting the scratch record makes the second from the
first, each kept by requests that do not tell related engines apart. -/
structure Engine.Settles (E : Engine σ) (early demands : Demands) (rel₀ rel : σ → σ → Prop) :
    Prop where
  before : E.Indifferent early rel₀
  after : E.Indifferent demands rel
  full : demands.Full
  reset : ∀ value {a b}, rel₀ a b →
    rel (E.write Stage.scratchName value a).2 (E.write Stage.scratchName value b).2

/-- Two sessions that are twins but for the scratch record, of which the first is a twin of itself
with it. -/
structure Session.Settling (E : Engine σ) (early demands : Demands) (rel₀ rel : σ → σ → Prop)
    (a b : Session σ) : Prop where
  early : a.Twins E early rel₀ b
  self : a.Twins E demands rel a

theorem Session.Settling.onStory {α : Type} {operation : Story σ → α × Story σ} {a b : Session σ}
    (h : a.Settling E early demands rel₀ rel b)
    (hearly : Same (Story.Twins early rel₀) (operation a.story) (operation b.story))
    (hself : Same (Story.Twins demands rel) (operation a.story) (operation a.story)) :
    Same (Settling E early demands rel₀ rel) (a.onStory operation) (b.onStory operation) :=
  ⟨hearly.result, h.early.with_story hearly.state, h.self.with_story hself.state⟩

variable (hE : E.Settles early demands rel₀ rel)
include hE

/-- Entering a section makes stories twins. -/
theorem Story.twins_visit {a b : Story σ} {id : String} {s : Section} (h : a.Twins early rel₀ b)
    (hself : a.Twins demands rel a) (hs : a.section? id = some s) :
    (a.visit E id).2.Twins demands rel (b.visit E id).2 := by
  rw [visit_known hs, visit_known ((h.section?_eq id).trans hs)]
  have hreset : (Stage.resetScratch E a.stage).Twins rel (Stage.resetScratch E b.stage) :=
    ⟨h.stage.bound, hE.reset _ h.stage.engine⟩
  have henter := Section.twins_enter hE.after hE.full (hself.section_within hs).counted hreset
  rw [h.rest]
  exact hself.modify henter id fun _ => Section.Within.counted

namespace Session

variable {a b : Session σ}

theorem Settling.offers (h : a.Settling E early demands rel₀ rel b) :
    Same (Settling E early demands rel₀ rel) (a.onStory (Story.offers E a.current))
      (b.onStory (Story.offers E b.current)) := by
  rw [h.early.current]
  exact h.onStory (Story.same_offers hE.before a.current h.early.story)
    (Story.same_offers hE.after a.current h.self.story)

theorem Settling.executeOption (optionId : String) (h : a.Settling E early demands rel₀ rel b) :
    Same (Settling E early demands rel₀ rel)
      (a.onStory (Story.executeOption E a.current optionId))
      (b.onStory (Story.executeOption E b.current optionId)) := by
  rw [h.early.current]
  exact h.onStory (Story.same_executeOption hE.before a.current optionId h.early.story)
    (Story.same_executeOption hE.after a.current optionId h.self.story)

/-- A target that can be followed makes sessions twins. -/
theorem same_follow_entering {target : Target} (h : a.Settling E early demands rel₀ rel b)
    {navigation : Navigation} (hfollow : (a.follow E target).1 = .ok navigation)
    (hentered : ∀ fault, navigation ≠ .blocked fault) :
    Same (Twins E demands rel) (a.follow E target) (b.follow E target) := by
  cases target with
  | restart =>
    rw [follow, restart_eq, h.early.steady] at hfollow
    rw [follow, follow, restart_eq, restart_eq, h.early.source, h.early.steady]
    cases hload : a.source.load E with
    | error fault =>
      rw [hload] at hfollow
      cases hfollow
    | ok story => exact ⟨rfl, twins_atStart hE.after hE.full h.self.steady h.self.fresh hload⟩
  | goTo id =>
    rw [follow, goTo] at hfollow
    rw [follow, follow, goTo, goTo]
    cases hs : a.story.section? id with
    | none =>
      rw [Story.visit_unknown hs] at hfollow
      exact absurd (Except.ok.inj hfollow).symm (hentered _)
    | some s =>
      have htwins := Story.twins_visit hE h.early.story h.self.story hs
      rw [Story.visit_known hs, Story.visit_known ((h.early.story.section?_eq id).trans hs)]
        at htwins ⊢
      exact ⟨rfl, h.early.source, h.early.steady, rfl, htwins, h.self.fresh⟩

/-- Choosing an option that leads into a section makes sessions twins. -/
theorem same_choose_entering {optionId : String} (h : a.Settling E early demands rel₀ rel b)
    {followed : Followed} (hchoose : (a.choose E optionId).1 = .ok followed)
    (hentered : ∀ fault, followed.navigation ≠ .blocked fault) :
    Same (Twins E demands rel) (a.choose E optionId) (b.choose E optionId) := by
  obtain ⟨offers, a', b', ha, hb, h'⟩ := (h.offers hE).ends
  unfold choose at hchoose ⊢
  rw [ha] at hchoose ⊢
  rw [hb]
  cases offers with
  | error fault => cases hchoose
  | ok offers =>
    have hwithheld : b'.withheld offers optionId = a'.withheld offers optionId := by
      rw [withheld, withheld, h'.early.current, h'.early.story.section?_eq]
    obtain ⟨outcome, a'', b'', ha', hb', h''⟩ := (h'.executeOption hE optionId).ends
    dsimp only at hchoose ⊢
    rw [ha'] at hchoose ⊢
    rw [hwithheld, hb']
    split at hchoose
    · cases hchoose
    · next hoffered =>
      rw [if_neg hoffered, if_neg hoffered]
      cases outcome with
      | error fault => cases hchoose
      | ok outcome =>
        dsimp only at hchoose ⊢
        rcases hfollow : a''.follow E outcome.target with ⟨fault | navigation, next⟩
        · rw [hfollow] at hchoose
          cases hchoose
        · rw [hfollow] at hchoose
          obtain rfl := Except.ok.inj hchoose
          have hsame := same_follow_entering hE h'' (congrArg Prod.fst hfollow) hentered
          rw [hfollow] at hsame
          obtain ⟨next', hfollow', htwins⟩ := hsame.second
          rw [hfollow']
          exact ⟨rfl, htwins⟩

end Session

/-- So sessions show the same after it. -/
theorem Agent.same_choosing_entering {a b : Session σ} {optionId : String}
    (h : a.Settling E early demands rel₀ rel b) {boundary : Boundary}
    (hchoosing : (choosing E optionId a).1 = .ok boundary) (hentered : boundary.blocked = none) :
    Same (Session.Twins E demands rel) (choosing E optionId a) (choosing E optionId b) := by
  unfold choosing at hchoosing ⊢
  rcases hchoose : a.choose E optionId with ⟨fault | followed, next⟩
  · rw [hchoose] at hchoosing
    cases hchoosing
  · rw [hchoose] at hchoosing
    have hmoved : ∀ fault, followed.navigation ≠ .blocked fault := by
      intro fault hblocked
      dsimp only at hchoosing
      rw [Boundary.afterChoice, hblocked] at hchoosing
      rcases hshown : Boundary.ofSession E next with ⟨fault | shown, last⟩
      · rw [hshown] at hchoosing
        cases hchoosing
      · rw [hshown] at hchoosing
        cases hchoosing
        cases hentered
    have hsame := Session.same_choose_entering hE h (congrArg Prod.fst hchoose) hmoved
    rw [hchoose] at hsame
    obtain ⟨next', hchoose', htwins⟩ := hsame.second
    rw [hchoose']
    exact same_afterChoice hE.after hE.full followed htwins

end Gamebook
