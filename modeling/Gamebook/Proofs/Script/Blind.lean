import Gamebook.Proofs.Script.Naming

/-!
# Variables that a run does not see

Two worlds may differ in older variables that no script names. A run is blind to them if it ends in
the same way in both and leaves them with the same differences: what it gives, what it brings into
view, what it writes to variables of the names that count, and the dice are the same.

* `Scope.Agree`, `Near` : scopes and worlds that show the same under some names.
* `Run.Blind` : what a run is blind to; one lemma for each way in which runs are put together.
-/

namespace Gamebook

namespace Script

namespace Scope

/-- The scopes show the same under these names. -/
def Agree (names : Names) (a b : Scope) : Prop :=
  ∀ name, names.has name = true → find? name a = find? name b

theorem Agree.refl (names : Names) (a : Scope) : Agree names a a := fun _ _ => rfl

theorem find?_append (name : String) (newer older : Scope) :
    find? name (newer ++ older) = (find? name newer).or (find? name older) := by
  induction newer with
  | nil => rfl
  | cons b newer ih =>
    rw [List.cons_append, find?, find?, ih]
    split <;> rfl

theorem find?_isSome (name : String) (scope : Scope) :
    (find? name scope).isSome ↔ name ∈ scope.map Binding.name := by
  induction scope with
  | nil => simp [find?]
  | cons b older ih =>
    rw [find?, List.map_cons, List.mem_cons]
    split
    · next hname => simp [hname]
    · next hname => simp [ih, Ne.symm hname]

theorem map_name_write (name : String) (value : Item) (scope : Scope) :
    (write name value scope).map Binding.name = scope.map Binding.name := by
  induction scope with
  | nil => rfl
  | cons b older ih =>
    rw [write]
    split
    · rfl
    · rw [List.map_cons, List.map_cons, ih]

theorem length_write (name : String) (value : Item) (scope : Scope) :
    (write name value scope).length = scope.length := by
  have hnames := congrArg List.length (map_name_write name value scope)
  rwa [List.length_map, List.length_map] at hnames

/-- Writing reaches the older variables only if no newer one has the name. -/
theorem write_append (name : String) (value : Item) (newer older : Scope) :
    write name value (newer ++ older) =
      if (find? name newer).isSome then write name value newer ++ older
      else newer ++ write name value older := by
  induction newer with
  | nil => rfl
  | cons b newer ih =>
    rw [List.cons_append, write, find?, write, ih]
    by_cases hname : b.name = name
    · simp [hname]
    · simp only [if_neg hname]
      split <;> rfl

theorem Agree.append {names : Names} {a b : Scope} (h : Agree names a b) (newer : Scope) :
    Agree names (newer ++ a) (newer ++ b) := fun name hname => by
  rw [find?_append, find?_append, h name hname]

/-- A variable that is written is written in both, or is none of those that count. -/
theorem Agree.write {names : Names} {a b : Scope} (h : Agree names a b) (name : String)
    (value : Item) : Agree names (write name value a) (write name value b) :=
  fun other hother => by rw [find?_write, find?_write, h other hother]

end Scope

/-- A world stands over its own shape. -/
theorem World.over_shape (w : World) : w.Over (· = w.scope.shape) := ⟨[], _, rfl, rfl⟩

theorem World.over_any (w : World) : w.Over fun _ => True := ⟨[], w.scope.shape, rfl, trivial⟩

/-- Two worlds with the same dice whose scopes begin with the same variables and go on with others
that agree on some names. -/
structure Near (names : Names) (fresh old old' : Scope) (w w' : World) : Prop where
  left : w.scope = fresh ++ old
  right : w'.scope = fresh ++ old'
  agree : Scope.Agree names old old'
  dice : w.dice = w'.dice

/-- What is known are names that count and names of newer variables. -/
structure Known (names known : Names) (fresh : Scope) : Prop where
  has : ∀ name, known.has name = true →
    names.has name = true ∨ name ∈ fresh.map Binding.name
  all : known.isAll = true → names.isAll = true

namespace Known

variable {names known : Names} {fresh : Scope}

/-- The names that count are known. -/
theorem start (names : Names) : Known names names [] := ⟨fun _ h => .inl h, id⟩

theorem mono (h : Known names known fresh) {newer : Scope}
    (hs : fresh.map Binding.name <:+ newer.map Binding.name) : Known names known newer where
  has name hname := (h.has name hname).imp_right (hs.subset ·)
  all := h.all

theorem insert (h : Known names known fresh) (b : Binding) :
    Known names (known.insert b.name) (b :: fresh) where
  has name hname := by
    rw [Names.has_insert, Bool.or_eq_true, beq_iff_eq] at hname
    rcases hname with rfl | hname
    · exact .inr List.mem_cons_self
    · exact (h.has name hname).imp_right (List.mem_cons_of_mem _ ·)
  all hall := h.all (by rwa [Names.isAll_insert] at hall)

end Known

/-- Known names show the same. -/
theorem Near.find? {names known : Names} {fresh old old' : Scope} {w w' : World}
    (h : Near names fresh old old' w w') (hk : Known names known fresh) {name : String}
    (hname : known.has name = true) : Scope.find? name w.scope = Scope.find? name w'.scope := by
  rw [h.left, h.right, Scope.find?_append, Scope.find?_append]
  rcases hk.has name hname with hcounts | hfresh
  · rw [h.agree name hcounts]
  · obtain ⟨b, hb⟩ := Option.isSome_iff_exists.mp ((Scope.find?_isSome name fresh).mpr hfresh)
    rw [hb, Option.some_or, Option.some_or]

namespace Run

/-- Two ends of a run that began in two near worlds: they are near, the newer variables of the
beginning are still there below newer ones, and the older ones are as many as they were. After a
result, what is known is known. -/
structure Twins {α : Type} (names known : Names) (fresh old old' : Scope)
    (end₁ end₂ : Except Exit α × World) : Prop where
  result : end₁.1 = end₂.1
  near : ∃ fresh₁ old₁ old₁', Near names fresh₁ old₁ old₁' end₁.2 end₂.2 ∧
    old₁.length = old.length ∧ old₁'.length = old'.length ∧
    fresh.map Binding.name <:+ fresh₁.map Binding.name ∧
    (end₁.1.isOk = true → Known names known fresh₁)

/-- The end of a run over a class of shapes. -/
def ending {α : Type} (run : Run α) {base : Shape → Prop} (w : {w : World // w.Over base}) :
    Except Exit α × World :=
  ((run base w).1, (run base w).2.1)

/-- The run sees older variables only under names that are known, and makes others known. -/
structure Blind {α : Type} (names known known' : Names) (run : Run α) : Prop where
  twins : ∀ {base base' : Shape → Prop} (w : {w : World // w.Over base})
    (w' : {w : World // w.Over base'}) {fresh old old' : Scope},
    Near names fresh old old' w.1 w'.1 → Known names known fresh →
    Twins names known' fresh old old' (run.ending w) (run.ending w')

/-- Every result of the run has a property. -/
structure Returns {α : Type} (run : Run α) (post : α → Prop) : Prop where
  of_ok : ∀ {base : Shape → Prop} (w : {w : World // w.Over base}) (a : α),
    (run base w).1 = .ok a → post a

namespace Returns

variable {α β : Type} {post : α → Prop}

theorem any (run : Run α) : run.Returns fun _ => True := ⟨fun _ _ _ => trivial⟩

theorem pure {a : α} (h : post a) : Returns (Pure.pure a : Run α) post where
  of_ok _ _ hok := by cases hok; exact h

theorem bind {run : Run β} {f : β → Run α} (h : ∀ b, (f b).Returns post) :
    (run >>= f).Returns post where
  of_ok {base} w a hok := by
    simp only [Bind.bind, Run.bind] at hok
    rcases hend : run base w with ⟨⟨⟩ | b, after⟩
    · rw [hend] at hok
      cases hok
    · rw [hend] at hok
      exact (h b).of_ok after a hok

end Returns

namespace Blind

variable {α β : Type} {names known known₁ known₂ : Names}

theorem pure (a : α) : Blind names known known (Pure.pure a : Run α) where
  twins _ _ _ _ _ hn hk := ⟨rfl, _, _, _, hn, rfl, rfl, List.suffix_rfl, fun _ => hk⟩

theorem exit (reason : Exit) : Blind names known known₁ (Run.exit reason : Run α) where
  twins _ _ _ _ _ hn _ :=
    ⟨rfl, _, _, _, hn, rfl, rfl, List.suffix_rfl, fun hok => by cases hok⟩

theorem fail (cause : Cause) (place : Place) :
    Blind names known known₁ (Run.fail cause place : Run α) := exit _

/-- What was known at the beginning is known at the end. -/
theorem stays {run : Run α} (h : Blind names known known₁ run) : Blind names known known run := by
  refine ⟨fun {base base'} w w' {fresh old old'} hn hk => ?_⟩
  obtain ⟨hresult, fresh₁, old₁, old₁', hnear, hl, hl', hs, -⟩ := h.twins w w' hn hk
  exact ⟨hresult, fresh₁, old₁, old₁', hnear, hl, hl', hs, fun _ => hk.mono hs⟩

/-- Runs go on from what they return. -/
theorem bind_apply {base : Shape → Prop} (run : Run α) (f : α → Run β)
    (w : {w : World // w.Over base}) :
    (run >>= f) base w = match run base w with
      | (.ok a, after) => f a base after
      | (.error reason, after) => (.error reason, after) := rfl

/-- What comes after a run has to be blind only after what the run returns. -/
theorem bind_returning {run : Run α} {f : α → Run β} {post : α → Prop}
    (h : Blind names known known₁ run) (hpost : run.Returns post)
    (hf : ∀ a, post a → Blind names known₁ known₂ (f a)) :
    Blind names known known₂ (run >>= f) := by
  refine ⟨fun {base base'} w w' {fresh old old'} hn hk => ?_⟩
  have hrun := h.twins w w' hn hk
  simp only [ending, bind_apply] at hrun ⊢
  have hreturned := hpost.of_ok w
  rcases hend : run base w with ⟨result, after⟩
  rcases hend' : run base' w' with ⟨result', after'⟩
  rw [hend, hend'] at hrun
  rw [hend] at hreturned
  obtain ⟨rfl, fresh₁, old₁, old₁', hnear, hl, hl', hs, hk₁⟩ := hrun
  cases result with
  | error reason =>
    exact ⟨rfl, fresh₁, old₁, old₁', hnear, hl, hl', hs, fun hok => by cases hok⟩
  | ok a =>
    obtain ⟨hresult, fresh₂, old₂, old₂', hnear₂, hl₂, hl₂', hs₂, hk₂⟩ :=
      (hf a (hreturned a rfl)).twins after after' hnear (hk₁ rfl)
    exact ⟨hresult, fresh₂, old₂, old₂', hnear₂, hl₂.trans hl, hl₂'.trans hl', hs.trans hs₂,
      hk₂⟩

theorem bind {run : Run α} {f : α → Run β} (h : Blind names known known₁ run)
    (hf : ∀ a, Blind names known₁ known₂ (f a)) : Blind names known known₂ (run >>= f) :=
  h.bind_returning (.any run) fun a _ => hf a

theorem ite {condition : Prop} [Decidable condition] {run other : Run α}
    (h : Blind names known known₁ run) (h' : Blind names known known₁ other) :
    Blind names known known₁ (if condition then run else other) := by
  split
  · exact h
  · exact h'

theorem outcome {run : Run α} (h : Blind names known known₁ run) :
    Blind names known known (Run.outcome run) := by
  refine ⟨fun {base base'} w w' {fresh old old'} hn hk => ?_⟩
  obtain ⟨hresult, fresh₁, old₁, old₁', hnear, hl, hl', hs, -⟩ := h.twins w w' hn hk
  exact ⟨congrArg Except.ok hresult, fresh₁, old₁, old₁', hnear, hl, hl', hs, fun _ => hk.mono hs⟩

theorem ofExcept (result : Except Exit α) : Blind names known known (Run.ofExcept result) := by
  cases result with
  | ok a => exact .pure a
  | error reason => exact .exit reason

theorem find? {name : String} (h : known.has name = true) :
    Blind names known known (Run.find? name) where
  twins _ _ _ _ _ hn hk :=
    ⟨congrArg Except.ok (hn.find? hk h), _, _, _, hn, rfl, rfl, List.suffix_rfl, fun _ => hk⟩

theorem declare (name : String) (constant : Bool) (value : Item) :
    Blind names known (known.insert name) (Run.declare name constant value) where
  twins _ _ fresh old old' hn hk :=
    ⟨rfl, ⟨name, constant, value⟩ :: fresh, old, old',
      ⟨congrArg (List.cons _) hn.left, congrArg (List.cons _) hn.right, hn.agree, hn.dice⟩,
      rfl, rfl, List.suffix_cons _ _, fun _ => hk.insert ⟨name, constant, value⟩⟩

theorem write (name : String) (value : Item) : Blind names known known (Run.write name value) := by
  refine ⟨fun {base base'} w w' {fresh old old'} hn hk => ?_⟩
  refine ⟨rfl, ?_⟩
  change ∃ fresh₁ old₁ old₁', Near names fresh₁ old₁ old₁'
    ⟨w.1.scope.write name value, w.1.dice⟩ ⟨w'.1.scope.write name value, w'.1.dice⟩ ∧ _
  rw [hn.left, hn.right, Scope.write_append, Scope.write_append]
  by_cases hfresh : (Scope.find? name fresh).isSome
  · rw [if_pos hfresh, if_pos hfresh]
    have hnames := Scope.map_name_write name value fresh
    exact ⟨_, old, old', ⟨rfl, rfl, hn.agree, hn.dice⟩, rfl, rfl, hnames ▸ List.suffix_rfl,
      fun _ => hk.mono (hnames ▸ List.suffix_rfl)⟩
  · rw [if_neg hfresh, if_neg hfresh]
    exact ⟨fresh, _, _, ⟨rfl, rfl, hn.agree.write name value, hn.dice⟩,
      Scope.length_write name value old, Scope.length_write name value old', List.suffix_rfl,
      fun _ => hk⟩

theorem roll (draw : UInt32 → α × UInt32) : Blind names known known (Run.roll draw) := by
  refine ⟨fun {base base'} w w' {fresh old old'} hn hk => ?_⟩
  refine ⟨?_, fresh, old, old', ⟨hn.left, hn.right, hn.agree, ?_⟩, rfl, rfl, List.suffix_rfl,
    fun _ => hk⟩
  · change Except.ok (draw w.1.dice).1 = Except.ok (draw w'.1.dice).1
    rw [hn.dice]
  · change (draw w.1.dice).2 = (draw w'.1.dice).2
    rw [hn.dice]

/-- What a local run has brought into view is dropped from both scopes. -/
theorem rewind_append {fresh newer old older : Scope}
    (hs : fresh.map Binding.name <:+ newer.map Binding.name) (hl : older.length = old.length) :
    Scope.rewind (fresh ++ old).length (newer ++ older) =
      newer.drop (newer.length - fresh.length) ++ older := by
  have hle : fresh.length ≤ newer.length := by simpa using hs.length_le
  rw [Scope.rewind, List.length_append, List.length_append, hl, Nat.add_sub_add_right,
    List.drop_append_of_le_length (Nat.sub_le _ _)]

/-- What is left are the newer variables from before. -/
theorem map_name_drop {fresh newer : Scope}
    (hs : fresh.map Binding.name <:+ newer.map Binding.name) :
    (newer.drop (newer.length - fresh.length)).map Binding.name = fresh.map Binding.name := by
  have hdrop := List.suffix_iff_eq_drop.mp hs
  rw [List.length_map, List.length_map] at hdrop
  rw [List.map_drop, ← hdrop]

theorem locally {run : Run α} (h : Blind names known known₁ run) :
    Blind names known known (Run.locally run) := by
  refine ⟨fun {base base'} w w' {fresh old old'} hn hk => ?_⟩
  obtain ⟨hresult, fresh₁, old₁, old₁', hnear, hl, hl', hs, -⟩ :=
    h.twins ⟨w.1, w.1.over_shape⟩ ⟨w'.1, w'.1.over_shape⟩ hn hk
  have hnames := map_name_drop hs
  refine ⟨hresult, fresh₁.drop (fresh₁.length - fresh.length), old₁, old₁',
    ⟨?_, ?_, hnear.agree, hnear.dice⟩, hl, hl', hnames ▸ List.suffix_rfl,
    fun _ => hk.mono (hnames ▸ List.suffix_rfl)⟩
  · rw [← rewind_append hs hl, ← hn.left, ← hnear.left]
    rfl
  · rw [← rewind_append hs hl', ← hn.right, ← hnear.right]
    rfl

/-- A run over variables of its own sees no others. -/
theorem elsewhere {run : Run α} (own : Scope) (h : Blind .all .all known₁ run) :
    Blind names known known (Run.elsewhere own run) := by
  refine ⟨fun {base base'} w w' {fresh old old'} hn hk => ?_⟩
  have hown : Near .all own [] [] { w.1 with scope := own } { w'.1 with scope := own } :=
    ⟨(List.append_nil own).symm, (List.append_nil own).symm, .refl _ _, hn.dice⟩
  obtain ⟨hresult, fresh₁, old₁, old₁', hnear, hl, hl', -, -⟩ :=
    h.twins ⟨_, World.over_any _⟩ ⟨_, World.over_any _⟩ hown ⟨fun _ _ => .inl rfl, fun _ => rfl⟩
  obtain rfl := List.length_eq_zero_iff.mp hl
  obtain rfl := List.length_eq_zero_iff.mp hl'
  have hscope := hnear.left.trans hnear.right.symm
  exact ⟨congrArg Except.ok (Prod.ext hresult hscope), fresh, old, old',
    ⟨hn.left, hn.right, hn.agree, hnear.dice⟩, rfl, rfl, List.suffix_rfl, fun _ => hk⟩

/-- A loop is a turn and then the rest of the loop. -/
theorem untilDone_succ (turn : α → Run (Except α β)) (fuel : Nat) (a : α) :
    Run.untilDone turn (fuel + 1) a = turn a >>= fun
      | .ok b => Pure.pure b
      | .error next => Run.untilDone turn fuel next := by
  funext base w
  simp only [Run.untilDone, Bind.bind, Run.bind]
  rcases turn a base w with ⟨⟨⟩ | ⟨⟨⟩ | ⟨⟩⟩, after⟩ <;> rfl

theorem untilDone {turn : α → Run (Except α β)} (h : ∀ a, Blind names known known (turn a)) :
    ∀ fuel a, Blind names known known (Run.untilDone turn fuel a)
  | 0, _ => .exit _
  | fuel + 1, a => by
    rw [untilDone_succ]
    refine (h a).bind fun result => ?_
    cases result with
    | ok b => exact .pure b
    | error next => exact untilDone h fuel next

end Blind

end Run

end Script

end Gamebook
