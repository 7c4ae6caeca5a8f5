import Gamebook.Player
import Gamebook.Proofs.Disks

/-!
# What becomes of files

Reading from a disk changes nothing there. Making folders changes no file. Writing a file replaces
what was in its place and leaves every other file as it was; where a file cannot be written, all
files stay what they were.

* `Attempt.Asks` : attempts that change nothing, with a rule for each way to build them.
* `Tree.find?_put_file`, `Tree.find?_put_folder` : the files of a tree in which something was put.
* `Disk.SameFiles`, `Disk.SameFilesBut` : all files are the same, or all but one.
* `PlayerState.write_cases` : a player state is written, or no file has changed.
-/

namespace Gamebook

/-! ## Attempts that change nothing -/

namespace Attempt

variable {τ α β : Type}

/-- The attempt leaves the state as it is, whether it succeeds or not. -/
def Asks (attempt : Attempt (StateM τ) α) : Prop := ∀ s, (attempt s).2 = s

/-- An attempt after one that changes nothing. -/
theorem bind_asks {attempt : Attempt (StateM τ) α} (h : attempt.Asks)
    (next : α → Attempt (StateM τ) β) (s : τ) : (attempt >>= next) s =
      match (attempt s).1 with
      | .ok a => next a s
      | .error fault => (.error fault, s) := by
  have hs := h s
  simp only [bind, ExceptT.bind, ExceptT.mk, StateT.bind]
  generalize attempt s = ended at hs ⊢
  obtain ⟨result, s'⟩ := ended
  obtain rfl : s' = s := hs
  cases result <;> rfl

theorem bind_error {attempt : Attempt (StateM τ) α} {s s' : τ} {fault : Fault}
    (h : attempt s = (.error fault, s')) (next : α → Attempt (StateM τ) β) :
    (attempt >>= next) s = (.error fault, s') := by
  simp only [bind, ExceptT.bind, ExceptT.mk, StateT.bind, h, ExceptT.bindCont]
  rfl

theorem orFault_error {operation : StateM τ (Except String α)} {s s' : τ} {reason : String}
    (h : operation s = (.error reason, s')) (fault : String → Fault) :
    (orFault fault operation : Attempt (StateM τ) α) s = (.error (fault reason), s') := by
  change (Functor.map _ operation : StateM τ (Except Fault α)) s = _
  simp only [Functor.map, StateT.map, h]
  rfl

theorem eq_of_asks {attempt : Attempt (StateM τ) α} (h : attempt.Asks) {s : τ}
    {result : Except Fault α} (hresult : (attempt s).1 = result) : attempt s = (result, s) :=
  Prod.ext hresult (h s)

namespace Asks

theorem pure (a : α) : Asks (Pure.pure a : Attempt (StateM τ) α) := fun _ => rfl

theorem throw (fault : Fault) : Asks (throw fault : Attempt (StateM τ) α) := fun _ => rfl

theorem ofExcept (result : Except Fault α) : Asks (ofExcept result : Attempt (StateM τ) α) :=
  fun _ => rfl

theorem bind {attempt : Attempt (StateM τ) α} {next : α → Attempt (StateM τ) β}
    (h : attempt.Asks) (hnext : ∀ a, (next a).Asks) : Asks (attempt >>= next) := by
  intro s
  rw [bind_asks h]
  cases (attempt s).1 with
  | ok a => exact hnext a s
  | error fault => rfl

theorem lift {operation : StateM τ α} (h : ∀ s, (operation s).2 = s) :
    Asks (ExceptT.lift operation : Attempt (StateM τ) α) := h

theorem orFault {operation : StateM τ (Except String α)} (h : ∀ s, (operation s).2 = s)
    (fault : String → Fault) : Asks (orFault fault operation : Attempt (StateM τ) α) := h

theorem map {attempt : Attempt (StateM τ) α} (h : attempt.Asks) (f : α → β) :
    Asks (f <$> attempt) := by
  rw [map_eq_pure_bind]
  exact h.bind fun a => .pure (f a)

theorem ite {condition : Prop} [Decidable condition] {yes no : Attempt (StateM τ) α}
    (hyes : yes.Asks) (hno : no.Asks) : Asks (if condition then yes else no) := by
  split
  · exact hyes
  · exact hno

end Asks

end Attempt

/-! ## Asking for player states and stories -/

open Attempt (Asks)

theorem PlayerState.asks_read (path : String) : Asks (read Disk.files path) :=
  .bind (.lift fun _ => rfl) fun _ =>
    .ite (.bind (.orFault (fun _ => rfl) _) fun _ => .ofExcept _) (.throw _)

namespace Shelf

theorem asks_readFile (path : String) : Asks (readFile Disk.files path) :=
  .bind (.orFault (fun _ => rfl) _) fun _ => .pure _

theorem asks_absolute (path : String) : Asks (absolute Disk.files path) :=
  .map (.lift fun _ => rfl) _

theorem asks_ofPath (path : String) : Asks (ofPath Disk.files path) :=
  .bind (asks_absolute path) fun path =>
    .bind (.lift fun _ => rfl) fun _ => .ite (asks_readFile path) (.throw _)

theorem asks_ofRef (ref : String) : Asks (ofRef Disk.files ref) := by
  unfold ofRef
  split
  · exact asks_ofPath _
  · exact .throw _

theorem asks_folder (path : String) : Asks (folder Disk.files path) :=
  .bind (asks_absolute path) fun _ => .bind (.lift fun _ => rfl) fun _ =>
    .ite (.throw _) (.bind (.lift fun _ => rfl) fun _ => .ite (.throw _) (.pure _))

theorem asks_ofName (path name : String) : Asks (ofName Disk.files path name) := by
  refine .bind (asks_folder path) fun folder => .bind (.lift fun _ => rfl) fun found => ?_
  split
  · exact asks_readFile _
  · exact .throw _

end Shelf

theorem StoryPlace.asks_find (place : StoryPlace) : Asks (place.find Disk.files) := by
  cases place with
  | file path => exact Shelf.asks_ofPath path
  | named folder name => exact Shelf.asks_ofName folder name

namespace StoryFile

variable {τ σ : Type} {host : Host (StateM τ) σ}

/-- Without a seed the clock is asked, which must change nothing. -/
theorem asks_source (text : String) {seed : Option UInt32}
    (hclock : seed = none → ∀ s, (host.clock s).2 = s) :
    Asks (ExceptT.lift (host.source text seed) : Attempt (StateM τ) (Source σ)) := by
  cases seed with
  | some seed => exact .lift fun _ => rfl
  | none => exact .lift (hclock rfl)

theorem asks_newSession (story : StoryFile) (start : Option String) {seed : Option UInt32}
    (hclock : seed = none → ∀ s, (host.clock s).2 = s) :
    Asks (story.newSession host start seed) :=
  .bind (asks_source _ hclock) fun _ => .ofExcept _

theorem asks_resumeSession (story : StoryFile) {state : PlayerState}
    (hclock : state.seed = none → ∀ s, (host.clock s).2 = s) :
    Asks (story.resumeSession host state) :=
  .bind (asks_source _ hclock) fun _ => .ofExcept _

end StoryFile

/-! ## Trees in which something was put -/

namespace Tree

variable {root new tree : Tree} {place other after : List String} {text : Option String}

/-- Below the place where something was put there is nothing but what was put. -/
theorem find?_of_put (h : (put new place root).find? (place ++ after) = some tree) :
    new.find? after = some tree := by
  induction place generalizing root with
  | nil => exact h
  | cons name rest ih =>
    cases root with
    | file text => cases h
    | folder entries =>
      rw [put, List.cons_append, find?_folder_cons, Fields.find?_insert, if_pos rfl,
        Option.bind_some] at h
      exact ih h

/-- Elsewhere the files stay. -/
theorem find?_put_file (h : ¬ place <+: other) :
    (put new place root).find? other = some (.file text) ↔
      root.find? other = some (.file text) := by
  induction place generalizing root other with
  | nil => exact absurd List.nil_prefix h
  | cons name rest ih =>
    cases root with
    | file _ => rfl
    | folder entries =>
      cases other with
      | nil => rw [put, find?, find?]; simp
      | cons key names =>
        rw [put, find?_folder_cons, find?_folder_cons, Fields.find?_insert]
        split
        · next hkey =>
          subst hkey
          have hrest : ¬ rest <+: names := fun hp => h (List.prefix_cons_inj _ |>.mpr hp)
          rw [Option.bind_some, ih hrest]
          cases Fields.find? name entries with
          | some inner => rfl
          | none => cases names <;> simp [find?, Fields.find?]
        · rfl

/-- A folder that is put where there is nothing changes no file. -/
theorem find?_put_folder (h : root.find? place = none) :
    (put (.folder []) place root).find? other = some (.file text) ↔
      root.find? other = some (.file text) := by
  by_cases hplace : place <+: other
  · obtain ⟨after, rfl⟩ := hplace
    rw [find?_append root, h]
    refine ⟨fun hfile => ?_, fun hfile => by cases hfile⟩
    have hinside := find?_of_put hfile
    cases after <;> cases hinside
  · exact find?_put_file hplace

end Tree

/-! ## Disks -/

namespace Disk

variable {disk before middle after : Disk} {path text : String}

/-- The disks have the same files with the same texts. -/
structure SameFiles (before after : Disk) : Prop where
  current : after.current = before.current
  files (place : List String) (text : Option String) :
    after.root.find? place = some (.file text) ↔ before.root.find? place = some (.file text)

/-- The disks have the same files with the same texts but for one that has this text afterwards. -/
structure SameFilesBut (target : List String) (text : String) (before after : Disk) : Prop where
  current : after.current = before.current
  written : after.root.find? target = some (.file (some text))
  files (place : List String) (text : Option String) (h : place ≠ target) :
    after.root.find? place = some (.file text) ↔ before.root.find? place = some (.file text)

namespace SameFiles

theorem refl (disk : Disk) : disk.SameFiles disk := ⟨rfl, fun _ _ => Iff.rfl⟩

theorem trans (h : before.SameFiles middle) (h' : middle.SameFiles after) :
    before.SameFiles after where
  current := h'.current.trans h.current
  files place text := (h'.files place text).trans (h.files place text)

end SameFiles

theorem SameFiles.but {target : List String} (h : before.SameFiles middle)
    (h' : middle.SameFilesBut target text after) : before.SameFilesBut target text after where
  current := h'.current.trans h.current
  written := h'.written
  files place text hne := (h'.files place text hne).trans (h.files place text)

theorem sameFiles_makeAt {names place : List String} (h : disk.makeAt names place = .ok after) :
    disk.SameFiles after := by
  induction names generalizing disk place with
  | nil =>
    cases h
    exact .refl _
  | cons name rest ih =>
    rw [makeAt] at h
    split at h
    · exact ih h
    · cases h
    · next hnone =>
      have hput : disk.SameFiles { disk with root := Tree.put (.folder []) _ disk.root } :=
        ⟨rfl, fun _ _ => Tree.find?_put_folder hnone⟩
      exact hput.trans (ih h)

theorem sameFilesBut_write (h : disk.write path text = .ok after) :
    ∃ target, disk.locate path = .ok target ∧ disk.SameFilesBut target text after := by
  obtain ⟨target, hlocate, hfree, -, rfl⟩ := write_ok h
  have hreached : target = [] ∨ disk.root.HasFolder target.dropLast := by
    rw [locate] at hlocate
    split at hlocate
    · cases hlocate
    · exact reached_follow hlocate (.inl rfl)
  refine ⟨target, hlocate, rfl, Tree.find?_put_self hreached, fun place found hne => ?_⟩
  by_cases hplace : target <+: place
  · -- below a file there is nothing, before and after
    obtain ⟨rest, rfl⟩ := hplace
    have hrest : rest ≠ [] := by
      rintro rfl
      exact hne (List.append_nil target)
    constructor
    · intro hfile
      have hinside := Tree.find?_of_put hfile
      obtain ⟨name, names, rfl⟩ := List.exists_cons_of_ne_nil hrest
      cases hinside
    · exact fun hfile => absurd (Tree.hasFolder_of_append hfile hrest) hfree
  · exact Tree.find?_put_file hplace

/-- A file that was kept is the only one that has changed. -/
theorem sameFilesBut_keep (h : disk.keep path text = .ok after) :
    ∃ target, disk.SameFilesBut target text after := by
  obtain ⟨made, hmade, hwrite⟩ := keep_ok h
  obtain ⟨target, -, hbut⟩ := sameFilesBut_write hwrite
  exact ⟨target, (sameFiles_makeAt hmade).but hbut⟩

/-- A file that cannot be kept: its folder cannot be made, or it cannot be written. -/
theorem keep_error (h : ∀ kept, disk.keep path text ≠ .ok kept) :
    ∃ trouble made, disk.SameFiles made ∧
      (disk.makeFolders (Path.folder path) = .error trouble ∧ made = disk ∨
        disk.makeFolders (Path.folder path) = .ok made ∧
          made.write path text = .error trouble) := by
  unfold keep at h
  cases hmade : disk.makeFolders (Path.folder path) with
  | error trouble => exact ⟨trouble, disk, .refl disk, .inl ⟨rfl, rfl⟩⟩
  | ok made =>
    rw [hmade] at h
    cases hwrite : made.write path text with
    | ok kept => exact absurd hwrite (h kept)
    | error trouble => exact ⟨trouble, made, sameFiles_makeAt hmade, .inr ⟨rfl, hwrite⟩⟩

end Disk

/-- A player state is written to its file, or it cannot be written and no file has changed. -/
theorem PlayerState.write_cases (state : PlayerState) (path : String) (disk : Disk) :
    (∃ after, disk.keep path state.toJson.indented = .ok after ∧
      state.write Disk.files path disk = (.ok (), after)) ∨
    (∀ kept, disk.keep path state.toJson.indented ≠ .ok kept) ∧
      ∃ reason after, state.write Disk.files path disk = (.error (.stateUnwritable reason), after) ∧
        disk.SameFiles after := by
  by_cases hkept : ∃ after, disk.keep path state.toJson.indented = .ok after
  · obtain ⟨after, hkeep⟩ := hkept
    exact .inl ⟨after, hkeep, write_files hkeep⟩
  · have hnone := not_exists.mp hkept
    refine .inr ⟨hnone, ?_⟩
    obtain ⟨trouble, made, hsame, ⟨hmade, rfl⟩ | ⟨hmade, hwrite⟩⟩ := Disk.keep_error hnone
    · have hfolders : Disk.files.makeFolders (Path.folder path) made =
          (.error trouble.message, made) := by
        simp only [Disk.files, Disk.changing, hmade]
      exact ⟨_, made, Attempt.bind_error (Attempt.orFault_error hfolders _) _, hsame⟩
    · have hfolders : Disk.files.makeFolders (Path.folder path) disk = (.ok (), made) := by
        simp only [Disk.files, Disk.changing, hmade]
      have htext : Disk.files.write path state.toJson.indented made =
          (.error trouble.message, made) := by
        simp only [Disk.files, Disk.changing, hwrite]
      exact ⟨_, made, (Attempt.bind_ok (Attempt.orFault_ok hfolders _) _).trans
        (Attempt.orFault_error htext _), hsame⟩

end Gamebook
