import Gamebook.CommandLine.Command
import Gamebook.Files.Tree
import Gamebook.PlayerState
import Gamebook.Proofs.Fields

/-!
# What a disk keeps

A path is followed through folders only, and a file is written where there is no folder. So the path
of a file that was just written leads to it again, and the text that was written is read from it.
Player states are written to files and read from them in this way, and a story file is found again
by its reference as long as no other file is written in its place.

* `Tree.find?_put_self`, `Tree.hasFolder_put` : what is put somewhere is there, and folders stay.
* `Disk.read_write` : the text of a file that was just written.
* `Disk.Takes` : files can be written one after the other, and a story file stays as it is.
* `PlayerState.read_files`, `Shelf.ofRef_files` : what commands read from a disk.
-/

namespace Gamebook

/-! ## Attempts -/

namespace Attempt

variable {τ α β : Type} {s s' : τ} {a : α}

theorem bind_ok {attempt : Attempt (StateM τ) α} (h : attempt s = (.ok a, s'))
    (next : α → Attempt (StateM τ) β) : (attempt >>= next) s = next a s' := by
  simp only [bind, ExceptT.bind, ExceptT.mk, StateT.bind, h, ExceptT.bindCont]

theorem map_ok {attempt : Attempt (StateM τ) α} (h : attempt s = (.ok a, s')) (f : α → β) :
    (f <$> attempt) s = (.ok (f a), s') := by
  simp only [Functor.map, ExceptT.map, ExceptT.mk, bind, StateT.bind, h]
  rfl

/-- An attempt that succeeds, step by step. -/
theorem ok_of_bind {attempt : Attempt (StateM τ) α} {next : α → Attempt (StateM τ) β} {b : β}
    {s'' : τ} (h : (attempt >>= next) s = (.ok b, s'')) :
    ∃ a s', attempt s = (.ok a, s') ∧ next a s' = (.ok b, s'') := by
  simp only [bind, ExceptT.bind, ExceptT.mk, StateT.bind] at h
  generalize attempt s = ended at h
  obtain ⟨result, s'⟩ := ended
  cases result with
  | error fault => cases h
  | ok a => exact ⟨a, s', rfl, h⟩

theorem ok_of_orFault {operation : StateM τ (Except String α)} {fault : String → Fault}
    (h : (orFault fault operation : Attempt (StateM τ) α) s = (.ok a, s')) :
    operation s = (.ok a, s') := by
  change (Functor.map _ operation : StateM τ (Except Fault α)) s = _ at h
  simp only [Functor.map, StateT.map] at h
  generalize operation s = ended at h ⊢
  obtain ⟨result, s'⟩ := ended
  cases result with
  | error reason => cases h
  | ok a => cases h; rfl

theorem lift_ok {operation : StateM τ α} (h : operation s = (a, s')) :
    (liftM operation : Attempt (StateM τ) α) s = (.ok a, s') := by
  change (Functor.map Except.ok operation : StateM τ (Except Fault α)) s = _
  simp only [Functor.map, StateT.map, h]
  rfl

theorem orFault_ok {operation : StateM τ (Except String α)} (h : operation s = (.ok a, s'))
    (fault : String → Fault) :
    (orFault fault operation : Attempt (StateM τ) α) s = (.ok a, s') := by
  change (Functor.map _ operation : StateM τ (Except Fault α)) s = _
  simp only [Functor.map, StateT.map, h]
  rfl

end Attempt

/-! ## Paths -/

namespace Text

theorem afterStart?_go_append {start rest : List Char} {cs : List Char}
    (h : afterStart?.go start cs = some rest) (more : List Char) :
    afterStart?.go start (cs ++ more) = some (rest ++ more) := by
  induction start generalizing cs with
  | nil =>
    cases h
    rfl
  | cons c start ih =>
    cases cs with
    | nil => cases h
    | cons d cs =>
      rw [afterStart?.go] at h
      split at h
      · next heq =>
        rw [List.cons_append, afterStart?.go, if_pos heq]
        exact ih h
      · cases h

theorem afterStart?_go_self (start : List Char) : afterStart?.go start start = some [] := by
  induction start with
  | nil => rfl
  | cons c start ih => rw [afterStart?.go, if_pos rfl, ih]

/-- What follows after the beginning of a text. -/
theorem afterStart?_append (start s : String) : afterStart? start (start ++ s) = some s := by
  rw [afterStart?, String.toList_append, afterStart?_go_append (afterStart?_go_self _),
    List.nil_append, Option.map_some, String.ofList_toList]

theorem startsWith_append {start s : String} (h : startsWith start s = true) (t : String) :
    startsWith start (s ++ t) = true := by
  rw [startsWith, afterStart?, Option.isSome_map, Option.isSome_iff_exists] at h ⊢
  obtain ⟨rest, hrest⟩ := h
  exact ⟨_, String.toList_append ▸ afterStart?_go_append hrest t.toList⟩

end Text

/-- Seen from a folder with a path from the root, every path is one from the root. -/
theorem Path.isAbsolute_join {folder : String} (h : isAbsolute folder = true) (path : String) :
    isAbsolute (join folder path) = true := by
  rw [join]
  split
  · assumption
  · split
    · exact Text.startsWith_append h _
    · exact Text.startsWith_append (Text.startsWith_append h _) _

/-! ## Trees -/

namespace Tree

variable {root tree new : Tree} {place before after : List String}

/-- The names lead to a folder. -/
def HasFolder (root : Tree) (place : List String) : Prop :=
  ∃ entries, root.find? place = some (.folder entries)

theorem find?_folder_cons (name : String) (rest : List String) (entries : List (String × Tree)) :
    find? (.folder entries) (name :: rest) =
      (Fields.find? name entries).bind fun tree => find? tree rest := by
  rw [find?]
  cases Fields.find? name entries <;> rfl

theorem find?_append (root : Tree) (before after : List String) :
    root.find? (before ++ after) = (root.find? before).bind (find? · after) := by
  induction before generalizing root with
  | nil => rw [List.nil_append, find?, Option.bind_some]
  | cons name rest ih =>
    cases root with
    | file text => rfl
    | folder entries =>
      rw [List.cons_append, find?_folder_cons, find?_folder_cons, Option.bind_assoc]
      exact congrArg _ (funext ih)

/-- There are folders on the way to everything. -/
theorem hasFolder_of_append (h : root.find? (before ++ after) = some tree) (hafter : after ≠ []) :
    root.HasFolder before := by
  rw [find?_append, Option.bind_eq_some_iff] at h
  obtain ⟨found, hfound, htree⟩ := h
  cases found with
  | folder entries => exact ⟨entries, hfound⟩
  | file text =>
    obtain ⟨name, rest, rfl⟩ := List.exists_cons_of_ne_nil hafter
    cases htree

/-- What is put into a folder is there. -/
theorem find?_put_self (h : place = [] ∨ root.HasFolder place.dropLast) :
    (put new place root).find? place = some new := by
  induction place generalizing root with
  | nil => rw [put, find?]
  | cons name rest ih =>
    obtain ⟨entries, hentries⟩ := h.resolve_left (List.cons_ne_nil name rest)
    cases root with
    | file text => cases rest <;> cases hentries
    | folder found =>
      rw [put, find?_folder_cons, Fields.find?_insert, if_pos rfl, Option.bind_some]
      cases rest with
      | nil => rw [put, find?]
      | cons next rest =>
        refine ih (.inr ⟨entries, ?_⟩)
        rw [List.dropLast_cons_cons, find?_folder_cons, Option.bind_eq_some_iff] at hentries
        obtain ⟨inner, hinner, hrest⟩ := hentries
        rwa [hinner, Option.getD_some]

/-- Folders stay when something is put where there is none. -/
theorem hasFolder_put (h : root.HasFolder before) (hplace : ¬ root.HasFolder place) :
    (put new place root).HasFolder before := by
  induction place generalizing root before with
  | nil =>
    obtain ⟨entries, hentries⟩ := h
    cases root with
    | folder found => exact absurd ⟨found, find?.eq_1 _⟩ hplace
    | file text => cases before <;> cases hentries
  | cons name rest ih =>
    cases root with
    | file text => exact h
    | folder found =>
      cases before with
      | nil => exact ⟨_, find?.eq_1 _⟩
      | cons key names =>
        obtain ⟨entries, hentries⟩ := h
        rw [find?_folder_cons, Option.bind_eq_some_iff] at hentries
        obtain ⟨inner, hinner, hnames⟩ := hentries
        rw [HasFolder, put, find?_folder_cons, Fields.find?_insert]
        split
        · next hkey =>
          subst hkey
          rw [hinner, Option.getD_some, Option.bind_some]
          refine ih ⟨entries, hnames⟩ fun ⟨found', hfound'⟩ => hplace ⟨found', ?_⟩
          rw [find?_folder_cons, hinner, Option.bind_some, hfound']
        · exact ⟨entries, by rw [hinner, Option.bind_some, hnames]⟩

end Tree

/-! ## Files -/

namespace Disk

variable {disk after : Disk} {path text : String} {names place start target : List String}

/-- A path that is followed ends at the root, or in a folder. -/
theorem reached_follow (h : disk.follow names start = .ok place)
    (hstart : start = [] ∨ disk.root.HasFolder start.dropLast) :
    place = [] ∨ disk.root.HasFolder place.dropLast := by
  induction names generalizing start with
  | nil =>
    obtain rfl : start = place := Except.ok.inj h
    exact hstart
  | cons name rest ih =>
    rw [follow] at h
    split at h
    · cases h
    · cases h
    · next entries hentries =>
      refine ih h ?_
      split
      · by_cases hparent : start.dropLast = []
        · exact .inl hparent
        · -- the folder above the folder above
          have hsplit : start.dropLast.dropLast ++
              [start.dropLast.getLast hparent, start.getLast (by rintro rfl; exact hparent rfl)] =
                start := by
            rw [List.append_cons, List.dropLast_concat_getLast, List.dropLast_concat_getLast]
          exact .inr (Tree.hasFolder_of_append (hsplit.symm ▸ hentries) (List.cons_ne_nil _ _))
      · rw [List.dropLast_concat]
        exact .inr ⟨entries, hentries⟩

/-- Paths lead to the same place when something is put where there is no folder. -/
theorem follow_put (h : disk.follow names start = .ok place)
    (htarget : ¬ disk.root.HasFolder target) (new : Tree) :
    follow { disk with root := Tree.put new target disk.root } names start = .ok place := by
  induction names generalizing start with
  | nil => exact h
  | cons name rest ih =>
    rw [follow] at h ⊢
    split at h
    · cases h
    · cases h
    · next entries hentries =>
      have hkept : (Tree.put new target disk.root).HasFolder start :=
        Tree.hasFolder_put ⟨entries, hentries⟩ htarget
      obtain ⟨entries', hentries'⟩ := hkept
      dsimp only
      rw [hentries']
      exact ih h

/-- A file is written where there is no folder. -/
theorem write_ok (h : disk.write path text = .ok after) :
    ∃ place, disk.locate path = .ok place ∧ ¬ disk.root.HasFolder place ∧
      Path.leadsToFolder path = false ∧
      after = { disk with root := Tree.put (.file (some text)) place disk.root } := by
  rw [write] at h
  split at h
  · cases h
  · next place hplace =>
    refine ⟨place, hplace, ?_⟩
    split at h
    · cases h
    · next old hold =>
      split at h
      · cases h
      · next hpath =>
        refine ⟨?_, by simpa using hpath, (Except.ok.inj h).symm⟩
        rintro ⟨entries, hentries⟩
        rw [hold] at hentries
        cases hentries
    · next hnone =>
      split at h
      · cases h
      · next hpath =>
        refine ⟨?_, by simpa using hpath, (Except.ok.inj h).symm⟩
        rintro ⟨entries, hentries⟩
        rw [hnone] at hentries
        cases hentries

/-- The text of a file that was just written. -/
theorem read_write (h : disk.write path text = .ok after) : after.read path = .ok text := by
  obtain ⟨place, hplace, hfolder, hpath, rfl⟩ := write_ok h
  rw [locate] at hplace
  split at hplace
  · cases hplace
  · next hfull =>
    have hlocate : locate { disk with root := Tree.put (.file (some text)) place disk.root } path =
        .ok place := by
      rw [locate, if_neg hfull]
      exact follow_put hplace hfolder _
    have hfound : (Tree.put (.file (some text)) place disk.root).find? place =
        some (.file (some text)) :=
      Tree.find?_put_self (reached_follow hplace (.inl rfl))
    simp only [read, find?, hlocate, hfound, hpath, Bool.false_eq_true, if_false]

/-- The disk with a file and the folders that lead to it. -/
def keep (disk : Disk) (path text : String) : Except FileTrouble Disk :=
  match disk.makeFolders (Path.folder path) with
  | .error trouble => .error trouble
  | .ok disk => disk.write path text

theorem keep_ok (h : disk.keep path text = .ok after) :
    ∃ made, disk.makeFolders (Path.folder path) = .ok made ∧ made.write path text = .ok after := by
  unfold keep at h
  generalize disk.makeFolders (Path.folder path) = result at h
  cases result with
  | error trouble => cases h
  | ok made => exact ⟨made, rfl, h⟩

theorem read_keep (h : disk.keep path text = .ok after) : after.read path = .ok text := by
  obtain ⟨made, -, hwrite⟩ := keep_ok h
  exact read_write hwrite

theorem find?_of_read (h : disk.read path = .ok text) :
    disk.find? path = .ok (.file (some text)) := by
  rw [read] at h
  split at h
  · cases h
  · cases h
  · cases h
  · next hfound =>
    cases h
    exact hfound

/-- Files can be written to the paths one after the other, whatever their texts are, and after each
of them the story file is what it was. -/
def Takes (story : StoryFile) : List String → Disk → Prop
  | [], _ => True
  | out :: rest, disk => ∀ text, ∃ after, disk.keep out text = .ok after ∧
      after.read story.path = .ok story.text ∧ Takes story rest after

end Disk

/-! ## Files in the root folder -/

/-- The path leads to a file of this name in the root folder. -/
structure Path.IsTop (current path name : String) : Prop where
  names : Path.names (join current path) = [name]
  folder : Path.names (join current (folder path)) = []
  full : path ≠ ""
  plain : leadsToFolder path = false
  moves : name ≠ ".."

namespace Disk

variable {entries : List (String × Tree)} {current path name text : String}

theorem locate_top (h : Path.IsTop current path name) :
    locate ⟨.folder entries, current⟩ path = .ok [name] := by
  rw [locate, if_neg h.full, h.names, follow, Tree.find?]
  dsimp only
  rw [if_neg h.moves]
  rfl

theorem read_top (h : Path.IsTop current path name)
    (hfile : Fields.find? name entries = some (.file (some text))) :
    read ⟨.folder entries, current⟩ path = .ok text := by
  have hfound : (Tree.folder entries).find? [name] = some (.file (some text)) := by
    rw [Tree.find?_folder_cons, hfile]
    rfl
  simp only [read, find?, locate_top h, hfound, h.plain, Bool.false_eq_true, if_false]

/-- A file in the root folder is written where there is no folder of its name. -/
theorem keep_top (h : Path.IsTop current path name)
    (hfree : ∀ inside, Fields.find? name entries ≠ some (.folder inside)) (text : String) :
    keep ⟨.folder entries, current⟩ path text =
      .ok ⟨.folder (Fields.insert name (.file (some text)) entries), current⟩ := by
  have hmade : makeFolders ⟨.folder entries, current⟩ (Path.folder path) =
      .ok ⟨.folder entries, current⟩ := by
    rw [makeFolders, h.folder]
    rfl
  have hput : Tree.put (.file (some text)) [name] (.folder entries) =
      .folder (Fields.insert name (.file (some text)) entries) := by
    rw [Tree.put, Tree.put]
  unfold keep
  rw [hmade]
  dsimp only
  rw [write, locate_top h]
  dsimp only
  rw [Tree.find?_folder_cons, hput]
  cases hfound : Fields.find? name entries with
  | none => simp [h.plain]
  | some tree =>
    cases tree with
    | folder inside => exact absurd hfound (hfree inside)
    | file old => simp [Tree.find?, h.plain]

/-- Where there are only files in the root folder, others are written beside a story file. -/
theorem takes_top {story : StoryFile} {outs : List String}
    (hstory : Path.IsTop current story.path name)
    (hfile : Fields.find? name entries = some (.file (some story.text)))
    (hflat : ∀ key inside, Fields.find? key entries ≠ some (.folder inside))
    (houts : ∀ out ∈ outs, ∃ key, Path.IsTop current out key ∧ key ≠ name) :
    Takes story outs ⟨.folder entries, current⟩ := by
  induction outs generalizing entries with
  | nil => trivial
  | cons out rest ih =>
    obtain ⟨key, htop, hne⟩ := houts out List.mem_cons_self
    intro text
    have hfile' : Fields.find? name (Fields.insert key (.file (some text)) entries) =
        some (.file (some story.text)) := by
      rw [Fields.find?_insert, if_neg hne, hfile]
    refine ⟨_, keep_top htop (hflat key) text, read_top hstory hfile', ih hfile' ?_ ?_⟩
    · intro other inside
      rw [Fields.find?_insert]
      split
      · exact fun h => by cases h
      · exact hflat other inside
    · exact fun other hmem => houts other (List.mem_cons_of_mem _ hmem)

end Disk

/-! ## Reading and writing for a player -/

variable {disk after : Disk} {path text : String}

/-- A player state is written to its file. -/
theorem PlayerState.write_files {state : PlayerState}
    (h : disk.keep path state.toJson.indented = .ok after) :
    state.write Disk.files path disk = (.ok (), after) := by
  obtain ⟨made, hmade, hwrite⟩ := Disk.keep_ok h
  have hfolders : Disk.files.makeFolders (Path.folder path) disk = (.ok (), made) := by
    simp only [Disk.files, Disk.changing, hmade]
  have htext : Disk.files.write path state.toJson.indented made = (.ok (), after) := by
    simp only [Disk.files, Disk.changing, hwrite]
  exact (Attempt.bind_ok (Attempt.orFault_ok hfolders _) _).trans (Attempt.orFault_ok htext _)

/-- A player state is read from the text of its file. -/
theorem PlayerState.read_files {state : PlayerState} (h : disk.read path = .ok text)
    (haccept : accept text = .ok state) : read Disk.files path disk = (.ok state, disk) := by
  have hthere : Disk.files.isThere path disk = (true, disk) := by
    simp only [Disk.files, Disk.find?_of_read h, Except.isOk, Except.toBool]
  have htext : Disk.files.read path disk = (.ok text, disk) := by
    simp only [Disk.files, h]
    rfl
  rw [read, Attempt.bind_ok (Attempt.lift_ok hthere), if_pos rfl,
    Attempt.bind_ok (Attempt.orFault_ok htext _), haccept]
  rfl

/-- The story file of a path and a text. -/
def StoryFile.ofText (path text : String) : StoryFile where
  ref := Shelf.refStart ++ path
  name := (Path.stem? path).getD "story"
  path := path
  text := text

namespace Shelf

theorem readFile_files (h : disk.read path = .ok text) :
    readFile Disk.files path disk = (.ok (.ofText path text), disk) := by
  have htext : Disk.files.read path disk = (.ok text, disk) := by
    simp only [Disk.files, h]
    rfl
  rw [readFile, Attempt.bind_ok (Attempt.orFault_ok htext _)]
  rfl

theorem absolute_files (path : String) (disk : Disk) :
    absolute Disk.files path disk = (.ok (Path.join disk.current path), disk) := by
  have hcurrent : Disk.files.current disk = (disk.current, disk) := rfl
  rw [absolute, Attempt.map_ok (Attempt.lift_ok hcurrent)]

/-- A story file is found by its path from the root. -/
theorem ofPath_files (habsolute : Path.isAbsolute path = true) (h : disk.read path = .ok text) :
    ofPath Disk.files path disk = (.ok (.ofText path text), disk) := by
  have hfile : Disk.files.isFile path disk = (true, disk) := by
    simp only [Disk.files, Disk.find?_of_read h]
  rw [ofPath, Attempt.bind_ok (absolute_files path disk), Path.join, if_pos habsolute,
    Attempt.bind_ok (Attempt.lift_ok hfile), if_pos rfl, readFile_files h]

/-- So it is found by its reference. -/
theorem ofRef_files (habsolute : Path.isAbsolute path = true) (h : disk.read path = .ok text) :
    ofRef Disk.files (StoryFile.ofText path text).ref disk = (.ok (.ofText path text), disk) := by
  rw [ofRef, StoryFile.ofText, Text.afterStart?_append]
  exact ofPath_files habsolute h

/-- What reading a story file gives. -/
theorem readFile_ok {story : StoryFile} (h : readFile Disk.files path disk = (.ok story, after)) :
    ∃ text, disk.read path = .ok text ∧ story = .ofText path text ∧ after = disk := by
  obtain ⟨text, read, htext, hstory⟩ := Attempt.ok_of_bind h
  have hread := Attempt.ok_of_orFault htext
  simp only [Disk.files] at hread
  cases hstory
  cases hdisk : disk.read path with
  | error trouble => rw [hdisk] at hread; cases hread
  | ok found => rw [hdisk] at hread; cases hread; exact ⟨text, rfl, rfl, rfl⟩

/-- Asking whether something is there changes nothing. -/
theorem ok_of_lift {ask : String → StateM Disk Bool} {f : Disk → Bool}
    (hask : ask path = fun disk => (f disk, disk)) {answer : Bool}
    (h : (liftM (ask path) : Attempt (StateM Disk) Bool) disk = (.ok answer, after)) :
    after = disk := by
  rw [Attempt.lift_ok (congrFun hask disk)] at h
  cases h
  rfl

theorem folder_ok {found : String} (h : folder Disk.files path disk = (.ok found, after)) :
    found = Path.join disk.current path ∧ after = disk := by
  rw [folder, Attempt.bind_ok (absolute_files path disk)] at h
  obtain ⟨isThere, disk', hthere, h⟩ := Attempt.ok_of_bind h
  obtain rfl := ok_of_lift (by rfl) hthere
  split at h
  · cases h
  · obtain ⟨isFolder, disk'', hfolder, h⟩ := Attempt.ok_of_bind h
    obtain rfl := ok_of_lift (by rfl) hfolder
    split at h
    · cases h
    · cases h
      exact ⟨rfl, rfl⟩

end Shelf

/-- A story file that is found by its path has that path, seen from the root. -/
theorem Shelf.ofPath_ok {story : StoryFile} (h : ofPath Disk.files path disk = (.ok story, after)) :
    ∃ text, disk.read (Path.join disk.current path) = .ok text ∧
      story = .ofText (Path.join disk.current path) text ∧ after = disk := by
  rw [ofPath, Attempt.bind_ok (absolute_files path disk)] at h
  obtain ⟨isFile, disk', hfile, h⟩ := Attempt.ok_of_bind h
  obtain rfl := ok_of_lift (by rfl) hfile
  split at h
  · exact readFile_ok h
  · cases h

/-- A story file that was found is one of a path from the root, and finding it changes nothing. -/
theorem StoryPlace.find_ok {place : StoryPlace} {story : StoryFile}
    (habsolute : Path.isAbsolute disk.current = true)
    (h : place.find Disk.files disk = (.ok story, after)) :
    ∃ path text, disk.read path = .ok text ∧ Path.isAbsolute path = true ∧
      story = .ofText path text ∧ after = disk := by
  cases place with
  | file path =>
    obtain ⟨text, hread, rfl, rfl⟩ := Shelf.ofPath_ok h
    exact ⟨_, text, hread, Path.isAbsolute_join habsolute path, rfl, rfl⟩
  | named folder name =>
    rw [find, Shelf.ofName] at h
    obtain ⟨found, disk', hfolder, h⟩ := Attempt.ok_of_bind h
    obtain ⟨rfl, rfl⟩ := Shelf.folder_ok hfolder
    have hlist : (ExceptT.lift (Shelf.list Disk.files (Path.join disk'.current folder)) :
        Attempt (StateM Disk) _) disk' =
          (.ok (Shelf.stories (disk'.below (Path.join disk'.current folder))), disk') := rfl
    rw [Attempt.bind_ok hlist] at h
    generalize List.lookup name (Shelf.stories _) = listed at h
    cases listed with
    | none => cases h
    | some found =>
      obtain ⟨text, hread, rfl, rfl⟩ := Shelf.readFile_ok h
      exact ⟨_, text, hread, Path.isAbsolute_join (Path.isAbsolute_join habsolute folder) found,
        rfl, rfl⟩

end Gamebook
