import Gamebook.Proofs.Commands
import Gamebook.Proofs.Folders
import Gamebook.Proofs.Reports
import Mathlib.Data.List.TakeDrop

/-!
# Stories are listed and found by name

The stories in a folder are the files in it, and in the folders below it, whose names end as those
of story files do. They are listed by name. Sorting keeps the order in which files are found, so
those of one name stay in the order of their places, and the one that is found by the name is the
first of them. A line of the list tells the name and the place.

* `Shelf.storyName?_eq_some_iff` : the names of story files.
* `Shelf.Lists`, `Shelf.Lists.unique` : what is listed, and in which order; there is one such list.
* `Shelf.lists_walk` : it is made by sorting what is found.
* `Shelf.line_inj` : a line tells its story.
* `Shelf.FindsFirst`, `Shelf.findsFirst` : the story that a name finds in a list.
* `Shelf.find_agrees_list` : the command that lists stories, and stories given by name.
-/

namespace Gamebook

/-! ## Names of story files -/

/-- What stands before and behind the last dot, if anything stands before it. -/
theorem Path.cutExtension_eq_iff {fileName stem extension : String} :
    cutExtension fileName = (stem, some extension) ↔
      stem ≠ "" ∧ '.' ∉ extension.toList ∧ fileName = stem ++ "." ++ extension := by
  rw [cutExtension, List.span_eq_takeWhile_dropWhile]
  constructor
  · have hjoin := List.takeWhile_append_dropWhile (p := (· ≠ '.')) (l := fileName.toList.reverse)
    have hdot := List.head?_dropWhile_not (· ≠ '.') fileName.toList.reverse
    have hafter := List.all_takeWhile (p := (· ≠ '.')) (l := fileName.toList.reverse)
    generalize List.takeWhile _ _ = after at hjoin hafter ⊢
    generalize List.dropWhile _ _ = before at hjoin hdot ⊢
    dsimp only
    split
    · next c stem =>
      split
      · exact fun h => by cases h
      · next hstem =>
        rintro ⟨⟩
        obtain rfl : c = '.' := by simpa using hdot
        refine ⟨fun hnil => hstem ?_, ?_, ?_⟩
        · simpa using hnil
        · exact fun hmem => by simpa using List.all_eq_true.mp hafter '.' (by simpa using hmem)
        · rw [← String.toList_inj, ← List.reverse_inj, ← hjoin]
          simp
    · exact fun h => by cases h
  · rintro ⟨hstem, hextension, rfl⟩
    have hchars : (stem ++ "." ++ extension).toList.reverse =
        extension.toList.reverse ++ '.' :: stem.toList.reverse := by
      simp
    have hafter : ∀ c ∈ extension.toList.reverse, decide (c ≠ '.') = true := fun c hc =>
      decide_eq_true (by rintro rfl; exact hextension (List.mem_reverse.mp hc))
    have hnonempty : stem.toList.reverse.isEmpty = false := by
      simpa using hstem
    rw [hchars, List.takeWhile_append_of_pos hafter, List.dropWhile_append_of_pos hafter]
    simp [hnonempty]

namespace Shelf

theorem storyName?_eq_some_iff {fileName name : String} : storyName? fileName = some name ↔
    name ≠ "" ∧ (fileName = name ++ ".yaml" ∨ fileName = name ++ ".yml") := by
  rw [storyName?]
  constructor
  · split
    · next stem extension hcut =>
      obtain ⟨hstem, -, rfl⟩ := Path.cutExtension_eq_iff.mp hcut
      split
      · next hextension =>
        rintro ⟨⟩
        refine ⟨hstem, hextension.imp ?_ ?_⟩ <;> rintro rfl <;> rw [String.append_assoc] <;> rfl
      · exact fun h => by cases h
    · exact fun h => by cases h
  · rintro ⟨hname, hfile⟩
    have hcut (extension : String) (h : '.' ∉ extension.toList) :
        Path.cutExtension (name ++ ("." ++ extension)) = (name, some extension) :=
      Path.cutExtension_eq_iff.mpr ⟨hname, h, (String.append_assoc ..).symm⟩
    obtain rfl | rfl := hfile
    · have h := hcut "yaml" (by decide)
      rw [show "." ++ "yaml" = ".yaml" from rfl] at h
      rw [h]
      rfl
    · have h := hcut "yml" (by decide)
      rw [show "." ++ "yml" = ".yml" from rfl] at h
      rw [h]
      rfl

end Shelf

/-! ## Lines of a text -/

/-- Lines that are written without breaks inside or returns at the end are the lines of the text. -/
theorem LineMode.lines_textOf {lines : List String}
    (hbreak : ∀ line ∈ lines, '\n' ∉ line.toList)
    (hend : ∀ line ∈ lines, Text.dropReturn line.toList = line.toList) :
    Text.lines (textOf lines) = lines := by
  have hpieces : Text.splitAt (· == '\n') (textOf lines).toList =
      lines.map String.toList ++ [[]] := by
    clear hend
    induction lines with
    | nil => rfl
    | cons line rest ih =>
      obtain ⟨hline, hrest⟩ := List.forall_mem_cons.mp hbreak
      rw [toList_textOf_cons, Text.splitAt_append_cons rfl, Text.splitAt_of_notMem hline, ih hrest]
      rfl
  rw [Text.lines, hpieces]
  simp only [List.dropLast_concat, List.getLast?_concat, List.map_map]
  conv_rhs => rw [← List.map_id lines]
  refine List.map_congr_left fun line hline => ?_
  rw [Function.comp_apply, hend line hline, String.ofList_toList, id]

/-! ## Sorting -/

/-- Sorting by a key keeps the order of what has the same key. -/
theorem pairwise_mergeSort_key {α : Type} {before : α → α → Prop} {entries : List α}
    (key : α → String) (h : entries.Pairwise before) :
    (entries.mergeSort fun a b => decide (key a ≤ key b)).Pairwise fun a b =>
      key a < key b ∨ key a = key b ∧ before a b := by
  have htrans (a b c : α) : decide (key a ≤ key b) → decide (key b ≤ key c) →
      decide (key a ≤ key c) := by
    simpa using String.le_trans
  have htotal (a b : α) : decide (key a ≤ key b) || decide (key b ≤ key a) := by
    simpa using String.le_total (key a) (key b)
  induction entries with
  | nil => simp
  | cons entry rest ih =>
    obtain ⟨hentry, hrest⟩ := List.pairwise_cons.mp h
    obtain ⟨smaller, others, hsort, hsort', hsmaller⟩ :=
      List.mergeSort_cons htrans htotal entry rest
    have hordered := List.pairwise_mergeSort htrans htotal (entry :: rest)
    have hih := ih hrest
    rw [hsort] at hordered
    rw [hsort'] at hih
    obtain ⟨hsmallers, hothers, hapart⟩ := List.pairwise_append.mp hih
    obtain ⟨-, hgreater, -⟩ := List.pairwise_append.mp hordered
    rw [hsort, List.pairwise_append, List.pairwise_cons]
    refine ⟨hsmallers, ⟨fun other hother => ?_, hothers⟩, fun a ha b hb => ?_⟩
    · have hle : key entry ≤ key other :=
        of_decide_eq_true ((List.pairwise_cons.mp hgreater).1 other hother)
      have hmem : other ∈ rest := by
        rw [← List.mem_mergeSort, hsort']
        exact List.mem_append_right _ hother
      rcases Classical.em (key entry = key other) with heq | hne
      · exact .inr ⟨heq, hentry other hmem⟩
      · exact .inl (Std.lt_of_le_of_ne hle hne)
    · obtain rfl | hb := List.mem_cons.mp hb
      · refine .inl (String.not_le.mp ?_)
        simpa using hsmaller a ha
      · exact hapart a ha b hb

namespace Shelf

variable {tree : Tree} {listed listed' : List (String × List String)} {name : String}
  {place : List String} {story : String × List String}

/-! ## The list -/

/-- Stories come by their names; those of one name by their places, compared name by name. -/
def Before (a b : String × List String) : Prop := a.1 < b.1 ∨ a.1 = b.1 ∧ a.2 < b.2

/-- A list of the stories in a tree, each with its place: it has every file whose name ends as that
of a story, once and with what stands before the ending, and no others. -/
structure Lists (tree : Tree) (listed : List (String × List String)) : Prop where
  mem_iff {name : String} {place : List String} : (name, place) ∈ listed ↔
    (∃ text, tree.find? place = some (.file text)) ∧ name ≠ "" ∧
      ∃ fileName, place.getLast? = some fileName ∧
        (fileName = name ++ ".yaml" ∨ fileName = name ++ ".yml")
  once : (listed.map Prod.snd).Nodup
  ordered : listed.Pairwise Before

/-- The places of stories among the places of files, with the names of the stories. -/
def shelved (found : List (List String)) : List (String × List String) :=
  (found.filterMap fun place =>
    (place.getLast?.bind storyName?).map fun name => (name, place)).mergeSort
      fun a b => decide (a.1 ≤ b.1)

theorem mem_shelved {found : List (List String)} : (name, place) ∈ shelved found ↔
    place ∈ found ∧ place.getLast?.bind storyName? = some name := by
  rw [shelved, List.mem_mergeSort, List.mem_filterMap]
  constructor
  · rintro ⟨place', hplace, hname⟩
    obtain ⟨name', hname', heq⟩ := Option.map_eq_some_iff.mp hname
    obtain ⟨rfl, rfl⟩ := Prod.mk.inj heq
    exact ⟨hplace, hname'⟩
  · rintro ⟨hplace, hname⟩
    exact ⟨place, hplace, by rw [hname]; rfl⟩

theorem stories_eq (found : List (List String)) :
    stories found = (shelved found).map fun story => (story.1, "/".intercalate story.2) := by
  have hsort := List.map_mergeSort (f := fun story : String × List String =>
    (story.1, "/".intercalate story.2)) (r := fun a b => decide (a.1 ≤ b.1))
    (s := fun a b => decide (a.1 ≤ b.1)) (l := found.filterMap fun place =>
      (place.getLast?.bind storyName?).map fun name => (name, place)) fun _ _ _ _ => rfl
  rw [stories, shelved, hsort, List.map_filterMap]
  simp only [Option.map_map, Function.comp_def]

/-- What is related in the walk is related in the list, if the names agree. -/
theorem pairwise_shelved {found : List (List String)} {before : List String → List String → Prop}
    (h : found.Pairwise before) : (shelved found).Pairwise fun a b =>
      a.1 < b.1 ∨ a.1 = b.1 ∧ before a.2 b.2 := by
  refine pairwise_mergeSort_key Prod.fst (List.pairwise_filterMap.mpr (h.imp ?_))
  intro place place' hbefore story hstory story' hstory'
  obtain ⟨name, -, rfl⟩ := Option.map_eq_some_iff.mp hstory
  obtain ⟨name', -, rfl⟩ := Option.map_eq_some_iff.mp hstory'
  exact hbefore

theorem lists_walk (h : tree.Sound) : Lists tree (shelved tree.walk) where
  mem_iff := by
    intro name place
    simp only [mem_shelved, h.mem_walk, Option.bind_eq_some_iff, storyName?_eq_some_iff,
      exists_and_left, and_left_comm]
  once := by
    have hnodup : (tree.walk.filterMap fun place =>
        (place.getLast?.bind storyName?).map fun name => (name, place)).Pairwise
          fun a b => a.2 ≠ b.2 := by
      refine List.pairwise_filterMap.mpr (h.ascending_walk.imp ?_)
      intro place place' hlt story hstory story' hstory' heq
      obtain ⟨name, -, rfl⟩ := Option.map_eq_some_iff.mp hstory
      obtain ⟨name', -, rfl⟩ := Option.map_eq_some_iff.mp hstory'
      obtain rfl : place = place' := heq
      exact List.lt_irrefl place hlt
    rw [List.Nodup, List.pairwise_map]
    exact (List.mergeSort_perm _ _).symm.pairwise hnodup fun hne => hne.symm
  ordered := pairwise_shelved h.ascending_walk

namespace Lists

theorem nodup (h : Lists tree listed) : listed.Nodup :=
  List.Pairwise.of_map Prod.snd (fun _ _ hne heq => hne (congrArg Prod.snd heq)) h.once

/-- There is only one such list. -/
theorem unique (h : Lists tree listed) (h' : Lists tree listed') : listed = listed' := by
  have hperm : listed.Perm listed' := (List.perm_ext_iff_of_nodup h.nodup h'.nodup).mpr
    fun story => h.mem_iff.trans h'.mem_iff.symm
  refine hperm.eq_of_pairwise (fun a b _ _ hab hba => ?_) h.ordered h'.ordered
  obtain hlt | ⟨heq, hlt⟩ := hab
  · obtain hlt' | ⟨heq', -⟩ := hba
    · exact absurd (String.lt_trans hlt hlt') (String.lt_irrefl _)
    · exact absurd (heq' ▸ hlt) (String.lt_irrefl _)
  · obtain hlt' | ⟨-, hlt'⟩ := hba
    · exact absurd (heq ▸ hlt') (String.lt_irrefl _)
    · exact absurd (List.lt_trans hlt hlt') (List.lt_irrefl _)

/-- A story is in a file of the tree; its place is not the root of the tree, and has names. -/
theorem file_of_mem (h : Lists tree listed) (hmem : story ∈ listed) :
    ∃ text, tree.find? story.2 = some (.file text) :=
  (h.mem_iff.mp hmem).1

theorem ne_nil_of_mem (h : Lists tree listed) (hmem : story ∈ listed) : story.2 ≠ [] := by
  obtain ⟨-, -, fileName, hlast, -⟩ := h.mem_iff.mp hmem
  rintro hnil
  rw [hnil] at hlast
  cases hlast

/-- The name of a story is that of its file, without the extension. -/
theorem cutExtension_of_mem (h : Lists tree listed) (hmem : story ∈ listed) :
    ∃ fileName, story.2.getLast? = some fileName ∧ (Path.cutExtension fileName).1 = story.1 := by
  obtain ⟨-, hname, fileName, hlast, hfile⟩ := h.mem_iff.mp hmem
  refine ⟨fileName, hlast, ?_⟩
  have hstory := storyName?_eq_some_iff.mpr ⟨hname, hfile⟩
  rw [storyName?] at hstory
  split at hstory
  · next stem extension hcut =>
    rw [hcut]
    split at hstory
    · exact Option.some.inj hstory
    · cases hstory
  · cases hstory

end Lists

/-! ## Its lines -/

/-- The line of a story: its name, and the path of its place. -/
def line (story : String × List String) : String :=
  "STORY:" ++ story.1 ++ "|" ++ Json.quote ("/".intercalate story.2)

/-- Different stories have different lines. -/
theorem line_inj {story' : String × List String} (hne : story.2 ≠ [])
    (h : ∀ name ∈ story.2, Path.IsName name) (hne' : story'.2 ≠ [])
    (h' : ∀ name ∈ story'.2, Path.IsName name) (heq : line story = line story') :
    story = story' := by
  obtain ⟨hname, hpath⟩ := Json.bar_quote_inj heq
  have hplace := congrArg Path.names hpath
  rw [Path.names_intercalate hne h, Path.names_intercalate hne' h'] at hplace
  exact Prod.ext (String.append_right_inj _ |>.mp hname) hplace

theorem Lists.nodup_lines (h : Lists tree listed) (hsound : tree.Sound) :
    (listed.map line).Nodup := by
  have hnames {story : String × List String} (hmem : story ∈ listed) :
      ∀ name ∈ story.2, Path.IsName name := by
    obtain ⟨text, htext⟩ := h.file_of_mem hmem
    exact hsound.isName_of_find? htext
  rw [List.Nodup, List.pairwise_map]
  refine h.nodup.imp_of_mem fun hstory hstory' hne heq => hne ?_
  exact line_inj (h.ne_nil_of_mem hstory) (hnames hstory) (h.ne_nil_of_mem hstory') (hnames hstory')
    heq

theorem line_ends (story : String × List String) : (line story).toList.getLast? = some '"' := by
  rw [line, String.toList_append, Json.toList_quote, ← List.cons_append, ← List.append_assoc,
    List.getLast?_concat]

theorem lineFeed_notMem_line (h : '\n' ∉ story.1.toList) : '\n' ∉ (line story).toList := by
  rw [line, String.toList_append, String.toList_append, String.toList_append]
  simp only [List.mem_append, not_or]
  exact ⟨⟨⟨by decide, h⟩, by decide⟩, Json.lineFeed_notMem_quote _⟩

variable {σ : Type} {host : Host (StateM Disk) σ} {disk : Disk} {path folder : String}
  {tree : Tree} {listed : List (String × List String)} {name : String}
  {story : String × List String}

/-! ## Looking up a name -/

/-- The path of the story of this name in a folder. -/
def find {m : Type → Type} [Monad m] (files : Files m) (folder name : String) :
    Attempt m String := do
  match (← ExceptT.lift (list files folder)).lookup name with
  | some found => pure (Path.join folder found)
  | none => throw (.storyNameUnknown name folder)

/-- A story that is given by folder and name is read from the file that is found. -/
theorem ofName_eq {m : Type → Type} [Monad m] [LawfulMonad m] (files : Files m)
    (path name : String) : ofName files path name = Shelf.folder files path >>= fun folder =>
      find files folder name >>= readFile files := by
  rw [ofName]
  refine bind_congr fun folder => ?_
  rw [find, bind_assoc]
  refine bind_congr fun stories => ?_
  cases List.lookup name stories with
  | none => exact ExceptT.ext (by simp)
  | some found => simp only [pure_bind]

/-- The path of a place, seen from a folder. -/
def pathIn (folder : String) (place : List String) : String :=
  Path.join folder ("/".intercalate place)

theorem lookup_paths (listed : List (String × List String)) (name : String) :
    (listed.map fun story => (story.1, "/".intercalate story.2)).lookup name =
      (listed.lookup name).map ("/".intercalate ·) := by
  induction listed with
  | nil => rfl
  | cons story rest ih =>
    rw [List.map_cons, List.lookup_cons, List.lookup_cons, ih]
    split <;> rfl

theorem list_files (h : disk.find? folder = .ok tree) :
    (ExceptT.lift (list Disk.files folder) : Attempt (StateM Disk) _) disk =
      (.ok ((shelved tree.walk).map fun story => (story.1, "/".intercalate story.2)), disk) := by
  rw [← stories_eq]
  change (Except.ok (stories (disk.below folder)), disk) = _
  rw [Disk.below, h]

theorem find_files (h : disk.find? folder = .ok tree) (name : String) :
    find Disk.files folder name disk =
      (((shelved tree.walk).lookup name).elim (.error (.storyNameUnknown name folder))
        fun place => .ok (pathIn folder place), disk) := by
  rw [find, Attempt.bind_ok (list_files h), lookup_paths]
  cases List.lookup name (shelved tree.walk) <;> rfl

theorem folder_files (h : disk.find? (Path.join disk.current path) = .ok (.folder entries)) :
    Shelf.folder Disk.files path disk = (.ok (Path.join disk.current path), disk) := by
  have hthere : Disk.files.isThere (Path.join disk.current path) disk = (true, disk) := by
    simp only [Disk.files, h, Except.isOk, Except.toBool]
  have hfolder : Disk.files.isFolder (Path.join disk.current path) disk = (true, disk) := by
    simp only [Disk.files, h]
  rw [Shelf.folder, Attempt.bind_ok (absolute_files path disk),
    Attempt.bind_ok (Attempt.lift_ok hthere), if_neg (by decide),
    Attempt.bind_ok (Attempt.lift_ok hfolder), if_neg (by decide)]
  rfl

/-- A command that lists stories. -/
theorem openCommand_list (hfiles : host.files = Disk.files)
    (h : disk.find? (Path.join disk.current path) = .ok (.folder entries)) :
    CommandLine.openCommand host (.list path) disk =
      (.ended ⟨LineMode.textOf
        ("RESULT:OK" :: (shelved (Tree.folder entries).walk).map line), 0⟩, disk) := by
  have hlisting : CommandLine.listing host.files path disk =
      (.ok ("RESULT:OK" :: (shelved (Tree.folder entries).walk).map line), disk) := by
    rw [CommandLine.listing, hfiles, Attempt.bind_ok (folder_files h),
      Attempt.bind_ok (list_files h), List.map_map]
    rfl
  exact congrArg Agent.settled hlisting

/-- A story file whose bytes are no text. -/
theorem readFile_noText (h : disk.find? path = .ok (.file none)) :
    readFile Disk.files path disk =
      (.error (.storyUnreadable FileTrouble.noText.message), disk) := by
  have hread : Disk.files.read path disk = (.error FileTrouble.noText.message, disk) := by
    simp only [Disk.files, Disk.read, h]
    rfl
  exact Attempt.bind_error (Attempt.orFault_error hread _) _

/-- Looking up a name among the stories in a folder, of which a list is given: the name is found
if the list has it, and then the file is that of the first story of the name. -/
structure FindsFirst (disk : Disk) (path : String) (tree : Tree)
    (listed : List (String × List String)) (name : String) : Prop where
  succeeds_iff :
    (∃ found, (find Disk.files (Path.join disk.current path) name disk).1 = .ok found) ↔
    ∃ story ∈ listed, story.1 = name
  first {before behind : List (String × List String)} {place : List String}
    (h : listed = before ++ (name, place) :: behind) (hbefore : ∀ other ∈ before, other.1 ≠ name) :
    ∃ found text, found = pathIn (Path.join disk.current path) place ∧
      tree.find? place = some (.file text) ∧ disk.find? found = .ok (.file text) ∧
      find Disk.files (Path.join disk.current path) name disk = (.ok found, disk) ∧
      (StoryPlace.named path name).find Disk.files disk =
        (match text with
          | some text => .ok (.ofText found text)
          | none => .error (.storyUnreadable FileTrouble.noText.message), disk) ∧
      ∀ text, (StoryFile.ofText found text).name = name
  unknown (h : ∀ story ∈ listed, story.1 ≠ name) :
    (StoryPlace.named path name).find Disk.files disk =
      (.error (.storyNameUnknown name (Path.join disk.current path)), disk)

theorem Lists.name_ofText (h : Lists tree listed) (hsound : tree.Sound)
    (hmem : story ∈ listed) (folder text : String) :
    (StoryFile.ofText (pathIn folder story.2) text).name = story.1 := by
  obtain ⟨file, hfile⟩ := h.file_of_mem hmem
  obtain ⟨fileName, hlast, hname⟩ := h.cutExtension_of_mem hmem
  rw [StoryFile.ofText, pathIn, Path.stem?,
    Path.fileName?_join (h.ne_nil_of_mem hmem) (hsound.isName_of_find? hfile), hlast]
  exact hname

theorem findsFirst (habsolute : Path.isAbsolute disk.current = true)
    (hfolder : disk.find? (Path.join disk.current path) = .ok (.folder entries))
    (hsound : (Tree.folder entries).Sound) (name : String) :
    FindsFirst disk path (.folder entries) (shelved (Tree.folder entries).walk) name := by
  have hlists := lists_walk hsound
  have hnamed : (StoryPlace.named path name).find Disk.files disk =
      (find Disk.files (Path.join disk.current path) name >>= readFile Disk.files) disk := by
    rw [StoryPlace.find, ofName_eq, Attempt.bind_ok (folder_files hfolder)]
  constructor
  case succeeds_iff =>
    rw [find_files hfolder]
    cases hlookup : List.lookup name (shelved (Tree.folder entries).walk) with
    | none =>
      have hnone := List.lookup_eq_none_iff.mp hlookup
      constructor
      · rintro ⟨found, ⟨⟩⟩
      · rintro ⟨story, hmem, rfl⟩
        simpa using hnone story hmem
    | some place =>
      obtain ⟨before, behind, hlisted, -⟩ := List.lookup_eq_some_iff.mp hlookup
      rw [hlisted]
      exact ⟨fun _ => ⟨_, List.mem_append_right _ List.mem_cons_self, rfl⟩, fun _ => ⟨_, rfl⟩⟩
  case first =>
    intro before behind place hlisted hbefore
    have hlookup : List.lookup name (shelved (Tree.folder entries).walk) = some place :=
      List.lookup_eq_some_iff.mpr ⟨before, behind, hlisted, fun other hother => by
        simpa using (hbefore other hother).symm⟩
    have hmem : (name, place) ∈ shelved (Tree.folder entries).walk := by
      rw [hlisted]
      exact List.mem_append_right _ List.mem_cons_self
    obtain ⟨text, htext⟩ := hlists.file_of_mem hmem
    have hfound := Disk.find?_below (Path.isAbsolute_join habsolute path) hfolder hsound
      (hlists.ne_nil_of_mem hmem) htext
    have hfind : find Disk.files (Path.join disk.current path) name disk =
        (.ok (pathIn (Path.join disk.current path) place), disk) := by
      rw [find_files hfolder, hlookup]
      rfl
    refine ⟨_, text, rfl, htext, hfound, hfind, ?_, hlists.name_ofText hsound hmem _⟩
    rw [hnamed, Attempt.bind_ok hfind]
    cases text with
    | none => exact readFile_noText hfound
    | some text =>
      refine readFile_files ?_
      rw [Disk.read, pathIn, hfound]
  case unknown =>
    intro hnone
    have hlookup : List.lookup name (shelved (Tree.folder entries).walk) = none :=
      List.lookup_eq_none_iff.mpr fun story hstory => by simpa using (hnone story hstory).symm
    have hfind : find Disk.files (Path.join disk.current path) name disk =
        (.error (.storyNameUnknown name (Path.join disk.current path)), disk) := by
      rw [find_files hfolder, hlookup]
      rfl
    rw [hnamed, Attempt.bind_error hfind]

/-- The list of the stories in a folder, and finding one of them by its name. -/
theorem find_agrees_list (hfiles : host.files = Disk.files)
    (habsolute : Path.isAbsolute disk.current = true)
    (hfolder : disk.find? (Path.join disk.current path) = .ok (.folder entries))
    (hsound : (Tree.folder entries).Sound) {words : List String} {request : Command.Request}
    (hwords : Command.requestOf words = .ok request) (hcommand : request.command = .list path)
    {level : LogLevel} (hlevel : LogLevel.ofText request.logLevel = .ok level) (input : String) :
    ∃ listed output, Lists (.folder entries) listed ∧
      CommandLine.run host words input disk = (⟨output, 0⟩, disk) ∧
      output = LineMode.textOf ("RESULT:OK" :: listed.map line) ∧ (listed.map line).Nodup ∧
      ((∀ story ∈ listed, '\n' ∉ story.1.toList) →
        Text.lines output = "RESULT:OK" :: listed.map line) ∧
      ∀ name, FindsFirst disk path (.folder entries) listed name := by
  have hlists := lists_walk hsound
  refine ⟨_, _, hlists, ?_, rfl, hlists.nodup_lines hsound, fun hnames => ?_,
    findsFirst habsolute hfolder hsound⟩
  · exact Agent.run_request hwords hlevel (hcommand ▸ openCommand_list hfiles hfolder) input
  · refine LineMode.lines_textOf ?_ ?_
    · rw [List.forall_mem_cons, List.forall_mem_map]
      exact ⟨by decide, fun story hstory => lineFeed_notMem_line (hnames story hstory)⟩
    · rw [List.forall_mem_cons, List.forall_mem_map]
      exact ⟨by decide, fun story _ => Text.dropReturn_of_getLast? (line_ends story) (by decide)⟩

/-- Two stories of one name, in different folders and with different extensions; a third story, and
a file that is none. -/
def tales : List (String × Tree) :=
  [("b.yaml", .folder [("main.yml", .file (some "sections: \x7b\x7d"))]),
    ("c", .folder [("main.yaml", .file none), ("main.yaml.txt", .file none)]),
    ("intro.yaml", .file none)]

theorem sound_tales : (Tree.folder tales).Sound := by
  refine .folder (by decide) (by decide) ?_
  simp only [tales, List.forall_mem_cons, List.not_mem_nil, false_implies, implies_true, and_true]
  refine ⟨.folder (by decide) (by decide) ?_, .folder (by decide) (by decide) ?_, .file _⟩
  · simpa using Tree.Sound.file _
  · simpa using Tree.Sound.file _

theorem shelved_tales : shelved (Tree.folder tales).walk =
    [("intro", ["intro.yaml"]), ("main", ["b.yaml", "main.yml"]),
      ("main", ["c", "main.yaml"])] := by
  have hfound : (Tree.folder tales).walk.filterMap (fun place =>
      (place.getLast?.bind storyName?).map fun name => (name, place)) =
      [("main", ["b.yaml", "main.yml"]), ("main", ["c", "main.yaml"]),
        ("intro", ["intro.yaml"])] := by
    decide +kernel
  rw [shelved, hfound]
  simp [List.mergeSort, List.MergeSort.Internal.splitInTwo]

/-- A disk with the tales. -/
def library : Disk := ⟨.folder [("tales", .folder tales)], "/"⟩

theorem find?_library :
    library.find? (Path.join library.current "tales") = .ok (.folder tales) := by
  have hpath : Path.join library.current "tales" = "/tales" := by decide +kernel
  have htop : Path.IsTop "/" "/tales" "tales" := by constructor <;> decide +kernel
  rw [hpath, Disk.find?, library, Disk.locate_top htop]
  rfl

/-- Of two stories of one name that with the smaller place is found. -/
theorem find_agrees_list_tales :
    (∃ output, CommandLine.run (Disk.host (pure 0)) ["list", "--stories-dir", "tales"] "" library =
        (⟨output, 0⟩, library) ∧ Text.lines output =
          ["RESULT:OK", "STORY:intro|\"intro.yaml\"", "STORY:main|\"b.yaml/main.yml\"",
            "STORY:main|\"c/main.yaml\""]) ∧
      (StoryPlace.named "tales" "main").find Disk.files library =
        (.ok (.ofText "/tales/b.yaml/main.yml" "sections: \x7b\x7d"), library) := by
  have hwords : Command.requestOf ["list", "--stories-dir", "tales"] =
      .ok ⟨"warn", .list "tales"⟩ := rfl
  obtain ⟨listed, output, hlists, hrun, -, -, hlines, hfinds⟩ :=
    find_agrees_list (show (Disk.host (pure 0)).files = Disk.files from rfl)
      (show Path.isAbsolute library.current = true by decide) find?_library sound_tales hwords rfl
      (show LogLevel.ofText "warn" = .ok .warn from rfl) ""
  obtain rfl := hlists.unique (lists_walk sound_tales)
  rw [shelved_tales] at hlines hfinds
  refine ⟨⟨output, hrun, (hlines (by decide)).trans (by decide +kernel)⟩, ?_⟩
  obtain ⟨found, text, hpath, htext, -, -, hstory, -⟩ :=
    (hfinds "main").first (List.singleton_append).symm (by decide)
  obtain rfl : some "sections: \x7b\x7d" = text := Tree.file.inj (Option.some.inj htext)
  obtain rfl : found = "/tales/b.yaml/main.yml" := hpath.trans (by decide +kernel)
  exact hstory

end Shelf

end Gamebook
