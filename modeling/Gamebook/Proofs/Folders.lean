import Gamebook.Proofs.Disks
import Gamebook.Proofs.Pieces

/-!
# What is in a folder

The files of a folder and of the folders below it are found entry by entry, in the order of names.
So each of them is found once, and they come in the order of their places, compared name by name.
The path of a place, seen from a folder, leads to what is at the place.

* `Tree.Sound` : trees as disks have them.
* `Tree.Sound.mem_walk` : the places of all files, and no others.
* `Tree.Sound.ascending_walk` : the order of the places; none occurs twice.
* `Disk.find?_below` : the path of a place leads there.
-/

namespace Gamebook

/-- A name for a file or a folder: no path, and not one of those that stand for a folder. -/
structure Path.IsName (name : String) : Prop where
  full : name ≠ ""
  unbroken : '/' ∉ name.toList
  notHere : name ≠ "."
  notAbove : name ≠ ".."

instance (name : String) : Decidable (Path.IsName name) :=
  decidable_of_iff (name ≠ "" ∧ '/' ∉ name.toList ∧ name ≠ "." ∧ name ≠ "..")
    ⟨fun ⟨full, unbroken, notHere, notAbove⟩ => ⟨full, unbroken, notHere, notAbove⟩,
      fun h => ⟨h.full, h.unbroken, h.notHere, h.notAbove⟩⟩

namespace Tree

variable {tree : Tree} {entries : List (String × Tree)} {place : List String} {name : String}

/-- A tree as disks have them: the entries of every folder have names, grow from name to name, and
are such trees. -/
inductive Sound : Tree → Prop where
  | file (text : Option String) : Sound (.file text)
  | folder {entries : List (String × Tree)} (ascending : Fields.Ascending entries)
    (named : ∀ entry ∈ entries, Path.IsName entry.1)
    (inside : ∀ entry ∈ entries, Sound entry.2) : Sound (.folder entries)

/-! ## The walk through a tree -/

theorem mem_walkEntries : place ∈ walkEntries entries ↔
    ∃ entry ∈ entries, ∃ rest ∈ entry.2.walk, entry.1 :: rest = place := by
  induction entries with
  | nil => simp [walkEntries]
  | cons entry others ih =>
    obtain ⟨name, tree⟩ := entry
    simp only [walkEntries, List.mem_append, List.mem_map, ih, List.mem_cons, exists_eq_or_imp]

/-- What is in a folder comes where the name of the folder does. -/
theorem ascending_walkEntries (h : Fields.Ascending entries)
    (hinside : ∀ entry ∈ entries, entry.2.walk.Pairwise (· < ·)) :
    (walkEntries entries).Pairwise (· < ·) := by
  induction entries with
  | nil => exact .nil
  | cons entry others ih =>
    obtain ⟨name, tree⟩ := entry
    obtain ⟨hfirst, hothers⟩ := List.pairwise_cons.mp h
    obtain ⟨htree, hinside⟩ := List.forall_mem_cons.mp hinside
    rw [walkEntries, List.pairwise_append, List.pairwise_map]
    refine ⟨?_, ih hothers hinside, fun before hbefore after hafter => ?_⟩
    · exact htree.imp fun hlt => List.cons_lt_cons_iff.mpr (.inr ⟨rfl, hlt⟩)
    · obtain ⟨inside, -, rfl⟩ := List.mem_map.mp hbefore
      obtain ⟨entry, hentry, rest, -, rfl⟩ := mem_walkEntries.mp hafter
      exact List.cons_lt_cons_iff.mpr (.inl (hfirst entry hentry))

/-- In a folder without repeated names every entry is found under its name. -/
theorem find?_folder_eq_some {inner : Tree} (hnames : (Fields.names entries).Nodup)
    {rest : List String} : (folder entries).find? (name :: rest) = some inner ↔
      ∃ entry ∈ entries, entry.1 = name ∧ entry.2.find? rest = some inner := by
  rw [find?_folder_cons, Option.bind_eq_some_iff]
  constructor
  · rintro ⟨tree, htree, hinner⟩
    exact ⟨(name, tree), Fields.mem_of_find? htree, rfl, hinner⟩
  · rintro ⟨⟨key, tree⟩, hentry, rfl, hinner⟩
    exact ⟨tree, Fields.find?_of_mem hnames hentry, hinner⟩

namespace Sound

/-- The walk finds the places of all files, and no others. -/
theorem mem_walk (h : tree.Sound) :
    place ∈ tree.walk ↔ ∃ text, tree.find? place = some (.file text) := by
  induction h generalizing place with
  | file text => cases place <;> simp [walk, find?]
  | folder ascending _ _ ih =>
    cases place with
    | nil => simp [walk, mem_walkEntries, find?]
    | cons name rest =>
      rw [walk, mem_walkEntries]
      constructor
      · rintro ⟨entry, hentry, inside, hinside, heq⟩
        obtain ⟨rfl, rfl⟩ := List.cons.inj heq
        obtain ⟨text, htext⟩ := (ih entry hentry).mp hinside
        exact ⟨text, (find?_folder_eq_some ascending.nodup_names).mpr ⟨entry, hentry, rfl, htext⟩⟩
      · rintro ⟨text, htext⟩
        obtain ⟨entry, hentry, rfl, hrest⟩ :=
          (find?_folder_eq_some ascending.nodup_names).mp htext
        exact ⟨entry, hentry, rest, (ih entry hentry).mpr ⟨text, hrest⟩, rfl⟩

/-- The places grow, compared name by name. -/
theorem ascending_walk (h : tree.Sound) : tree.walk.Pairwise (· < ·) := by
  induction h with
  | file text => exact List.pairwise_singleton _ _
  | folder ascending _ _ ih => exact ascending_walkEntries ascending ih

/-- Places consist of names. -/
theorem isName_of_find? {inner : Tree} (h : tree.Sound) (hplace : tree.find? place = some inner) :
    ∀ name ∈ place, Path.IsName name := by
  induction h generalizing place with
  | file text =>
    cases place with
    | nil => exact fun name hname => by cases hname
    | cons => cases hplace
  | folder ascending named _ ih =>
    cases place with
    | nil => exact fun name hname => by cases hname
    | cons name rest =>
      obtain ⟨entry, hentry, rfl, hrest⟩ :=
        (find?_folder_eq_some ascending.nodup_names).mp hplace
      exact List.forall_mem_cons.mpr ⟨named entry hentry, ih entry hentry hrest⟩

end Sound

end Tree

/-! ## Paths of places -/

namespace Path

variable {folder path : String} {place : List String}

theorem names_append_slash (before behind : String) :
    names (before ++ "/" ++ behind) = names before ++ names behind := by
  have hchars : (before ++ "/" ++ behind).toList = before.toList ++ '/' :: behind.toList := by
    simp
  rw [names, hchars, Text.splitAt_append_cons rfl, List.map_append, List.filter_append]
  rfl

theorem isAbsolute_iff : isAbsolute path = true ↔ path.toList.head? = some '/' := by
  rw [isAbsolute, Text.startsWith, Text.afterStart?]
  change (Option.map _ (Text.afterStart?.go ['/'] path.toList)).isSome = true ↔ _
  cases path.toList with
  | nil => simp [Text.afterStart?.go]
  | cons c rest =>
    rw [Text.afterStart?.go, Option.isSome_map, List.head?_cons, Option.some_inj]
    by_cases hc : '/' = c
    · subst hc
      simp [Text.afterStart?.go]
    · simp [hc, Ne.symm hc]

/-- A path that does not start at the root goes on where the folder's path ends. -/
theorem join_eq (h : isAbsolute path = false) (folder : String) :
    ∃ start, join folder path = start ++ "/" ++ path ∧ names start = names folder := by
  rw [join, h, if_neg Bool.false_ne_true]
  split
  · next hend =>
    have hsuffix : "/".toList <:+ folder.toSlice.copy.toList :=
      String.Slice.endsWith_string_iff.mp hend
    rw [String.copy_toSlice] at hsuffix
    obtain ⟨start, hstart⟩ := hsuffix
    have hfolder : folder = String.ofList start ++ "/" := by
      rw [← String.toList_inj, String.toList_append, String.toList_ofList, ← hstart]
    refine ⟨String.ofList start, by rw [hfolder], ?_⟩
    have hnames := names_append_slash (String.ofList start) ""
    rw [String.append_empty, ← hfolder] at hnames
    rw [hnames]
    exact (List.append_nil _).symm
  · exact ⟨folder, rfl, rfl⟩

/-- The names of a place, without what is between them. -/
theorem splitAt_intercalate (hplace : place ≠ []) (h : ∀ name ∈ place, IsName name) :
    Text.splitAt (· == '/') ("/".intercalate place).toList = place.map String.toList := by
  induction place with
  | nil => exact absurd rfl hplace
  | cons name rest ih =>
    obtain ⟨hname, hrest⟩ := List.forall_mem_cons.mp h
    have hpiece := Text.splitAt_of_notMem hname.unbroken
    cases rest with
    | nil => rw [String.intercalate_singleton, hpiece]; rfl
    | cons next rest =>
      have hchars : ("/".intercalate (name :: next :: rest)).toList =
          name.toList ++ '/' :: ("/".intercalate (next :: rest)).toList := by
        simp [String.intercalate_cons_cons]
      rw [hchars, Text.splitAt_append_cons rfl, hpiece, ih (List.cons_ne_nil _ _) hrest]
      rfl

theorem names_intercalate (hplace : place ≠ []) (h : ∀ name ∈ place, IsName name) :
    names ("/".intercalate place) = place := by
  rw [names, splitAt_intercalate hplace h, List.map_map]
  have hsame : String.ofList ∘ String.toList = id := funext fun _ => String.ofList_toList
  rw [hsame, List.map_id, List.filter_eq_self]
  exact fun name hname => decide_eq_true ⟨(h name hname).full, (h name hname).notHere⟩

theorem isAbsolute_intercalate (hplace : place ≠ []) (h : ∀ name ∈ place, IsName name) :
    isAbsolute ("/".intercalate place) = false := by
  obtain ⟨name, rest, rfl⟩ := List.exists_cons_of_ne_nil hplace
  obtain ⟨hname, -⟩ := List.forall_mem_cons.mp h
  rw [Bool.eq_false_iff, ne_eq, isAbsolute_iff]
  intro hhead
  have hfirst : ("/".intercalate (name :: rest)).toList.head? = name.toList.head? := by
    cases rest with
    | nil => rw [String.intercalate_singleton]
    | cons next rest =>
      rw [String.intercalate_cons_cons, String.toList_append, String.toList_append]
      cases hchars : name.toList with
      | nil => exact absurd (String.toList_eq_nil_iff.mp hchars) hname.full
      | cons c cs => rfl
  exact hname.unbroken (List.mem_of_head? (hfirst.symm.trans hhead))

theorem names_join (hplace : place ≠ []) (h : ∀ name ∈ place, IsName name) (folder : String) :
    names (join folder ("/".intercalate place)) = names folder ++ place := by
  obtain ⟨start, hjoin, hstart⟩ := join_eq (isAbsolute_intercalate hplace h) folder
  rw [hjoin, names_append_slash, hstart, names_intercalate hplace h]

theorem leadsToFolder_join (hplace : place ≠ []) (h : ∀ name ∈ place, IsName name)
    (folder : String) : leadsToFolder (join folder ("/".intercalate place)) = false := by
  obtain ⟨start, hjoin, -⟩ := join_eq (isAbsolute_intercalate hplace h) folder
  have hlast := h _ (List.getLast_mem hplace)
  have hchars : (start ++ "/" ++ "/".intercalate place).toList =
      start.toList ++ '/' :: ("/".intercalate place).toList := by
    simp
  rw [leadsToFolder, hjoin, hchars, Text.splitAt_append_cons rfl, splitAt_intercalate hplace h,
    List.getLast?_append, List.getLast?_map, List.getLast?_eq_some_getLast hplace, Option.map_some,
    Option.some_or]
  split
  · next hnil => exact absurd (String.toList_eq_nil_iff.mp (Option.some.inj hnil)) hlast.full
  · next hdot => exact absurd (String.toList_inj.mp (Option.some.inj hdot)) hlast.notHere
  · rfl

theorem fileName?_join (hplace : place ≠ []) (h : ∀ name ∈ place, IsName name) (folder : String) :
    fileName? (join folder ("/".intercalate place)) = place.getLast? := by
  rw [fileName?, names_join hplace h, List.getLast?_append, List.getLast?_eq_some_getLast hplace,
    Option.some_or]
  exact if_neg (h _ (List.getLast_mem hplace)).notAbove

end Path

/-! ## Following paths downwards -/

namespace Disk

variable {disk : Disk} {folder : String} {tree found : Tree} {entries : List (String × Tree)}
  {place start reached : List String}

theorem follow_append (before after : List String)
    (h : disk.follow before start = .ok reached) :
    disk.follow (before ++ after) start = disk.follow after reached := by
  induction before generalizing start with
  | nil => rw [List.nil_append, Except.ok.inj h]
  | cons name rest ih =>
    rw [follow] at h
    rw [List.cons_append, follow]
    split at h
    · cases h
    · cases h
    · exact ih h

/-- The names of a place lead down to it. -/
theorem follow_down (hstart : disk.root.find? start = some tree)
    (hplace : tree.find? place = some found) (h : ∀ name ∈ place, Path.IsName name) :
    disk.follow place start = .ok (start ++ place) := by
  induction place generalizing start tree with
  | nil => rw [follow, List.append_nil]
  | cons name rest ih =>
    obtain ⟨hname, hrest⟩ := List.forall_mem_cons.mp h
    cases tree with
    | file text => cases hplace
    | folder entries =>
      rw [Tree.find?_folder_cons, Option.bind_eq_some_iff] at hplace
      obtain ⟨inner, hinner, hfound⟩ := hplace
      have hnext : disk.root.find? (start ++ [name]) = some inner := by
        rw [Tree.find?_append, hstart, Option.bind_some, Tree.find?_folder_cons, hinner]
        rfl
      rw [follow, hstart, if_neg hname.notAbove]
      exact (ih hnext hfound hrest).trans (by rw [List.append_assoc]; rfl)

theorem locate_of_isAbsolute (h : Path.isAbsolute folder = true) (disk : Disk) :
    disk.locate folder = disk.follow (Path.names folder) [] := by
  have hfull : folder ≠ "" := by
    rintro rfl
    exact absurd h (by decide)
  rw [locate, if_neg hfull, Path.join, if_pos h]

theorem locate_of_find? (h : disk.find? folder = .ok tree) :
    ∃ reached, disk.locate folder = .ok reached ∧ disk.root.find? reached = some tree := by
  rw [find?] at h
  split at h
  · cases h
  · next reached hreached =>
    refine ⟨reached, hreached, ?_⟩
    split at h
    · cases h
    · next hfound =>
      split at h
      · cases h
      · exact hfound.trans (congrArg some (Except.ok.inj h))
    · next hfound => exact hfound.trans (congrArg some (Except.ok.inj h))

/-- The path of a place in a folder leads to what is at the place. -/
theorem find?_below (habsolute : Path.isAbsolute folder = true)
    (hfolder : disk.find? folder = .ok tree) (hsound : tree.Sound) (hne : place ≠ [])
    (hplace : tree.find? place = some found) :
    disk.find? (Path.join folder ("/".intercalate place)) = .ok found := by
  have hnames := hsound.isName_of_find? hplace
  obtain ⟨reached, hreached, htree⟩ := locate_of_find? hfolder
  rw [locate_of_isAbsolute habsolute] at hreached
  have hlocate : disk.locate (Path.join folder ("/".intercalate place)) =
      .ok (reached ++ place) := by
    rw [locate_of_isAbsolute (Path.isAbsolute_join habsolute _), Path.names_join hne hnames,
      follow_append _ _ hreached, follow_down htree hplace hnames]
  have hfound : disk.root.find? (reached ++ place) = some found := by
    rw [Tree.find?_append, htree, Option.bind_some, hplace]
  rw [find?, hlocate]
  dsimp only
  rw [hfound]
  cases found with
  | folder entries => rfl
  | file text =>
    dsimp only
    rw [Path.leadsToFolder_join hne hnames, if_neg Bool.false_ne_true]

end Disk

end Gamebook
