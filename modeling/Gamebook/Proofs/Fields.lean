import Gamebook.Fields

/-!
# Laws of named entries

`Fields` as finite maps: what each operation does to a look-up and to the list of names. A list
written by `insert` is `Ascending`: its names grow from entry to entry, so none occurs twice.

* `Fields.find?_modify`, `Fields.find?_mapped` : changing values changes no name.
* `Fields.ascending_sorted`, `Fields.sorted_of_ascending` : `sorted` sorts, and leaves alone what is
  sorted.
* `Fields.find?_sorted` : sorting distinct names keeps every look-up.
* `Fields.nodup_names_put` : `put` never writes a name twice.
-/

namespace Gamebook

namespace Fields

variable {α β : Type}

/-! ## Look-ups and names -/

@[simp] theorem names_nil : names ([] : Fields α) = [] := rfl

@[simp] theorem names_cons (key : String) (value : α) (rest : Fields α) :
    names ((key, value) :: rest) = key :: names rest := rfl

theorem mem_of_find? {name : String} {value : α} {entries : Fields α}
    (h : find? name entries = some value) : (name, value) ∈ entries := by
  induction entries with
  | nil => cases h
  | cons entry rest ih =>
    obtain ⟨key, old⟩ := entry
    rw [find?_cons] at h
    split at h
    · next hk =>
      cases h
      exact hk ▸ List.mem_cons_self
    · exact List.mem_cons_of_mem _ (ih h)

theorem find?_eq_none_iff {name : String} {entries : Fields α} :
    find? name entries = none ↔ name ∉ names entries := by
  induction entries with
  | nil => simp
  | cons entry rest ih =>
    obtain ⟨key, old⟩ := entry
    rw [find?_cons, names_cons, List.mem_cons, not_or, ← ih]
    by_cases hk : key = name
    · simp [hk]
    · simp [hk, Ne.symm hk]

/-- A name is there exactly if it is among the names. -/
theorem has_iff {name : String} {entries : Fields α} :
    has name entries = true ↔ name ∈ names entries := by
  rw [has, Option.isSome_iff_ne_none, ne_eq, find?_eq_none_iff, Decidable.not_not]

theorem has_eq_isSome (name : String) (entries : Fields α) :
    has name entries = (find? name entries).isSome := rfl

/-- Where no name occurs twice, every entry is the one that a look-up finds. -/
theorem find?_of_mem {name : String} {value : α} {entries : Fields α}
    (hn : (names entries).Nodup) (h : (name, value) ∈ entries) :
    find? name entries = some value := by
  induction entries with
  | nil => cases h
  | cons entry rest ih =>
    obtain ⟨key, old⟩ := entry
    obtain ⟨hkey, hrest⟩ := List.nodup_cons.mp hn
    rw [find?_cons]
    rcases List.mem_cons.mp h with heq | hmem
    · cases heq
      rw [if_pos rfl]
    · have hne : key ≠ name := by
        rintro rfl
        exact hkey (List.mem_map.mpr ⟨_, hmem, rfl⟩)
      rw [if_neg hne]
      exact ih hrest hmem

theorem find?_append (name : String) (a b : Fields α) :
    find? name (a ++ b) = (find? name a).or (find? name b) := by
  induction a with
  | nil => rfl
  | cons entry rest ih =>
    obtain ⟨key, value⟩ := entry
    rw [List.cons_append, find?_cons, find?_cons, ih]
    split <;> rfl

theorem mem_names_reverse {name : String} {entries : Fields α} :
    name ∈ names entries.reverse ↔ name ∈ names entries := by
  rw [names, List.map_reverse, List.mem_reverse, names]

/-- Where no name occurs twice, the order is of no matter to look-ups. -/
theorem find?_reverse (name : String) {entries : Fields α} (hn : (names entries).Nodup) :
    find? name entries.reverse = find? name entries := by
  cases h : find? name entries with
  | none => rwa [find?_eq_none_iff, mem_names_reverse, ← find?_eq_none_iff]
  | some value =>
    refine find?_of_mem ?_ (List.mem_reverse.mpr (mem_of_find? h))
    rw [names, List.map_reverse]
    exact List.pairwise_reverse.mpr (hn.imp Ne.symm)

/-- Looking up a table of the values that names have. -/
theorem find?_table (f : String → α) (name : String) (keys : List String) :
    find? name (keys.map (fun key => (key, f key))) =
      if name ∈ keys then some (f name) else none := by
  induction keys with
  | nil => rfl
  | cons key rest ih =>
    rw [List.map_cons, find?_cons, ih]
    by_cases hk : key = name
    · simp [hk]
    · simp [hk, Ne.symm hk]

/-! ## Changing values -/

/-- Changing the values of one name changes what it reads as, and nothing else. -/
theorem find?_modify (name other : String) (f : α → α) (entries : Fields α) :
    find? other (modify name f entries) =
      if other = name then (find? other entries).map f else find? other entries := by
  induction entries with
  | nil => simp [modify]
  | cons entry rest ih =>
    obtain ⟨key, old⟩ := entry
    simp only [modify, List.map_cons] at ih ⊢
    by_cases hk : key = name
    · subst hk
      by_cases ho : key = other
      · simp [find?_cons, ho]
      · simp [find?_cons, ho, Ne.symm ho, ih]
    · by_cases ho : key = other
      · subst ho
        simp [find?_cons, hk]
      · simp [find?_cons, hk, ho, ih]

theorem find?_modify_self (name : String) (f : α → α) (entries : Fields α) :
    find? name (modify name f entries) = (find? name entries).map f := by
  rw [find?_modify, if_pos rfl]

theorem has_modify (name other : String) (f : α → α) (entries : Fields α) :
    has other (modify name f entries) = has other entries := by
  rw [has_eq_isSome, has_eq_isSome, find?_modify]
  split
  · exact Option.isSome_map
  · rfl

theorem modify_absent {name : String} {entries : Fields α} (h : has name entries = false)
    (f : α → α) : modify name f entries = entries := by
  have hnames : name ∉ names entries := by
    rw [← has_iff, h]
    exact Bool.false_ne_true
  refine (List.map_congr_left fun entry hmem => ?_).trans (List.map_id _)
  rw [if_neg]
  · rfl
  · rintro rfl
    exact hnames (List.mem_map.mpr ⟨entry, hmem, rfl⟩)

/-- What reads the same before and after a change reads the same in all entries. -/
theorem map_modify {γ : Type} (name : String) {f : α → α} {view : α → γ}
    (h : ∀ value, view (f value) = view value) (entries : Fields α) :
    (modify name f entries).map (fun entry => (entry.1, view entry.2)) =
      entries.map (fun entry => (entry.1, view entry.2)) := by
  rw [modify, List.map_map]
  apply List.map_congr_left
  intro entry _
  simp only [Function.comp_apply]
  split
  · rw [h]
  · rfl

/-- Changing every value by its name keeps the names. -/
theorem find?_mapped (f : String → α → β) (name : String) (entries : Fields α) :
    find? name (entries.map (fun entry => (entry.1, f entry.1 entry.2))) =
      (find? name entries).map (f name) := by
  induction entries with
  | nil => rfl
  | cons entry rest ih =>
    obtain ⟨key, old⟩ := entry
    rw [List.map_cons, find?_cons, find?_cons, ih]
    split
    · next hk => rw [hk, Option.map_some]
    · rfl

theorem names_mapped (f : String → α → β) (entries : Fields α) :
    names (entries.map (fun entry => (entry.1, f entry.1 entry.2))) = names entries := by
  simp [names, List.map_map, Function.comp_def]

/-! ## Some of the entries -/

theorem nodup_names_filter {entries : Fields α} (hn : (names entries).Nodup)
    (p : String × α → Bool) : (names (entries.filter p)).Nodup :=
  hn.sublist (List.filter_sublist.map _)

/-- Where no name occurs twice, dropping entries drops their look-ups. -/
theorem find?_filter (p : α → Bool) (name : String) {entries : Fields α}
    (hn : (names entries).Nodup) :
    find? name (entries.filter (fun entry => p entry.2)) = (find? name entries).filter p := by
  induction entries with
  | nil => rfl
  | cons entry rest ih =>
    obtain ⟨key, value⟩ := entry
    obtain ⟨hkey, hrest⟩ := List.nodup_cons.mp hn
    rw [List.filter_cons, find?_cons]
    by_cases hk : key = name
    · subst hk
      have hgone : find? key rest = none := find?_eq_none_iff.mpr hkey
      cases hp : p value
      · simp [ih hrest, hgone, Option.filter, hp]
      · simp [find?_cons, Option.filter, hp]
    · cases hp : p value <;> simp [find?_cons, hk, ih hrest]

/-! ## Writing in place -/

theorem mem_names_put {name other : String} {value : α} {entries : Fields α} :
    other ∈ names (put name value entries) ↔ other = name ∨ other ∈ names entries := by
  induction entries with
  | nil => simp [put]
  | cons entry rest ih =>
    obtain ⟨key, old⟩ := entry
    simp only [put]
    split
    · next hk => simp [hk]
    · rw [names_cons, names_cons, List.mem_cons, List.mem_cons, ih]
      exact or_left_comm

/-- `put` never writes a name twice. -/
theorem nodup_names_put (name : String) (value : α) {entries : Fields α}
    (h : (names entries).Nodup) : (names (put name value entries)).Nodup := by
  induction entries with
  | nil => simp [put]
  | cons entry rest ih =>
    obtain ⟨key, old⟩ := entry
    obtain ⟨hkey, hrest⟩ := List.nodup_cons.mp h
    simp only [put]
    split
    · next hk => exact hk ▸ h
    · next hk =>
      refine List.nodup_cons.mpr ⟨fun hmem => ?_, ih hrest⟩
      exact (mem_names_put.mp hmem).elim hk hkey

theorem mem_put {name : String} {value : α} {entries : Fields α} {entry : String × α}
    (h : entry ∈ put name value entries) : entry = (name, value) ∨ entry ∈ entries := by
  induction entries with
  | nil => simpa [put] using h
  | cons head rest ih =>
    obtain ⟨key, old⟩ := head
    simp only [put] at h
    split at h
    · rcases List.mem_cons.mp h with heq | hmem
      · exact .inl heq
      · exact .inr (List.mem_cons_of_mem _ hmem)
    · rcases List.mem_cons.mp h with heq | hmem
      · exact .inr (heq ▸ List.mem_cons_self)
      · exact (ih hmem).imp_right (List.mem_cons_of_mem _)

/-! ## Sorting -/

/-- The names grow from entry to entry. -/
def Ascending (entries : Fields α) : Prop := entries.Pairwise (fun a b => a.1 < b.1)

instance (entries : Fields α) : Decidable (Ascending entries) :=
  inferInstanceAs (Decidable (entries.Pairwise (fun a b => a.1 < b.1)))

theorem Ascending.nodup_names {entries : Fields α} (h : Ascending entries) :
    (names entries).Nodup := by
  refine List.pairwise_map.mpr (h.imp fun {a b} hab heq => ?_)
  rw [heq] at hab
  exact String.lt_irrefl _ hab

theorem mem_insert {name : String} {value : α} {entries : Fields α} {entry : String × α}
    (h : entry ∈ insert name value entries) : entry = (name, value) ∨ entry ∈ entries := by
  induction entries with
  | nil => simpa [insert] using h
  | cons head rest ih =>
    obtain ⟨key, old⟩ := head
    simp only [insert] at h
    split at h
    · rcases List.mem_cons.mp h with heq | hmem
      · exact .inl heq
      · exact .inr (List.mem_cons_of_mem _ hmem)
    · split at h
      · rcases List.mem_cons.mp h with heq | hmem
        · exact .inl heq
        · exact .inr hmem
      · rcases List.mem_cons.mp h with heq | hmem
        · exact .inr (heq ▸ List.mem_cons_self)
        · exact (ih hmem).imp_right (List.mem_cons_of_mem _)

theorem ascending_insert (name : String) (value : α) {entries : Fields α}
    (h : Ascending entries) : Ascending (insert name value entries) := by
  induction entries with
  | nil => simp [insert, Ascending]
  | cons entry rest ih =>
    obtain ⟨key, old⟩ := entry
    obtain ⟨hkey, hrest⟩ := List.pairwise_cons.mp h
    simp only [insert]
    split
    · next hk =>
      subst hk
      exact List.pairwise_cons.mpr ⟨hkey, hrest⟩
    · next hk =>
      split
      · next hlt =>
        refine List.pairwise_cons.mpr ⟨fun entry hmem => ?_, h⟩
        rcases List.mem_cons.mp hmem with rfl | hmem
        · exact hlt
        · exact String.lt_trans hlt (hkey entry hmem)
      · next hge =>
        -- neither equal nor smaller: the new name is greater than the head
        have hlt : key < name := by
          refine Decidable.byContradiction fun hnot => hk ?_
          exact String.le_antisymm (String.not_lt.mp hge) (String.not_lt.mp hnot)
        refine List.pairwise_cons.mpr ⟨fun entry hmem => ?_, ih hrest⟩
        rcases mem_insert hmem with rfl | hmem
        · exact hlt
        · exact hkey entry hmem

private theorem ascending_foldl (entries : Fields α) {acc : Fields α} (h : Ascending acc) :
    Ascending (entries.foldl (fun acc entry => insert entry.1 entry.2 acc) acc) := by
  induction entries generalizing acc with
  | nil => exact h
  | cons entry rest ih => exact ih (ascending_insert entry.1 entry.2 h)

theorem ascending_sorted (entries : Fields α) : Ascending (sorted entries) :=
  ascending_foldl entries List.Pairwise.nil

/-- A name greater than all others is written at the end. -/
private theorem insert_last {name : String} {value : α} {entries : Fields α}
    (h : ∀ entry ∈ entries, entry.1 < name) :
    insert name value entries = entries ++ [(name, value)] := by
  induction entries with
  | nil => rfl
  | cons entry rest ih =>
    obtain ⟨key, old⟩ := entry
    have hlt : key < name := h _ List.mem_cons_self
    have hne : key ≠ name := by
      rintro rfl
      exact String.lt_irrefl _ hlt
    simp only [insert, if_neg hne, if_neg (String.lt_asymm hlt), List.cons_append,
      ih fun entry hmem => h entry (List.mem_cons_of_mem _ hmem)]

private theorem foldl_insert_of_ascending {acc entries : Fields α}
    (h : Ascending (acc ++ entries)) :
    entries.foldl (fun acc entry => insert entry.1 entry.2 acc) acc = acc ++ entries := by
  induction entries generalizing acc with
  | nil => simp
  | cons entry rest ih =>
    obtain ⟨key, value⟩ := entry
    have hlast : insert key value acc = acc ++ [(key, value)] := by
      refine insert_last fun entry hmem => ?_
      exact (List.pairwise_append.mp h).2.2 entry hmem _ List.mem_cons_self
    rw [List.foldl_cons, hlast, ih (by simpa using h), List.append_assoc]
    rfl

/-- What is sorted stays as it is. -/
theorem sorted_of_ascending {entries : Fields α} (h : Ascending entries) :
    sorted entries = entries := by
  rw [sorted, foldl_insert_of_ascending (by simpa using h), List.nil_append]

theorem sorted_sorted (entries : Fields α) : sorted (sorted entries) = sorted entries :=
  sorted_of_ascending (ascending_sorted entries)

private theorem find?_foldl_insert (name : String) (entries acc : Fields α) :
    find? name (entries.foldl (fun acc entry => insert entry.1 entry.2 acc) acc) =
      (find? name entries.reverse).or (find? name acc) := by
  induction entries generalizing acc with
  | nil => rfl
  | cons entry rest ih =>
    obtain ⟨key, value⟩ := entry
    rw [List.foldl_cons, ih, find?_insert, List.reverse_cons, find?_append, find?_cons]
    cases find? name rest.reverse with
    | some other => rfl
    | none => split <;> rfl

/-- Of several entries with one name the last one is found in the sorted list. -/
theorem find?_sorted_last (name : String) (entries : Fields α) :
    find? name (sorted entries) = find? name entries.reverse := by
  rw [sorted, find?_foldl_insert]
  cases find? name entries.reverse <;> rfl

/-- Sorting entries with distinct names keeps every look-up. -/
theorem find?_sorted (name : String) {entries : Fields α} (hn : (names entries).Nodup) :
    find? name (sorted entries) = find? name entries := by
  rw [find?_sorted_last, find?_reverse name hn]

theorem mem_names_sorted {name : String} {entries : Fields α} :
    name ∈ names (sorted entries) ↔ name ∈ names entries := by
  rw [← Decidable.not_iff_not, ← find?_eq_none_iff, find?_sorted_last, find?_eq_none_iff,
    mem_names_reverse]

theorem sorted_ne_nil {entries : Fields α} (h : entries ≠ []) : sorted entries ≠ [] := by
  cases entries with
  | nil => exact absurd rfl h
  | cons entry rest =>
    intro hnil
    have hmem : entry.1 ∈ names (sorted (entry :: rest)) :=
      mem_names_sorted.mpr List.mem_cons_self
    rw [hnil] at hmem
    cases hmem

/-- Writing a name into a list that is then sorted changes no other look-up. -/
theorem find?_sorted_insert_of_ne {name other : String} (h : other ≠ name) (value : α)
    (entries : Fields α) :
    find? other (sorted (insert name value entries)) = find? other (sorted entries) := by
  rw [find?_sorted_last, find?_sorted_last]
  induction entries with
  | nil => simp [insert, find?_cons, Ne.symm h]
  | cons entry rest ih =>
    obtain ⟨key, old⟩ := entry
    simp only [insert]
    split
    · next hk =>
      subst hk
      simp [find?_append, find?_cons, Ne.symm h]
    · split
      · simp [find?_append, find?_cons, Ne.symm h]
      · rw [List.reverse_cons, List.reverse_cons, find?_append, find?_append, ih]

/-! ## Sorting and changing values -/

theorem insert_map {β : Type} (f : α → β) (name : String) (value : α) (entries : Fields α) :
    insert name (f value) (entries.map (fun entry => (entry.1, f entry.2))) =
      (insert name value entries).map (fun entry => (entry.1, f entry.2)) := by
  induction entries with
  | nil => rfl
  | cons entry rest ih =>
    obtain ⟨key, old⟩ := entry
    simp only [List.map_cons, insert, ih]
    split
    · rfl
    · split <;> rfl

/-- Changing values and sorting can be done in either order. -/
theorem sorted_map {β : Type} (f : α → β) (entries : Fields α) :
    sorted (entries.map (fun entry => (entry.1, f entry.2))) =
      (sorted entries).map (fun entry => (entry.1, f entry.2)) := by
  have hfold (acc : Fields α) :
      (entries.map (fun entry => (entry.1, f entry.2))).foldl
        (fun acc entry => insert entry.1 entry.2 acc)
        (acc.map (fun entry => (entry.1, f entry.2))) =
      (entries.foldl (fun acc entry => insert entry.1 entry.2 acc) acc).map
        (fun entry => (entry.1, f entry.2)) := by
    induction entries generalizing acc with
    | nil => rfl
    | cons entry rest ih =>
      rw [List.map_cons, List.foldl_cons, List.foldl_cons, ← ih, ← insert_map]
  exact hfold []

end Fields

end Gamebook
