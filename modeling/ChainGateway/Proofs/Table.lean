import ChainGateway.Table

/-!
# Tables through their view

`find?` is the view through which tables are reasoned about.  This file says that the view
misses nothing: an entry is in a table exactly when its key is mapped to its value, because the
keys are distinct.  From this follow the view of a filtered table, and the view of a table that
was built by inserting one entry after another: each key is mapped to the last item that has it.
-/

namespace ChainGateway.Table

variable {κ α : Type}

/-- The entries of a table with the keys that pass a test. -/
theorem mem_entries_filter {table : Table κ α} {keep : κ → α → Bool} {entry : κ × α} :
    entry ∈ (table.filter keep).entries ↔
      entry ∈ table.entries ∧ keep entry.1 entry.2 = true :=
  List.mem_filter

theorem size_filter_le (table : Table κ α) (keep : κ → α → Bool) :
    (table.filter keep).size ≤ table.size :=
  List.length_filter_le _ _

/-- A table all of whose keys are the same has at most one entry. -/
theorem size_le_one {table : Table κ α}
    (hsame : ∀ first ∈ table.entries, ∀ second ∈ table.entries, first.1 = second.1) :
    table.size ≤ 1 := by
  have hdistinct := table.distinct
  unfold size
  match hentries : table.entries with
  | [] => exact Nat.zero_le 1
  | [entry] => exact Nat.le_refl 1
  | first :: second :: entries =>
      rw [hentries] at hsame hdistinct
      have hkey : first.1 = second.1 := hsame first (by simp) second (by simp)
      simp [hkey] at hdistinct

/-! ## The last item with a key -/

/-- The item is the last one of the list with the given key. -/
def LastWith {β : Type} (keyOf : β → κ) (items : List β) (key : κ) (item : β) : Prop :=
  ∃ earlier later, items = earlier ++ item :: later ∧ keyOf item = key ∧
    ∀ other ∈ later, keyOf other ≠ key

namespace LastWith

variable {β : Type} {keyOf : β → κ} {items : List β} {key : κ} {item : β}

theorem mem (hlast : LastWith keyOf items key item) : item ∈ items := by
  obtain ⟨earlier, later, rfl, -⟩ := hlast
  exact List.mem_append_right _ List.mem_cons_self

theorem key_eq (hlast : LastWith keyOf items key item) : keyOf item = key := by
  obtain ⟨-, -, -, hkey, -⟩ := hlast
  exact hkey

end LastWith

variable [DecidableEq κ]

/-! ## Entries and their values -/

theorem mem_entries_of_find? {table : Table κ α} {key : κ} {value : α}
    (hfind : table.find? key = some value) : (key, value) ∈ table.entries := by
  unfold find? at hfind
  obtain ⟨entry, hentry, rfl⟩ := Option.map_eq_some_iff.mp hfind
  have hkey : entry.1 = key := by simpa using List.find?_some hentry
  have hmem := List.mem_of_find?_eq_some hentry
  rwa [← hkey]

theorem find?_of_mem_entries {table : Table κ α} {key : κ} {value : α}
    (hmem : (key, value) ∈ table.entries) : table.find? key = some value := by
  have hdistinct := table.distinct
  unfold find?
  generalize table.entries = entries at hmem hdistinct
  induction entries with
  | nil => simp at hmem
  | cons entry entries ih =>
      rw [List.map_cons, List.nodup_cons] at hdistinct
      rcases List.mem_cons.mp hmem with rfl | hmem
      · simp
      · have hne : entry.1 ≠ key := by
          rintro rfl
          exact hdistinct.1 (List.mem_map.mpr ⟨_, hmem, rfl⟩)
        rw [List.find?_cons_of_neg (by simpa using hne)]
        exact ih hmem hdistinct.2

/-- An entry is in the table exactly when its key is mapped to its value. -/
theorem mem_entries_iff {table : Table κ α} {key : κ} {value : α} :
    (key, value) ∈ table.entries ↔ table.find? key = some value :=
  ⟨find?_of_mem_entries, mem_entries_of_find?⟩

theorem contains_eq_false_iff {table : Table κ α} {key : κ} :
    table.contains key = false ↔ table.find? key = none := by
  unfold contains
  rw [Option.isSome_eq_false_iff, Option.isNone_iff_eq_none]

/-- A table is empty exactly when no key is mapped to anything. -/
theorem size_eq_zero_iff {table : Table κ α} :
    table.size = 0 ↔ ∀ key, table.find? key = none := by
  unfold size
  rw [List.length_eq_zero_iff]
  constructor
  · intro hnil key
    simp [find?, hnil]
  · intro hnone
    refine List.eq_nil_iff_forall_not_mem.mpr fun entry hentry => ?_
    have hfind : table.find? entry.1 = some entry.2 := find?_of_mem_entries hentry
    rw [hnone] at hfind
    cases hfind

/-! ## Sizes -/

/-- Erasing a key that is mapped to something leaves fewer entries. -/
theorem size_erase_lt {table : Table κ α} {key : κ} (hcontains : table.contains key = true) :
    (table.erase key).size < table.size := by
  obtain ⟨value, hfind⟩ := Option.isSome_iff_exists.mp hcontains
  refine List.length_filter_lt_length_iff_exists.mpr ⟨_, mem_entries_of_find? hfind, ?_⟩
  simp

theorem size_insert (table : Table κ α) (key : κ) (value : α) :
    (table.insert key value).size = (table.erase key).size + 1 := by
  simp [size, insert]

/-- Inserting adds at most one entry. -/
theorem size_insert_le (table : Table κ α) (key : κ) (value : α) :
    (table.insert key value).size ≤ table.size + 1 := by
  rw [size_insert]
  exact Nat.succ_le_succ (table.size_filter_le _)

/-- Inserting under a key that is in use adds none. -/
theorem size_insert_le_of_contains {table : Table κ α} {key : κ} {value : α}
    (hcontains : table.contains key = true) : (table.insert key value).size ≤ table.size := by
  rw [size_insert]
  exact size_erase_lt hcontains

/-! ## The view of a filtered table -/

/-- What is under a key of a filtered table is what was there, if it passes the test. -/
theorem find?_filter (table : Table κ α) (keep : κ → α → Bool) (key : κ) :
    (table.filter keep).find? key = (table.find? key).filter (keep key) := by
  apply Option.ext
  intro value
  rw [Option.filter_eq_some_iff, ← mem_entries_iff, mem_entries_filter, mem_entries_iff]

/-! ## The view of a table built from a list -/

/-- Of several items with one key the last one counts, and each counts more than what was in the
table before. -/
theorem find?_foldl_insert {β : Type} (keyOf : β → κ) (valueOf : β → α) (items : List β)
    (table : Table κ α) (key : κ) :
    (items.foldl (fun table item => table.insert (keyOf item) (valueOf item)) table).find? key =
      ((items.reverse.find? fun item => keyOf item = key).map valueOf).or (table.find? key) := by
  induction items generalizing table with
  | nil => rfl
  | cons item items ih =>
      rw [List.foldl_cons, ih, List.reverse_cons, List.find?_append, Option.map_or,
        Option.or_assoc, find?_insert]
      -- Whatever follows the first item overwrites it, so it is looked at last.
      congr 1
      by_cases hkey : keyOf item = key
      · simp [hkey]
      · have hne : key ≠ keyOf item := fun heq => hkey heq.symm
        simp [hkey, hne]

theorem find?_reverse_eq_some_iff {β : Type} {keyOf : β → κ} {items : List β} {key : κ}
    {item : β} :
    (items.reverse.find? fun item => keyOf item = key) = some item ↔
      LastWith keyOf items key item := by
  unfold LastWith
  rw [List.find?_eq_some_iff_append]
  constructor
  · rintro ⟨hkey, later, earlier, hitems, hlater⟩
    -- from the end backwards, what comes before the item stands behind it
    have hsplit : items = earlier.reverse ++ item :: later.reverse := by
      rw [← List.reverse_reverse items, hitems]
      simp
    refine ⟨_, _, hsplit, of_decide_eq_true hkey, fun other hother => ?_⟩
    simpa using hlater other (List.mem_reverse.mp hother)
  · rintro ⟨earlier, later, rfl, hkey, hlater⟩
    refine ⟨decide_eq_true hkey, later.reverse, earlier.reverse, by simp, fun other hother => ?_⟩
    simpa using hlater other (List.mem_reverse.mp hother)

/-- If any item has the key, there is a last one that has it. -/
theorem exists_lastWith {β : Type} (keyOf : β → κ) {items : List β} {item : β}
    (hmem : item ∈ items) : ∃ last, LastWith keyOf items (keyOf item) last := by
  have hfind : (items.reverse.find? fun other => keyOf other = keyOf item).isSome = true :=
    List.find?_isSome.mpr ⟨item, List.mem_reverse.mpr hmem, by simp⟩
  obtain ⟨last, hfind⟩ := Option.isSome_iff_exists.mp hfind
  exact ⟨last, find?_reverse_eq_some_iff.mp hfind⟩

section Built

variable {β : Type} {keyOf : β → κ} {valueOf : β → α} {items : List β} {key : κ}

/-- A key of a table built from a list is mapped to what the last item with that key gives. -/
theorem find?_built_eq_some_iff {value : α} :
    (items.foldl (fun table item => table.insert (keyOf item) (valueOf item))
      Table.empty).find? key = some value ↔
        ∃ item, LastWith keyOf items key item ∧ valueOf item = value := by
  rw [find?_foldl_insert, find?_empty, Option.or_none, Option.map_eq_some_iff]
  simp only [find?_reverse_eq_some_iff]

/-- A key of a table built from a list is mapped to nothing if no item has it. -/
theorem find?_built_eq_none_iff :
    (items.foldl (fun table item => table.insert (keyOf item) (valueOf item))
      Table.empty).find? key = none ↔ ∀ item ∈ items, keyOf item ≠ key := by
  rw [find?_foldl_insert, find?_empty, Option.or_none, Option.map_eq_none_iff,
    List.find?_eq_none]
  simp

/-- Whatever is under a key of a table built from a list comes from an item with that key. -/
theorem exists_of_find?_foldl_insert {value : α}
    (hfind : (items.foldl (fun table item => table.insert (keyOf item) (valueOf item))
      Table.empty).find? key = some value) :
    ∃ item ∈ items, keyOf item = key ∧ valueOf item = value := by
  obtain ⟨item, hlast, hvalue⟩ := find?_built_eq_some_iff.mp hfind
  exact ⟨item, hlast.mem, hlast.key_eq, hvalue⟩

end Built

end ChainGateway.Table
