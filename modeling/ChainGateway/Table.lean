/-!
# Tables

A table keeps at most one value for each key.  It is a list of entries with distinct keys, and
the distinctness is part of the table, so no operation can lose it.  `find?` is the view through
which tables are reasoned about: the lemmas say what each operation does to it.  The order of
the entries is the order in which they were last written; nothing depends on it.
-/

namespace ChainGateway

/-- A list of entries with distinct keys. -/
structure Table (κ α : Type) where
  entries : List (κ × α)
  distinct : (entries.map Prod.fst).Nodup

namespace Table

variable {κ α : Type}

/-- The table without entries. -/
def empty : Table κ α := ⟨[], List.nodup_nil⟩

instance : Inhabited (Table κ α) := ⟨empty⟩

/-- The number of entries. -/
def size (table : Table κ α) : Nat := table.entries.length

/-- Has the table no entries? -/
def isEmpty (table : Table κ α) : Bool := table.entries.isEmpty

/-- The keys of the entries. -/
def keys (table : Table κ α) : List κ := table.entries.map Prod.fst

/-- The entries that pass a test. -/
def filter (table : Table κ α) (keep : κ → α → Bool) : Table κ α where
  entries := table.entries.filter fun entry => keep entry.1 entry.2
  distinct := table.distinct.sublist (List.Sublist.map Prod.fst List.filter_sublist)

variable [DecidableEq κ]

/-- The value under a key. -/
def find? (table : Table κ α) (key : κ) : Option α :=
  (table.entries.find? fun entry => entry.1 = key).map Prod.snd

/-- Is there an entry under the key? -/
def contains (table : Table κ α) (key : κ) : Bool :=
  (table.find? key).isSome

/-- The table without the entry under a key. -/
def erase (table : Table κ α) (key : κ) : Table κ α :=
  table.filter fun other _ => decide (other ≠ key)

/-- The table with a value under a key, in the place of any other. -/
def insert (table : Table κ α) (key : κ) (value : α) : Table κ α where
  entries := (table.erase key).entries ++ [(key, value)]
  distinct := by
    rw [List.map_append]
    refine List.nodup_append.2 ⟨(table.erase key).distinct, by simp, ?_⟩
    intro other hother last hlast
    obtain ⟨entry, hentry, rfl⟩ := List.mem_map.1 hother
    have hlast : last = key := by simpa using hlast
    have hkept := (List.mem_filter.1 hentry).2
    simpa [hlast] using hkept

/-! ## What the operations do to the view -/

@[simp] theorem find?_empty (key : κ) : (empty : Table κ α).find? key = none := rfl

@[simp] theorem find?_erase (table : Table κ α) (key other : κ) :
    (table.erase key).find? other = if other = key then none else table.find? other := by
  simp only [find?, erase, filter]
  generalize table.entries = entries
  induction entries with
  | nil => split <;> rfl
  | cons entry entries ih =>
      by_cases hkey : entry.1 = key
      · by_cases hother : other = key
        · simp_all
        · have : entry.1 ≠ other := fun h => hother (h ▸ hkey)
          simp_all
      · by_cases hother : entry.1 = other
        · simp_all
        · simp_all

@[simp] theorem find?_insert (table : Table κ α) (key other : κ) (value : α) :
    (table.insert key value).find? other =
      if other = key then some value else table.find? other := by
  have herase := find?_erase table key other
  unfold find? at herase ⊢
  unfold insert
  by_cases hother : other = key
  · rw [if_pos hother] at herase ⊢
    rw [List.find?_append, Option.map_eq_none_iff.1 herase]
    simp [hother]
  · rw [if_neg hother] at herase ⊢
    rw [List.find?_append, Option.map_or, herase]
    have : ¬ key = other := fun h => hother h.symm
    simp [this]

end Table

end ChainGateway
