import Mathlib.Data.List.Nodup

/-!
# Ordered tables

Finite tables in the order in which their keys came.  Setting a key that is there keeps its
place, and a key that was taken out comes back last.
-/

/-- A table; a key has one entry. -/
structure OrderedTable (α β : Type*) where
  entries : List (α × β)
  nodup : (entries.map Prod.fst).Nodup

namespace OrderedTable

variable {α β : Type*}

def empty : OrderedTable α β := ⟨[], List.nodup_nil⟩

instance : Inhabited (OrderedTable α β) := ⟨empty⟩

def keys (table : OrderedTable α β) : List α := table.entries.map Prod.fst

/-- How many keys there are. -/
def size (table : OrderedTable α β) : ℕ := table.entries.length

/-- The entries that satisfy a condition, in their order. -/
def filter (table : OrderedTable α β) (keep : α → β → Bool) : OrderedTable α β where
  entries := table.entries.filter fun entry => keep entry.1 entry.2
  nodup := (List.filter_sublist.map _).nodup table.nodup

variable [DecidableEq α]

def get (table : OrderedTable α β) (key : α) : Option β :=
  (table.entries.find? fun entry => decide (entry.1 = key)).map Prod.snd

def erase (table : OrderedTable α β) (key : α) : OrderedTable α β :=
  table.filter fun other _ => decide (other ≠ key)

/-- The entries after a key is set. -/
def setEntries (entries : List (α × β)) (key : α) (value : β) : List (α × β) :=
  if key ∈ entries.map Prod.fst then
    entries.map fun entry => if entry.1 = key then (key, value) else entry
  else entries ++ [(key, value)]

theorem keys_setEntries (entries : List (α × β)) (key : α) (value : β) :
    (setEntries entries key value).map Prod.fst =
      if key ∈ entries.map Prod.fst then entries.map Prod.fst
      else entries.map Prod.fst ++ [key] := by
  unfold setEntries
  split
  · rw [List.map_map]
    refine List.map_congr_left fun entry _ => ?_
    by_cases hkey : entry.1 = key
    · simp [hkey]
    · simp [hkey]
  · rw [List.map_append]
    rfl

def set (table : OrderedTable α β) (key : α) (value : β) : OrderedTable α β where
  entries := setEntries table.entries key value
  nodup := by
    rw [keys_setEntries]
    split
    · exact table.nodup
    · rename_i hnew
      refine List.Nodup.append table.nodup (List.nodup_singleton _) ?_
      intro other hother hkey
      exact hnew (List.mem_singleton.mp hkey ▸ hother)

section Results

variable {table : OrderedTable α β} {key other : α} {value found : β}

/-! ### Entries -/

theorem mem_entries_iff : (key, value) ∈ table.entries ↔ table.get key = some value := by
  unfold get
  constructor
  · intro hmem
    cases hfind : table.entries.find? fun entry => decide (entry.1 = key) with
    | none =>
      have habsent := List.find?_eq_none.mp hfind _ hmem
      exact absurd (decide_eq_true rfl) habsent
    | some entry =>
      have hkey := List.find?_some hfind
      rw [decide_eq_true_iff] at hkey
      rw [List.inj_on_of_nodup_map table.nodup (List.mem_of_find?_eq_some hfind) hmem hkey]
      rfl
  · intro hget
    obtain ⟨entry, hfind, rfl⟩ := Option.map_eq_some_iff.mp hget
    have hkey := List.find?_some hfind
    rw [decide_eq_true_iff] at hkey
    subst hkey
    exact List.mem_of_find?_eq_some hfind

theorem mem_keys_iff : key ∈ table.keys ↔ ∃ value, table.get key = some value := by
  unfold keys
  rw [List.mem_map]
  constructor
  · rintro ⟨entry, hmem, rfl⟩
    exact ⟨entry.2, mem_entries_iff.mp hmem⟩
  · rintro ⟨value, hget⟩
    exact ⟨_, mem_entries_iff.mpr hget, rfl⟩

theorem mem_filter_iff {keep : α → β → Bool} : (table.filter keep).get key = some value ↔
    table.get key = some value ∧ keep key value = true := by
  rw [← mem_entries_iff, ← mem_entries_iff]
  exact List.mem_filter

theorem mem_erase_iff : (table.erase key).get other = some value ↔
    other ≠ key ∧ table.get other = some value := by
  unfold erase
  rw [mem_filter_iff, decide_eq_true_iff]
  exact and_comm

theorem mem_set_iff : (table.set key value).get other = some found ↔
    other = key ∧ found = value ∨ other ≠ key ∧ table.get other = some found := by
  rw [← mem_entries_iff, ← mem_entries_iff]
  show (other, found) ∈ setEntries table.entries key value ↔ _
  unfold setEntries
  split
  · rename_i hthere
    rw [List.mem_map]
    constructor
    · rintro ⟨entry, hmem, hentry⟩
      split at hentry
      · cases hentry
        exact Or.inl ⟨rfl, rfl⟩
      · rename_i hkey
        subst hentry
        exact Or.inr ⟨hkey, hmem⟩
    · rintro (⟨rfl, rfl⟩ | ⟨hkey, hmem⟩)
      · obtain ⟨entry, hmem, hkey⟩ := List.mem_map.mp hthere
        exact ⟨entry, hmem, if_pos hkey⟩
      · exact ⟨_, hmem, if_neg hkey⟩
  · rename_i hnew
    rw [List.mem_append, List.mem_singleton, Prod.mk.injEq]
    constructor
    · rintro (hmem | hentry)
      · refine Or.inr ⟨?_, hmem⟩
        rintro rfl
        exact hnew (List.mem_map_of_mem hmem)
      · exact Or.inl hentry
    · rintro (hentry | ⟨-, hmem⟩)
      · exact Or.inr hentry
      · exact Or.inl hmem

/-! ### Reading -/

@[simp] theorem get_empty : (empty : OrderedTable α β).get key = none := rfl

theorem get_set (table : OrderedTable α β) (key other : α) (value : β) :
    (table.set key value).get other = if other = key then some value else table.get other := by
  refine Option.ext fun found => ?_
  rw [mem_set_iff]
  split
  · rename_i hkey
    simp [hkey, eq_comm]
  · rename_i hkey
    simp [hkey]

@[simp] theorem get_set_same (table : OrderedTable α β) (key : α) (value : β) :
    (table.set key value).get key = some value := by
  rw [get_set, if_pos rfl]

theorem get_set_of_ne (hne : other ≠ key) : (table.set key value).get other = table.get other := by
  rw [get_set, if_neg hne]

theorem get_erase (table : OrderedTable α β) (key other : α) :
    (table.erase key).get other = if other = key then none else table.get other := by
  refine Option.ext fun found => ?_
  rw [mem_erase_iff]
  split
  · rename_i hkey
    simp [hkey]
  · rename_i hkey
    simp [hkey]

@[simp] theorem get_erase_same (table : OrderedTable α β) (key : α) :
    (table.erase key).get key = none := by
  rw [get_erase, if_pos rfl]

theorem get_erase_of_ne (hne : other ≠ key) : (table.erase key).get other = table.get other := by
  rw [get_erase, if_neg hne]

/-- Taking out a key that is not there changes nothing. -/
theorem erase_of_absent (habsent : table.get key = none) : table.erase key = table := by
  obtain ⟨entries, nodup⟩ := table
  have hentries : entries.filter (fun entry => decide (entry.1 ≠ key)) = entries := by
    refine List.filter_eq_self.mpr fun entry hentry => decide_eq_true fun hkey => ?_
    have hthere : entry.1 ∈ (⟨entries, nodup⟩ : OrderedTable α β).keys :=
      List.mem_map_of_mem hentry
    obtain ⟨value, hget⟩ := mem_keys_iff.mp hthere
    rw [hkey, habsent] at hget
    cases hget
  unfold erase filter
  simp only [hentries]

/-! ### Counting -/

omit [DecidableEq α] in
@[simp] theorem size_empty : (empty : OrderedTable α β).size = 0 := rfl

omit [DecidableEq α] in
theorem size_filter_le (keep : α → β → Bool) : (table.filter keep).size ≤ table.size :=
  List.length_filter_le _ _

theorem size_set_of_new (hnew : table.get key = none) :
    (table.set key value).size = table.size + 1 := by
  have hkeys : key ∉ table.entries.map Prod.fst := by
    intro hmem
    obtain ⟨found, hget⟩ := mem_keys_iff.mp hmem
    rw [hnew] at hget
    cases hget
  show (setEntries table.entries key value).length = table.entries.length + 1
  rw [setEntries, if_neg hkeys, List.length_append]
  rfl

theorem size_set_of_some (hthere : table.get key = some found) :
    (table.set key value).size = table.size := by
  have hkeys : key ∈ table.entries.map Prod.fst := mem_keys_iff.mpr ⟨found, hthere⟩
  show (setEntries table.entries key value).length = table.entries.length
  rw [setEntries, if_pos hkeys, List.length_map]

theorem size_set_le : (table.set key value).size ≤ table.size + 1 := by
  cases hget : table.get key with
  | none => exact Nat.le_of_eq (size_set_of_new hget)
  | some found =>
    rw [size_set_of_some hget]
    exact Nat.le_succ _

/-- Taking out a key that is there makes the table smaller. -/
theorem size_erase_lt (hthere : table.get key = some value) :
    (table.erase key).size < table.size := by
  refine List.length_filter_lt_length_iff_exists.mpr ⟨(key, value), mem_entries_iff.mpr hthere, ?_⟩
  simp

end Results

end OrderedTable
