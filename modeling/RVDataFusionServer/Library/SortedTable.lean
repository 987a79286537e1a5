import Mathlib.Data.List.Sort
import Mathlib.Order.Defs.Unbundled
import Mathlib.Tactic.SplitIfs

/-!
# Tables sorted by their keys

An ordered map as the list of its entries, with ascending keys. `find` reads a key (`valueOf` does
so in any list of entries), `insert` writes one, and `mapEntries` replaces values in place. A table
is determined by what is found in it (`SortedTable.ext_find`).
-/

namespace Library

/-- The value of a key in a list of entries: that of the first one. -/
def valueOf {κ ν : Type*} [DecidableEq κ] (entries : List (κ × ν)) (key : κ) : Option ν :=
  entries.lookup key

section

variable {κ ν : Type*} [DecidableEq κ]

@[simp] theorem valueOf_nil (key : κ) : valueOf ([] : List (κ × ν)) key = none := rfl

/-- The first entry comes first. -/
theorem valueOf_cons (entry : κ × ν) (rest : List (κ × ν)) (key : κ) :
    valueOf (entry :: rest) key = if key = entry.1 then some entry.2 else valueOf rest key := by
  rw [valueOf, List.lookup_cons]
  by_cases h : key = entry.1
  · rw [beq_iff_eq.mpr h, if_pos h]
  · rw [beq_eq_false_iff_ne.mpr h, if_neg h]
    rfl

theorem valueOf_append (first second : List (κ × ν)) (key : κ) :
    valueOf (first ++ second) key = (valueOf first key).or (valueOf second key) :=
  List.lookup_append

/-- A key has a value if it is the key of an entry. -/
theorem mem_keys_iff {entries : List (κ × ν)} {key : κ} :
    key ∈ entries.map Prod.fst ↔ (valueOf entries key).isSome := by
  rw [valueOf, List.lookup_isSome_iff, List.mem_map]
  simp only [beq_iff_eq, eq_comm (b := key)]

/-- The value of a key behind a change of all values. -/
theorem valueOf_map {entries : List (κ × ν)} (change : κ → ν → ν) (key : κ) :
    valueOf (entries.map fun entry => (entry.1, change entry.1 entry.2)) key =
      (valueOf entries key).map (change key) := by
  induction entries with
  | nil => rfl
  | cons entry rest ih =>
      rw [List.map_cons, valueOf_cons, valueOf_cons, ih]
      by_cases h : key = entry.1
      · rw [if_pos h, if_pos h, h]
        rfl
      · rw [if_neg h, if_neg h]

/-- The value of a key among those that some of the keys are given. -/
theorem valueOf_filterMap (keys : List κ) (value? : κ → Option ν) (key : κ) :
    valueOf (keys.filterMap fun key => (value? key).map fun value => (key, value)) key =
      if key ∈ keys then value? key else none := by
  induction keys with
  | nil => rfl
  | cons first rest ih =>
      by_cases h : key = first
      · subst h
        cases hvalue : value? key with
        | none =>
            rw [List.filterMap_cons_none (by rw [hvalue]; rfl), ih, hvalue]
            simp
        | some value =>
            rw [List.filterMap_cons_some (by rw [hvalue]; rfl), valueOf_cons, if_pos rfl,
              if_pos List.mem_cons_self]
      · have hmem : key ∈ first :: rest ↔ key ∈ rest := by simp [h]
        simp only [hmem]
        rw [← ih]
        cases hvalue : value? first with
        | none => rw [List.filterMap_cons_none (by rw [hvalue]; rfl)]
        | some value =>
            rw [List.filterMap_cons_some (by rw [hvalue]; rfl), valueOf_cons, if_neg h]

end

/-- Entries with ascending keys. -/
structure SortedTable (κ ν : Type*) [LT κ] where
  entries : List (κ × ν)
  sorted : (entries.map Prod.fst).Pairwise (· < ·)

namespace SortedTable

variable {κ ν : Type*} [LT κ]

/-- The table without entries. -/
def empty : SortedTable κ ν := ⟨[], .nil⟩

/-- Replaces the values of a table, all at once. -/
def mapEntries (table : SortedTable κ ν) (update : List (κ × ν) → List (κ × ν))
    (hkeys : ∀ entries, (update entries).map Prod.fst = entries.map Prod.fst) :
    SortedTable κ ν :=
  ⟨update table.entries, (hkeys table.entries).symm ▸ table.sorted⟩

variable [DecidableEq κ] {key other : κ} {value : ν}

/-- The value of a key. -/
def find (table : SortedTable κ ν) (key : κ) : Option ν := valueOf table.entries key

@[simp] theorem find_empty : (empty : SortedTable κ ν).find key = none := rfl

section Find

variable [Std.Irrefl fun a b : κ => a < b]

/-- An entry of a table is what is found. -/
theorem mem_entries_iff {table : SortedTable κ ν} :
    (key, value) ∈ table.entries ↔ table.find key = some value := by
  obtain ⟨entries, hsorted⟩ := table
  show _ ↔ valueOf entries key = some value
  induction entries with
  | nil => simp
  | cons entry rest ih =>
      obtain ⟨k, v⟩ := entry
      obtain ⟨hfirst, hrest⟩ := List.pairwise_cons.mp hsorted
      by_cases hkey : key = k
      · have habsent : (key, value) ∉ rest := fun hmem =>
          irrefl_of (· < ·) k (hkey ▸ hfirst key (List.mem_map_of_mem (f := Prod.fst) hmem))
        rw [hkey] at habsent ⊢
        rw [valueOf_cons, if_pos rfl]
        simp [habsent, eq_comm]
      · rw [valueOf_cons, if_neg hkey, ← ih hrest]
        simp [hkey]

/-- Tables in which the same is found are the same. -/
theorem ext_find [IsTrans κ (· < ·)] {first second : SortedTable κ ν}
    (h : ∀ key, first.find key = second.find key) : first = second := by
  have hnodup : ∀ t : SortedTable κ ν, t.entries.Nodup := fun t => by
    refine List.Nodup.of_map Prod.fst (t.sorted.imp fun {a b} hlt heq => ?_)
    exact irrefl_of (· < ·) b (heq ▸ hlt)
  have hperm : first.entries.Perm second.entries := by
    refine (List.perm_ext_iff_of_nodup (hnodup first) (hnodup second)).mpr fun ⟨key, value⟩ => ?_
    rw [mem_entries_iff, mem_entries_iff, h]
  have heq : first.entries = second.entries := by
    have hsorted : ∀ t : SortedTable κ ν, t.entries.Pairwise fun a b => a.1 < b.1 := fun t =>
      List.pairwise_map.mp t.sorted
    refine List.Perm.eq_of_pairwise ?_ (hsorted first) (hsorted second) hperm
    intro a b _ _ hab hba
    exact absurd (trans_of (· < ·) hab hba) (irrefl_of (· < ·) a.1)
  cases first
  cases second
  congr

end Find

variable [DecidableLT κ]

/-- Writes a key into a list with ascending keys. -/
def insertEntry (key : κ) (value : ν) : List (κ × ν) → List (κ × ν)
  | [] => [(key, value)]
  | entry :: rest =>
      if key < entry.1 then (key, value) :: entry :: rest
      else if key = entry.1 then (key, value) :: rest
      else entry :: insertEntry key value rest

/-- A key that is written is one of the keys. -/
theorem mem_keys_insertEntry {entries : List (κ × ν)} :
    other ∈ (insertEntry key value entries).map Prod.fst ↔
      other = key ∨ other ∈ entries.map Prod.fst := by
  induction entries with
  | nil => simp [insertEntry]
  | cons entry rest ih =>
      unfold insertEntry
      split_ifs with hlt heq
      · simp
      · simp [heq]
      · simp only [List.map_cons, List.mem_cons, ih]
        exact or_left_comm

/-- What is found behind a write. -/
theorem valueOf_insertEntry (entries : List (κ × ν)) :
    valueOf (insertEntry key value entries) other =
      if other = key then some value else valueOf entries other := by
  induction entries with
  | nil => exact valueOf_cons _ _ _
  | cons entry rest ih =>
      unfold insertEntry
      by_cases hlt : key < entry.1
      · rw [if_pos hlt]
        exact valueOf_cons _ _ _
      by_cases heq : key = entry.1
      · rw [if_neg hlt, if_pos heq, valueOf_cons, valueOf_cons, heq]
        by_cases hkey : other = entry.1
        · rw [if_pos hkey, if_pos hkey]
        · rw [if_neg hkey, if_neg hkey, if_neg hkey]
      · rw [if_neg hlt, if_neg heq, valueOf_cons, valueOf_cons, ih]
        by_cases hkey : other = key
        · rw [hkey, if_neg heq, if_pos rfl, if_pos rfl]
        · rw [if_neg hkey, if_neg hkey]

section Order

variable [IsTrans κ (· < ·)] [Std.Trichotomous fun a b : κ => a < b]

/-- Writing keeps the keys in order. -/
theorem sorted_insertEntry {entries : List (κ × ν)}
    (h : (entries.map Prod.fst).Pairwise (· < ·)) :
    ((insertEntry key value entries).map Prod.fst).Pairwise (· < ·) := by
  induction entries with
  | nil => exact List.pairwise_singleton _ _
  | cons entry rest ih =>
      obtain ⟨hfirst, hrest⟩ := List.pairwise_cons.mp h
      unfold insertEntry
      split_ifs with hlt heq
      · refine List.pairwise_cons.mpr ⟨fun k hk => ?_, h⟩
        rcases List.mem_cons.mp hk with rfl | hk
        · exact hlt
        · exact trans_of (· < ·) hlt (hfirst k hk)
      · refine List.pairwise_cons.mpr ⟨fun k hk => ?_, hrest⟩
        rw [heq]
        exact hfirst k hk
      · refine List.pairwise_cons.mpr ⟨fun k hk => ?_, ih hrest⟩
        rcases mem_keys_insertEntry.mp hk with rfl | hk
        · rcases trichotomous_of (· < ·) k entry.1 with hless | hequal | hgreater
          · exact absurd hless hlt
          · exact absurd hequal heq
          · exact hgreater
        · exact hfirst k hk

/-- Writes a key. -/
def insert (table : SortedTable κ ν) (key : κ) (value : ν) : SortedTable κ ν :=
  ⟨insertEntry key value table.entries, sorted_insertEntry table.sorted⟩

/-- What is found behind a write. -/
@[simp] theorem find_insert {table : SortedTable κ ν} :
    (table.insert key value).find other = if other = key then some value else table.find other :=
  valueOf_insertEntry table.entries

end Order

end SortedTable

end Library
