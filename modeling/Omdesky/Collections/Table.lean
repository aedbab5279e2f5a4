/-
**Finite tables.**

A `Table` is an association list without repeated keys. On top of what the library has for them:

* `Table.size`, with its bounds for insertion and `retain`.
* `Table.retain`: the entries that pass a test; `lookup_retain` says what a lookup then finds.
* `Table.count`: how many entries pass a test, and what insertion, removal and `retain` do to it.
-/

import Mathlib.Data.List.AList
import Mathlib.Tactic.Common

namespace Collections

/-- A finite table from keys to values. -/
abbrev Table (Key Value : Type) := AList fun _ : Key => Value

namespace Table

variable {Key Value : Type}

/-- The number of entries. -/
def size (table : Table Key Value) : Nat := table.entries.length

/-- The entries that pass the test. -/
def retain (keep : Key → Value → Bool) (table : Table Key Value) : Table Key Value where
  entries := table.entries.filter fun entry => keep entry.1 entry.2
  nodupKeys := List.NodupKeys.sublist List.filter_sublist table.nodupKeys

theorem mem_retain {keep : Key → Value → Bool} {table : Table Key Value}
    {entry : Σ _ : Key, Value} :
    entry ∈ (table.retain keep).entries ↔ entry ∈ table.entries ∧ keep entry.1 entry.2 = true :=
  List.mem_filter

theorem size_retain_le (keep : Key → Value → Bool) (table : Table Key Value) :
    (table.retain keep).size ≤ table.size :=
  List.length_filter_le _ _

/-- A table with one key at most. -/
theorem size_le_one {table : Table Key Value} {key : Key} (only : ∀ other ∈ table, other = key) :
    table.size ≤ 1 := by
  have inside : table.keys ⊆ [key] := fun other member => List.mem_singleton.mpr (only other member)
  have few := (List.subperm_of_subset table.keys_nodup inside).length_le
  rwa [AList.keys, List.keys, List.length_map] at few

/-- How many entries pass the test. -/
def count (test : Key → Value → Bool) (table : Table Key Value) : Nat :=
  table.entries.countP fun entry => test entry.1 entry.2

theorem count_retain_le (test keep : Key → Value → Bool) (table : Table Key Value) :
    (table.retain keep).count test ≤ table.count test :=
  List.filter_sublist.countP_le

/-- The entries left that pass the test pass both tests. -/
theorem count_retain (test keep : Key → Value → Bool) (table : Table Key Value) :
    (table.retain keep).count test = table.count fun key value => test key value && keep key value :=
  List.countP_filter

variable [DecidableEq Key]

theorem count_erase_le (test : Key → Value → Bool) (key : Key) (table : Table Key Value) :
    count test (table.erase key) ≤ table.count test :=
  (List.kerase_sublist _ _).countP_le

theorem count_insert_le (test : Key → Value → Bool) (key : Key) (value : Value)
    (table : Table Key Value) :
    count test (table.insert key value) ≤ table.count test + if test key value then 1 else 0 := by
  unfold count
  rw [AList.entries_insert, List.countP_cons]
  exact Nat.add_le_add_right (List.kerase_sublist _ _).countP_le _

/-- Tables that agree on the entries that pass the test have as many of them. -/
theorem count_congr {test : Key → Value → Bool} {first second : Table Key Value}
    (same : ∀ key value, test key value = true →
      (first.lookup key = some value ↔ second.lookup key = some value)) :
    first.count test = second.count test := by
  unfold count
  rw [List.countP_eq_length_filter, List.countP_eq_length_filter]
  refine List.Perm.length_eq ((List.perm_ext_iff_of_nodup (first.nodupKeys.nodup.filter _)
    (second.nodupKeys.nodup.filter _)).mpr ?_)
  rintro ⟨key, value⟩
  rw [List.mem_filter, List.mem_filter, and_congr_left_iff]
  intro passes
  rw [← AList.mem_lookup_iff, ← AList.mem_lookup_iff]
  exact same key value passes

theorem size_insert_le (key : Key) (value : Value) (table : Table Key Value) :
    size (table.insert key value) ≤ table.size + 1 := by
  unfold size
  rw [AList.entries_insert, List.length_cons]
  exact Nat.succ_le_succ (List.Sublist.length_le (List.kerase_sublist _ _))

/-- Overwriting an entry adds none. -/
theorem size_insert_of_lookup {key : Key} {table : Table Key Value} (value : Value)
    (present : (table.lookup key).isSome) : size (table.insert key value) = table.size := by
  unfold size
  rw [AList.entries_insert, List.length_cons]
  obtain ⟨_, before, after, _, entries, erased⟩ :=
    List.exists_of_kerase (AList.lookup_isSome.mp present)
  rw [erased, entries]
  simp only [List.length_append, List.length_cons]
  omega

/-- **A lookup after `retain`** finds the value there was, if it passes. -/
theorem lookup_retain (keep : Key → Value → Bool) (table : Table Key Value) (key : Key) :
    (table.retain keep).lookup key = (table.lookup key).filter (keep key) := by
  ext value
  rw [← Option.mem_def, ← Option.mem_def, AList.mem_lookup_iff, mem_retain, Option.mem_filter_iff,
    AList.mem_lookup_iff]

theorem lookup_retain_eq_some {keep : Key → Value → Bool} {table : Table Key Value} {key : Key}
    {value : Value} : (table.retain keep).lookup key = some value ↔
      table.lookup key = some value ∧ keep key value = true := by
  rw [lookup_retain, Option.filter_eq_some_iff]

/-- `retain` adds no key. -/
theorem mem_of_mem_retain {keep : Key → Value → Bool} {table : Table Key Value} {key : Key}
    (member : key ∈ table.retain keep) : key ∈ table := by
  rw [← AList.lookup_isSome, lookup_retain] at member
  exact AList.lookup_isSome.mp (Option.isSome_of_isSome_filter _ _ member)

end Table

end Collections
