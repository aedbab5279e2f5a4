/-
**What a stable sort depends on.**

The order is total and transitive, but two different elements may be as good as each other.

* `filter_mergeSort`: elements that are as good as each other keep their order.
* `mergeSort_cons_of_first`: what is before everything else comes first.
* `mergeSort_perm_iff`: **sorting forgets the order of a list** exactly when elements that are as good as
  each other are equal.
-/

import Mathlib.Data.List.Pairwise
import Mathlib.Tactic.Common

namespace Collections

variable {α : Type} {le : α → α → Bool} (trans : ∀ a b c, le a b = true → le b c = true → le a c = true)
  (total : ∀ a b, (le a b || le b a) = true)

include trans total

/-- Elements that are as good as each other keep their order. -/
theorem filter_mergeSort {keep : α → Bool} {items : List α}
    (tied : ∀ a b, keep a = true → keep b = true → le a b = true) :
    (items.mergeSort le).filter keep = items.filter keep := by
  have sorted : (items.filter keep).Pairwise fun a b => le a b = true :=
    List.pairwise_of_forall_mem_list fun a first b second =>
      tied a b (List.mem_filter.mp first).2 (List.mem_filter.mp second).2
  have inside : (items.filter keep).Sublist (items.mergeSort le) :=
    List.sublist_mergeSort trans total sorted List.filter_sublist
  have kept := inside.filter keep
  simp only [List.filter_filter, Bool.and_self] at kept
  exact (kept.eq_of_length ((List.mergeSort_perm items le).filter keep).length_eq.symm).symm

/-- What is before everything else comes first. -/
theorem mergeSort_cons_of_first {first : α} {items : List α}
    (before : ∀ item ∈ items, le first item = true) :
    (first :: items).mergeSort le = first :: items.mergeSort le := by
  obtain ⟨early, late, whole, rest, after⟩ := List.mergeSort_cons trans total first items
  cases early with
  | nil => rw [whole, rest, List.nil_append, List.nil_append]
  | cons item early =>
      have member : item ∈ items := by
        refine List.mem_mergeSort.mp (?_ : item ∈ items.mergeSort le)
        rw [rest]
        exact List.mem_cons_self
      have strictly := after item List.mem_cons_self
      rw [before item member] at strictly
      cases strictly

/-- **Sorting forgets the order of a list** exactly when ties are between equal elements. -/
theorem mergeSort_perm_iff {items : List α} :
    (∀ order : List α, order.Perm items → order.mergeSort le = items.mergeSort le) ↔
      items.Pairwise fun a b => le a b = true → le b a = true → a = b := by
  constructor
  · intro forgets
    refine List.pairwise_iff_forall_sublist.mpr fun {a b} inside before after => ?_
    obtain ⟨rest, whole⟩ := inside.exists_perm_append
    have swapped : (b :: a :: rest).Perm items := (List.Perm.swap a b rest).trans whole.symm
    have same := (forgets _ whole.symm).trans (forgets _ swapped).symm
    -- the elements tied with the first one stand in both sorted lists as they stood before
    let keep : α → Bool := fun c => le a c && le c a
    have tied : ∀ c d, keep c = true → keep d = true → le c d = true := by
      intro c d first second
      rw [Bool.and_eq_true] at first second
      exact trans c a d first.2 second.1
    have reflexive : le a a = true := by simpa using total a a
    have keeps : keep a = true ∧ keep b = true := by simp [keep, reflexive, before, after]
    have kept := congrArg (List.filter keep) same
    rw [filter_mergeSort trans total tied, filter_mergeSort trans total tied] at kept
    simp only [List.cons_append, List.nil_append, List.filter_cons, keeps.1, keeps.2, if_true] at kept
    exact (List.cons.inj kept).1
  · intro ties order same
    let tie (a b : α) : Prop := le a b = true → le b a = true → a = b
    have symmetric : Std.Symm tie := ⟨fun a b tied before after => (tied after before).symm⟩
    have equal : ∀ a ∈ items, ∀ b ∈ items, tie a b :=
      fun a first b second => List.Pairwise.forall_of_forall (fun _ _ _ _ => rfl) ties first second
    have sorted (order : List α) : (order.mergeSort le).Pairwise fun a b => le a b = true :=
      List.pairwise_mergeSort trans total order
    refine List.Perm.eq_of_pairwise ?_ (sorted order) (sorted items) ?_
    · intro a b first second
      exact equal a (same.mem_iff.mp (List.mem_mergeSort.mp first)) b (List.mem_mergeSort.mp second)
    · exact ((List.mergeSort_perm order le).trans same).trans (List.mergeSort_perm items le).symm

end Collections
