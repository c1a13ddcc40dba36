import Mathlib.Data.List.Sort
import Mathlib.Data.Set.Card
import Orthography.Flag.Set

/-!
# Sets of flags are told by their members

A strictly ascending list is determined by its members, so two sets of flags are equal as soon as
they contain the same flags.  Unions and subsets obey the laws of sets for that reason alone.
-/

namespace Orthography
namespace FlagSet

variable {a b c : FlagSet} {flag : Flag} {flags : List Flag}

theorem eq_of_contains_iff (h : ∀ flag, a.contains flag ↔ b.contains flag) : a = b := by
  have htoList : a.toList = b.toList := by
    refine a.ascending.eq_of_mem_iff b.ascending fun flag ↦ ?_
    rw [← contains_iff_mem, ← contains_iff_mem]
    exact h flag
  cases a
  cases b
  simp_all

theorem contains_ofList_iff : (ofList flags).contains flag ↔ flag ∈ flags := by
  rw [contains_ofList, List.contains_iff_mem]

/-- Collecting sorts the flags and leaves out what is there twice. -/
theorem toList_ofList_eq (flags : List Flag) :
    (ofList flags).toList = (flags.mergeSort (· ≤ ·)).dedup := by
  have hascending : (flags.mergeSort (· ≤ ·)).dedup.Pairwise (· < ·) :=
    ((List.sortedLE_mergeSort.pairwise.sublist (List.dedup_sublist _)).and
      (List.nodup_dedup _)).imp fun hboth ↦ Nat.lt_of_le_of_ne hboth.1 hboth.2
  refine (ofList flags).ascending.eq_of_mem_iff hascending fun flag ↦ ?_
  rw [← contains_iff_mem, contains_ofList_iff, List.mem_dedup, List.mem_mergeSort]

theorem contains_union_iff : (a.union b).contains flag ↔ a.contains flag ∨ b.contains flag := by
  rw [contains_union, Bool.or_eq_true]

/-- Each set is collected from its own members. -/
theorem ofList_toList (a : FlagSet) : ofList a.toList = a :=
  eq_of_contains_iff fun _ ↦ contains_ofList_iff.trans contains_iff_mem.symm

theorem union_eq_ofList (a b : FlagSet) : a.union b = ofList (a.toList ++ b.toList) := by
  apply eq_of_contains_iff
  intro flag
  rw [contains_union_iff, contains_ofList_iff, List.mem_append, contains_iff_mem, contains_iff_mem]

theorem parse_eq_ok_iff {mode : FlagMode} {text : Text} :
    parse mode text = .ok a ↔ ∃ flags, mode.parse text = .ok flags ∧ ofList flags = a := by
  rw [parse]
  cases mode.parse text <;> simp [Except.map]

theorem union_comm (a b : FlagSet) : a.union b = b.union a := by
  apply eq_of_contains_iff
  intro flag
  rw [contains_union_iff, contains_union_iff, or_comm]

theorem union_assoc (a b c : FlagSet) : (a.union b).union c = a.union (b.union c) := by
  apply eq_of_contains_iff
  intro flag
  rw [contains_union_iff, contains_union_iff, contains_union_iff, contains_union_iff, or_assoc]

theorem isSubset_iff : a.isSubset b ↔ ∀ flag, a.contains flag → b.contains flag := by
  rw [isSubset, List.all_eq_true]
  simp only [contains_iff_mem]

theorem union_self (a : FlagSet) : a.union a = a := by
  apply eq_of_contains_iff
  intro flag
  rw [contains_union_iff, or_self]

/-- A set takes in nothing new from its subsets, and from them alone. -/
theorem isSubset_iff_union_eq : a.isSubset b ↔ a.union b = b := by
  rw [isSubset_iff]
  constructor
  · intro h
    apply eq_of_contains_iff
    intro flag
    rw [contains_union_iff, or_iff_right_of_imp (h flag)]
  · intro h flag hflag
    rw [← h, contains_union_iff]
    exact Or.inl hflag

theorem size_eq_ncard (a : FlagSet) : a.size = {flag | a.contains flag}.ncard := by
  have hmembers : {flag | a.contains flag} = (a.toList.toFinset : Set Flag) := by
    ext flag
    rw [Set.mem_ofPred_eq, contains_iff_mem, List.coe_toFinset, Set.mem_ofPred_eq]
  rw [hmembers, Set.ncard_coe_finset, List.toFinset_card_of_nodup a.ascending.nodup, size]

/-- What is collected from a list is strictly ascending and contains just what the list does, and
all sets come about in this way; equality, union, subset and size are those of the sets of their
members. -/
theorem told_by_members (flags : List Flag) (a b c : FlagSet) :
    ((ofList flags).toList.Pairwise (· < ·) ∧
      ∀ flag, (ofList flags).contains flag ↔ flag ∈ flags) ∧
    (ofList a.toList = a ∧ a.union b = ofList (a.toList ++ b.toList) ∧
      ∀ mode text, parse mode text = .ok a ↔
        ∃ read, mode.parse text = .ok read ∧ ofList read = a) ∧
    (a = b ↔ ∀ flag, a.contains flag ↔ b.contains flag) ∧
    ((∀ flag, (a.union b).contains flag ↔ a.contains flag ∨ b.contains flag) ∧
      a.union b = b.union a ∧ (a.union b).union c = a.union (b.union c) ∧ a.union a = a) ∧
    ((a.isSubset b ↔ ∀ flag, a.contains flag → b.contains flag) ∧
      (a.isSubset b ↔ a.union b = b)) ∧
    (a.size = {flag | a.contains flag}.ncard ∧ (ofList flags).size = flags.dedup.length) := by
  refine ⟨⟨(ofList flags).ascending, fun _ ↦ contains_ofList_iff⟩,
    ⟨ofList_toList a, union_eq_ofList a b, fun _ _ ↦ parse_eq_ok_iff⟩, ?_,
    ⟨fun _ ↦ contains_union_iff, union_comm a b, union_assoc a b c, union_self a⟩,
    ⟨isSubset_iff, isSubset_iff_union_eq⟩, size_eq_ncard a, ?_⟩
  · exact ⟨fun h flag ↦ by rw [h], eq_of_contains_iff⟩
  · rw [size, toList_ofList_eq]
    exact (List.mergeSort_perm flags _).dedup.length_eq

end FlagSet
end Orthography
