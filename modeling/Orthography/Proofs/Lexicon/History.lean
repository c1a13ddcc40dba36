import Mathlib.Data.List.Dedup
import Mathlib.Data.List.Induction
import Orthography.Proofs.Lexicon.Initials

/-!
# The history of a lexicon

A lexicon is changed by adding entries and by removing entries of one stem.  The same changes can
be made to a plain list, which adds at its end and deletes.  After any history the lexicon answers
as the list does: a look-up is the part of the list with that stem, in order, and stems and first
letters are counted as they stand in the list.
-/

namespace Orthography
namespace Lexicon

inductive Change where
  | add (entry : Entry)
  | remove (stem : Text)
  | removeMatching (stem : Text) (p : Entry → Bool)

namespace Change

/-- A change of a lexicon, and the number that it tells; adding an entry tells none. -/
def onLexicon (lexicon : Lexicon) : Change → Lexicon × Nat
  | add entry => (lexicon.add entry, 0)
  | remove stem => lexicon.remove stem
  | removeMatching stem p => lexicon.removeMatching stem p

def adds : Change → List Entry
  | add entry => [entry]
  | remove _ => []
  | removeMatching .. => []

def deletes : Change → Entry → Bool
  | add _, _ => false
  | remove stem, entry => entry.stem = stem
  | removeMatching stem p, entry => entry.stem = stem && p entry

/-- The same change of a list, and the number of entries that it deletes. -/
def onList (entries : List Entry) (change : Change) : List Entry × Nat :=
  let kept := entries.filter fun entry ↦ !change.deletes entry
  (kept ++ change.adds, entries.length - kept.length)

end Change

/-- The lexicon after some changes of the empty one. -/
def after (changes : List Change) : Lexicon :=
  changes.foldl (fun lexicon change ↦ (change.onLexicon lexicon).1) empty

def entriesAfter (changes : List Change) : List Entry :=
  changes.foldl (fun entries change ↦ (change.onList entries).1) []

/-- The stems of some entries, each of them once. -/
def stemsOf (entries : List Entry) : List Text := (entries.map (·.stem)).dedup

/-- A lexicon answers as a list of entries does. -/
structure Refines (lexicon : Lexicon) (entries : List Entry) : Prop where
  lookup : ∀ stem, lexicon.lookup stem = entries.filter (·.stem = stem)
  contains : ∀ stem, lexicon.contains stem ↔ lexicon.lookup stem ≠ []
  size : lexicon.size = (stemsOf entries).length
  isEmpty : lexicon.isEmpty ↔ entries = []
  mayBegin : ∀ c, lexicon.mayBegin c ↔ ∃ entry ∈ entries, entry.stem.head? = some c
  /-- No stem is kept without entries. -/
  nonempty : ∀ (stem : Text) (list : List Entry), lexicon.homonyms[stem]? = some list → list ≠ []
  initials : ∀ c, lexicon.initials.getD c 0 = (stemsOf entries).countP (·.head? = some c)
  /-- As long as one of its stems may go, there is something to take off the count of a letter. -/
  positive : ∀ c rest, lexicon.contains (c :: rest) → 0 < lexicon.initials.getD c 0

variable {lexicon : Lexicon} {entries : List Entry}

theorem mem_stemsOf {stem : Text} :
    stem ∈ stemsOf entries ↔ ∃ entry ∈ entries, entry.stem = stem := by
  rw [stemsOf, List.mem_dedup, List.mem_map]

theorem nodup_stemsOf : (stemsOf entries).Nodup := List.nodup_dedup _

theorem keptCount_getD (n : Nat) : (keptCount n).getD 0 = n := by
  cases n <;> rfl

/-! ## One change -/

section Step

variable (h : ∀ stem, lexicon.lookup stem = entries.filter (·.stem = stem))
include h

theorem lookup_removeMatching_eq_filter (stem other : Text) (p : Entry → Bool) :
    (lexicon.removeMatching other p).1.lookup stem =
      (entries.filter fun entry ↦ !(entry.stem = other && p entry)).filter (·.stem = stem) := by
  rw [lookup_removeMatching, h]
  split
  · rename_i hstem
    rw [List.filter_filter, List.filter_filter]
    refine List.filter_congr fun entry _ ↦ ?_
    by_cases hentry : entry.stem = stem <;> simp [hentry, hstem]
  · rename_i hstem
    rw [List.filter_filter]
    refine List.filter_congr fun entry _ ↦ ?_
    by_cases hentry : entry.stem = stem <;> simp [hentry, Ne.symm hstem]

theorem lookup_onLexicon (change : Change) (stem : Text) :
    (change.onLexicon lexicon).1.lookup stem =
      (change.onList entries).1.filter (·.stem = stem) := by
  cases change with
  | add entry =>
      rw [Change.onLexicon, lookup_add, h]
      by_cases hstem : entry.stem = stem <;>
        simp [Change.onList, Change.deletes, Change.adds, hstem]
  | remove other =>
      have hremove := lookup_removeMatching_eq_filter h stem other fun _ ↦ true
      simpa [Change.onLexicon, Change.onList, Change.deletes, Change.adds, remove] using hremove
  | removeMatching other p =>
      have hremove := lookup_removeMatching_eq_filter h stem other p
      simpa [Change.onLexicon, Change.onList, Change.deletes, Change.adds] using hremove

/-- A removal tells how many entries leave the list. -/
theorem told_onLexicon (change : Change) :
    (change.onLexicon lexicon).2 = (change.onList entries).2 := by
  have hdeleted : (change.onList entries).2 = entries.countP change.deletes := by
    simp only [Change.onList]
    rw [← List.countP_eq_length_filter, List.length_eq_countP_add_countP change.deletes]
    simp
  rw [hdeleted]
  cases change with
  | add entry => exact (List.countP_eq_zero.2 fun _ _ ↦ Bool.false_ne_true).symm
  | remove stem =>
      rw [Change.onLexicon, remove, removeMatching_snd, h, List.countP_filter]
      exact List.countP_congr fun entry _ ↦ by simp [Change.deletes]
  | removeMatching stem p =>
      rw [Change.onLexicon, removeMatching_snd, h, List.countP_filter]
      exact List.countP_congr fun entry _ ↦ by simp [Change.deletes, and_comm]

end Step

/-! ## Whole histories -/

theorem built_after (changes : List Change) : (after changes).Built := by
  refine List.foldlRecOn changes _ .empty fun lexicon hlexicon change _ ↦ ?_
  cases change with
  | add entry => exact hlexicon.add entry
  | remove stem => exact hlexicon.removeMatching stem fun _ ↦ true
  | removeMatching stem p => exact hlexicon.removeMatching stem p

theorem lookup_after (changes : List Change) (stem : Text) :
    (after changes).lookup stem = (entriesAfter changes).filter (·.stem = stem) := by
  induction changes using List.reverseRecOn generalizing stem with
  | nil => simp [after, entriesAfter]
  | append_singleton changes change ih =>
      simp only [after, entriesAfter, List.foldl_append, List.foldl_cons, List.foldl_nil]
      exact lookup_onLexicon ih change stem

section Answers

variable (hbuilt : lexicon.Built)
  (h : ∀ stem, lexicon.lookup stem = entries.filter (·.stem = stem))
include hbuilt h

theorem contains_iff_mem_stemsOf (stem : Text) :
    lexicon.contains stem ↔ stem ∈ stemsOf entries := by
  rw [hbuilt.contains_iff, h, mem_stemsOf, Ne, List.filter_eq_nil_iff]
  simp

theorem size_eq_length_stemsOf : lexicon.size = (stemsOf entries).length := by
  rw [size, ← Std.ExtTreeMap.length_keys]
  apply List.Perm.length_eq
  apply (List.perm_ext_iff_of_nodup Std.ExtTreeMap.nodup_keys nodup_stemsOf).2
  intro stem
  rw [Std.ExtTreeMap.mem_keys]
  exact contains_iff_mem_stemsOf hbuilt h stem

/-- The counts were taken of some list of all stems, and any two such lists agree. -/
theorem getD_initials (c : Char) :
    lexicon.initials.getD c 0 = (stemsOf entries).countP (·.head? = some c) := by
  obtain ⟨stems, hdistinct, hstems, hcount⟩ := hbuilt.counted
  have hperm : stems.Perm (stemsOf entries) := by
    apply (List.perm_ext_iff_of_nodup hdistinct nodup_stemsOf).2
    intro stem
    rw [← hstems, contains_iff_mem_stemsOf hbuilt h]
  rw [Std.ExtTreeMap.getD_eq_getD_getElem?, hcount, hperm.countP_eq, keptCount_getD]

theorem mayBegin_iff_exists_mem (c : Char) :
    lexicon.mayBegin c ↔ ∃ entry ∈ entries, entry.stem.head? = some c := by
  rw [hbuilt.mayBegin_iff]
  constructor
  · rintro ⟨rest, hknown⟩
    rw [contains_iff_mem_stemsOf hbuilt h] at hknown
    obtain ⟨entry, hentry, hstem⟩ := mem_stemsOf.1 hknown
    exact ⟨entry, hentry, by rw [hstem, List.head?_cons]⟩
  · rintro ⟨entry, hentry, hhead⟩
    obtain ⟨rest, hstem⟩ := List.head?_eq_some_iff.1 hhead
    refine ⟨rest, ?_⟩
    rw [contains_iff_mem_stemsOf hbuilt h]
    exact mem_stemsOf.2 ⟨entry, hentry, hstem⟩

theorem refines_of_lookup_eq : lexicon.Refines entries where
  lookup := h
  contains _ := hbuilt.contains_iff
  size := size_eq_length_stemsOf hbuilt h
  isEmpty := by
    have hsize := size_eq_length_stemsOf hbuilt h
    rw [size] at hsize
    rw [isEmpty, Std.ExtTreeMap.isEmpty_eq_size_beq_zero, hsize, beq_iff_eq,
      List.length_eq_zero_iff, stemsOf, List.dedup_eq_nil, List.map_eq_nil_iff]
  mayBegin := mayBegin_iff_exists_mem hbuilt h
  nonempty stem list hlist := by
    have hlookup : lexicon.lookup stem = list := by
      rw [Lexicon.lookup, Std.ExtTreeMap.getD_eq_getD_getElem?, hlist, Option.getD_some]
    have hknown : lexicon.contains stem := by
      rw [Lexicon.contains, Std.ExtTreeMap.contains_eq_isSome_getElem?, hlist, Option.isSome_some]
    rwa [hbuilt.contains_iff, hlookup] at hknown
  initials := getD_initials hbuilt h
  positive c rest hknown := by
    rw [getD_initials hbuilt h, List.countP_pos_iff]
    exact ⟨c :: rest, (contains_iff_mem_stemsOf hbuilt h _).1 hknown, by simp⟩

end Answers

/-- After any history the lexicon answers as the list does, and so does the next change. -/
theorem refines_after (changes : List Change) :
    (after changes).Refines (entriesAfter changes) ∧
      ∀ change : Change,
        (change.onLexicon (after changes)).2 = (change.onList (entriesAfter changes)).2 :=
  have hlookup := lookup_after changes
  ⟨refines_of_lookup_eq (built_after changes) hlookup, told_onLexicon hlookup⟩

end Lexicon
end Orthography
