import Mathlib.Data.List.Count
import Orthography.Proofs.Lexicon.Lookup

/-!
# The letters that stems begin with

A lexicon counts, for each letter, the stems that begin with it.  Through all changes the counts
stay right, so a letter has one exactly as long as some stem begins with it.
-/

namespace Orthography
namespace Lexicon

variable {lexicon : Lexicon} {stem : Text}

/-- The count of a letter; one that begins no stem is not kept. -/
def keptCount : Nat → Option Nat
  | 0 => none
  | n + 1 => some (n + 1)

theorem keptCount_isSome {n : Nat} : (keptCount n).isSome ↔ 0 < n := by
  cases n <;> simp [keptCount]

theorem getElem?_countUp {initials : Std.ExtTreeMap Char Nat} {c : Char} {n : Nat}
    (h : initials[c]? = keptCount n) :
    (countUp initials stem)[c]? = keptCount (n + if stem.head? = some c then 1 else 0) := by
  cases stem with
  | nil => exact h
  | cons d stem =>
      simp only [countUp, Std.ExtTreeMap.getElem?_alter, Std.LawfulEqOrd.compare_eq_iff_eq]
      split
      · rename_i hd
        subst hd
        rw [h]
        cases n <;> simp [keptCount]
      · rename_i hd
        simp [h, hd]

theorem getElem?_countDown {initials : Std.ExtTreeMap Char Nat} {c : Char} {n : Nat}
    (h : initials[c]? = keptCount n) :
    (countDown initials stem)[c]? = keptCount (n - if stem.head? = some c then 1 else 0) := by
  cases stem with
  | nil => exact h
  | cons d stem =>
      simp only [countDown, Std.ExtTreeMap.getElem?_alter, Std.LawfulEqOrd.compare_eq_iff_eq]
      split
      · rename_i hd
        subst hd
        rw [h]
        rcases n with _ | _ | n <;> simp [keptCount]
      · rename_i hd
        simp [h, hd]

/-- The counts are those of some list of all stems. -/
def Counted (lexicon : Lexicon) : Prop :=
  ∃ stems : List Text, stems.Nodup ∧ (∀ stem, lexicon.contains stem ↔ stem ∈ stems) ∧
    ∀ c, lexicon.initials[c]? = keptCount (stems.countP fun stem ↦ stem.head? = some c)

theorem counted_empty : empty.Counted := by
  refine ⟨[], List.nodup_nil, ?_, ?_⟩
  · simp [contains, empty]
  · simp [empty, keptCount]

theorem Counted.add (h : lexicon.Counted) (entry : Entry) : (lexicon.add entry).Counted := by
  obtain ⟨stems, hnodup, hmem, hcount⟩ := h
  by_cases hknown : lexicon.contains entry.stem
  · refine ⟨stems, hnodup, fun stem ↦ ?_, fun c ↦ ?_⟩
    · rw [contains_add, ← hmem]
      constructor
      · rintro (rfl | h)
        · exact hknown
        · exact h
      · exact Or.inr
    · simpa [Lexicon.add, hknown] using hcount c
  · refine ⟨entry.stem :: stems, List.nodup_cons.2 ⟨?_, hnodup⟩, fun stem ↦ ?_, fun c ↦ ?_⟩
    · rwa [← hmem]
    · rw [contains_add, List.mem_cons, hmem, eq_comm]
    · rw [List.countP_cons]
      simpa [Lexicon.add, hknown] using getElem?_countUp (hcount c)

theorem Counted.removeMatching (h : lexicon.Counted) (stem : Text) (p : Entry → Bool) :
    (lexicon.removeMatching stem p).1.Counted := by
  obtain ⟨stems, hnodup, hmem, hcount⟩ := h
  simp only [Lexicon.removeMatching]
  split
  · exact ⟨stems, hnodup, hmem, hcount⟩
  rename_i hknown
  have hknown : stem ∈ stems := by simpa [← hmem] using hknown
  split
  · refine ⟨stems.erase stem, hnodup.erase stem, fun other ↦ ?_, fun c ↦ ?_⟩
    · rw [hnodup.mem_erase_iff, ← hmem]
      simp only [contains, Std.ExtTreeMap.contains_erase, Bool.and_eq_true, bne_iff_ne, ne_eq,
        Std.LawfulEqOrd.compare_eq_iff_eq]
      rw [eq_comm]
    · rw [List.countP_erase]
      simpa [hknown] using getElem?_countDown (hcount c)
  · refine ⟨stems, hnodup, fun other ↦ ?_, hcount⟩
    rw [← hmem other]
    simp only [contains, Std.ExtTreeMap.contains_insert, Bool.or_eq_true, beq_iff_eq,
      Std.LawfulEqOrd.compare_eq_iff_eq, or_iff_right_iff_imp]
    rintro rfl
    exact (hmem stem).2 hknown

theorem Counted.withMarks (h : lexicon.Counted) (roles : Roles) :
    (lexicon.withMarks roles).Counted := by
  obtain ⟨stems, hnodup, hmem, hcount⟩ := h
  exact ⟨stems, hnodup, fun stem ↦ contains_withMarks.trans (hmem stem), hcount⟩

theorem Built.counted (h : lexicon.Built) : lexicon.Counted := by
  induction h with
  | empty => exact counted_empty
  | add entry _ ih => exact ih.add entry
  | removeMatching stem p _ ih => exact ih.removeMatching stem p
  | withMarks roles _ ih => exact ih.withMarks roles

/-- A word may begin with a letter exactly if some stem begins with it. -/
theorem Built.mayBegin_iff (h : lexicon.Built) {c : Char} :
    lexicon.mayBegin c ↔ ∃ stem, lexicon.contains (c :: stem) := by
  obtain ⟨stems, -, hmem, hcount⟩ := h.counted
  rw [mayBegin, Std.ExtTreeMap.contains_eq_isSome_getElem?, hcount, keptCount_isSome,
    List.countP_pos_iff]
  constructor
  · rintro ⟨stem, hstem, hhead⟩
    obtain ⟨rest, rfl⟩ := List.head?_eq_some_iff.1 (of_decide_eq_true hhead)
    exact ⟨rest, (hmem _).2 hstem⟩
  · rintro ⟨rest, hstem⟩
    exact ⟨c :: rest, (hmem _).1 hstem, by simp⟩

end Lexicon
end Orthography
