import Orthography.Dictionary.Analysis
import Orthography.Proofs.Derivation.Search
import Orthography.Proofs.Dictionary.Forbidden

/-!
# Analyses of words that are right

Stems and analyses are gathered from the same ways of building a word, so there are stems where
there are analyses.  A word that has any is right; a right word without any is a number, or it is
made of stems that follow a compound rule, or it is right only in pieces.
-/

namespace Orthography

/-! ## Gathering texts -/

section Gathering

variable {results : List Text} {text : Text} {texts : LazyList Text}

theorem addNew_ne_nil : addNew results text ≠ [] := by
  rw [addNew]
  split
  · rename_i hthere
    exact List.ne_nil_of_mem (List.contains_iff_mem.1 hthere)
  · simp

theorem nodup_addNew (h : results.Nodup) : (addNew results text).Nodup := by
  rw [addNew]
  split
  · exact h
  · rename_i hnew
    have hnew : text ∉ results := by simpa using hnew
    refine List.nodup_append.2 ⟨h, by simp, fun other hother same hsame ↦ ?_⟩
    obtain rfl := List.mem_singleton.1 hsame
    rintro rfl
    exact hnew hother

theorem length_addNew_le : (addNew results text).length ≤ results.length + 1 := by
  rw [addNew]
  split
  · exact Nat.le_succ _
  · simp

/-- Results without repetition, and no more than are given for one word. -/
structure AreGathered (results : List Text) : Prop where
  nodup : results.Nodup
  length_le : results.length ≤ maxAnalyses

theorem AreGathered.more (h : AreGathered results) : AreGathered (gather results texts) := by
  refine LazyList.foldUntil_induction (fun found text hfound hstop ↦ ?_) h
  have hroom : found.length < maxAnalyses := by simpa using hstop
  exact ⟨nodup_addNew hfound.nodup, Nat.le_trans length_addNew_le hroom⟩

theorem gather_eq_nil_iff : gather results texts = [] ↔ results = [] ∧ texts.toList = [] := by
  cases texts with
  | nil => simp [gather, LazyList.foldUntil]
  | cons text texts =>
      rw [gather, LazyList.foldUntil]
      split
      · rename_i hfull
        have hne : results ≠ [] := by
          rintro rfl
          simp [maxAnalyses] at hfull
        simp [hne]
      · have hkept : gather (addNew results text) (texts ()) ≠ [] :=
          LazyList.foldUntil_induction (motive := (· ≠ [])) (fun _ _ _ _ ↦ addNew_ne_nil)
            addNew_ne_nil
        rw [gather] at hkept
        simp [hkept]

variable {α : Type} {list : α → LazyList Text} {variants : List α}

theorem foldl_gather_eq_nil_iff :
    variants.foldl (fun results variant ↦ gather results (list variant)) results = [] ↔
      results = [] ∧ ∀ variant ∈ variants, (list variant).toList = [] := by
  induction variants generalizing results with
  | nil => simp
  | cons variant variants ih =>
      rw [List.foldl_cons, ih, gather_eq_nil_iff, List.forall_mem_cons, and_assoc]

theorem AreGathered.foldl (h : AreGathered results) :
    AreGathered (variants.foldl (fun results variant ↦ gather results (list variant)) results) := by
  induction variants generalizing results with
  | nil => exact h
  | cons variant variants ih => exact ih h.more

end Gathering

namespace Dictionary

variable {dictionary : Dictionary} {word : Text}

/-- A form can be analysed: it has a derivation or else a division. -/
def CanBeAnalysed (dictionary : Dictionary) (purpose : Purpose) (form : Text) : Prop :=
  dictionary.accepts purpose .alone form ∨ (dictionary.divisions purpose form).isEmpty = false

section Ways

variable {simple : Derivation → Text} {compound : List Segment → Text}

theorem waysOf_eq_nil_iff {purpose : Purpose} {form : Text} :
    (waysOf dictionary simple compound purpose form).toList = [] ↔
      ¬dictionary.CanBeAnalysed purpose form := by
  rw [waysOf, CanBeAnalysed, accepts]
  cases hderived : (dictionary.derivations purpose .alone form).isEmpty with
  | true => simp [LazyList.isEmpty_eq]
  | false =>
      rw [LazyList.isEmpty_eq] at hderived
      simpa using hderived

theorem ways_eq :
    ways dictionary simple compound word =
      if (dictionary.prepare word).isEmpty || dictionary.isForbidden (dictionary.prepare word)
      then []
      else (dictionary.usableVariants (dictionary.prepare word)).foldl
        (fun results variant ↦ gather results
          (waysOf dictionary simple compound { folded := variant.2 } variant.1)) [] :=
  rfl

/-- There is something to tell of a word exactly if one of its forms can be analysed, however it is
told. -/
theorem ways_ne_nil_iff :
    ways dictionary simple compound word ≠ [] ↔
      dictionary.prepare word ≠ [] ∧ dictionary.isForbidden (dictionary.prepare word) = false ∧
        ∃ form folded, (form, folded) ∈ dictionary.usableVariants (dictionary.prepare word) ∧
          dictionary.CanBeAnalysed { folded } form := by
  rw [ways_eq]
  split
  · rename_i h
    simp only [Bool.or_eq_true, List.isEmpty_iff] at h
    simp only [ne_eq, not_true_eq_false, false_iff]
    rintro ⟨hne, hfree, -⟩
    rcases h with h | h
    · exact hne h
    · rw [h] at hfree
      cases hfree
  · rename_i h
    simp only [Bool.or_eq_true, List.isEmpty_iff, not_or, Bool.not_eq_true] at h
    rw [ne_eq, foldl_gather_eq_nil_iff]
    simp only [h, waysOf_eq_nil_iff, Prod.forall, ne_eq, not_false_eq_true, true_and, not_forall,
      not_not, exists_prop]

theorem areGathered_ways : AreGathered (ways dictionary simple compound word) := by
  have hnone : AreGathered [] := ⟨List.nodup_nil, Nat.zero_le _⟩
  rw [ways_eq]
  split
  · exact hnone
  · exact hnone.foldl

end Ways

/-! ## Analyses and checking -/

theorem acceptsCased_iff_exists :
    dictionary.acceptsCased false word ↔
      (∃ form folded, (form, folded) ∈ dictionary.usableVariants word ∧
        dictionary.CanBeAnalysed { folded } form) ∨
          ∃ form folded, (form, folded) ∈ dictionary.usableVariants word ∧
            dictionary.followsRule form := by
  simp only [acceptsCased, List.any_eq_true, Prod.exists, acceptsExactly, isCompound, CanBeAnalysed,
    Bool.or_eq_true, Bool.not_eq_true', ← or_assoc, and_or_left, exists_or]

/-- A right word that cannot be analysed is empty or a number, or a form of it follows a compound
rule, or it is broken into pieces. -/
theorem check_iff_analyses_ne_nil :
    dictionary.check word ↔
      dictionary.prepare word = [] ∨ Text.isNumeric (dictionary.prepare word) ∨
        dictionary.analyses word ≠ [] ∨
          dictionary.isForbidden (dictionary.prepare word) = false ∧
            ((∃ form folded, (form, folded) ∈ dictionary.usableVariants (dictionary.prepare word) ∧
                dictionary.followsRule form) ∨
              dictionary.acceptsInPieces false (dictionary.prepare word)) := by
  by_cases hempty : dictionary.prepare word = []
  · simp [check, hempty]
  by_cases hnumeric : Text.isNumeric (dictionary.prepare word)
  · simp [check, hnumeric]
  rw [check_iff hempty (by simpa using hnumeric), acceptsBroken_iff, acceptsCased_iff_exists,
    analyses, ways_ne_nil_iff]
  simp only [hempty, hnumeric, Bool.false_eq_true, false_or, ne_eq, not_false_eq_true, true_and,
    ← and_or_left, or_assoc]

/-- Stems and analyses are given for the same words, all of them right; and a right word without
them owes that to a number, a compound rule or its pieces.  Neither list repeats itself or goes on
beyond its limit. -/
theorem stems_and_analyses (dictionary : Dictionary) (word : Text) :
    let whole := dictionary.prepare word
    (dictionary.stems word ≠ [] ∨ dictionary.analyses word ≠ [] → dictionary.check word) ∧
      (dictionary.stems word = [] ↔ dictionary.analyses word = []) ∧
      (dictionary.analyses word ≠ [] ↔
        (whole ≠ [] ∧ dictionary.isForbidden whole = false) ∧
          ∃ form folded, (form, folded) ∈ dictionary.caseVariants whole ∧
            (folded → dictionary.isForbidden form = false) ∧
              (dictionary.accepts { folded } .alone form ∨
                (dictionary.divisions { folded } form).isEmpty = false)) ∧
      (dictionary.check word ↔
        whole = [] ∨ Text.isNumeric whole ∨ dictionary.analyses word ≠ [] ∨
          dictionary.isForbidden whole = false ∧
            ((∃ form folded, (form, folded) ∈ dictionary.caseVariants whole ∧
              (folded → dictionary.isForbidden form = false) ∧ dictionary.followsRule form) ∨
                dictionary.acceptsInPieces false whole)) ∧
      ((dictionary.stems word).Nodup ∧ (dictionary.stems word).length ≤ 100) ∧
        (dictionary.analyses word).Nodup ∧ (dictionary.analyses word).length ≤ 100 := by
  intro whole
  have hsame : dictionary.stems word = [] ↔ dictionary.analyses word = [] := by
    rw [← not_iff_not, stems, analyses, ← ne_eq, ← ne_eq, ways_ne_nil_iff, ways_ne_nil_iff]
  have hcheck : dictionary.check word ↔ _ := check_iff_analyses_ne_nil
  have hways : dictionary.analyses word ≠ [] ↔ _ := ways_ne_nil_iff
  refine ⟨?_, hsame, ?_, ?_, ⟨areGathered_ways.nodup, areGathered_ways.length_le⟩,
    areGathered_ways.nodup, areGathered_ways.length_le⟩
  · rw [ne_eq, hsame, or_self]
    exact fun h ↦ hcheck.2 (Or.inr (Or.inr (Or.inl h)))
  · simpa only [mem_usableVariants_iff, CanBeAnalysed, and_assoc] using hways
  · simpa only [mem_usableVariants_iff, and_assoc] using hcheck

end Dictionary
end Orthography
