import Mathlib.Data.List.DropRight
import Orthography.Text.Blank

/-!
# Texts without blanks at their ends

Trimming takes the blanks off both ends of a text and nothing else, so the texts that it leaves as
they are begin and end with other characters.
-/

namespace Orthography
namespace Text

/-- Something is written there, and no blank stands at either end. -/
structure IsTidy (text : Text) : Prop where
  ne_nil : text ≠ []
  head : ∀ c, text.head? = some c → isBlank c = false
  last : ∀ c, text.getLast? = some c → isBlank c = false

theorem trimEnd_eq_rdropWhile (text : Text) : trimEnd text = text.rdropWhile isBlank := rfl

theorem trimStart_isSuffix (text : Text) : trimStart text <:+ text := List.dropWhile_suffix _

theorem trimEnd_isPrefix (text : Text) : trimEnd text <+: text := List.rdropWhile_prefix _ text

theorem trim_sublist (text : Text) : (trim text).Sublist text :=
  (trimEnd_isPrefix (trimStart text)).sublist.trans (trimStart_isSuffix text).sublist

theorem trimEnd_eq_self_iff {text : Text} :
    trimEnd text = text ↔ ∀ c, text.getLast? = some c → isBlank c = false := by
  rw [trimEnd_eq_rdropWhile, List.rdropWhile_eq_self_iff]
  constructor
  · intro h c hc
    obtain ⟨hne, rfl⟩ := List.mem_getLast?_eq_getLast hc
    rw [← Bool.not_eq_true]
    exact h hne
  · intro h hne
    rw [h _ (List.getLast?_eq_some_getLast hne)]
    exact Bool.false_ne_true

theorem count_trimEnd {c : Char} (hc : isBlank c = false) (text : Text) :
    (trimEnd text).count c = text.count c := by
  induction text using List.reverseRecOn with
  | nil => rfl
  | append_singleton text d ih =>
      rw [trimEnd_eq_rdropWhile] at ih ⊢
      cases hd : isBlank d with
      | false => rw [List.rdropWhile_concat_neg isBlank text d (by simp [hd])]
      | true =>
          have hne : d ≠ c := by
            rintro rfl
            rw [hc] at hd
            cases hd
          rw [List.rdropWhile_concat_pos isBlank text d hd, ih, List.count_append,
            List.count_singleton, if_neg (by simpa using hne), Nat.add_zero]

theorem count_trimStart {c : Char} (hc : isBlank c = false) (text : Text) :
    (trimStart text).count c = text.count c := by
  conv_rhs => rw [← List.takeWhile_append_dropWhile (p := isBlank) (l := text)]
  have hblanks : (text.takeWhile isBlank).count c = 0 := by
    rw [List.count_eq_zero]
    intro hmem
    rw [List.mem_takeWhile_imp hmem] at hc
    cases hc
  rw [List.count_append, hblanks, Nat.zero_add, trimStart]

/-- Trimming takes nothing but blanks. -/
theorem count_trim {c : Char} (hc : isBlank c = false) (text : Text) :
    (trim text).count c = text.count c := by
  rw [trim, count_trimEnd hc, count_trimStart hc]

theorem isTidy_trim {text : Text} (h : trim text ≠ []) : (trim text).IsTidy where
  ne_nil := h
  head c hc := by
    -- What is taken off the end leaves the first character where it was.
    have hstart : (trimStart text).head? = some c := by
      obtain ⟨blanks, hblanks⟩ := trimEnd_isPrefix (trimStart text)
      rw [← hblanks, List.head?_append, ← trim, hc, Option.some_or]
    have hnot := List.head?_dropWhile_not isBlank text
    rw [← trimStart, hstart] at hnot
    exact hnot
  last c hc := by
    have hlast : isBlank ((trim text).getLast h) = false := by
      rw [← Bool.not_eq_true]
      exact List.rdropWhile_last_not isBlank (trimStart text) h
    rwa [Option.some.inj ((List.getLast?_eq_some_getLast h).symm.trans hc)] at hlast

theorem IsTidy.trim_eq {text : Text} (h : text.IsTidy) : trim text = text := by
  have hstart : trimStart text = text := by
    apply List.dropWhile_eq_self_iff.2
    intro hlength
    have hhead := h.head _ (List.head?_eq_getElem?.trans (List.getElem?_eq_getElem hlength))
    rw [hhead]
    exact Bool.false_ne_true
  rw [trim, hstart, trimEnd_eq_self_iff.2 h.last]

theorem isTidy_iff {text : Text} : text.IsTidy ↔ text ≠ [] ∧ trim text = text := by
  constructor
  · intro h
    exact ⟨h.ne_nil, h.trim_eq⟩
  · intro h
    obtain ⟨hne, htrim⟩ := h
    rw [← htrim] at hne ⊢
    exact isTidy_trim hne

theorem isTidy_of_forall_not_isBlank {text : Text} (hne : text ≠ [])
    (h : ∀ c ∈ text, isBlank c = false) : text.IsTidy where
  ne_nil := hne
  head c hc := h c (List.mem_of_head? hc)
  last c hc := h c (List.mem_of_getLast? hc)

/-- Only the ends count. -/
theorem IsTidy.append {a c : Text} (ha : a.IsTidy) (hc : c.IsTidy) (b : Text) :
    (a ++ b ++ c).IsTidy where
  ne_nil := by simp [ha.ne_nil]
  head d hd := by
    rw [List.append_assoc, List.head?_append_of_ne_nil _ ha.ne_nil] at hd
    exact ha.head d hd
  last d hd := by
    rw [List.getLast?_append_of_ne_nil _ hc.ne_nil] at hd
    exact hc.last d hd

instance : DecidablePred IsTidy := fun _ ↦ decidable_of_iff _ isTidy_iff.symm

end Text
end Orthography
