import Orthography.Proofs.Text.Trim

/-!
# Tokens and pieces

A text without blanks in it is one token, and blanks around a text add none.  The pieces between
the occurrences of a character are the only texts without it that it joins to the whole.
-/

namespace Orthography
namespace Text

variable {c : Char} {text word rest : Text}

theorem forall_not_isBlank (h : word.all fun c ↦ !isBlank c) : ∀ c ∈ word, isBlank c = false := by
  simpa using h

theorem tokens_cons_of_isBlank (hc : isBlank c) : tokens (c :: text) = tokens text := by
  cases text <;> simp [tokens, hc]

theorem tokens_append_of_isBlank (hc : isBlank c) : tokens (text ++ [c]) = tokens text := by
  induction text with
  | nil => exact tokens_cons_of_isBlank hc
  | cons d text ih =>
      cases hd : isBlank d with
      | true => rw [List.cons_append, tokens_cons_of_isBlank hd, tokens_cons_of_isBlank hd, ih]
      | false =>
          cases text with
          | nil => simp [tokens, hd, hc]
          | cons e text =>
              rw [List.cons_append, List.cons_append, tokens, tokens, ← List.cons_append, ih]

theorem tokens_trim (text : Text) : tokens (trim text) = tokens text := by
  have hend (text : Text) : tokens (trimEnd text) = tokens text := by
    induction text using List.reverseRecOn with
    | nil => rfl
    | append_singleton text d ih =>
        rw [trimEnd_eq_rdropWhile] at ih ⊢
        cases hd : isBlank d with
        | false => rw [List.rdropWhile_concat_neg isBlank text d (by simp [hd])]
        | true =>
            rw [List.rdropWhile_concat_pos isBlank text d hd, ih, tokens_append_of_isBlank hd]
  rw [trim, hend]
  induction text with
  | nil => rfl
  | cons d text ih =>
      cases hd : isBlank d with
      | false => rw [trimStart, List.dropWhile_cons_of_neg (by simp [hd])]
      | true => rwa [trimStart, List.dropWhile_cons_of_pos hd, tokens_cons_of_isBlank hd]

theorem tokens_append (hne : word ≠ []) (hword : ∀ c ∈ word, isBlank c = false)
    (hrest : ∀ c, rest.head? = some c → isBlank c) :
    tokens (word ++ rest) = word :: tokens rest := by
  induction word with
  | nil => exact absurd rfl hne
  | cons c word ih =>
      obtain ⟨hc, hword⟩ := List.forall_mem_cons.1 hword
      cases word with
      | nil =>
          cases rest with
          | nil => simp [tokens, hc]
          | cons d rest => simp [tokens, hc, hrest d rfl]
      | cons d word =>
          have hd : isBlank d = false := hword d List.mem_cons_self
          have hmore := ih (List.cons_ne_nil _ _) hword
          rw [List.cons_append] at hmore ⊢
          rw [List.cons_append, tokens, hmore]
          simp [hc, hd]

theorem not_isBlank_of_mem_tokens (h : word ∈ tokens text) :
    ∀ c ∈ word, isBlank c = false := by
  induction text generalizing word with
  | nil => cases h
  | cons c text ih =>
      unfold tokens at h
      split at h
      · exact ih h
      · rename_i hc
        rw [Bool.not_eq_true] at hc
        have hsingle : ∀ d ∈ [c], isBlank d = false := by
          simpa using hc
        split at h
        · rw [List.mem_singleton.1 h]
          exact hsingle
        · split at h
          · rcases List.mem_cons.1 h with rfl | h
            · exact hsingle
            · exact ih h
          · split at h
            · rw [List.mem_singleton.1 h]
              exact hsingle
            · rename_i htokens
              rw [htokens] at ih
              rcases List.mem_cons.1 h with rfl | h
              · rw [List.forall_mem_cons]
                exact ⟨hc, ih List.mem_cons_self⟩
              · exact ih (List.mem_cons_of_mem _ h)

/-! ## Pieces between separators -/

theorem splitOn_eq (sep : Char) (text : Text) : splitOn sep text = List.splitOn sep text := by
  induction text with
  | nil => rfl
  | cons c text ih =>
      rw [List.splitOn_cons_eq_if_modifyHead, splitOn, ih]
      by_cases hc : c = sep
      · simp [hc]
      · obtain ⟨piece, pieces, hcons⟩ :=
          List.exists_cons_of_ne_nil (List.splitOn_ne_nil sep text)
        rw [if_neg hc, if_neg (by simpa using hc), hcons]
        rfl

theorem splitOn_ne_nil (sep : Char) (text : Text) : splitOn sep text ≠ [] := by
  rw [splitOn_eq]
  exact List.splitOn_ne_nil sep text

theorem not_mem_of_mem_splitOn {sep : Char} {piece : Text} (h : piece ∈ splitOn sep text) :
    sep ∉ piece := by
  induction text generalizing piece with
  | nil =>
      obtain rfl := List.mem_singleton.1 h
      exact List.not_mem_nil
  | cons c text ih =>
      rw [splitOn] at h
      split at h
      · rcases List.mem_cons.1 h with rfl | h
        · exact List.not_mem_nil
        · exact ih h
      · rename_i hc
        split at h
        · rw [List.mem_singleton.1 h, List.mem_singleton]
          exact Ne.symm hc
        · rename_i first pieces hsplit
          rw [hsplit] at ih
          rcases List.mem_cons.1 h with rfl | h
          · rw [List.mem_cons, not_or]
            exact ⟨Ne.symm hc, ih List.mem_cons_self⟩
          · exact ih (List.mem_cons_of_mem _ h)

theorem intercalate_ne_nil {sep : Text} {pieces : List Text} (hpieces : pieces ≠ [])
    (h : ∀ piece ∈ pieces, piece ≠ []) : List.intercalate sep pieces ≠ [] := by
  cases pieces with
  | nil => exact absurd rfl hpieces
  | cons piece pieces =>
      have hpiece : piece ≠ [] := h piece List.mem_cons_self
      cases pieces with
      | nil => rwa [List.intercalate_singleton]
      | cons next pieces =>
          rw [List.intercalate_cons_cons, List.append_assoc]
          exact List.append_ne_nil_of_left_ne_nil hpiece _

/-- The pieces are the only texts without the separator that it joins to the whole. -/
theorem splitOn_eq_iff {sep : Char} {pieces : List Text} (hpieces : pieces ≠ []) :
    splitOn sep text = pieces ↔
      text = List.intercalate [sep] pieces ∧ ∀ piece ∈ pieces, sep ∉ piece := by
  rw [splitOn_eq]
  constructor
  · rintro rfl
    refine ⟨(List.intercalate_splitOn sep).symm, fun piece hpiece ↦ ?_⟩
    rw [← splitOn_eq] at hpiece
    exact not_mem_of_mem_splitOn hpiece
  · rintro ⟨rfl, hnot⟩
    exact List.splitOn_intercalate sep hnot hpieces

theorem splitOn_of_not_mem {sep : Char} (h : sep ∉ text) : splitOn sep text = [text] := by
  rw [splitOn_eq, List.splitOn_eq_singleton h]

theorem splitOn_intercalate {sep : Char} {texts : List Text} (hne : texts ≠ []) :
    splitOn sep (List.intercalate [sep] texts) = texts.flatMap (splitOn sep) := by
  induction texts with
  | nil => exact absurd rfl hne
  | cons text texts ih =>
      cases texts with
      | nil => rw [List.intercalate_singleton, List.flatMap_singleton]
      | cons next texts =>
          rw [List.intercalate_cons_cons, List.append_assoc, List.singleton_append, splitOn_eq,
            List.splitOn_append_cons_self, ← splitOn_eq, ← splitOn_eq, ih (List.cons_ne_nil _ _)]
          rfl

/-- A beginning without the separator belongs to the first piece. -/
theorem splitOn_append {sep : Char} {first : Text} {pieces : List Text} (h : sep ∉ text)
    (hrest : splitOn sep rest = first :: pieces) :
    splitOn sep (text ++ rest) = (text ++ first) :: pieces := by
  induction text with
  | nil => exact hrest
  | cons c text ih =>
      rw [List.mem_cons, not_or] at h
      rw [List.cons_append, splitOn, if_neg (Ne.symm h.1), ih h.2]
      rfl

end Text
end Orthography
