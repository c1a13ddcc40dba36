import Mathlib.Algebra.Group.Nat.Even
import Orthography.Proofs.Lexicon.WrittenLine
import Orthography.Proofs.Text.CharClass
import Orthography.Proofs.Text.Place

/-!
# The ends of a word on its line

A word ends before the first slash that separates, or else before the first field.  Said of the text
alone: a slash separates if it has an even number of backslashes before it, and a field is told by
letters or digits of two bytes in all and a colon, behind a space or a tab.
-/

namespace Orthography

namespace Text

variable {text : Text}

/-! ## Classes of characters -/

theorem ne_of_isAlphanumeric {c d : Char} (hc : isAlphanumeric c) (hd : isAlphanumeric d = false) :
    c ≠ d := by
  rintro rfl
  rw [hc] at hd
  cases hd

theorem isAlphanumeric_slash : isAlphanumeric '/' = false := rfl

theorem isAlphanumeric_backslash : isAlphanumeric '\\' = false := rfl

theorem isAlphanumeric_colon : isAlphanumeric ':' = false := rfl

theorem isAlphanumeric_space : isAlphanumeric ' ' = false := rfl

/-! ## What looks like a field -/

/-- Letters or digits of two bytes in all, and a colon. -/
def LooksLikeField (text : Text) : Prop :=
  ∃ tag rest, text = tag ++ ':' :: rest ∧ byteSize tag = 2 ∧ ∀ c ∈ tag, isAlphanumeric c

/-- Some space or tab has behind it what looks like a field. -/
def HidesField (text : Text) : Prop :=
  ∃ left gap right, text = left ++ gap :: right ∧ (gap = ' ' ∨ gap = '\t') ∧ LooksLikeField right

/-- Some slash has an even number of backslashes before it. -/
def HasBareSlash (text : Text) : Prop :=
  ∃ left right, text = left ++ '/' :: right ∧ Even (left.rtakeWhile (· == '\\')).length

theorem byteSize_eq_two_iff :
    byteSize text = 2 ↔
      (∃ c, text = [c] ∧ c.utf8Size = 2) ∨
        ∃ a b, text = [a, b] ∧ a.utf8Size = 1 ∧ b.utf8Size = 1 := by
  rcases text with - | ⟨a, - | ⟨b, - | ⟨c, text⟩⟩⟩
  · simp [byteSize]
  · simp [byteSize]
  · have ha := a.utf8Size_pos
    have hb := b.utf8Size_pos
    simp only [byteSize, List.cons.injEq, reduceCtorEq, and_false, false_and, exists_false,
      false_or, and_true]
    constructor
    · intro h
      exact ⟨a, b, ⟨rfl, rfl⟩, by omega, by omega⟩
    · rintro ⟨_, _, ⟨rfl, rfl⟩, ha, hb⟩
      omega
  · have ha := a.utf8Size_pos
    have hb := b.utf8Size_pos
    have hc := c.utf8Size_pos
    simp only [byteSize, List.cons.injEq, reduceCtorEq, and_false, false_and, exists_false,
      or_false, iff_false]
    omega

theorem hidesField_cons {c : Char} :
    HidesField (c :: text) ↔ (c = ' ' ∨ c = '\t') ∧ LooksLikeField text ∨ HidesField text := by
  constructor
  · rintro ⟨left, gap, right, htext, hgap, hfield⟩
    cases left with
    | nil =>
        obtain ⟨rfl, rfl⟩ := List.cons.inj htext
        exact .inl ⟨hgap, hfield⟩
    | cons d left =>
        obtain ⟨rfl, rfl⟩ := List.cons.inj htext
        exact .inr ⟨left, gap, right, rfl, hgap, hfield⟩
  · rintro (⟨hgap, hfield⟩ | ⟨left, gap, right, rfl, hgap, hfield⟩)
    · exact ⟨[], c, text, rfl, hgap, hfield⟩
    · exact ⟨c :: left, gap, right, rfl, hgap, hfield⟩

end Text

namespace Entry

open Text

variable {stem text head rest : Text}

theorem startsWithTag_iff : startsWithTag text ↔ LooksLikeField text := by
  constructor
  · intro h
    rcases text with - | ⟨a, - | ⟨b, rest⟩⟩
    · cases h
    · cases h
    simp only [startsWithTag, Bool.and_eq_true, Bool.or_eq_true, beq_iff_eq] at h
    obtain ⟨ha, ⟨hsize, rfl⟩ | ⟨⟨⟨hsize, hsize'⟩, hb⟩, hcolon⟩⟩ := h
    · exact ⟨[a], rest, rfl, byteSize_eq_two_iff.2 (.inl ⟨a, rfl, hsize⟩), by simpa using ha⟩
    · obtain ⟨rest, rfl⟩ := List.head?_eq_some_iff.1 hcolon
      exact ⟨[a, b], rest, rfl, byteSize_eq_two_iff.2 (.inr ⟨a, b, rfl, hsize, hsize'⟩),
        by simpa using ⟨ha, hb⟩⟩
  · rintro ⟨tag, rest, rfl, hsize, htag⟩
    rcases byteSize_eq_two_iff.1 hsize with ⟨a, rfl, ha⟩ | ⟨a, b, rfl, ha, hb⟩
    · simp [startsWithTag, ha, htag a]
    · simp [startsWithTag, ha, hb, htag a, htag b]

theorem splitAtField?_eq_none_iff : splitAtField? text = none ↔ ¬ HidesField text := by
  induction text with
  | nil => simp [splitAtField?, HidesField]
  | cons c text ih =>
      rw [hidesField_cons, ← startsWithTag_iff, splitAtField?]
      split <;> rename_i h <;> simp [h, ih]

theorem eq_append_of_splitAtField? {word fields : Text}
    (h : splitAtField? text = some (word, fields)) :
    ∃ gap, text = word ++ gap :: fields ∧ LooksLikeField fields := by
  induction text generalizing word with
  | nil => cases h
  | cons c text ih =>
      simp only [splitAtField?] at h
      split at h
      · rename_i hc
        obtain ⟨rfl, rfl⟩ := Prod.mk.inj (Option.some.inj h)
        exact ⟨c, rfl, startsWithTag_iff.1 hc.2⟩
      · obtain ⟨⟨left, right⟩, hsplit, heq⟩ := Option.map_eq_some_iff.1 h
        obtain ⟨rfl, rfl⟩ := Prod.mk.inj heq
        obtain ⟨gap, rfl, hfields⟩ := ih hsplit
        exact ⟨gap, rfl, hfields⟩

/-- Neither the backslashes nor a space behind a word make a tag of it. -/
theorem startsWithTag_escape_append (stem rest : Text) :
    startsWithTag (escape stem ++ ' ' :: rest) = startsWithTag stem := by
  rcases stem with - | ⟨a, stem⟩
  · cases rest <;> simp [escape, startsWithTag, isAlphanumeric_space]
  by_cases ha : a = '/'
  · rw [ha, escape_slash]
    cases stem <;> simp [startsWithTag, isAlphanumeric_slash, isAlphanumeric_backslash]
  rw [escape_cons ha]
  rcases stem with - | ⟨b, stem⟩
  · simp [escape, startsWithTag, isAlphanumeric_space]
  by_cases hb : b = '/'
  · rw [hb, escape_slash]
    simp [startsWithTag, isAlphanumeric_slash, isAlphanumeric_backslash]
  rw [escape_cons hb]
  rcases stem with - | ⟨c, stem⟩
  · simp [escape, startsWithTag]
  by_cases hc : c = '/'
  · rw [hc, escape_slash]
    simp [startsWithTag]
  · rw [escape_cons hc]
    rfl

theorem splitAtField?_escape_append (h : splitAtField? stem = none) (rest : Text) :
    splitAtField? (escape stem ++ ' ' :: rest) =
      (splitAtField? (' ' :: rest)).map fun parts ↦ (escape stem ++ parts.1, parts.2) := by
  induction stem with
  | nil => simp [escape]
  | cons c stem ih =>
      simp only [splitAtField?] at h
      split at h
      · cases h
      rename_i hc
      have hstem := ih (Option.map_eq_none_iff.1 h)
      by_cases hslash : c = '/'
      · rw [hslash, escape_slash, List.cons_append, List.cons_append, splitAtField?, splitAtField?,
          hstem]
        simp [Function.comp_def]
      · rw [← startsWithTag_escape_append stem rest] at hc
        rw [escape_cons hslash, List.cons_append, splitAtField?, if_neg hc, hstem]
        simp [Function.comp_def]

/-- A word that hides a field is cut there, whatever follows. -/
theorem splitAtField?_escape_append_of_some {word hidden : Text}
    (h : splitAtField? stem = some (word, hidden)) (rest : Text) :
    splitAtField? (escape stem ++ ' ' :: rest) =
      some (escape word, escape hidden ++ ' ' :: rest) := by
  induction stem generalizing word with
  | nil => cases h
  | cons c stem ih =>
      simp only [splitAtField?] at h
      split at h
      · rename_i hc
        obtain ⟨rfl, rfl⟩ := Prod.mk.inj (Option.some.inj h)
        have hslash : c ≠ '/' := by rintro rfl; simp at hc
        rw [← startsWithTag_escape_append stem rest] at hc
        rw [escape_cons hslash, List.cons_append, splitAtField?, if_pos hc]
        rfl
      · rename_i hc
        obtain ⟨⟨left, right⟩, hsplit, heq⟩ := Option.map_eq_some_iff.1 h
        obtain ⟨rfl, rfl⟩ := Prod.mk.inj heq
        have hstem := ih hsplit
        by_cases hslash : c = '/'
        · rw [hslash, escape_slash, escape_slash, List.cons_append, List.cons_append,
            splitAtField?, splitAtField?, hstem]
          simp
        · rw [← startsWithTag_escape_append stem rest] at hc
          rw [escape_cons hslash, escape_cons hslash, List.cons_append, splitAtField?, if_neg hc,
            hstem]
          rfl

theorem splitAtField?_append (h : ∀ c ∈ head, c ≠ ' ' ∧ c ≠ '\t') (rest : Text) :
    splitAtField? (head ++ rest) =
      (splitAtField? rest).map fun parts ↦ (head ++ parts.1, parts.2) := by
  induction head with
  | nil => simp
  | cons c head ih =>
      obtain ⟨hc, hhead⟩ := List.forall_mem_cons.1 h
      rw [List.cons_append, splitAtField?, if_neg (by simp [hc]), ih hhead]
      simp [Function.comp_def]

/-! ## Slashes -/

theorem splitAtSlash?_append_eq_none_iff {escaped atStart : Bool} :
    splitAtSlash? escaped atStart (head ++ rest) = none ↔
      splitAtSlash? escaped atStart head = none ∧
        splitAtSlash? (escapesNext escaped head) (atStart && head.isEmpty) rest = none := by
  induction head generalizing escaped atStart with
  | nil => simp [splitAtSlash?, escapesNext]
  | cons c head ih =>
      rw [List.cons_append, splitAtSlash?, splitAtSlash?]
      split
      · simp
      · rw [Option.map_eq_none_iff, Option.map_eq_none_iff, ih]
        simp [escapesNext]

theorem escapesNext_concat (escaped : Bool) (text : Text) (c : Char) :
    escapesNext escaped (text ++ [c]) = (c == '\\' && !escapesNext escaped text) := by
  simp [escapesNext]

theorem escapesNext_eq_false_iff :
    escapesNext false text = false ↔ Even (text.rtakeWhile (· == '\\')).length := by
  induction text using List.reverseRecOn with
  | nil => simp [escapesNext]
  | append_singleton text c ih =>
      rw [escapesNext_concat]
      by_cases hc : c = '\\'
      · have hpos : (c == '\\') = true := by simpa using hc
        rw [List.rtakeWhile_concat_pos (· == '\\') _ _ hpos, List.length_append,
          List.length_singleton, Nat.even_add_one, ← ih, hpos]
        simp
      · rw [List.rtakeWhile_concat_neg _ _ _ (by simpa using hc)]
        simp [hc]

theorem splitAtSlash?_eq_none_iff {escaped : Bool} :
    splitAtSlash? escaped false text = none ↔
      ∀ left right, text = left ++ '/' :: right → escapesNext escaped left := by
  induction text generalizing escaped with
  | nil => simp [splitAtSlash?]
  | cons c text ih =>
      rw [splitAtSlash?]
      split
      · rename_i hc
        obtain ⟨rfl, hescaped, -⟩ := hc
        simp only [reduceCtorEq, false_iff]
        intro hall
        have hnow := hall [] text rfl
        simp [escapesNext] at hnow hescaped
        simp [hnow] at hescaped
      · rename_i hc
        rw [Option.map_eq_none_iff, ih]
        constructor
        · intro hall left right htext
          cases left with
          | nil =>
              obtain ⟨rfl, rfl⟩ := List.cons.inj htext
              simpa [escapesNext] using hc
          | cons d left =>
              obtain ⟨rfl, rfl⟩ := List.cons.inj htext
              exact hall left right rfl
        · intro hall left right htext
          exact hall (c :: left) right (by rw [htext]; rfl)

theorem splitAtSlash?_eq_none_iff_not_hasBareSlash :
    splitAtSlash? false false text = none ↔ ¬ HasBareSlash text := by
  rw [splitAtSlash?_eq_none_iff]
  constructor
  · rintro hall ⟨left, right, htext, heven⟩
    rw [← escapesNext_eq_false_iff, hall left right htext] at heven
    cases heven
  · intro hnot left right htext
    by_contra hescaped
    exact hnot ⟨left, right, htext, escapesNext_eq_false_iff.1 (by simpa using hescaped)⟩

end Entry
end Orthography
