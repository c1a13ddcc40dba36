import Mathlib.Data.List.Chain
import Orthography.Proofs.Dictionary.Joining
import Orthography.Proofs.Flag.Writing

/-!
# Numbers

A number is told by a grammar of its own: a minus sign that may be there, figures with single
separators between them, and a dash that may be there.  Without conversions and ignored characters
every number is right, and no entry can make it wrong.
-/

namespace Orthography

namespace Text

variable {c : Char} {afterDigit : Bool} {core dash head sign tail text word : Text}

/-! ## The grammar of numbers -/

abbrev IsSeparator (c : Char) : Prop := c = '.' ∨ c = ','

/-- Digits and separators of which no two stand together.  The first one is a digit; the last one
may be either. -/
structure IsFigures (core : Text) : Prop where
  chars : ∀ c ∈ core, c.isDigit ∨ IsSeparator c
  head : ∃ c ∈ core.head?, c.isDigit
  apart : core.IsChain fun c d ↦ ¬(IsSeparator c ∧ IsSeparator d)

def IsNumber (word : Text) : Prop :=
  ∃ sign core dash, word = sign ++ core ++ dash ∧ (sign = [] ∨ sign = ['-']) ∧ IsFigures core ∧
    (dash = [] ∨ dash = ['-', '-'])

theorem not_isSeparator_of_isDigit (h : c.isDigit) : ¬IsSeparator c := by
  rintro (rfl | rfl) <;> cases h

theorem IsFigures.ne_nil (h : IsFigures core) : core ≠ [] := by
  obtain ⟨c, hc, -⟩ := h.head
  rintro rfl
  cases hc

theorem IsFigures.dash_not_mem (h : IsFigures core) : '-' ∉ core := by
  intro hdash
  have hchar := h.chars '-' hdash
  revert hchar
  decide

theorem IsNumber.char_cases (h : IsNumber word) (hc : c ∈ word) :
    c.isDigit ∨ c ∈ ['-', '.', ','] := by
  obtain ⟨sign, core, dash, rfl, hsign, hcore, hdash⟩ := h
  rw [List.mem_append, List.mem_append] at hc
  rcases hc with (hc | hc) | hc
  · rcases hsign with rfl | rfl
    · cases hc
    · exact Or.inr (List.mem_cons.2 (Or.inl (List.mem_singleton.1 hc)))
  · refine (hcore.chars c hc).imp_right fun hseparator ↦ ?_
    exact List.mem_cons_of_mem '-' (List.mem_pair.2 hseparator)
  · rcases hdash with rfl | rfl
    · cases hc
    · exact Or.inr (List.mem_cons.2 (Or.inl ((List.mem_pair.1 hc).elim id id)))

/-! ## Reading numbers -/

/-- A separator may come first if a digit stands before the text. -/
theorem isDotted_iff : isDotted afterDigit text ↔
    (∀ c ∈ text, c.isDigit ∨ IsSeparator c) ∧
      (text.IsChain fun c d ↦ ¬(IsSeparator c ∧ IsSeparator d)) ∧
        (afterDigit ∨ ∀ c ∈ text.head?, ¬IsSeparator c) := by
  induction text generalizing afterDigit with
  | nil => simp [isDotted]
  | cons c text ih =>
      rw [isDotted, List.forall_mem_cons, List.isChain_cons]
      by_cases hc : IsSeparator c
      -- The flag is asked for, and what follows may not go on with a separator.
      · rw [if_pos hc, Bool.and_eq_true, ih]
        simp only [hc, true_and, or_true, Bool.false_eq_true, false_or, List.head?_cons,
          Option.mem_some_iff, forall_eq', not_true, or_false]
        tauto
      · rw [if_neg hc, Bool.and_eq_true, ih]
        simp only [hc, false_and, not_false_eq_true, implies_true, true_and, or_false, true_or,
          and_true, List.head?_cons, Option.mem_some_iff, forall_eq', or_true]
        tauto

theorem isFigures_iff : IsFigures core ↔ (!core.isEmpty && isDotted false core) := by
  rw [Bool.and_eq_true, isDotted_iff]
  constructor
  · intro h
    obtain ⟨c, hc, hdigit⟩ := h.head
    have hhead : ∀ d ∈ core.head?, ¬IsSeparator d := by
      intro d hd
      rw [← Option.mem_unique hc hd]
      exact not_isSeparator_of_isDigit hdigit
    exact ⟨by simp [h.ne_nil], h.chars, h.apart, Or.inr hhead⟩
  · rintro ⟨hne, hchars, hapart, hflag | hhead⟩
    · cases hflag
    · obtain ⟨c, rest, rfl⟩ := List.exists_cons_of_ne_nil (by simpa using hne)
      have hdigit := (hchars c List.mem_cons_self).resolve_right (hhead c rfl)
      exact ⟨hchars, ⟨c, rfl, hdigit⟩, hapart⟩

theorem exists_eq_getD_before? (tail word : Text) :
    ∃ dash, word = (before? tail word).getD word ++ dash ∧ (dash = [] ∨ dash = tail) := by
  cases h : before? tail word with
  | none => exact ⟨[], (List.append_nil word).symm, Or.inl rfl⟩
  | some rest => exact ⟨tail, before?_eq_some_iff.1 h, Or.inr rfl⟩

theorem exists_eq_getD_after? (head word : Text) :
    ∃ sign, word = sign ++ (after? head word).getD word ∧ (sign = [] ∨ sign = head) := by
  cases h : after? head word with
  | none => exact ⟨[], rfl, Or.inl rfl⟩
  | some rest => exact ⟨head, after?_eq_some_iff.1 h, Or.inr rfl⟩

theorem getD_before?_append (hdash : dash = [] ∨ dash = tail) (h : before? tail text = none) :
    (before? tail (text ++ dash)).getD (text ++ dash) = text := by
  rcases hdash with rfl | rfl
  · rw [List.append_nil, h, Option.getD_none]
  · rw [before?_eq_some_iff.2 rfl, Option.getD_some]

theorem getD_after?_append (hsign : sign = [] ∨ sign = head) (h : after? head text = none) :
    (after? head (sign ++ text)).getD (sign ++ text) = text := by
  rcases hsign with rfl | rfl
  · rw [List.nil_append, h, Option.getD_none]
  · rw [after?_eq_some_iff.2 rfl, Option.getD_some]

theorem IsFigures.after?_eq_none (h : IsFigures core) : after? ['-'] core = none := by
  rw [Option.eq_none_iff_forall_ne_some]
  intro rest hrest
  apply h.dash_not_mem
  rw [after?_eq_some_iff.1 hrest]
  exact List.mem_cons_self

theorem IsFigures.before?_eq_none (h : IsFigures core) (sign : Text) :
    before? ['-', '-'] (sign ++ core) = none := by
  rw [Option.eq_none_iff_forall_ne_some]
  intro rest hrest
  have hlast := congrArg List.getLast? (before?_eq_some_iff.1 hrest)
  rw [List.getLast?_append_of_ne_nil _ h.ne_nil,
    List.getLast?_append_of_ne_nil _ (List.cons_ne_nil _ _)] at hlast
  exact h.dash_not_mem (List.mem_of_getLast? hlast)

/-- The dash is taken off before the sign.  Neither is ever taken off the figures, which begin and
end with other characters. -/
theorem isNumeric_iff_isNumber : isNumeric word ↔ IsNumber word := by
  rw [isNumeric]
  constructor
  · intro h
    obtain ⟨dash, hword, hdash⟩ := exists_eq_getD_before? ['-', '-'] word
    obtain ⟨sign, hrest, hsign⟩ :=
      exists_eq_getD_after? ['-'] ((before? ['-', '-'] word).getD word)
    rw [hrest] at hword
    exact ⟨sign, _, dash, hword, hsign, isFigures_iff.2 h, hdash⟩
  · rintro ⟨sign, core, dash, rfl, hsign, hcore, hdash⟩
    simp only [getD_before?_append hdash (hcore.before?_eq_none sign),
      getD_after?_append hsign hcore.after?_eq_none]
    exact isFigures_iff.1 hcore

theorem IsNumber.isTidy (h : IsNumber word) : word.IsTidy := by
  have hne : word ≠ [] := by
    obtain ⟨sign, core, dash, rfl, -, hcore, -⟩ := h
    simp [hcore.ne_nil]
  have hothers : ∀ c ∈ ['-', '.', ','], isBlank c = false := forall_not_isBlank rfl
  apply isTidy_of_forall_not_isBlank hne
  intro c hc
  rcases h.char_cases hc with hdigit | hother
  · exact not_isBlank_of_isDigit hdigit
  · exact hothers c hother

end Text

namespace Dictionary

open Text

/-- A word is numeric exactly if the grammar of numbers has it, and then a dictionary that looks it
up as it stands accepts it, whatever its entries say. -/
theorem numbers_accepted (word : Text) :
    (isNumeric word ↔ IsNumber word) ∧
      ∀ dictionary : Dictionary, dictionary.settings.inputs = [] →
        dictionary.settings.ignored = [] → IsNumber word → dictionary.check word := by
  refine ⟨isNumeric_iff_isNumber, fun dictionary hinputs hignored hword ↦ ?_⟩
  have hprepare := prepare_of_isTidy hinputs hignored hword.isTidy
  simp [check, hprepare, isNumeric_iff_isNumber.2 hword]

/-- A number with both signs and a separator at its end is right although it is forbidden. -/
theorem numbers_accepted_forbidden :
    let word : Text := ['-', '1', ',', '0', '0', '0', '.', '-', '-']
    ∃ dictionary, load "1\n-1,000.--/!\n".toList "FORBIDDENWORD !\n".toList = .ok dictionary ∧
      dictionary.settings.inputs = [] ∧ dictionary.settings.ignored = [] ∧ IsNumber word ∧
        isNumeric word ∧ dictionary.isForbidden word ∧ dictionary.check word := by
  intro word
  have hread : (load "1\n-1,000.--/!\n".toList "FORBIDDENWORD !\n".toList).map
      (fun dictionary ↦ ((dictionary.settings.inputs, dictionary.settings.ignored),
        dictionary.isForbidden word)) = .ok (([], []), true) := by
    decide +kernel
  obtain ⟨dictionary, hload, hread⟩ := exists_of_map_eq_ok hread
  obtain ⟨hmaps, hforbidden⟩ := Prod.mk.inj hread
  obtain ⟨hinputs, hignored⟩ := Prod.mk.inj hmaps
  have hfigures : IsFigures ['1', ',', '0', '0', '0', '.'] :=
    { chars := by simp [IsSeparator]
      head := ⟨'1', rfl, rfl⟩
      apart := by decide }
  have hword : IsNumber word := ⟨['-'], _, ['-', '-'], rfl, Or.inr rfl, hfigures, Or.inr rfl⟩
  obtain ⟨hnumeric, hcheck⟩ := numbers_accepted word
  exact ⟨dictionary, hload, hinputs, hignored, hword, hnumeric.2 hword, hforbidden,
    hcheck dictionary hinputs hignored hword⟩

end Dictionary
end Orthography
