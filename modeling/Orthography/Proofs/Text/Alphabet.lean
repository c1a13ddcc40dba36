import Mathlib.Data.List.Forall2
import Orthography.Proofs.Text.CapStyle

/-!
# Words over an alphabet

The letters of the Latin and of the Turkish alphabet come in pairs, a small one and a capital.  A
word of small letters comes back from its capitals, and the way in which capitals are spread over
the two forms is the one that their names say.
-/

namespace Orthography

open Text

/-- Without a capital sigma no letter looks at its neighbours. -/
theorem Text.lowercaseAfter_eq_flatMap {text : Text} (h : 'Σ' ∉ text) (before : Text) :
    lowercaseAfter before text = text.flatMap lowerOf := by
  induction text generalizing before with
  | nil => rfl
  | cons c text ih =>
      rw [List.mem_cons, not_or] at h
      rw [lowercaseAfter, if_neg (Ne.symm h.1), ih h.2, List.flatMap_cons]

namespace Casing

/-- The small letters of the alphabet. -/
def alphabet : Casing → List Char
  | standard => "abcdefghijklmnopqrstuvwxyz".toList
  | turkic => "abcçdefgğhıijklmnoöprsştuüvyz".toList

/-- A small letter and its capital: the casing turns each into the other one, neither is taken for
a blank, and the capital is nothing that a number begins with. -/
structure Pairs (casing : Casing) (small capital : Char) : Prop where
  small_class : isLowercase small ∧ isUppercase small = false ∧ isTitlecase small = false
  capital_class : isUppercase capital ∧ isLowercase capital = false ∧ isTitlecase capital = false
  uppercase : casing.uppercase [small] = [capital]
  titlecase : casing.titlecase [small] = [capital]
  lowercase_capital : casing.lowercase [capital] = [small]
  lowercase_small : casing.lowercase [small] = [small]
  ne_sigma : small ≠ 'Σ' ∧ capital ≠ 'Σ'
  not_isBlank : isBlank small = false ∧ isBlank capital = false
  not_numeric : capital.isDigit = false ∧ capital ∉ ['-', '.', ',']

variable {casing : Casing} {c capital : Char} {text word capitals : Text}

instance : Decidable (casing.Pairs c capital) :=
  decidable_of_iff
    ((isLowercase c ∧ isUppercase c = false ∧ isTitlecase c = false) ∧
      (isUppercase capital ∧ isLowercase capital = false ∧ isTitlecase capital = false) ∧
      casing.uppercase [c] = [capital] ∧ casing.titlecase [c] = [capital] ∧
      casing.lowercase [capital] = [c] ∧ casing.lowercase [c] = [c] ∧
      (c ≠ 'Σ' ∧ capital ≠ 'Σ') ∧ (isBlank c = false ∧ isBlank capital = false) ∧
      capital.isDigit = false ∧ capital ∉ ['-', '.', ','])
    ⟨fun h ↦ ⟨h.1, h.2.1, h.2.2.1, h.2.2.2.1, h.2.2.2.2.1, h.2.2.2.2.2.1, h.2.2.2.2.2.2.1,
        h.2.2.2.2.2.2.2.1, h.2.2.2.2.2.2.2.2⟩,
      fun h ↦ ⟨h.small_class, h.capital_class, h.uppercase, h.titlecase, h.lowercase_capital,
        h.lowercase_small, h.ne_sigma, h.not_isBlank, h.not_numeric⟩⟩

theorem exists_pairs (h : c ∈ casing.alphabet) : ∃ capital, casing.Pairs c capital := by
  have hall : (casing.alphabet.all fun c ↦
      decide (casing.Pairs c ((casing.uppercase [c]).headD c))) = true := by
    cases casing <;> decide +kernel
  exact ⟨_, of_decide_eq_true (List.all_eq_true.1 hall c h)⟩

theorem exists_forall₂_pairs (h : ∀ c ∈ word, c ∈ casing.alphabet) :
    ∃ capitals, List.Forall₂ casing.Pairs word capitals := by
  induction word with
  | nil => exact ⟨[], .nil⟩
  | cons c word ih =>
      rw [List.forall_mem_cons] at h
      obtain ⟨capital, hpair⟩ := exists_pairs h.1
      obtain ⟨capitals, hpairs⟩ := ih h.2
      exact ⟨capital :: capitals, .cons hpair hpairs⟩

/-! ## Words letter by letter -/

theorem lowercase_eq_flatMap (casing : Casing) (h : 'Σ' ∉ text) :
    casing.lowercase text = text.flatMap fun c ↦ casing.lowercase [c] := by
  have hsingle {c : Char} (hc : c ≠ 'Σ') : Text.lowercase [c] = lowerOf c := by
    rw [Text.lowercase, lowercaseAfter_eq_flatMap (by simpa using Ne.symm hc), List.flatMap_cons,
      List.flatMap_nil, List.append_nil]
  cases casing with
  | standard =>
      simp only [lowercase]
      rw [Text.lowercase, lowercaseAfter_eq_flatMap h]
      apply List.flatMap_congr
      intro c hc
      exact (hsingle fun heq ↦ h (heq ▸ hc)).symm
  | turkic =>
      have hmap : ∀ c ∈ text, (if c = 'I' then 'ı' else if c = 'İ' then 'i' else c) ≠ 'Σ' := by
        intro c hc
        split
        · decide
        · split
          · decide
          · exact fun heq ↦ h (heq ▸ hc)
      simp only [lowercase]
      rw [Text.lowercase, lowercaseAfter_eq_flatMap, List.flatMap_map]
      · apply List.flatMap_congr
        intro c hc
        exact (hsingle (hmap c hc)).symm
      · rw [List.mem_map]
        intro hsigma
        obtain ⟨c, hc, heq⟩ := hsigma
        exact hmap c hc heq

theorem uppercase_eq_flatMap (casing : Casing) (text : Text) :
    casing.uppercase text = text.flatMap fun c ↦ casing.uppercase [c] := by
  cases casing <;> simp [uppercase, Text.uppercase, replaceChar, List.flatMap_map]

theorem flatMap_eq_of_forall₂ {f : Char → Text} (h : List.Forall₂ (fun c d ↦ f c = [d]) text word) :
    text.flatMap f = word := by
  induction h with
  | nil => rfl
  | cons hc _ ih => rw [List.flatMap_cons, hc, ih, List.singleton_append]

theorem lowercase_eq_of_forall₂
    (h : List.Forall₂ (fun c d ↦ c ≠ 'Σ' ∧ casing.lowercase [c] = [d]) text word) :
    casing.lowercase text = word := by
  have hsigma : 'Σ' ∉ text := by
    induction h with
    | nil => exact List.not_mem_nil
    | cons hc _ ih =>
        rw [List.mem_cons, not_or]
        exact ⟨hc.1.symm, ih⟩
  rw [lowercase_eq_flatMap casing hsigma]
  exact flatMap_eq_of_forall₂ (h.imp fun _ _ hc ↦ hc.2)

section Words

variable (h : List.Forall₂ casing.Pairs word capitals)
include h

theorem uppercase_eq_of_pairs : casing.uppercase word = capitals := by
  rw [uppercase_eq_flatMap]
  exact flatMap_eq_of_forall₂ (h.imp fun _ _ hpair ↦ hpair.uppercase)

theorem lowercase_of_pairs : casing.lowercase capitals = word := by
  apply lowercase_eq_of_forall₂
  exact h.flip.imp fun _ _ hpair ↦ ⟨hpair.ne_sigma.2, hpair.lowercase_capital⟩

theorem forall₂_lowercase_self :
    List.Forall₂ (fun c d ↦ c ≠ 'Σ' ∧ casing.lowercase [c] = [d]) word word := by
  induction h with
  | nil => exact .nil
  | cons hpair _ ih => exact .cons ⟨hpair.ne_sigma.1, hpair.lowercase_small⟩ ih

theorem titlecase_cons_of_pairs (hc : casing.Pairs c capital) :
    casing.titlecase (c :: word) = capital :: word := by
  have hword := forall₂_lowercase_self h
  have hlower : casing.lowercase word = word := lowercase_eq_of_forall₂ hword
  have hfirst := hc.titlecase
  cases casing with
  | standard =>
      have hmap : word.flatMap lowerOf = word := by
        apply flatMap_eq_of_forall₂
        apply hword.imp
        intro c d hc
        rw [← hc.2, lowercase, Text.lowercase,
          lowercaseAfter_eq_flatMap (by simpa using Ne.symm hc.1), List.flatMap_cons,
          List.flatMap_nil, List.append_nil]
      simp only [titlecase, Text.titlecase, List.flatMap_nil, List.append_nil] at hfirst ⊢
      rw [hfirst, hmap, List.singleton_append]
  | turkic =>
      have hnone : lowercase turkic [] = [] := rfl
      rw [titlecase, hnone, List.append_nil] at hfirst
      rw [titlecase, hfirst, hlower, List.singleton_append]

theorem lowercase_cons_of_pairs (hc : casing.Pairs c capital) :
    casing.lowercase (capital :: word) = c :: word := by
  apply lowercase_eq_of_forall₂
  exact .cons ⟨hc.ne_sigma.2, hc.lowercase_capital⟩ (forall₂_lowercase_self h)

theorem not_isBlank_of_pairs :
    (∀ c ∈ word, isBlank c = false) ∧ ∀ c ∈ capitals, isBlank c = false := by
  induction h with
  | nil => simp
  | cons hpair _ ih =>
      rw [List.forall_mem_cons, List.forall_mem_cons]
      exact ⟨⟨hpair.not_isBlank.1, ih.1⟩, hpair.not_isBlank.2, ih.2⟩

/-! ## How capitals are spread -/

theorem forall_isUppercase_of_pairs : ∀ d ∈ capitals, isUppercase d := by
  induction h with
  | nil => exact List.forall_mem_nil _
  | cons hpair _ ih => exact List.forall_mem_cons.2 ⟨hpair.capital_class.1, ih⟩

theorem forall_isLowercase_of_pairs : ∀ d ∈ word, isLowercase d := by
  induction h with
  | nil => exact List.forall_mem_nil _
  | cons hpair _ ih => exact List.forall_mem_cons.2 ⟨hpair.small_class.1, ih⟩

theorem ofText_capitals (hc : casing.Pairs c capital) :
    CapStyle.ofText (capital :: capitals) = .allCaps := by
  apply CapStyle.ofText_of_allUppercase
  refine ⟨List.cons_ne_nil capital capitals, List.forall_mem_cons.2 ⟨hc.capital_class.1, ?_⟩⟩
  exact forall_isUppercase_of_pairs h

theorem ofText_capitalized (hc : casing.Pairs c capital) :
    CapStyle.ofText (capital :: word) = if word = [] then .allCaps else .capitalized := by
  by_cases hne : word = []
  · rw [if_pos hne, hne]
    exact ofText_capitals .nil hc
  · rw [if_neg hne]
    apply CapStyle.ofText_of_isCapitalized
    exact ⟨capital, word, rfl, forall_isLowercase_of_pairs h, Or.inl ⟨hc.capital_class.1, hne⟩⟩

end Words

end Casing
end Orthography
