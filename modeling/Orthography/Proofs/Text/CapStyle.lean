import Orthography.Proofs.Text.CharClass
import Orthography.Text.Case

/-!
# Capitalisation style

The style of a word is told by its letters alone, which are the characters of three classes: small,
capital and titlecase ones.  No character is in two of the classes, so the letters of a word are
spread in one way, and in no other.
-/

namespace Orthography
namespace Text

variable {c : Char} {text : Text}

/-! ## What a scan of letters finds -/

/-- A letter that is not small is a capital of one kind or the other. -/
theorem any_capital_eq_not_all (hcased : ∀ c ∈ text, isCased c) :
    text.any (fun c ↦ isUppercase c || isTitlecase c) = !text.all isLowercase := by
  induction text with
  | nil => rfl
  | cons c text ih =>
      rw [List.forall_mem_cons] at hcased
      have hc : (isUppercase c || isTitlecase c) = !isLowercase c := by
        rcases isCased_iff.1 hcased.1 with h | h | h
        · rw [h, (other_classes_of_isLowercase h).1, (other_classes_of_isLowercase h).2]
          rfl
        · rw [h, (other_classes_of_isUppercase h).1, Bool.true_or, Bool.not_false]
        · rw [h, (other_classes_of_isTitlecase h).1, Bool.or_true, Bool.not_false]
      rw [List.any_cons, List.all_cons, hc, ih hcased.2, Bool.not_and]

theorem any_capital_eq_false_iff (hcased : ∀ c ∈ text, isCased c) :
    text.any (fun c ↦ isUppercase c || isTitlecase c) = false ↔ ∀ c ∈ text, isLowercase c := by
  rw [any_capital_eq_not_all hcased, Bool.not_eq_false', List.all_eq_true]

theorem any_eq_false_iff_forall_isUppercase (hcased : ∀ c ∈ text, isCased c) :
    text.any isLowercase = false ∧ text.any isTitlecase = false ↔ ∀ c ∈ text, isUppercase c := by
  rw [List.any_eq_false, List.any_eq_false]
  constructor
  · intro h c hc
    obtain ⟨hlower, htitle⟩ := h
    exact ((isCased_iff.1 (hcased c hc)).resolve_left (hlower c hc)).resolve_right (htitle c hc)
  · intro h
    constructor <;> intro c hc <;> simp [other_classes_of_isUppercase (h c hc)]

theorem forall_isCased_of_isLowercase (h : ∀ c ∈ text, isLowercase c) : ∀ c ∈ text, isCased c :=
  fun c hc ↦ isCased_iff.2 (Or.inl (h c hc))

theorem forall_isCased_of_isUppercase (h : ∀ c ∈ text, isUppercase c) : ∀ c ∈ text, isCased c :=
  fun c hc ↦ isCased_iff.2 (Or.inr (Or.inl (h c hc)))

end Text

namespace CapStyle

open Text

variable {c : Char} {letters text : Text}

/-! ## The first letter and those behind it -/

theorem ofText_cons_of_isLowercase (h : isLowercase c) : ofText (c :: text) =
    if text.any fun d ↦ isUppercase d || isTitlecase d then mixed else lowercase := by
  simp only [ofText, h, if_true]

theorem ofText_cons_of_isUppercase (h : isUppercase c) : ofText (c :: text) =
    if text.any isLowercase then
      if text.any fun d ↦ isUppercase d || isTitlecase d then mixed else capitalized
    else if text.any isTitlecase then mixed else allCaps := by
  simp only [ofText, h, (other_classes_of_isUppercase h).1, Bool.false_eq_true, if_false, if_true]

theorem ofText_cons_of_isTitlecase (h : isTitlecase c) : ofText (c :: text) =
    if text.any fun d ↦ isUppercase d || isTitlecase d then mixed else capitalized := by
  simp only [ofText, h, other_classes_of_isTitlecase h, Bool.false_eq_true, if_false, if_true]

theorem ofText_cons_of_not_isCased (h : isCased c = false) : ofText (c :: text) = ofText text := by
  simp only [ofText, isCased_eq_false_iff.1 h, Bool.false_eq_true, if_false]

theorem any_filter_isCased {p : Char → Bool} (hp : ∀ c, p c → isCased c) (text : Text) :
    (text.filter isCased).any p = text.any p := by
  rw [List.any_filter]
  apply List.any_congr rfl
  intro c
  cases hc : p c with
  | false => rw [Bool.and_false]
  | true => rw [hp c hc, Bool.and_true]

/-- What is no letter is passed over at the beginning, and is never what is looked for behind the
first letter. -/
theorem ofText_filter_isCased (word : Text) : ofText (word.filter isCased) = ofText word := by
  have hlower := any_filter_isCased fun c h ↦ isCased_iff.2 (Or.inl h)
  have htitle := any_filter_isCased fun c h ↦ isCased_iff.2 (Or.inr (Or.inr h))
  have hcapital := any_filter_isCased (p := fun c ↦ isUppercase c || isTitlecase c)
    fun c h ↦ isCased_iff.2 (Or.inr (Bool.or_eq_true_iff.1 h))
  induction word with
  | nil => rfl
  | cons c word ih =>
      cases hc : isCased c with
      | false => rw [List.filter_cons_of_neg (by simp [hc]), ofText_cons_of_not_isCased hc, ih]
      | true =>
          rw [List.filter_cons_of_pos hc]
          rcases isCased_iff.1 hc with h | h | h
          · rw [ofText_cons_of_isLowercase h, ofText_cons_of_isLowercase h, hcapital]
          · rw [ofText_cons_of_isUppercase h, ofText_cons_of_isUppercase h, hlower, htitle,
              hcapital]
          · rw [ofText_cons_of_isTitlecase h, ofText_cons_of_isTitlecase h, hcapital]

/-! ## How letters are spread -/

def AllLowercase (letters : Text) : Prop := letters ≠ [] ∧ ∀ c ∈ letters, isLowercase c

def AllUppercase (letters : Text) : Prop := letters ≠ [] ∧ ∀ c ∈ letters, isUppercase c

/-- One capital with small letters behind it.  A titlecase letter may be alone; an uppercase one is
then all there is. -/
def IsCapitalized (letters : Text) : Prop :=
  ∃ first rest, letters = first :: rest ∧ (∀ c ∈ rest, isLowercase c) ∧
    (isUppercase first ∧ rest ≠ [] ∨ isTitlecase first)

/-- The letters are spread as the style says, and so in none of the regular ways if it is mixed. -/
def Describes : CapStyle → Text → Prop
  | lowercase, letters => AllLowercase letters
  | capitalized, letters => IsCapitalized letters
  | allCaps, letters => AllUppercase letters
  | mixed, letters =>
      letters ≠ [] ∧ ¬AllLowercase letters ∧ ¬AllUppercase letters ∧ ¬IsCapitalized letters
  | neutral, letters => letters = []

theorem ofText_of_allLowercase (h : AllLowercase letters) : ofText letters = lowercase := by
  obtain ⟨hne, hlower⟩ := h
  obtain ⟨first, rest, rfl⟩ := List.exists_cons_of_ne_nil hne
  rw [List.forall_mem_cons] at hlower
  have hcapital :=
    (any_capital_eq_false_iff (forall_isCased_of_isLowercase hlower.2)).2 hlower.2
  rw [ofText_cons_of_isLowercase hlower.1, hcapital]
  rfl

theorem ofText_of_allUppercase (h : AllUppercase letters) : ofText letters = allCaps := by
  obtain ⟨hne, hupper⟩ := h
  obtain ⟨first, rest, rfl⟩ := List.exists_cons_of_ne_nil hne
  rw [List.forall_mem_cons] at hupper
  obtain ⟨hlower, htitle⟩ :=
    (any_eq_false_iff_forall_isUppercase (forall_isCased_of_isUppercase hupper.2)).2 hupper.2
  rw [ofText_cons_of_isUppercase hupper.1, hlower, htitle]
  rfl

theorem ofText_of_isCapitalized (h : IsCapitalized letters) : ofText letters = capitalized := by
  obtain ⟨first, rest, rfl, hlower, hfirst⟩ := h
  have hcapital := (any_capital_eq_false_iff (forall_isCased_of_isLowercase hlower)).2 hlower
  rcases hfirst with ⟨hupper, hne⟩ | htitle
  · obtain ⟨c, hc⟩ := List.exists_mem_of_ne_nil rest hne
    have hany : rest.any isLowercase := List.any_eq_true.2 ⟨c, hc, hlower c hc⟩
    rw [ofText_cons_of_isUppercase hupper, hany, hcapital]
    rfl
  · rw [ofText_cons_of_isTitlecase htitle, hcapital]
    rfl

/-- Each way in which the letters are not spread leaves one that a scan finds. -/
theorem ofText_of_describes_mixed (hcased : ∀ c ∈ letters, isCased c)
    (h : mixed.Describes letters) : ofText letters = mixed := by
  obtain ⟨hne, hlower, hupper, hcapitalized⟩ := h
  obtain ⟨first, rest, rfl⟩ := List.exists_cons_of_ne_nil hne
  rw [List.forall_mem_cons] at hcased
  obtain ⟨hfirst, hrest⟩ := hcased
  have hcapital (hsmall : ¬∀ c ∈ rest, isLowercase c) :
      rest.any (fun d ↦ isUppercase d || isTitlecase d) = true := by
    rwa [← any_capital_eq_false_iff hrest, Bool.not_eq_false] at hsmall
  rcases isCased_iff.1 hfirst with h | h | h
  · have hsmall : ¬∀ c ∈ rest, isLowercase c := fun hsmall ↦
      hlower ⟨hne, List.forall_mem_cons.2 ⟨h, hsmall⟩⟩
    rw [ofText_cons_of_isLowercase h, hcapital hsmall]
    rfl
  · rw [ofText_cons_of_isUppercase h]
    cases hany : rest.any isLowercase with
    | true =>
        -- A small letter rules out that the first one is alone.
        have hkept : rest ≠ [] := by
          rintro rfl
          cases hany
        have hsmall : ¬∀ c ∈ rest, isLowercase c := fun hsmall ↦
          hcapitalized ⟨first, rest, rfl, hsmall, Or.inl ⟨h, hkept⟩⟩
        rw [hcapital hsmall]
        rfl
    | false =>
        have htitle : rest.any isTitlecase = true := by
          rw [← Bool.not_eq_false]
          intro htitle
          have hall := (any_eq_false_iff_forall_isUppercase hrest).1 ⟨hany, htitle⟩
          exact hupper ⟨hne, List.forall_mem_cons.2 ⟨h, hall⟩⟩
        rw [htitle]
        rfl
  · have hsmall : ¬∀ c ∈ rest, isLowercase c := fun hsmall ↦
      hcapitalized ⟨first, rest, rfl, hsmall, Or.inr h⟩
    rw [ofText_cons_of_isTitlecase h, hcapital hsmall]
    rfl

theorem ofText_eq_iff_describes (hcased : ∀ c ∈ letters, isCased c) (style : CapStyle) :
    ofText letters = style ↔ style.Describes letters := by
  constructor
  · rintro rfl
    by_cases hnil : letters = []
    · rw [hnil]
      rfl
    by_cases hlower : AllLowercase letters
    · rwa [ofText_of_allLowercase hlower]
    by_cases hupper : AllUppercase letters
    · rwa [ofText_of_allUppercase hupper]
    by_cases hcapitalized : IsCapitalized letters
    · rwa [ofText_of_isCapitalized hcapitalized]
    have hmixed : mixed.Describes letters := ⟨hnil, hlower, hupper, hcapitalized⟩
    rwa [ofText_of_describes_mixed hcased hmixed]
  · intro h
    cases style with
    | lowercase => exact ofText_of_allLowercase h
    | capitalized => exact ofText_of_isCapitalized h
    | allCaps => exact ofText_of_allUppercase h
    | mixed => exact ofText_of_describes_mixed hcased h
    | neutral =>
        obtain rfl : letters = [] := h
        rfl

/-- A word has the style of its letters, and it is the one style in which they are spread. -/
theorem ofText_told_by_letters (word : Text) :
    ofText word = ofText (word.filter isCased) ∧
      ∀ style, ofText (word.filter isCased) = style ↔ style.Describes (word.filter isCased) := by
  refine ⟨(ofText_filter_isCased word).symm, ofText_eq_iff_describes fun c hc ↦ ?_⟩
  exact (List.mem_filter.1 hc).2

end CapStyle
end Orthography
