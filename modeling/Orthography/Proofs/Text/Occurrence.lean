import Orthography.Text.Basic

/-!
# First occurrences

A text is split at the first occurrence of a separator.  Whether that is the one behind a given
beginning does not depend on what follows it.
-/

namespace Orthography
namespace Text

variable {sep left right text : Text}

/-- In `left ++ sep`, and so in every text that begins with it, the first `sep` is the last one
shown. -/
def IsFirstBehind (sep left : Text) : Prop :=
  ∀ before behind, left ++ sep = before ++ sep ++ behind → behind = []

theorem isFirstBehind_singleton {c : Char} (h : c ∉ left) : IsFirstBehind [c] left := by
  intro before behind heq
  rcases List.eq_nil_or_concat behind with hnil | ⟨behind, d, rfl⟩
  · exact hnil
  · rw [List.concat_eq_append, ← List.append_assoc] at heq
    obtain ⟨rfl, -⟩ := List.append_inj' heq rfl
    simp at h

theorem not_mem_of_isFirstBehind {c : Char} (h : IsFirstBehind [c] left) :
    c ∉ left := by
  intro hc
  obtain ⟨before, behind, rfl⟩ := List.append_of_mem hc
  have hnil := h before (behind ++ [c]) (by simp)
  exact List.append_ne_nil_of_right_ne_nil behind (List.cons_ne_nil c []) hnil

/-- Where a separator occurs, the text is split there or before. -/
theorem exists_splitOnce?_of_eq_append {before behind : Text}
    (h : text = before ++ sep ++ behind) :
    ∃ left right, splitOnce? sep text = some (left, right) ∧ left.length ≤ before.length := by
  induction text generalizing before with
  | nil =>
      obtain ⟨rfl, rfl, rfl⟩ : before = [] ∧ sep = [] ∧ behind = [] := by simpa using h.symm
      exact ⟨[], [], rfl, Nat.le_refl _⟩
  | cons c text ih =>
      simp only [splitOnce?]
      cases hafter : after? sep (c :: text) with
      | some rest => exact ⟨[], rest, rfl, Nat.zero_le _⟩
      | none =>
          cases before with
          | nil =>
              have hsep : after? sep (c :: text) = some behind := after?_eq_some_iff.2 h
              rw [hsep] at hafter
              cases hafter
          | cons d before =>
              obtain ⟨rfl, htext⟩ := List.cons.inj h
              obtain ⟨left, right, hsplit, hle⟩ := ih htext
              exact ⟨c :: left, right, by rw [hsplit]; rfl, Nat.succ_le_succ hle⟩

theorem splitOnce?_append_iff :
    splitOnce? sep (left ++ sep ++ right) = some (left, right) ↔ IsFirstBehind sep left := by
  constructor
  · intro hsplit before behind heq
    obtain ⟨left', right', hsplit', hle⟩ := exists_splitOnce?_of_eq_append
      (show left ++ sep ++ right = before ++ sep ++ (behind ++ right) by
        rw [heq, List.append_assoc])
    obtain ⟨rfl, rfl⟩ := Prod.mk.inj (Option.some.inj (hsplit.symm.trans hsplit'))
    have hlength := congrArg List.length heq
    simp only [List.length_append] at hlength
    exact List.length_eq_zero_iff.1 (by omega)
  · intro hfirst
    obtain ⟨left', right', hsplit, hle⟩ := exists_splitOnce?_of_eq_append
      (rfl : left ++ sep ++ right = left ++ sep ++ right)
    have heq := eq_append_of_splitOnce? hsplit
    -- Both beginnings start the same text, so the shorter one starts the longer one.
    obtain ⟨behind, hbehind⟩ : left' ++ sep <+: left ++ sep := by
      refine List.prefix_of_prefix_length_le (heq ▸ List.prefix_append _ _)
        (List.prefix_append _ right) ?_
      simpa using hle
    obtain rfl := hfirst left' behind hbehind.symm
    rw [List.append_nil] at hbehind
    obtain rfl := List.append_cancel_right hbehind
    obtain rfl := List.append_cancel_left heq
    exact hsplit

/-- A character that does not occur in two beginnings ends them at the same place. -/
theorem eq_of_append_cons_eq {c : Char} {left' right' : Text} (h : c ∉ left) (h' : c ∉ left')
    (heq : left ++ c :: right = left' ++ c :: right') : left = left' := by
  have hsplit : splitOnce? [c] (left ++ [c] ++ right) = some (left, right) :=
    splitOnce?_append_iff.2 (isFirstBehind_singleton h)
  have hsplit' : splitOnce? [c] (left' ++ [c] ++ right') = some (left', right') :=
    splitOnce?_append_iff.2 (isFirstBehind_singleton h')
  rw [List.append_assoc, List.singleton_append] at hsplit hsplit'
  rw [heq, hsplit'] at hsplit
  exact (Prod.mk.inj (Option.some.inj hsplit)).1.symm

end Text
end Orthography
