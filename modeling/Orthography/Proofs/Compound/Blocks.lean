import Orthography.Proofs.Compound.Rule

/-!
# The language of a compound rule

A compound rule is a regular expression over flags.  Words follow it exactly if they fall apart into
consecutive blocks, one for each element; and words that have come to some place of the rule can be
completed, provided that every flag of the rule is carried by some word.
-/

namespace Orthography

variable {α : Type}

/-- How many words an element takes. -/
def RuleElement.MayTake (n : Nat) : RuleElement → Prop
  | once _ => n = 1
  | optional _ => n ≤ 1
  | multi _ => True

/-- Words in a row that one element of a rule takes. -/
structure RuleElement.IsBlock (carries : α → Flag → Prop) (element : RuleElement)
    (block : List α) : Prop where
  count : element.MayTake block.length
  carried : ∀ word ∈ block, carries word element.flag

section Blocks

variable {carries : α → Flag → Prop} {element : RuleElement} {flag : Flag} {word : α}
  {block words : List α} {rule : CompoundRule}

namespace RuleElement

theorem isBlock_singleton (h : carries word element.flag) : element.IsBlock carries [word] := by
  refine ⟨?_, by simpa using h⟩
  cases element <;> simp [MayTake]

theorem isBlock_once_iff :
    (once flag).IsBlock carries block ↔ ∃ word, block = [word] ∧ carries word flag := by
  constructor
  · rintro ⟨hcount, hcarried⟩
    obtain ⟨word, rfl⟩ := List.length_eq_one_iff.1 hcount
    exact ⟨word, rfl, hcarried word List.mem_cons_self⟩
  · rintro ⟨word, rfl, h⟩
    exact isBlock_singleton h

theorem isBlock_optional_iff :
    (optional flag).IsBlock carries block ↔
      block = [] ∨ ∃ word, block = [word] ∧ carries word flag := by
  constructor
  · rintro ⟨hcount, hcarried⟩
    rcases Nat.le_one_iff_eq_zero_or_eq_one.1 hcount with hzero | hone
    · exact Or.inl (List.length_eq_zero_iff.1 hzero)
    · exact Or.inr (isBlock_once_iff.1 ⟨hone, hcarried⟩)
  · rintro (rfl | ⟨word, rfl, h⟩)
    · exact ⟨Nat.zero_le 1, by simp⟩
    · exact isBlock_singleton h

theorem isBlock_multi_iff :
    (multi flag).IsBlock carries block ↔ ∀ word ∈ block, carries word flag :=
  ⟨fun h ↦ h.carried, fun h ↦ ⟨trivial, h⟩⟩

end RuleElement

namespace CompoundRule

theorem Follows.of_isBlock (h : element.IsBlock carries block)
    (hrest : Follows carries rule words) :
    Follows carries (element :: rule) (block ++ words) := by
  cases element with
  | once flag =>
      obtain ⟨word, rfl, hword⟩ := RuleElement.isBlock_once_iff.1 h
      exact .once hword hrest
  | optional flag =>
      rcases RuleElement.isBlock_optional_iff.1 h with rfl | ⟨word, rfl, hword⟩
      · exact .skip hrest
      · exact .take hword hrest
  | multi flag =>
      rw [RuleElement.isBlock_multi_iff] at h
      induction block with
      | nil => exact .stop hrest
      | cons word block ih =>
          obtain ⟨hword, hblock⟩ := List.forall_mem_cons.1 h
          exact .more hword (ih hblock)

theorem follows_iff_exists_blocks :
    Follows carries rule words ↔
      ∃ blocks : List (List α), blocks.flatten = words ∧
        List.Forall₂ (RuleElement.IsBlock carries) rule blocks := by
  constructor
  · intro h
    induction h with
    | nil => exact ⟨[], rfl, .nil⟩
    | once hword _ ih =>
        obtain ⟨blocks, rfl, hblocks⟩ := ih
        exact ⟨[_] :: blocks, rfl, .cons (RuleElement.isBlock_singleton hword) hblocks⟩
    | skip _ ih =>
        obtain ⟨blocks, rfl, hblocks⟩ := ih
        exact ⟨[] :: blocks, rfl, .cons ⟨Nat.zero_le 1, by simp⟩ hblocks⟩
    | take hword _ ih =>
        obtain ⟨blocks, rfl, hblocks⟩ := ih
        exact ⟨[_] :: blocks, rfl, .cons (RuleElement.isBlock_singleton hword) hblocks⟩
    | stop _ ih =>
        obtain ⟨blocks, rfl, hblocks⟩ := ih
        exact ⟨[] :: blocks, rfl, .cons ⟨trivial, by simp⟩ hblocks⟩
    | more hword _ ih =>
        obtain ⟨blocks, rfl, hblocks⟩ := ih
        cases hblocks with
        | cons hblock hblocks =>
            -- The word goes into the block that the same element takes.
            rw [RuleElement.isBlock_multi_iff] at hblock
            refine ⟨(_ :: _) :: _, rfl, .cons ?_ hblocks⟩
            exact RuleElement.isBlock_multi_iff.2 (List.forall_mem_cons.2 ⟨hword, hblock⟩)
  · rintro ⟨blocks, rfl, hblocks⟩
    induction hblocks with
    | nil => exact .nil
    | cons hblock _ ih => exact ih.of_isBlock hblock

theorem exists_follows (h : ∀ element ∈ rule, ∃ word, carries word element.flag) :
    ∃ words, Follows carries rule words := by
  induction rule with
  | nil => exact ⟨[], .nil⟩
  | cons element rule ih =>
      obtain ⟨⟨word, hword⟩, hrule⟩ := List.forall_mem_cons.1 h
      obtain ⟨words, hwords⟩ := ih hrule
      exact ⟨[word] ++ words, hwords.of_isBlock (RuleElement.isBlock_singleton hword)⟩

/-! ## Words that can be completed -/

variable {carries : Text → Flag → Bool} {words : List Text}

/-- What is left of a rule asks for no other flags than the rule did. -/
theorem exists_matchesAll_of_matchesPartly
    (h : ∀ element ∈ rule, ∃ word, carries word element.flag)
    (hpartly : rule.matchesPartly carries words) :
    ∃ more, rule.matchesAll carries (words ++ more) := by
  induction words generalizing rule with
  | nil =>
      have hfollows : ∃ more, Follows (carries · ·) rule more := exists_follows h
      obtain ⟨more, hmore⟩ := hfollows
      exact ⟨more, matchesAll_eq_true_iff.2 hmore⟩
  | cons word words ih =>
      obtain ⟨before, element, after, rfl, hbefore, hword, honward⟩ :=
        takesFirst_eq_true_iff.1 hpartly
      have hafter : ∀ other ∈ element.after after, ∃ word, carries word other.flag := by
        intro other hother
        apply h
        apply List.mem_append_right
        cases element with
        | once flag => exact List.mem_cons_of_mem _ hother
        | optional flag => exact List.mem_cons_of_mem _ hother
        | multi flag => exact hother
      obtain ⟨more, hmore⟩ := ih hafter honward
      exact ⟨more, takesFirst_eq_true_iff.2 ⟨before, element, after, rfl, hbefore, hword, hmore⟩⟩

/-- Words match a rule exactly if they fall apart into blocks that its elements take one after the
other.  Words that are the beginning of a match are told to be so, and if some word carries each
flag of the rule only these are. -/
theorem matchesAll_iff_exists_blocks (carries : Text → Flag → Bool) (rule : CompoundRule)
    (words : List Text) :
    (rule.matchesAll carries words ↔
      ∃ blocks : List (List Text), blocks.flatten = words ∧
        List.Forall₂ (RuleElement.IsBlock (carries · ·)) rule blocks) ∧
    (∀ more, rule.matchesAll carries (words ++ more) → rule.matchesPartly carries words) ∧
    ((∀ element ∈ rule, ∃ word, carries word element.flag) →
      rule.matchesPartly carries words → ∃ more, rule.matchesAll carries (words ++ more)) := by
  refine ⟨?_, ?_, ?_⟩
  · exact matchesAll_eq_true_iff.trans follows_iff_exists_blocks
  · intro more h
    exact matchesPartly_of_matchesAll h
  · exact exists_matchesAll_of_matchesPartly

/-- Any number of digits and an ending. -/
def ordinalRule : CompoundRule := [.multi 110, .once 49]

def ordinalCarries (word : Text) (flag : Flag) : Bool :=
  if word = ['s', 't'] then flag == 49 else word.all Char.isDigit && flag == 110

/-- The digits `2` and `1` do not match, but they can be completed. -/
theorem exists_matchesAll_twenty_one :
    ordinalRule.matchesAll ordinalCarries [['2'], ['1']] = false ∧
      (∀ element ∈ ordinalRule, ∃ word, ordinalCarries word element.flag) ∧
        ordinalRule.matchesPartly ordinalCarries [['2'], ['1']] ∧
          ∃ more, ordinalRule.matchesAll ordinalCarries ([['2'], ['1']] ++ more) := by
  have hcarried : ∀ element ∈ ordinalRule, ∃ word, ordinalCarries word element.flag := by
    intro element helement
    rcases List.mem_cons.1 helement with rfl | helement
    · exact ⟨['1'], rfl⟩
    · obtain rfl := List.mem_singleton.1 helement
      exact ⟨['s', 't'], rfl⟩
  have hpartly : ordinalRule.matchesPartly ordinalCarries [['2'], ['1']] := by decide
  exact ⟨by decide, hcarried, hpartly,
    (matchesAll_iff_exists_blocks _ _ _).2.2 hcarried hpartly⟩

end CompoundRule

end Blocks
end Orthography
