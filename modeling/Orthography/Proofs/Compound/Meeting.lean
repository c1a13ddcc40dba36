import Mathlib.Tactic.ByContra
import Orthography.Compound.Search

/-!
# Where parts of a compound meet

`Settings.JoinsWith` says in words what `Settings.joins` tests: parts that a pattern joins carry
its flags, and other parts keep apart from what the settings forbid at a meeting place.
-/

namespace Orthography

/-- The root carries the flag that is asked for, if one is. -/
def PatternSide.IsCarriedBy (side : PatternSide) (root : Entry) : Prop :=
  ∀ flag, side.flag = some flag → root.hasFlag flag

theorem PatternSide.allows_iff {side : PatternSide} {root : Entry} :
    side.allows root ↔ side.IsCarriedBy root := by
  obtain ⟨chars, flag⟩ := side
  cases flag with
  | none => simp [allows, IsCarriedBy]
  | some flag => simp [allows, IsCarriedBy]

namespace CompoundPattern

variable {pattern : CompoundPattern} {left right : Text} {leftRoot rightRoot : Entry}

theorem flagsMatch_iff :
    pattern.flagsMatch leftRoot rightRoot ↔
      pattern.ending.IsCarriedBy leftRoot ∧ pattern.beginning.IsCarriedBy rightRoot := by
  simp [flagsMatch, PatternSide.allows_iff]

theorem forbids_iff :
    pattern.forbids left leftRoot right rightRoot ↔
      pattern.replacement = none ∧ pattern.ending.chars <:+ left ∧
        pattern.beginning.chars <+: right ∧ pattern.ending.IsCarriedBy leftRoot ∧
          pattern.beginning.IsCarriedBy rightRoot := by
  have hbefore : (Text.before? pattern.ending.chars left).isSome ↔
      pattern.ending.chars <:+ left := by
    simp only [Option.isSome_iff_exists, Text.before?_eq_some_iff]
    exact exists_congr fun _ ↦ eq_comm
  have hafter : (Text.after? pattern.beginning.chars right).isSome ↔
      pattern.beginning.chars <+: right := by
    simp only [Option.isSome_iff_exists, Text.after?_eq_some_iff]
    exact exists_congr fun _ ↦ eq_comm
  simp [forbids, hbefore, hafter, flagsMatch_iff, and_assoc]

end CompoundPattern

namespace Settings

variable {settings : Settings} {word left right : Text}

theorem capitalsMeet_eq_true_iff :
    settings.capitalsMeet word left right ↔
      settings.forbidCapitals ∧ (∃ c ∈ word, Text.isLowercase c) ∧
        (∃ c ∈ word, Text.isUppercase c) ∧ ∃ a b, [a] <:+ left ∧ [b] <+: right ∧
          (Text.isUppercase a ∨ Text.isUppercase b) ∧ a ≠ '-' ∧ b ≠ '-' := by
  have hlast (a : Char) : [a] <:+ left ↔ [a] <+: left.reverse := by
    rw [← List.reverse_prefix, List.reverse_singleton]
  simp only [capitalsMeet, Text.isOneCase, hlast]
  rcases left.reverse with _ | ⟨a, back⟩
  · simp
  rcases right with _ | ⟨b, right⟩
  · simp
  · simp [List.cons_prefix_cons, and_assoc]

theorem tripleMeets_eq_true_iff :
    settings.tripleMeets left right ↔
      settings.forbidTriple ∧ ∃ c, ([c, c] <:+ left ∧ [c] <+: right) ∨
        ([c] <:+ left ∧ [c, c] <+: right) := by
  have hlast (text : Text) : text <:+ left ↔ text.reverse <+: left.reverse :=
    List.reverse_prefix.symm
  simp only [tripleMeets, hlast]
  rcases left.reverse with _ | ⟨a, back⟩
  · simp
  rcases right with _ | ⟨b, right⟩
  · simp
  · cases back <;> cases right <;> simp [List.cons_prefix_cons] <;> grind

/-- What has to hold where two parts meet that no pattern joins. -/
structure MeetFreely (settings : Settings) (word : Text) (before part : Segment) : Prop where
  unforbidden : ∀ pattern ∈ settings.patterns, pattern.replacement = none →
    ¬(pattern.ending.chars <:+ before.text ∧ pattern.beginning.chars <+: part.text ∧
      pattern.ending.IsCarriedBy before.derivation.root ∧
        pattern.beginning.IsCarriedBy part.derivation.root)
  distinct : settings.forbidDouble → before.text ≠ part.text
  /-- Beside a hyphen and in a word that is written in one case capitals do not matter. -/
  capitals : settings.forbidCapitals → (∃ c ∈ word, Text.isLowercase c) →
    (∃ c ∈ word, Text.isUppercase c) → ∀ a b, [a] <:+ before.text → [b] <+: part.text →
      Text.isUppercase a ∨ Text.isUppercase b → a = '-' ∨ b = '-'
  triples : settings.forbidTriple → ∀ c, ¬([c, c] <:+ before.text ∧ [c] <+: part.text) ∧
    ¬([c] <:+ before.text ∧ [c, c] <+: part.text)

/-- What has to hold where two parts meet. -/
def JoinsWith (settings : Settings) (word : Text) (before part : Segment) : Prop :=
  match part.via with
  | some pattern => pattern.ending.IsCarriedBy before.derivation.root ∧
      pattern.beginning.IsCarriedBy part.derivation.root
  | none => settings.MeetFreely word before part

theorem joins_iff {before part : Segment} :
    settings.joins word before part.text part.derivation part.via ↔
      settings.JoinsWith word before part := by
  cases hvia : part.via with
  | some pattern => simp only [joins, JoinsWith, hvia, CompoundPattern.flagsMatch_iff]
  | none =>
      simp only [joins, JoinsWith, hvia, Bool.and_eq_true, Bool.not_eq_true', and_assoc]
      constructor
      · rintro ⟨hpatterns, hdouble, hcapitals, htriple⟩
        refine ⟨?_, ?_, ?_, ?_⟩
        · intro pattern hpattern hnone hforbids
          have hfalse := List.any_eq_false.1 hpatterns pattern hpattern
          exact hfalse (CompoundPattern.forbids_iff.2 ⟨hnone, hforbids⟩)
        · intro hset heq
          simp [hset, heq] at hdouble
        · intro hset hlower hupper a b ha hb hab
          by_contra hdash
          rw [not_or] at hdash
          have hmeet := capitalsMeet_eq_true_iff.2 ⟨hset, hlower, hupper, a, b, ha, hb, hab, hdash⟩
          rw [hcapitals] at hmeet
          cases hmeet
        · intro hset c
          rw [← not_or]
          intro hc
          have hmeet := tripleMeets_eq_true_iff.2 ⟨hset, c, hc⟩
          rw [htriple] at hmeet
          cases hmeet
      · rintro ⟨hunforbidden, hdistinct, hcapitals, htriples⟩
        refine ⟨?_, ?_, ?_, ?_⟩
        · refine List.any_eq_false.2 fun pattern hpattern hforbids ↦ ?_
          obtain ⟨hnone, hforbids⟩ := CompoundPattern.forbids_iff.1 hforbids
          exact hunforbidden pattern hpattern hnone hforbids
        · simpa using hdistinct
        · refine Bool.eq_false_iff.2 fun hmeet ↦ ?_
          obtain ⟨hset, hlower, hupper, a, b, ha, hb, hab, hdash⟩ :=
            capitalsMeet_eq_true_iff.1 hmeet
          rcases hcapitals hset hlower hupper a b ha hb hab with h | h
          · exact hdash.1 h
          · exact hdash.2 h
        · refine Bool.eq_false_iff.2 fun hmeet ↦ ?_
          obtain ⟨hset, c, hc⟩ := tripleMeets_eq_true_iff.1 hmeet
          rcases hc with hc | hc
          · exact (htriples hset c).1 hc
          · exact (htriples hset c).2 hc

end Settings
end Orthography
