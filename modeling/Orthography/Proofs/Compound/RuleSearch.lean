import Orthography.Compound.Search
import Orthography.Proofs.Compound.Rule

/-!
# Dividing a word by a compound rule

The search grows one stem after the other and gives up where no rule is open any more.  It finds a
way of writing the word as a row of stems that follows a rule whenever there is one.
-/

namespace Orthography
namespace Dictionary

variable {dictionary : Dictionary} {word : Text}

theorem stemCarries_iff {stem : Text} {flag : Flag} :
    dictionary.stemCarries stem flag ↔ ∃ entry ∈ dictionary.lexicon.lookup stem,
      entry.hasRole .forbidden = false ∧ entry.hasFlag flag := by
  simp [stemCarries, and_comm]

/-- A rule takes a row of stems just if the row follows it, each stem by one of its homonyms. -/
theorem matchesAll_stemCarries_iff {rule : CompoundRule} {stems : List Text} :
    rule.matchesAll dictionary.stemCarries stems ↔
      rule.Follows (fun stem flag ↦ ∃ entry ∈ dictionary.lexicon.lookup stem,
        entry.hasRole .forbidden = false ∧ entry.hasFlag flag) stems := by
  simp only [CompoundRule.matchesAll_eq_true_iff, stemCarries_iff]

/-- Stems that bring a row of stems to an end, such that the whole follows a rule. -/
structure CompletesRow (dictionary : Dictionary) (done stems : List Text) : Prop where
  two_le : 2 ≤ (done ++ stems).length
  le_max : ∀ n, dictionary.settings.compoundMax = some n → (done ++ stems).length ≤ n
  long : ∀ stem ∈ stems, dictionary.settings.leastPart ≤ stem.length
  known : ∀ stem ∈ stems, dictionary.lexicon.contains stem
  follows : ∃ rule ∈ dictionary.settings.rules,
    rule.matchesAll dictionary.stemCarries (done ++ stems)

theorem completesRow_cons {done stems : List Text} {stem : Text} :
    dictionary.CompletesRow done (stem :: stems) ↔
      dictionary.settings.leastPart ≤ stem.length ∧ dictionary.lexicon.contains stem ∧
        dictionary.CompletesRow (done ++ [stem]) stems := by
  constructor
  · rintro ⟨htwo, hmax, hlong, hknown, hfollows⟩
    rw [List.append_cons] at htwo hmax hfollows
    obtain ⟨hlongStem, hlong⟩ := List.forall_mem_cons.1 hlong
    obtain ⟨hknownStem, hknown⟩ := List.forall_mem_cons.1 hknown
    exact ⟨hlongStem, hknownStem, htwo, hmax, hlong, hknown, hfollows⟩
  · rintro ⟨hlongStem, hknownStem, htwo, hmax, hlong, hknown, hfollows⟩
    rw [← List.append_cons] at htwo hmax hfollows
    exact ⟨htwo, hmax, List.forall_mem_cons.2 ⟨hlongStem, hlong⟩,
      List.forall_mem_cons.2 ⟨hknownStem, hknown⟩, hfollows⟩

/-- How far some stems have come in each of the rules. -/
def progressBehind (dictionary : Dictionary) (done : List Text) : List CompoundRule.Progress :=
  dictionary.settings.rules.map fun rule ↦ rule.follow dictionary.stemCarries done

theorem map_advance_progressBehind (done : List Text) (stem : Text) :
    (dictionary.progressBehind done).map (·.advance (dictionary.stemCarries stem)) =
      dictionary.progressBehind (done ++ [stem]) := by
  simp [progressBehind, CompoundRule.follow_concat]

theorem any_complete_progressBehind {done : List Text} :
    (dictionary.progressBehind done).any (·.complete) ↔
      ∃ rule ∈ dictionary.settings.rules, rule.matchesAll dictionary.stemCarries done := by
  simp [progressBehind, CompoundRule.complete_follow]

theorem CompletesRow.any_isOpen {done stems : List Text} (h : dictionary.CompletesRow done stems) :
    (dictionary.progressBehind done).any (·.isOpen) := by
  obtain ⟨rule, hrule, hmatches⟩ := h.follows
  have hpartly := CompoundRule.matchesPartly_of_matchesAll hmatches
  rw [← CompoundRule.isOpen_follow] at hpartly
  exact List.any_eq_true.2 ⟨_, List.mem_map_of_mem hrule, hpartly⟩

/-- Ways to divide the letters `stem ++ rest` into further stems, the first of which does not end
within `stem`. -/
def RowFrom (dictionary : Dictionary) (done : List Text) (stem rest : Text) : Prop :=
  ∃ stems, stems.flatten = stem ++ rest ∧ (∀ next ∈ stems.head?, stem.length < next.length) ∧
    dictionary.CompletesRow done stems

theorem rowFrom_nil_iff {done : List Text} {stem : Text} :
    dictionary.RowFrom done stem [] ↔ stem = [] ∧ dictionary.CompletesRow done [] := by
  constructor
  · rintro ⟨stems, hflatten, hnext, hcompletes⟩
    cases stems with
    | nil => exact ⟨(List.append_eq_nil_iff.1 hflatten.symm).1, hcompletes⟩
    | cons next stems =>
        have hlt : stem.length < next.length := hnext next rfl
        have hlength := congrArg List.length hflatten
        simp only [List.flatten_cons, List.length_append, List.length_nil] at hlength
        omega
  · rintro ⟨rfl, hcompletes⟩
    exact ⟨[], rfl, by simp, hcompletes⟩

theorem rowFrom_cons_iff {done : List Text} {stem rest : Text} {c : Char} :
    dictionary.RowFrom done stem (c :: rest) ↔
      (dictionary.settings.leastPart ≤ (stem ++ [c]).length ∧
          dictionary.lexicon.contains (stem ++ [c]) ∧
            dictionary.RowFrom (done ++ [stem ++ [c]]) [] rest) ∨
        dictionary.RowFrom done (stem ++ [c]) rest := by
  have hpos : 1 ≤ dictionary.settings.leastPart := Nat.le_max_right _ _
  constructor
  · rintro ⟨stems, hflatten, hnext, hcompletes⟩
    rw [List.append_cons] at hflatten
    cases stems with
    | nil => simp at hflatten
    | cons next stems =>
        have hlt : stem.length < next.length := hnext next rfl
        -- The next stem ends behind `c`, or it goes on.
        by_cases hlength : next.length = (stem ++ [c]).length
        · left
          obtain ⟨rfl, hrest⟩ := List.append_inj hflatten hlength
          obtain ⟨hlong, hknown, hcompletes⟩ := completesRow_cons.1 hcompletes
          refine ⟨hlong, hknown, stems, hrest, fun other hother ↦ ?_, hcompletes⟩
          have hle := hcompletes.long other (List.mem_of_mem_head? hother)
          exact Nat.lt_of_lt_of_le hpos hle
        · right
          refine ⟨next :: stems, hflatten, fun other hother ↦ ?_, hcompletes⟩
          obtain rfl : next = other := by simpa using hother
          simp only [List.length_append, List.length_singleton] at hlength ⊢
          omega
  · rintro (⟨hlong, hknown, stems, hflatten, -, hcompletes⟩ | ⟨stems, hflatten, hnext, hcompletes⟩)
    · refine ⟨(stem ++ [c]) :: stems, ?_, ?_, completesRow_cons.2 ⟨hlong, hknown, hcompletes⟩⟩
      · simpa using hflatten
      · simp
    · refine ⟨stems, by simpa using hflatten, fun next hnext' ↦ ?_, hcompletes⟩
      have hlt := hnext next hnext'
      simp only [List.length_append, List.length_singleton] at hlt
      omega

theorem followsRuleFrom_iff {done : List Text} {stem rest : Text}
    (hmax : ∀ n, dictionary.settings.compoundMax = some n → done.length ≤ n) :
    dictionary.followsRuleFrom (dictionary.progressBehind done) done.length stem rest ↔
      dictionary.RowFrom done stem rest := by
  induction rest generalizing done stem with
  | nil =>
      rw [rowFrom_nil_iff, followsRuleFrom]
      simp only [Bool.and_eq_true, decide_eq_true_eq, List.isEmpty_iff, and_assoc,
        any_complete_progressBehind]
      refine and_congr_right fun _ ↦ ⟨?_, ?_⟩
      · rintro ⟨htwo, hfollows⟩
        exact ⟨by simpa using htwo, by simpa using hmax, by simp, by simp, by simpa using hfollows⟩
      · rintro ⟨htwo, -, -, -, hfollows⟩
        exact ⟨by simpa using htwo, by simpa using hfollows⟩
  | cons c rest ih =>
      rw [rowFrom_cons_iff, followsRuleFrom]
      simp only [Bool.or_eq_true, Bool.and_eq_true, decide_eq_true_eq, map_advance_progressBehind,
        Bool.not_eq_true', and_assoc]
      refine or_congr ?_ (ih hmax)
      refine and_congr_right fun _ ↦ and_congr_right fun _ ↦ ?_
      have hlength : done.length + 1 = (done ++ [stem ++ [c]]).length := by simp
      -- A stem is pushed: the search asks first whether one more is allowed and some rule is open,
      -- and both are so if the row can be completed.
      constructor
      · rintro ⟨hmore, -, hsearch⟩
        have hmax' : ∀ n, dictionary.settings.compoundMax = some n →
            (done ++ [stem ++ [c]]).length ≤ n := by
          intro n hn
          simpa [hn] using hmore
        rw [hlength] at hsearch
        exact (ih hmax').1 hsearch
      · intro hrow
        obtain ⟨stems, -, -, hcompletes⟩ := id hrow
        have hmax' : ∀ n, dictionary.settings.compoundMax = some n →
            (done ++ [stem ++ [c]]).length ≤ n := by
          intro n hn
          have hle := hcompletes.le_max n hn
          simp only [List.length_append] at hle ⊢
          omega
        refine ⟨?_, hcompletes.any_isOpen, ?_⟩
        · rw [hlength]
          cases hn : dictionary.settings.compoundMax with
          | none => rfl
          | some n => simpa using hmax' n hn
        · rw [hlength]
          exact (ih hmax').2 hrow

theorem followsRule_iff :
    dictionary.followsRule word ↔
      ∃ stems : List Text, stems.flatten = word ∧ dictionary.CompletesRow [] stems := by
  have hstart : dictionary.settings.rules.map .start = dictionary.progressBehind [] := rfl
  have hsearch : dictionary.followsRuleFrom (dictionary.progressBehind []) 0 [] word ↔
      dictionary.RowFrom [] [] word :=
    followsRuleFrom_iff fun n _ ↦ Nat.zero_le n
  simp only [followsRule, hstart, Bool.and_eq_true, hsearch]
  constructor
  · rintro ⟨-, stems, hflatten, -, hcompletes⟩
    exact ⟨stems, hflatten, hcompletes⟩
  · rintro ⟨stems, hflatten, hcompletes⟩
    refine ⟨?_, stems, hflatten, fun next hnext ↦ ?_, hcompletes⟩
    · obtain ⟨rule, hrule, -⟩ := hcompletes.follows
      simpa using List.ne_nil_of_mem hrule
    · have hle := hcompletes.long next (List.mem_of_mem_head? hnext)
      exact Nat.lt_of_lt_of_le (Nat.le_max_right _ _) hle

/-- A word follows a compound rule exactly if it is a row of known stems, each of them long enough
and all together no more than a compound may have, and some rule takes these stems one after the
other.  A rule takes a row just if the row follows it, where each stem carries a flag through any
homonym that is not forbidden. -/
theorem followsRule_iff_exists_row :
    (dictionary.followsRule word ↔
      ∃ stems : List Text, stems.flatten = word ∧ 2 ≤ stems.length ∧
        (∀ n, dictionary.settings.compoundMax = some n → stems.length ≤ n) ∧
          (∀ stem ∈ stems, max dictionary.settings.compoundMin 1 ≤ stem.length ∧
            dictionary.lexicon.contains stem) ∧
              ∃ rule ∈ dictionary.settings.rules,
                rule.matchesAll dictionary.stemCarries stems ∧
                  rule.Follows (fun stem flag ↦ ∃ entry ∈ dictionary.lexicon.lookup stem,
                    entry.hasRole .forbidden = false ∧ entry.hasFlag flag) stems) ∧
    ∀ (rule : CompoundRule) (stems : List Text),
      rule.matchesAll dictionary.stemCarries stems ↔
        rule.Follows (fun stem flag ↦ ∃ entry ∈ dictionary.lexicon.lookup stem,
          entry.hasRole .forbidden = false ∧ entry.hasFlag flag) stems := by
  refine ⟨?_, fun rule stems ↦ matchesAll_stemCarries_iff⟩
  simp only [← matchesAll_stemCarries_iff, and_self]
  rw [followsRule_iff]
  refine exists_congr fun stems ↦ and_congr_right fun _ ↦ ?_
  constructor
  · rintro ⟨htwo, hmax, hlong, hknown, hfollows⟩
    exact ⟨htwo, hmax, fun stem hstem ↦ ⟨hlong stem hstem, hknown stem hstem⟩, hfollows⟩
  · rintro ⟨htwo, hmax, hstems, hfollows⟩
    exact ⟨htwo, hmax, fun stem hstem ↦ (hstems stem hstem).1,
      fun stem hstem ↦ (hstems stem hstem).2, hfollows⟩

end Dictionary
end Orthography
