import Mathlib.Data.List.Forall2
import Mathlib.Tactic.Tauto
import Orthography.Compound.Progress

/-!
# Words that follow a compound rule

`CompoundRule.Follows` says without any search how words are spread over the elements of a rule, and
words match a rule exactly if they follow it.  A progress keeps all places of the rule that the words
so far may have come to.  It is complete exactly if these words match, and open exactly if they match
partly; if they do not, no further words help.
-/

namespace Orthography

variable {α : Type}

/-- What an element that has taken a word leaves of a rule. -/
def RuleElement.after (rule : CompoundRule) : RuleElement → CompoundRule
  | once _ => rule
  | optional _ => rule
  | multi flag => multi flag :: rule

namespace CompoundRule

/-- Each word is taken by an element whose flag it carries, in the order of the rule. -/
inductive Follows (carries : α → Flag → Prop) : CompoundRule → List α → Prop
  | nil : Follows carries [] []
  | once {flag : Flag} {rule : CompoundRule} {word : α} {words : List α} (h : carries word flag)
      (rest : Follows carries rule words) : Follows carries (.once flag :: rule) (word :: words)
  | skip {flag : Flag} {rule : CompoundRule} {words : List α}
      (rest : Follows carries rule words) : Follows carries (.optional flag :: rule) words
  | take {flag : Flag} {rule : CompoundRule} {word : α} {words : List α} (h : carries word flag)
      (rest : Follows carries rule words) : Follows carries (.optional flag :: rule) (word :: words)
  | stop {flag : Flag} {rule : CompoundRule} {words : List α}
      (rest : Follows carries rule words) : Follows carries (.multi flag :: rule) words
  | more {flag : Flag} {rule : CompoundRule} {word : α} {words : List α} (h : carries word flag)
      (rest : Follows carries (.multi flag :: rule) words) :
      Follows carries (.multi flag :: rule) (word :: words)

section Follows

variable {carries : α → Flag → Prop} {rule : CompoundRule} {words : List α}

theorem follows_nil_iff : Follows carries [] words ↔ words = [] := by
  constructor
  · intro h
    cases h
    rfl
  · rintro rfl
    exact .nil

/-- An element takes the first of some words, and the others follow what it leaves of the rule. -/
def Takes (carries : α → Flag → Prop) (element : RuleElement) (rule : CompoundRule) :
    List α → Prop
  | [] => False
  | word :: words => carries word element.flag ∧ Follows carries (element.after rule) words

theorem follows_cons_iff {element : RuleElement} :
    Follows carries (element :: rule) words ↔
      Takes carries element rule words ∨ element.isFree ∧ Follows carries rule words := by
  constructor
  · intro h
    cases h with
    | once h rest => exact Or.inl ⟨h, rest⟩
    | skip rest => exact Or.inr ⟨rfl, rest⟩
    | take h rest => exact Or.inl ⟨h, rest⟩
    | stop rest => exact Or.inr ⟨rfl, rest⟩
    | more h rest => exact Or.inl ⟨h, rest⟩
  · rintro (htakes | ⟨hfree, hrest⟩)
    · cases words with
      | nil => exact htakes.elim
      | cons word words =>
          obtain ⟨h, hrest⟩ := htakes
          cases element with
          | once flag => exact .once h hrest
          | optional flag => exact .take h hrest
          | multi flag => exact .more h hrest
    · cases element with
      | once flag => cases hfree
      | optional flag => exact .skip hrest
      | multi flag => exact .stop hrest

theorem Follows.exists_flag (h : Follows carries rule words) :
    ∀ word ∈ words, ∃ element ∈ rule, carries word element.flag := by
  have hbehind {element : RuleElement} {rule : CompoundRule} {words : List α}
      (ih : ∀ word ∈ words, ∃ other ∈ rule, carries word other.flag) :
      ∀ word ∈ words, ∃ other ∈ element :: rule, carries word other.flag := by
    intro word hword
    obtain ⟨other, hother, hcarries⟩ := ih word hword
    exact ⟨other, List.mem_cons_of_mem _ hother, hcarries⟩
  induction h with
  | nil => exact fun _ h ↦ absurd h List.not_mem_nil
  | once h _ ih => exact List.forall_mem_cons.2 ⟨⟨_, List.mem_cons_self, h⟩, hbehind ih⟩
  | skip _ ih => exact hbehind ih
  | take h _ ih => exact List.forall_mem_cons.2 ⟨⟨_, List.mem_cons_self, h⟩, hbehind ih⟩
  | stop _ ih => exact hbehind ih
  | more h _ ih => exact List.forall_mem_cons.2 ⟨⟨_, List.mem_cons_self, h⟩, ih⟩

theorem Follows.mono {carries' : α → Flag → Prop}
    (hcarries : ∀ word flag, carries word flag → carries' word flag)
    (h : Follows carries rule words) :
    Follows carries' rule words := by
  induction h with
  | nil => exact .nil
  | once h _ ih => exact .once (hcarries _ _ h) ih
  | skip _ ih => exact .skip ih
  | take h _ ih => exact .take (hcarries _ _ h) ih
  | stop _ ih => exact .stop ih
  | more h _ ih => exact .more (hcarries _ _ h) ih

/-- If a word carries the flags that one of its readings carries, words follow a rule exactly if
some choice of readings does. -/
theorem follows_iff_exists_forall₂ {β : Type} {reads : β → α → Prop} {has : β → Flag → Prop}
    (h : ∀ word flag, carries word flag ↔ ∃ reading, reads reading word ∧ has reading flag) :
    Follows carries rule words ↔
      ∃ readings, List.Forall₂ reads readings words ∧ Follows has rule readings := by
  constructor
  · intro hfollows
    have hcons {word : α} {flag : Flag} {words : List α} {rule next : CompoundRule}
        (hword : carries word flag)
        (hrest : ∃ readings, List.Forall₂ reads readings words ∧ Follows has rule readings)
        (hnext : ∀ {reading readings}, has reading flag → Follows has rule readings →
          Follows has next (reading :: readings)) :
        ∃ readings, List.Forall₂ reads readings (word :: words) ∧ Follows has next readings := by
      obtain ⟨reading, hreads, hhas⟩ := (h word flag).1 hword
      obtain ⟨readings, hall, hfollows⟩ := hrest
      exact ⟨reading :: readings, .cons hreads hall, hnext hhas hfollows⟩
    induction hfollows with
    | nil => exact ⟨[], .nil, .nil⟩
    | once hword _ ih => exact hcons hword ih .once
    | skip _ ih =>
        obtain ⟨readings, hall, hfollows⟩ := ih
        exact ⟨readings, hall, .skip hfollows⟩
    | take hword _ ih => exact hcons hword ih .take
    | stop _ ih =>
        obtain ⟨readings, hall, hfollows⟩ := ih
        exact ⟨readings, hall, .stop hfollows⟩
    | more hword _ ih => exact hcons hword ih .more
  · rintro ⟨readings, hall, hfollows⟩
    induction hfollows generalizing words with
    | nil =>
        cases hall
        exact .nil
    | once hhas _ ih =>
        cases hall with
        | cons hreads hall => exact .once ((h _ _).2 ⟨_, hreads, hhas⟩) (ih hall)
    | skip _ ih => exact .skip (ih hall)
    | take hhas _ ih =>
        cases hall with
        | cons hreads hall => exact .take ((h _ _).2 ⟨_, hreads, hhas⟩) (ih hall)
    | stop _ ih => exact .stop (ih hall)
    | more hhas _ ih =>
        cases hall with
        | cons hreads hall => exact .more ((h _ _).2 ⟨_, hreads, hhas⟩) (ih hall)

end Follows

/-! ## Matching -/

theorem takesFirst_cons {has : Flag → Bool} {onward : CompoundRule → Bool} {element : RuleElement}
    {rule : CompoundRule} :
    takesFirst has onward (element :: rule) =
      ((has element.flag && onward (element.after rule)) ||
        (element.isFree && takesFirst has onward rule)) := by
  cases element <;> simp [takesFirst, RuleElement.flag, RuleElement.after, RuleElement.isFree]

/-- The element that takes a word stands behind some that can do without one. -/
theorem takesFirst_eq_true_iff {has : Flag → Bool} {onward : CompoundRule → Bool}
    {rule : CompoundRule} :
    takesFirst has onward rule ↔
      ∃ before element after, rule = before ++ element :: after ∧
        (∀ other ∈ before, other.isFree) ∧ has element.flag ∧ onward (element.after after) := by
  induction rule with
  | nil => simp [takesFirst]
  | cons first rule ih =>
      rw [takesFirst_cons, Bool.or_eq_true, Bool.and_eq_true, Bool.and_eq_true, ih]
      constructor
      · rintro (⟨hhas, honward⟩ | ⟨hfree, before, element, after, rfl, hbefore, htakes⟩)
        · exact ⟨[], first, rule, rfl, by simp, hhas, honward⟩
        · exact ⟨first :: before, element, after, rfl, List.forall_mem_cons.2 ⟨hfree, hbefore⟩,
            htakes⟩
      · rintro ⟨before, element, after, hrule, hbefore, htakes⟩
        cases before with
        | nil =>
            obtain ⟨rfl, rfl⟩ := List.cons.inj hrule
            exact Or.inl htakes
        | cons other before =>
            obtain ⟨rfl, rfl⟩ := List.cons.inj hrule
            obtain ⟨hfree, hbefore⟩ := List.forall_mem_cons.1 hbefore
            exact Or.inr ⟨hfree, before, element, after, rfl, hbefore, htakes⟩

variable {carries : Text → Flag → Bool} {partly : Bool} {rule : CompoundRule}
  {done words : List Text}

/-- What an element does with some words in front of a rule: it may stop behind them if they need to
match partly only, or it takes the first one. -/
def takes (carries : Text → Flag → Bool) (partly : Bool) (element : RuleElement)
    (rule : CompoundRule) : List Text → Bool
  | [] => partly
  | word :: words => carries word element.flag && matchesFrom carries partly words (element.after rule)

theorem matchesFrom_cons {element : RuleElement} :
    matchesFrom carries partly words (element :: rule) =
      (takes carries partly element rule words ||
        (element.isFree && matchesFrom carries partly words rule)) := by
  cases words with
  | nil => cases partly <;> simp [matchesFrom, takes]
  | cons word words => exact takesFirst_cons

theorem matchesFrom_false_iff :
    matchesFrom carries false words rule ↔ Follows (carries · ·) rule words := by
  induction words generalizing rule with
  | nil =>
      induction rule with
      | nil => simp [matchesFrom, follows_nil_iff]
      | cons element rule ih => simp [matchesFrom_cons, takes, follows_cons_iff, Takes, ih]
  | cons word words ihWords =>
      induction rule with
      | nil => simp [matchesFrom, takesFirst, follows_nil_iff]
      | cons element rule ih =>
          simp [matchesFrom_cons, takes, follows_cons_iff, Takes, ih, ihWords]

theorem matchesAll_eq_true_iff :
    rule.matchesAll carries words ↔ Follows (carries · ·) rule words :=
  matchesFrom_false_iff

/-- The beginning of a match is a partial match. -/
theorem matchesPartly_of_matchesAll (h : rule.matchesAll carries (done ++ words)) :
    rule.matchesPartly carries done := by
  induction done generalizing rule with
  | nil => rfl
  | cons word done ih =>
      obtain ⟨before, element, after, hrule, hbefore, hword, hafter⟩ := takesFirst_eq_true_iff.1 h
      exact takesFirst_eq_true_iff.2 ⟨before, element, after, hrule, hbefore, hword, ih hafter⟩

/-! ## What a progress allows -/

namespace Progress

variable (carries partly)

/-- A word with the flags `has` goes on from some place, such that `words` match what is left. -/
def Enters (has : Flag → Bool) (words : List Text) : List (Bool × RuleElement) → Prop
  | [] => False
  | (live, element) :: marks =>
      (live ∧ has element.flag ∧
          matchesFrom carries partly words (element.after (marks.map Prod.snd))) ∨
        Enters has words marks

/-- Further words bring the rule to its end, or to some place if they need to match partly only. -/
def Finishes (progress : Progress) : List Text → Prop
  | [] => if partly then progress.isOpen else progress.complete
  | word :: words => Enters carries partly (carries word) words progress.marks

variable {carries partly} {has : Flag → Bool} {progress : Progress}

theorem map_snd_advanceFrom (came : Bool) (marks : List (Bool × RuleElement)) :
    (advanceFrom has came marks).marks.map Prod.snd = marks.map Prod.snd := by
  induction marks generalizing came with
  | nil => rfl
  | cons mark marks ih => simp [advanceFrom, ih]

theorem finishes_cons_mark {here : Bool} {element : RuleElement} :
    Finishes carries partly ⟨(here, element) :: progress.marks, progress.complete⟩ words ↔
      (here ∧ takes carries partly element (progress.marks.map Prod.snd) words) ∨
        Finishes carries partly progress words := by
  cases words with
  | nil => cases partly <;> simp [Finishes, takes, isOpen, or_left_comm]
  | cons word words => simp [Finishes, Enters, takes]

/-- What can be finished behind a step could be finished from before the first element, if the
step came from there, or else from a place that the step has left. -/
theorem finishes_advanceFrom {came : Bool} {marks : List (Bool × RuleElement)} :
    Finishes carries partly (advanceFrom has came marks) words ↔
      came ∧ matchesFrom carries partly words (marks.map Prod.snd) ∨
        Enters carries partly has words marks := by
  induction marks generalizing came with
  | nil =>
      cases words with
      | nil => cases partly <;> simp [advanceFrom, Finishes, Enters, isOpen, matchesFrom]
      | cons word words => simp [advanceFrom, Finishes, Enters, matchesFrom, takesFirst]
  | cons mark marks ih =>
      obtain ⟨live, element⟩ := mark
      rw [advanceFrom, finishes_cons_mark, ih, map_snd_advanceFrom, Enters, List.map_cons,
        matchesFrom_cons]
      cases element with
      | once flag =>
          simp [RuleElement.pass, RuleElement.flag, RuleElement.after, RuleElement.isFree]
          tauto
      | optional flag =>
          simp [RuleElement.pass, RuleElement.flag, RuleElement.after, RuleElement.isFree]
          tauto
      | multi flag =>
          -- It stays in front of what it leaves, so that rule is opened as well.
          simp only [RuleElement.after, matchesFrom_cons]
          simp [RuleElement.pass, RuleElement.flag, RuleElement.isFree]
          tauto

theorem finishes_start :
    Finishes carries partly (start rule) words ↔ matchesFrom carries partly words rule := by
  have hnone (marks : List RuleElement) :
      ¬Enters carries partly (fun _ ↦ false) words (marks.map (false, ·)) := by
    induction marks with
    | nil => exact id
    | cons element marks ih => simpa [Enters] using ih
  have hmap : (rule.map fun element ↦ ((false, element) : Bool × RuleElement)).map Prod.snd =
      rule := by simp [Function.comp_def]
  rw [start, finishes_advanceFrom, hmap]
  simp [hnone]

theorem finishes_foldl :
    Finishes carries partly
        (done.foldl (fun progress word ↦ progress.advance (carries word)) progress) words ↔
      Finishes carries partly progress (done ++ words) := by
  induction done generalizing progress with
  | nil => rfl
  | cons word done ih =>
      rw [List.foldl_cons, ih, advance, finishes_advanceFrom]
      simp [Finishes]

end Progress

theorem finishes_follow :
    (follow carries rule done).Finishes carries partly [] ↔
      matchesFrom carries partly done rule := by
  rw [follow, Progress.finishes_foldl, Progress.finishes_start, List.append_nil]

theorem complete_follow : (follow carries rule words).complete = rule.matchesAll carries words := by
  have h : (follow carries rule words).Finishes carries false [] ↔
      matchesFrom carries false words rule := finishes_follow
  exact Bool.eq_iff_iff.2 h

theorem isOpen_follow : (follow carries rule words).isOpen = rule.matchesPartly carries words := by
  have h : (follow carries rule words).Finishes carries true [] ↔
      matchesFrom carries true words rule := finishes_follow
  exact Bool.eq_iff_iff.2 h

theorem follow_concat (word : Text) :
    follow carries rule (done ++ [word]) = (follow carries rule done).advance (carries word) := by
  simp [follow]

end CompoundRule
end Orthography
