import Orthography.Proofs.Settings.Problems
import Orthography.Proofs.Text.Line

/-!
# Reading line after line

An affix text is read line by line, and a line that is left out is as good as an empty one: what
comes after it is read as if it were not there, and its problem is all that tells of it.
-/

namespace Orthography
namespace Loading

/-- Reads some lines; `number` is the number of the first of them. -/
def readLines (l : Loading) (number : Nat) (lines : List Text) : Except Unusable Loading :=
  (lines.zipIdx number).foldlM (fun l (line, number) ↦ l.readLine number line) l

variable (l : Loading) (number : Nat)

theorem readLines_cons (line : Text) (lines : List Text) :
    l.readLines number (line :: lines) =
      (l.readLine number line >>= fun next ↦ next.readLines (number + 1) lines) := by
  rw [readLines, List.zipIdx_cons, List.foldlM_cons]
  rfl

theorem readLines_append (lines more : List Text) :
    l.readLines number (lines ++ more) =
      (l.readLines number lines >>= fun next ↦ next.readLines (number + lines.length) more) := by
  rw [readLines, List.zipIdx_append, List.foldlM_append]
  rfl

theorem readLines_append_nil (lines : List Text) :
    l.readLines number (lines ++ [[]]) = l.readLines number lines := by
  rw [readLines_append]
  cases l.readLines number lines <;> rfl

/-- Of lines of which one is empty, it does not matter whether they show it at the end. -/
theorem readLines_of_isCleared {n : Nat} {cleared lines : List Text}
    (h : Text.IsCleared n cleared lines) :
    l.readLines number cleared = l.readLines number (lines.set n []) := by
  rcases h with h | h
  · rw [h]
  · rw [← h, readLines_append_nil]

/-- All lines are read in the same way whatever problems there were before them. -/
theorem readLines_behind (earlier : List Problem) (lines : List Text) :
    (l.behind earlier).readLines number lines =
      (l.readLines number lines).map (behind earlier) := by
  induction lines generalizing l number with
  | nil => rfl
  | cons line lines ih =>
      rw [readLines_cons, readLines_cons, readLine_behind]
      cases l.readLine number line with
      | error unusable => rfl
      | ok next => exact ih next (number + 1)

section Split

variable {l number} {first next : Loading} {lines : List Text} {n : Nat}
  (hl : first.readLines number (lines.take n) = .ok l)
include hl

/-- The reading of some lines falls into that of the first ones, of one line, and of the rest. -/
theorem readLines_set (hn : n < lines.length) (line : Text) :
    first.readLines number (lines.set n line) =
      (l.readLine (number + n) line >>= fun next ↦
        next.readLines (number + n + 1) (lines.drop (n + 1))) := by
  rw [List.set_eq_take_append_cons_drop, if_pos hn, readLines_append, hl,
    List.length_take_of_le hn.le]
  exact readLines_cons l (number + n) line _

theorem readLines_take_add_one :
    first.readLines number (lines.take (n + 1)) =
      match lines[n]? with
      | none => .ok l
      | some line => l.readLine (number + n) line := by
  rw [List.take_add_one, readLines_append, hl]
  cases hline : lines[n]? with
  | none => rfl
  | some line =>
      obtain ⟨hn, -⟩ := List.getElem?_eq_some_iff.1 hline
      rw [List.length_take_of_le hn.le]
      change l.readLines (number + n) [line] = l.readLine (number + n) line
      rw [readLines_cons]
      cases l.readLine (number + n) line <;> rfl

end Split

def silent (l : Loading) : Loading := { l with settings := l.settings.withProblems [] }

theorem silent_behind : l.silent.behind l.settings.problems = l := by
  rw [behind, silent, Settings.behind]
  exact congrArg (fun problems ↦ { l with settings := l.settings.withProblems problems })
    (List.append_nil l.settings.problems)

theorem report_eq_behind (problem : Problem) :
    l.report problem = l.silent.behind (l.settings.problems ++ [problem]) := by
  rw [behind, silent, Settings.behind]
  exact congrArg (fun problems ↦ { l with settings := l.settings.withProblems problems })
    (List.append_nil (l.settings.problems ++ [problem])).symm

/-- What comes after a problem is read as if the problem were not there. -/
theorem finish_of_readLines_report {problem : Problem} {lines : List Text} {final : Loading}
    (h : (l.report problem).readLines number lines = .ok final) :
    ∃ later, final.finish.problems = l.settings.problems ++ problem :: later ∧
      (l.readLines number lines).map finish =
        .ok (final.finish.withProblems (l.settings.problems ++ later)) := by
  rw [report_eq_behind, readLines_behind] at h
  obtain ⟨rest, hrest, rfl⟩ := exists_of_map_eq_ok h
  refine ⟨rest.settings.problems, ?_, ?_⟩
  · exact List.append_assoc l.settings.problems [problem] rest.settings.problems
  · have hl : l.readLines number lines = .ok (rest.behind l.settings.problems) := by
      rw [← l.silent_behind, readLines_behind, hrest, silent_behind]
      rfl
    rw [hl]
    rfl

end Loading

namespace Settings

open Loading Text

variable {text : Text} {n : Nat} {settings : Settings} {earlier : List Problem} {problem : Problem}

theorem parse_eq_readLines (text : Text) :
    parse text = (readLines {} 1 (lines (withoutByteOrderMark text))).map finish := rfl

/-- The lines of an affix text; the byte order mark belongs to none of them. -/
def linesOf (text : Text) : List Text := lines (withoutByteOrderMark text)

/-- The problems of the first `n` lines of a text. -/
def problemsBy (text : Text) (n : Nat) : Except Unusable (List Problem) :=
  (readLines {} 1 ((lines (withoutByteOrderMark text)).take n)).map fun l ↦ l.settings.problems

/-- A line that is left out leaves nothing behind but its problem: with an empty line in its place
a text gives the same settings, and the same problems but for that one. -/
theorem parse_clearLine (hparse : parse text = .ok settings)
    (hbefore : problemsBy text n = .ok earlier)
    (hafter : problemsBy text (n + 1) = .ok (earlier ++ [problem]))
    (hproblem : ∀ flag, problem ≠ .conflictingRule flag) :
    ∃ later, settings.problems = earlier ++ problem :: later ∧
      parse (clearLine n text) = .ok (settings.withProblems (earlier ++ later)) := by
  obtain ⟨l, hl, rfl⟩ := exists_of_map_eq_ok hbefore
  obtain ⟨next, hnext, hproblems⟩ := exists_of_map_eq_ok hafter
  obtain ⟨final, hfinal, rfl⟩ := exists_of_map_eq_ok hparse
  rw [readLines_take_add_one hl] at hnext
  split at hnext
  · -- There is no such line, so no problem can have come of it.
    cases hnext
    exact absurd hproblems (by simp)
  rename_i line hline
  obtain ⟨hn, hget⟩ := List.getElem?_eq_some_iff.1 hline
  have hreport : next = l.report problem := eq_report_of_readLine hnext hproblems hproblem
  have hrest : (l.report problem).readLines (1 + n + 1)
      ((lines (withoutByteOrderMark text)).drop (n + 1)) = .ok final := by
    have hsame : (lines (withoutByteOrderMark text)).set n line =
        lines (withoutByteOrderMark text) := by
      rw [← hget, List.set_getElem_self]
    change readLines {} 1 (lines (withoutByteOrderMark text)) = .ok final at hfinal
    rw [← hsame, readLines_set hl hn, hnext] at hfinal
    rw [← hreport]
    exact hfinal
  obtain ⟨later, hlater, hcleared⟩ := finish_of_readLines_report l _ hrest
  refine ⟨later, hlater, ?_⟩
  rw [parse_eq_readLines, withoutByteOrderMark_clearLine,
    readLines_of_isCleared _ _ (isCleared_lines_clearLine n _), readLines_set hl hn]
  exact hcleared

/-- The second line has a condition that does not end; the fourth has its problem with and
without it. -/
theorem parse_without_open_condition :
    let text := "SFX S Y 1\nSFX S 0 s [abc\nSFX S 0 es .\nSFX T 0 s .\n".toList
    let cleared := "SFX S Y 1\n\nSFX S 0 es .\nSFX T 0 s .\n".toList
    let problem := Problem.invalidCondition "[abc".toList
    problemsBy text 1 = .ok [] ∧ problemsBy text 2 = .ok [problem] ∧
      (∀ flag, problem ≠ .conflictingRule flag) ∧ clearLine 1 text = cleared ∧
        ∃ settings later, parse text = .ok settings ∧ settings.problems = problem :: later ∧
          later ≠ [] ∧ parse cleared = .ok (settings.withProblems later) := by
  intro text cleared problem
  have hbefore : problemsBy text 1 = .ok [] := by decide +kernel
  have hafter : problemsBy text 2 = .ok [problem] := by decide +kernel
  have hproblem (flag : Flag) : problem ≠ .conflictingRule flag := by simp [problem]
  have hclear : clearLine 1 text = cleared := by decide +kernel
  have htwo : (parse text).map (·.problems.length) = .ok 2 := by decide +kernel
  obtain ⟨settings, hparse, hlength⟩ := exists_of_map_eq_ok htwo
  obtain ⟨later, hlater, hcleared⟩ := parse_clearLine hparse hbefore hafter hproblem
  refine ⟨hbefore, hafter, hproblem, hclear, settings, later, hparse, hlater, ?_, ?_⟩
  · intro hnone
    rw [hlater, hnone] at hlength
    cases hlength
  · rw [← hclear]
    exact hcleared

end Settings
end Orthography
