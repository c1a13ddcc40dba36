import Mathlib.Data.Multiset.AddSub
import Orthography.Proofs.Settings.Lines

/-!
# Settings up to the places of problems

Two affix texts may lead to the same settings and to the same problems, only that these come in
another order and from lines with other numbers.  What is left when order and numbers are dropped is
the gist of what has been read; it does not depend on the number that a line has.
-/

namespace Orthography

/-- A problem without the number of its line. -/
def Problem.unplaced : Problem → Problem
  | malformedLine _ fault => malformedLine 0 fault
  | other => other

theorem Problem.unplaced_atLine (number : Nat) (problem : Problem) :
    (problem.atLine number).unplaced = problem.unplaced := by
  unfold atLine
  split <;> rfl

namespace Loading

/-- What has been read, but for the order and the places of problems. -/
def gist (l : Loading) : Loading × Multiset Problem :=
  (l.silent, l.settings.problems.map Problem.unplaced)

variable (l m : Loading) (number : Nat) (line : Text)

theorem gist_behind (earlier : List Problem) :
    (l.behind earlier).gist =
      (l.silent, (earlier.map Problem.unplaced : Multiset Problem) + l.gist.2) := by
  rw [gist, gist, behind, Settings.behind, Multiset.coe_add, ← List.map_append]
  rfl

theorem gist_report (problem : Problem) :
    (l.report problem).gist = (l.silent, l.gist.2 + {problem.unplaced}) := by
  rw [report_eq_behind, gist_behind, List.map_append, ← Multiset.coe_add]
  exact congrArg (Prod.mk l.silent) (Multiset.add_zero _)

variable {l m}

theorem gist_report_congr (h : l.gist = m.gist) {problem other : Problem}
    (hproblem : problem.unplaced = other.unplaced) :
    (l.report problem).gist = (m.report other).gist := by
  obtain ⟨hsilent, hproblems⟩ := Prod.mk.inj h
  have hgist : l.gist.2 = m.gist.2 := hproblems
  rw [gist_report, gist_report, hsilent, hgist, hproblem]

variable (l)

/-- The number of a line shows only in its problem. -/
theorem gist_readLine_number (other : Nat) :
    (l.readLine number line).map gist = (l.readLine other line).map gist := by
  unfold readLine
  split
  · exact congrArg Except.ok (gist_report_congr rfl rfl)
  · split <;> rfl
  · split <;> rfl
  · split
    · rfl
    · rename_i problem _
      apply congrArg Except.ok
      apply gist_report_congr rfl
      rw [Problem.unplaced_atLine, Problem.unplaced_atLine]

/-- Whatever problems there have been, a line adds its own to them. -/
theorem map_gist_readLine :
    (l.readLine number line).map gist =
      (l.silent.readLine number line).map fun next ↦ (next.silent, l.gist.2 + next.gist.2) := by
  conv_lhs => rw [← l.silent_behind, readLine_behind]
  cases l.silent.readLine number line with
  | error unusable => rfl
  | ok next => exact congrArg Except.ok (next.gist_behind l.settings.problems)

/-! ## The same gist goes on to the same gist -/

variable {l}

theorem map_gist_readLine_congr (h : l.gist = m.gist) (other : Nat) :
    (l.readLine number line).map gist = (m.readLine other line).map gist := by
  have hsilent : l.silent = m.silent := congrArg Prod.fst h
  rw [gist_readLine_number l number line other, map_gist_readLine, map_gist_readLine, hsilent, h]

theorem map_gist_bind_congr {x y : Except Unusable Loading} (h : x.map gist = y.map gist)
    {f g : Loading → Except Unusable Loading}
    (hfg : ∀ l m, l.gist = m.gist → (f l).map gist = (g m).map gist) :
    (x >>= f).map gist = (y >>= g).map gist := by
  cases x with
  | error unusable =>
      cases y with
      | error other => exact congrArg Except.error (Except.error.inj h)
      | ok m => cases h
  | ok l =>
      cases y with
      | error other => cases h
      | ok m => exact hfg l m (Except.ok.inj h)

theorem map_gist_readLines_congr (h : l.gist = m.gist) (other : Nat) (lines : List Text) :
    (l.readLines number lines).map gist = (m.readLines other lines).map gist := by
  induction lines generalizing l m number other with
  | nil => exact congrArg Except.ok h
  | cons line lines ih =>
      rw [readLines_cons, readLines_cons]
      apply map_gist_bind_congr (map_gist_readLine_congr number line h other)
      intro next next' hnext
      exact ih (number + 1) hnext (other + 1)

end Loading

namespace Settings

open Loading Text

/-- Texts of the same gist give the same settings, but for the order and the places of problems. -/
theorem exists_parse_of_gist {text other : Text} {settings : Settings}
    (hgist : (readLines {} 1 (linesOf text)).map gist = (readLines {} 1 (linesOf other)).map gist)
    (hparse : parse text = .ok settings) :
    ∃ settings', parse other = .ok settings' ∧
      settings'.withProblems [] = settings.withProblems [] ∧
        (settings'.problems.map Problem.unplaced).Perm (settings.problems.map Problem.unplaced) := by
  obtain ⟨l, hl, rfl⟩ := exists_of_map_eq_ok hparse
  change readLines {} 1 (linesOf text) = .ok l at hl
  rw [hl] at hgist
  obtain ⟨m, hm, hsame⟩ := exists_of_map_eq_ok hgist.symm
  refine ⟨m.finish, ?_, ?_, ?_⟩
  · rw [parse_eq_readLines, ← linesOf, hm]
    rfl
  · have hsilent : m.silent = l.silent := congrArg Prod.fst hsame
    exact congrArg Loading.finish hsilent
  · exact Multiset.coe_eq_coe.1 (congrArg Prod.snd hsame)

end Settings
end Orthography
