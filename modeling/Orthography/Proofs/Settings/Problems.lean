import Orthography.Proofs.Settings.Unread

/-!
# Problems while an affix text is read

The problems of the lines before are carried along and never looked at.  A line that leaves a
problem behind has no other effect, except where a flag names rules of both kinds: there the rule
counts although it is worth a problem.
-/

namespace Orthography

def Settings.withProblems (settings : Settings) (problems : List Problem) : Settings :=
  { settings with problems }

/-- The same settings with more problems before their own. -/
def Settings.behind (earlier : List Problem) (settings : Settings) : Settings :=
  settings.withProblems (earlier ++ settings.problems)

namespace Loading

def behind (earlier : List Problem) (l : Loading) : Loading :=
  { l with settings := l.settings.behind earlier }

variable (earlier : List Problem) (l : Loading)

/-- The change that puts more problems before those there are. -/
def putBefore : Rework where
  problems := fun problems ↦ earlier ++ problems
  problems_concat := fun problems problem ↦ (List.append_assoc earlier problems [problem]).symm

theorem behind_eq_rework : l.behind earlier = l.rework (putBefore earlier) := rfl

/-- A line is read in the same way whatever problems there were before it. -/
theorem readLine_behind (number : Nat) (line : Text) :
    (l.behind earlier).readLine number line = (l.readLine number line).map (behind earlier) := by
  rw [behind_eq_rework, readLine_rework]
  · rfl
  · intro _ _ _ _ _ _ _ _
    rfl

/-! ## What leaves a problem behind -/

section Kept

variable {l} {next : Loading} {directive : Directive}

theorem problems_of_set {settings after : Settings} (h : set settings directive = .ok after) :
    after.problems = settings.problems := by
  apply eq_of_set h
  intro settings
  unfold Directive.without
  split <;> rfl

theorem problems_of_apply (h : l.apply directive = .ok next) :
    next.settings.problems = l.settings.problems ∨
      ∃ flag, next.settings.problems = l.settings.problems ++ [.conflictingRule flag] := by
  rcases apply_cases h with ⟨settings, hset, rfl⟩ | ⟨kind, name, fields, -, haffix⟩ |
    ⟨text, -, -, rfl⟩ | ⟨text, -, -, rfl⟩
  · exact Or.inl (problems_of_set hset)
  · obtain ⟨prefixes, suffixes, rfl | ⟨flag, rfl⟩⟩ := exists_of_affixLine haffix
    · exact Or.inl rfl
    · exact Or.inr ⟨flag, rfl⟩
  · exact Or.inl rfl
  · exact Or.inl rfl

/-- A line that is worth a problem is left out altogether. -/
theorem eq_report_of_readLine {number : Nat} {line : Text} {problem : Problem}
    (h : l.readLine number line = .ok next)
    (hproblems : next.settings.problems = l.settings.problems ++ [problem])
    (hproblem : ∀ flag, problem ≠ .conflictingRule flag) : next = l.report problem := by
  have hgrows : next.settings.problems ≠ l.settings.problems := by
    rw [hproblems]
    simp
  have hreport (other : Problem) (hother : next = l.report other) : next = l.report problem := by
    rw [hother] at hproblems
    have hlast : [other] = [problem] := List.append_cancel_left hproblems
    rw [hother, List.cons.inj hlast |>.1]
  rcases readLine_cases h with ⟨fault, -, hnext⟩ | ⟨name, mode, -, -, hnext⟩ |
    ⟨directive, -, -, happly | ⟨other, -, hnext⟩⟩
  · exact hreport _ hnext
  · rw [hnext] at hgrows
    exact absurd rfl hgrows
  · rcases problems_of_apply happly with hkept | ⟨flag, hconflict⟩
    · exact absurd hkept hgrows
    · rw [hproblems] at hconflict
      have hlast := List.append_cancel_left hconflict
      exact absurd (List.cons.inj hlast).1 (hproblem flag)
  · exact hreport _ hnext

end Kept

end Loading
end Orthography
