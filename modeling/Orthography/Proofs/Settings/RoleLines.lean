import Orthography.Proofs.Settings.Aliases
import Orthography.Proofs.Settings.Places

/-!
# Where roles are declared

While an affix text is read nothing asks which flag has which role: the marks are computed in the
end.  So a line that declares a role may stand anywhere, as long as its flag is written in the same
way there and no other line that declares the role comes in between.
-/

namespace Orthography

namespace Directive

open Text

variable {role : Role} {line : Text} {directive : Directive}

/-- Whether the keyword of a role stands before the first gap of a line. -/
def IsRoleLine (role : Role) (line : Text) : Prop :=
  (line.takeWhile fun c ↦ !isGap c, role) ∈ roleKeywords

/-- Whether a line says how flags are written. -/
def setsFlagMode (line : Text) : Bool :=
  match ofLine line with
  | .ok (.flagMode _) => true
  | _ => false

/-- Whether a line gives a role to some flag. -/
def declaresRole (mode : FlagMode) (role : Role) (line : Text) : Bool :=
  match ofLine line with
  | .ok (.role other name) => other = role && (mode.parseSingle name).isOk
  | _ => false

theorem ofLine_of_mem_roleKeywords (h : (line, role) ∈ roleKeywords) :
    ofLine line = .ok nothing := by
  have hall : (roleKeywords.all fun keyword ↦ ofLine keyword.1 = .ok nothing) := by decide +kernel
  exact of_decide_eq_true (List.all_eq_true.1 hall _ h)

/-- A line with the keyword of a role declares this role, if anything. -/
theorem eq_role_of_isRoleLine (h : IsRoleLine role line) (hline : ofLine line = .ok directive) :
    directive = nothing ∨ ∃ name, directive = .role role name := by
  have hsplit := List.takeWhile_append_dropWhile (p := fun c ↦ !isGap c) (l := line)
  cases hrest : line.dropWhile fun c ↦ !isGap c with
  | nil =>
      -- The line ends with its keyword.
      rw [hrest, List.append_nil] at hsplit
      rw [IsRoleLine, hsplit] at h
      rw [ofLine_of_mem_roleKeywords h] at hline
      exact Or.inl (Except.ok.inj hline).symm
  | cons c behind =>
      have hgap : isGap c := by
        have hnot := List.head?_dropWhile_not (fun c ↦ !isGap c) line
        rw [hrest] at hnot
        simpa using hnot
      rw [hrest] at hsplit
      have hbehind : afterKeyword? (line.takeWhile fun c ↦ !isGap c) line =
          some (behind.dropWhile isGap) :=
        afterKeyword?_eq_some_iff.2 ⟨c, behind, hgap, hsplit.symm, rfl⟩
      have hmem : (line.takeWhile fun c ↦ !isGap c, reading (.role role) value) ∈ keywords :=
        List.mem_append_right _ (List.mem_map.2 ⟨_, h, rfl⟩)
      obtain ⟨rest, hfront⟩ := exists_ofFront_of_ofLine hline
      rw [ofFront_of_afterKeyword? hmem hbehind] at hfront
      obtain ⟨name, more, -, hname⟩ := Reading.exists_of_bind_eq_ok hfront
      cases hname
      exact Or.inr ⟨name, rfl⟩

/-- Whether a line that declares a role may be moved past another line. -/
def MayPass (mode : FlagMode) (role : Role) (other : Text) : Prop :=
  setsFlagMode other = false ∧ declaresRole mode role other = false
  deriving Decidable

theorem MayPass.modeAfter {mode : FlagMode} (h : MayPass mode role line) :
    modeAfter mode line = mode := by
  unfold Directive.modeAfter
  split
  · rename_i name hline
    have hsets := h.1
    rw [setsFlagMode, hline] at hsets
    cases hsets
  · rfl

theorem foldl_modeAfter {mode : FlagMode} {lines : List Text}
    (h : ∀ line ∈ lines, MayPass mode role line) : lines.foldl modeAfter mode = mode := by
  induction lines with
  | nil => rfl
  | cons line lines ih =>
      rw [List.forall_mem_cons] at h
      rw [List.foldl_cons, h.1.modeAfter, ih h.2]

end Directive

theorem Roles.declare_comm (roles : Roles) {role other : Role} (h : role ≠ other)
    (flag otherFlag : Flag) :
    (roles.declare other otherFlag).declare role flag =
      (roles.declare role flag).declare other otherFlag := by
  apply congrArg Roles.mk
  funext r
  simp only [declare]
  split <;> split <;> simp_all

namespace Loading

open Directive

variable {mode : FlagMode} {role : Role} {line : Text} {lines : List Text} {l next : Loading}
  {number : Nat}

theorem flagMode_of_apply {directive : Directive} (h : l.apply directive = .ok next) :
    next.settings.flagMode = l.settings.flagMode := by
  rcases apply_cases h with ⟨settings, hset, rfl⟩ | ⟨kind, name, fields, -, haffix⟩ |
    ⟨text, -, -, rfl⟩ | ⟨text, -, -, rfl⟩
  · apply eq_of_set hset
    intro settings
    unfold Directive.without
    split <;> rfl
  · obtain ⟨prefixes, suffixes, rfl | ⟨flag, rfl⟩⟩ := exists_of_affixLine haffix <;> rfl
  · rfl
  · rfl

theorem flagMode_of_readLine (h : l.readLine number line = .ok next) :
    next.settings.flagMode = modeAfter l.settings.flagMode line := by
  rcases readLine_cases h with ⟨fault, hline, rfl⟩ | ⟨name, mode, hline, hmode, rfl⟩ |
    ⟨directive, hline, hflagMode, hnext⟩
  · rw [modeAfter, hline]
    rfl
  · rw [modeAfter, hline]
    dsimp only
    rw [hmode]
    rfl
  · have hafter : modeAfter l.settings.flagMode line = l.settings.flagMode := by
      rw [modeAfter, hline]
      cases directive with
      | flagMode name => exact absurd rfl (hflagMode name)
      | _ => rfl
    rw [hafter]
    rcases hnext with happly | ⟨problem, -, rfl⟩
    · exact flagMode_of_apply happly
    · rfl

theorem flagMode_of_readLines (h : l.readLines number lines = .ok next) :
    next.settings.flagMode = lines.foldl modeAfter l.settings.flagMode := by
  induction lines generalizing l number with
  | nil =>
      cases h
      rfl
  | cons line lines ih =>
      rw [readLines_cons] at h
      obtain ⟨first, hfirst, hrest⟩ := exists_of_bind_eq_ok h
      rw [ih hrest, flagMode_of_readLine hfirst, List.foldl_cons]

/-! ## The effect of a line that declares a role -/

def declaring (role : Role) (flag : Flag) : Rework where
  roles := fun roles ↦ roles.declare role flag

theorem spares_declaring {flag : Flag} (h : MayPass mode role line) {directive : Directive}
    (hline : ofLine line = .ok directive) : (declaring role flag).Spares mode directive := by
  intro other name otherFlag hdirective hflag roles
  apply roles.declare_comm
  intro hsame
  have hdeclares := h.2
  rw [declaresRole, hline, hdirective, hsame] at hdeclares
  simp [hflag, Except.isOk, Except.toBool] at hdeclares

theorem readLines_rework {change : Rework} (hmode : l.settings.flagMode = mode)
    (hpass : ∀ line ∈ lines, MayPass mode role line)
    (hspares : ∀ line directive, MayPass mode role line → ofLine line = .ok directive →
      change.Spares mode directive) :
    (l.rework change).readLines number lines =
      (l.readLines number lines).map (rework change) := by
  induction lines generalizing l number with
  | nil => rfl
  | cons line lines ih =>
      rw [List.forall_mem_cons] at hpass
      subst hmode
      rw [readLines_cons, readLines_cons,
        readLine_rework l number fun directive ↦ hspares line directive hpass.1]
      cases hnext : l.readLine number line with
      | error unusable => rfl
      | ok next =>
          apply ih
          · rw [flagMode_of_readLine hnext, hpass.1.modeAfter]
          · exact hpass.2

/-- What a line that declares a role does to the gist is to change the roles and the problems. -/
theorem exists_rework_of_isRoleLine (mode : FlagMode) (h : IsRoleLine role line) :
    ∃ change : Rework,
      (∀ other directive, MayPass mode role other → ofLine other = .ok directive →
        change.Spares mode directive) ∧
      ∀ (l : Loading) (number : Nat), l.settings.flagMode = mode →
        (l.readLine number line).map gist = .ok (l.rework change).gist := by
  have hspares (problem : Problem) (directive : Directive) :
      (putBefore [problem]).Spares mode directive := by
    intro _ _ _ _ _ _
    rfl
  have hreport (problem : Problem) (l : Loading) :
      (l.report problem).gist = (l.rework (putBefore [problem])).gist := by
    rw [← behind_eq_rework, gist_report, gist_behind, Multiset.add_comm]
    rfl
  cases hline : ofLine line with
  | error fault =>
      refine ⟨putBefore [.malformedLine 0 fault], fun _ directive _ _ ↦ hspares _ directive, ?_⟩
      intro l number _
      rw [gist_readLine_number l number line 0, readLine, hline]
      exact congrArg Except.ok (hreport _ l)
  | ok directive =>
      rcases eq_role_of_isRoleLine h hline with rfl | ⟨name, rfl⟩
      · refine ⟨{}, fun _ _ _ _ _ _ _ _ _ _ ↦ rfl, ?_⟩
        intro l number _
        rw [readLine, hline]
        rfl
      · cases hflag : mode.parseSingle name with
        | error problem =>
            refine ⟨putBefore [problem.atLine 0], fun _ directive _ _ ↦ hspares _ directive, ?_⟩
            intro l number hmode
            subst hmode
            rw [gist_readLine_number l number line 0, readLine, hline]
            simp only [apply, set, hflag]
            exact congrArg Except.ok (hreport _ l)
        | ok flag =>
            refine ⟨declaring role flag, fun _ _ hpass ↦ spares_declaring hpass, ?_⟩
            intro l number hmode
            subst hmode
            rw [readLine, hline]
            simp only [apply, set, hflag]
            rfl

/-- A line that declares a role may as well be read after lines that it may pass. -/
theorem map_gist_readLines_swap (hline : IsRoleLine role line)
    (hpassed : ∀ passed ∈ lines, MayPass l.settings.flagMode role passed) (other : Nat) :
    (l.readLines number (line :: lines)).map gist =
      (l.readLines other (lines ++ [line])).map gist := by
  obtain ⟨change, hspares, hchange⟩ := exists_rework_of_isRoleLine l.settings.flagMode hline
  have hfirst : (l.readLines number (line :: lines)).map gist =
      ((l.rework change).readLines other lines).map gist := by
    rw [readLines_cons]
    refine map_gist_bind_congr (y := .ok (l.rework change))
      (g := fun next ↦ next.readLines other lines) (hchange l number rfl) ?_
    intro next next' hnext
    exact map_gist_readLines_congr _ hnext _ lines
  rw [hfirst, readLines_rework rfl hpassed hspares, readLines_append]
  cases hnext : l.readLines other lines with
  | error unusable => rfl
  | ok next =>
      have hmode : next.settings.flagMode = l.settings.flagMode := by
        rw [flagMode_of_readLines hnext, foldl_modeAfter hpassed]
      have hlast := hchange next (other + lines.length) hmode
      change .ok (next.rework change).gist = (next.readLines (other + lines.length) [line]).map gist
      rw [readLines_cons, ← hlast]
      cases next.readLine (other + lines.length) line <;> rfl

theorem map_gist_readLines_moved {before behind : List Text} (hline : IsRoleLine role line)
    (hpassed : ∀ passed ∈ lines,
      MayPass (before.foldl modeAfter l.settings.flagMode) role passed) :
    (l.readLines number (before ++ (line :: lines ++ behind))).map gist =
      (l.readLines number (before ++ (lines ++ [line] ++ behind))).map gist := by
  rw [readLines_append, readLines_append]
  cases hnext : l.readLines number before with
  | error unusable => rfl
  | ok next =>
      rw [← flagMode_of_readLines hnext] at hpassed
      change (next.readLines _ (line :: lines ++ behind)).map gist =
        (next.readLines _ (lines ++ [line] ++ behind)).map gist
      rw [readLines_append, readLines_append]
      apply map_gist_bind_congr (map_gist_readLines_swap hline hpassed _)
      intro last last' hlast
      exact map_gist_readLines_congr _ hlast _ behind

end Loading

namespace Settings

open Directive Text

/-- Another place for a line: behind some lines that followed it, or before some lines that it
followed. -/
inductive Moves (before : List Text) (line : Text) (passed : List Text) :
    List Text → List Text → Prop
  | down (behind : List Text) :
      Moves before line passed (before ++ (line :: passed ++ behind))
        (before ++ (passed ++ [line] ++ behind))
  | up (behind : List Text) :
      Moves before line passed (before ++ (passed ++ [line] ++ behind))
        (before ++ (line :: passed ++ behind))

/-- A line that declares a role may stand anywhere, as long as it does not pass a line that says how
flags are written or one that declares the same role: the settings are the same, and so are the
problems but for their order and the numbers of their lines. -/
theorem parse_moveRoleLine {text moved line : Text} {before passed : List Text} {role : Role}
    {settings : Settings} (hparse : parse text = .ok settings) (hline : IsRoleLine role line)
    (hmoves : Moves before line passed (linesOf text) (linesOf moved))
    (hpassed : ∀ other ∈ passed, MayPass (before.foldl modeAfter .char) role other) :
    ∃ settings', parse moved = .ok settings' ∧
      settings'.withProblems [] = settings.withProblems [] ∧
        (settings'.problems.map Problem.unplaced).Perm
          (settings.problems.map Problem.unplaced) := by
  apply exists_parse_of_gist _ hparse
  generalize linesOf text = lines at hmoves
  generalize linesOf moved = lines' at hmoves
  cases hmoves with
  | down behind => exact Loading.map_gist_readLines_moved hline hpassed
  | up behind => exact (Loading.map_gist_readLines_moved hline hpassed).symm

/-- The flag of words that need an affix is declared before the affixes or behind them.  The line
passes one that cannot be read and one for the same role that does not name a single flag. -/
theorem parse_needAffix_behind_rules :
    let line := "NEEDAFFIX x".toList
    let before := ["SFX S Y 1".toList]
    let passed := ["SFX S 0 s/x .".toList, "REP a".toList, "PSEUDOROOT xy".toList]
    let text := "SFX S Y 1\nNEEDAFFIX x\nSFX S 0 s/x .\nREP a\nPSEUDOROOT xy\nTRY abc\n".toList
    let moved := "SFX S Y 1\nSFX S 0 s/x .\nREP a\nPSEUDOROOT xy\nNEEDAFFIX x\nTRY abc\n".toList
    IsRoleLine .needAffix line ∧ Moves before line passed (linesOf text) (linesOf moved) ∧
      (∀ other ∈ passed, MayPass (before.foldl modeAfter .char) .needAffix other) ∧
        ∃ settings settings', parse text = .ok settings ∧ parse moved = .ok settings' ∧
          settings'.withProblems [] = settings.withProblems [] ∧
            settings'.problems ≠ settings.problems ∧
              (settings'.problems.map Problem.unplaced).Perm
                (settings.problems.map Problem.unplaced) := by
  intro line before passed text moved
  have hline : IsRoleLine .needAffix line := by
    rw [IsRoleLine]
    decide +kernel
  have hmoves : Moves before line passed (linesOf text) (linesOf moved) := by
    have htext : linesOf text = before ++ (line :: passed ++ ["TRY abc".toList]) := by
      decide +kernel
    have hmoved : linesOf moved = before ++ (passed ++ [line] ++ ["TRY abc".toList]) := by
      decide +kernel
    rw [htext, hmoved]
    exact .down _
  have hpassed : ∀ other ∈ passed, MayPass (before.foldl modeAfter .char) .needAffix other := by
    decide +kernel
  have hproblems : (parse text).map (·.problems) =
      .ok [.malformedLine 4 (.unreadable .blank []), .malformedFlags "xy".toList .notSingle] := by
    decide +kernel
  have hproblems' : (parse moved).map (·.problems) =
      .ok [.malformedLine 3 (.unreadable .blank []), .malformedFlags "xy".toList .notSingle] := by
    decide +kernel
  obtain ⟨settings, hparse, hproblems⟩ := exists_of_map_eq_ok hproblems
  obtain ⟨settings', hparse', hsame, hperm⟩ := parse_moveRoleLine hparse hline hmoves hpassed
  refine ⟨hline, hmoves, hpassed, settings, settings', hparse, hparse', hsame, ?_, hperm⟩
  rw [hparse'] at hproblems'
  intro hequal
  have hnumbers := hequal.symm.trans (Except.ok.inj hproblems')
  rw [hproblems] at hnumbers
  simp at hnumbers

end Settings
end Orthography
