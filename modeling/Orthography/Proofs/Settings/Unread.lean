import Orthography.Proofs.Settings.Effect

/-!
# What is not looked at while an affix text is read

The roles and the problems that come of the lines before are carried along and never looked at.  So
they may be changed before a line is read instead of afterwards, unless the line itself declares
one of the roles that are changed.
-/

namespace Orthography

/-- A change of the roles, and of the problems so far. -/
structure Rework where
  roles : Roles → Roles := id
  problems : List Problem → List Problem := id
  problems_concat : ∀ earlier problem,
    problems (earlier ++ [problem]) = problems earlier ++ [problem] := by exact fun _ _ ↦ rfl

/-- Whether a directive may be carried out before a change as well as after it. -/
def Rework.Spares (change : Rework) (mode : FlagMode) (directive : Directive) : Prop :=
  ∀ role name flag, directive = .role role name → mode.parseSingle name = .ok flag →
    ∀ roles, change.roles (roles.declare role flag) = (change.roles roles).declare role flag

def Settings.rework (change : Rework) (settings : Settings) : Settings :=
  { settings with
    roles := change.roles settings.roles
    problems := change.problems settings.problems }

namespace Loading

def rework (change : Rework) (l : Loading) : Loading :=
  { l with settings := l.settings.rework change }

variable (change : Rework) (l : Loading)

theorem report_rework (problem : Problem) :
    (l.rework change).report problem = (l.report problem).rework change := by
  simp [rework, report, Settings.rework, Settings.report, change.problems_concat]

theorem rules_rework (kind : AffixKind) : (l.rework change).rules kind = l.rules kind := by
  cases kind <;> rfl

theorem setRules_rework (kind : AffixKind) (rules : List AffixRule) :
    (l.rework change).setRules kind rules = (l.setRules kind rules).rework change := by
  cases kind <;> rfl

theorem addRule_rework (kind : AffixKind) (flag : Flag) (cross : Bool) :
    (l.rework change).addRule kind flag cross =
      (l.addRule kind flag cross).map (rework change) := by
  simp only [addRule, rules_rework, setRules_rework, report_rework]
  split
  · rfl
  · split <;> split <;> rfl

theorem addEntry_rework (kind : AffixKind) (flag : Flag) (strip add : Text) (more : List Text) :
    (l.rework change).addEntry kind flag strip add more =
      (l.addEntry kind flag strip add more).map (rework change) := by
  have hletters : addedLetters (l.rework change).settings add = addedLetters l.settings add := rfl
  simp only [addEntry, rules_rework, setRules_rework, hletters]
  split
  · rfl
  · cases addedLetters l.settings add with
    | error problem => rfl
    | ok added =>
        cases Condition.parse (more.headD ['.']) <;> rfl

theorem affixLine_rework (kind : AffixKind) (flag : Text) (fields : List Text) :
    (l.rework change).affixLine kind flag fields =
      (l.affixLine kind flag fields).map (rework change) := by
  have hmode : (l.rework change).settings.flagMode = l.settings.flagMode := rfl
  simp only [affixLine, hmode]
  cases l.settings.flagMode.parseSingle flag with
  | error problem => rfl
  | ok flag =>
      simp only [bind, Except.bind, addRule_rework, addEntry_rework]
      split
      · rfl
      · split <;> rfl

variable {change} {directive : Directive}

theorem set_rework (settings : Settings) (h : change.Spares settings.flagMode directive) :
    set (settings.rework change) directive =
      (set settings directive).map (Settings.rework change) := by
  have hmode : (settings.rework change).flagMode = settings.flagMode := rfl
  cases directive with
  | role role name =>
      simp only [set, hmode]
      cases hflag : settings.flagMode.parseSingle name with
      | error problem => rfl
      | ok flag =>
          have hroles := h role name flag rfl hflag settings.roles
          simp only [bind, Except.bind, pure, Except.pure, Except.map, Settings.rework, hroles]
  | compoundPattern fields =>
      simp only [set, hmode]
      cases CompoundPattern.ofFields settings.flagMode fields <;> rfl
  | compoundRule rule =>
      simp only [set, hmode]
      cases CompoundRule.parse settings.flagMode rule <;> rfl
  | flagAlias flags =>
      simp only [set, hmode]
      cases FlagSet.parse settings.flagMode flags <;> rfl
  | choose choice => cases choice <;> rfl
  | _ => rfl

theorem apply_rework (h : change.Spares l.settings.flagMode directive) :
    (l.rework change).apply directive = (l.apply directive).map (rework change) := by
  have hset : ((set (l.rework change).settings directive).map fun settings ↦
        { l.rework change with settings }) =
      ((set l.settings directive).map fun settings ↦ { l with settings }).map
        (rework change) := by
    rw [rework, set_rework l.settings h]
    cases set l.settings directive <;> rfl
  cases directive with
  | affix kind flag fields => exact affixLine_rework change l kind flag fields
  | flagAlias flags =>
      have hcounted : (l.rework change).flagAliasesCounted = l.flagAliasesCounted := rfl
      simp only [apply, hcounted]
      split
      · exact hset
      · rfl
  | morphAlias fields =>
      have hcounted : (l.rework change).morphAliasesCounted = l.morphAliasesCounted := rfl
      simp only [apply, hcounted]
      split
      · exact hset
      · rfl
  | _ => exact hset

/-- A line is read in the same way whatever roles and problems there were before it. -/
theorem readLine_rework (number : Nat) {line : Text}
    (h : ∀ directive, Directive.ofLine line = .ok directive →
      change.Spares l.settings.flagMode directive) :
    (l.rework change).readLine number line = (l.readLine number line).map (rework change) := by
  unfold readLine
  cases hline : Directive.ofLine line with
  | error fault => exact congrArg Except.ok (report_rework change l _)
  | ok directive =>
      have hspares := h directive hline
      split
      · rename_i heq
        cases heq
      · split <;> rfl
      · split <;> rfl
      · rename_i heq
        cases heq
        simp only [apply_rework l hspares, report_rework]
        cases l.apply directive <;> rfl

end Loading
end Orthography
