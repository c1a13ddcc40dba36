import Orthography.Proofs.Settings.Lines

/-!
# Problems and the lines they come from

A line that cannot be carried out leaves at most one problem behind, and if the problem tells where
it comes from it tells the number of that line.  So the number alone says what has become of a line.
-/

namespace Orthography

/-- The number of the line that a problem tells; zero if it tells none. -/
def Problem.line : Problem → Nat
  | malformedLine line _ => line
  | _ => 0

theorem Problem.line_atLine {problem : Problem} (h : problem.line = 0) (number : Nat) :
    (problem.atLine number).line = 0 ∨ (problem.atLine number).line = number := by
  unfold atLine
  split
  · exact Or.inr rfl
  · exact Or.inl h

theorem countP_line_eq_zero {problems : List Problem} {number : Nat}
    (h : ∀ problem ∈ problems, problem.line ≠ number) :
    problems.countP (fun problem ↦ problem.line = number) = 0 := by
  rw [List.countP_eq_zero]
  intro problem hproblem
  simpa using h problem hproblem

/-- Whether a problem is that a line is not in the form that it should have. -/
def Problem.isMalformedLine : Problem → Bool
  | malformedLine .. => true
  | _ => false

section FailsAs

/-- Whatever goes wrong, the problem is as asked. -/
def FailsAs {α : Type} (P : Problem → Prop) (x : Except Problem α) : Prop :=
  ∀ problem, x = .error problem → P problem

variable {α β : Type} {P Q : Problem → Prop} {x : Except Problem α}

theorem failsAs_ok (a : α) : FailsAs P (.ok a) := by
  intro problem h
  cases h

theorem failsAs_error {problem : Problem} (h : P problem) :
    FailsAs P (.error problem : Except Problem α) := by
  intro other hother
  rwa [← Except.error.inj hother]

theorem FailsAs.mono (hx : FailsAs P x) (h : ∀ problem, P problem → Q problem) : FailsAs Q x :=
  fun problem hproblem ↦ h problem (hx problem hproblem)

theorem FailsAs.bind {f : α → Except Problem β} (hx : FailsAs P x) (hf : ∀ a, FailsAs P (f a)) :
    FailsAs P (x >>= f) := by
  cases x with
  | error problem => exact failsAs_error (hx problem rfl)
  | ok a => exact hf a

theorem FailsAs.map (hx : FailsAs P x) (f : α → β) : FailsAs P (x.map f) := by
  cases x with
  | error problem => exact failsAs_error (hx problem rfl)
  | ok a => exact failsAs_ok (f a)

/-- Whatever goes wrong, the problem does not tell yet where it comes from. -/
abbrev Unplaced (x : Except Problem α) : Prop := FailsAs (fun problem ↦ problem.line = 0) x

/-- Whatever goes wrong, it is not the form of the line. -/
abbrev KeepsForm (x : Except Problem α) : Prop :=
  FailsAs (fun problem ↦ problem.isMalformedLine = false) x

theorem KeepsForm.unplaced (h : KeepsForm x) : Unplaced x := by
  refine h.mono fun problem hproblem ↦ ?_
  cases problem with
  | malformedLine line fault => cases hproblem
  | _ => rfl

theorem KeepsForm.ne_malformedLine (h : KeepsForm x) (line : Nat) (fault : LineFault) :
    x ≠ .error (.malformedLine line fault) := by
  intro hx
  cases h _ hx

theorem FlagMode.keepsForm_parse (mode : FlagMode) (text : Text) :
    KeepsForm (mode.parse text) := by
  rw [parse]
  cases mode.read text with
  | error fault => exact failsAs_error rfl
  | ok flags => exact failsAs_ok flags

theorem FlagMode.keepsForm_parseSingle (mode : FlagMode) (text : Text) :
    KeepsForm (mode.parseSingle text) := by
  rw [parseSingle]
  apply (mode.keepsForm_parse text).bind
  intro flags
  split
  · exact failsAs_ok _
  · exact failsAs_error rfl

theorem Settings.keepsForm_parseFlags (settings : Settings) (text : Text) :
    KeepsForm (settings.parseFlags text) := by
  have hplain : KeepsForm (FlagSet.parse settings.flagMode text) :=
    (settings.flagMode.keepsForm_parse text).map _
  rw [parseFlags]
  split
  · exact hplain
  · split
    · exact hplain
    · split
      · exact failsAs_ok _
      · exact failsAs_error rfl

theorem Condition.keepsForm_parse (text : Text) : KeepsForm (Condition.parse text) := by
  rw [parse]
  split
  · exact failsAs_error rfl
  · exact failsAs_ok _
  · exact failsAs_ok _

theorem CompoundPattern.unplaced_ofFields (mode : FlagMode) (fields : List Text) :
    Unplaced (ofFields mode fields) := by
  have hside (text : Text) : Unplaced (PatternSide.parse mode text) := by
    rw [PatternSide.parse]
    split
    · exact (mode.keepsForm_parseSingle _).unplaced.bind fun _ ↦ failsAs_ok _
    · exact failsAs_ok _
  unfold ofFields
  split
  · exact (hside _).bind fun _ ↦ (hside _).bind fun _ ↦ failsAs_ok _
  · exact failsAs_error rfl

theorem CompoundRule.keepsForm_readFrom (mode : FlagMode) (whole : Text) (group : Option Text)
    (done : List RuleElement) (text : Text) : KeepsForm (readFrom mode whole group done text) := by
  induction text generalizing group done with
  | nil =>
      unfold readFrom
      split
      · exact failsAs_ok _
      · exact failsAs_error rfl
  | cons c text ih =>
      unfold readFrom
      split
      · split
        · exact (mode.keepsForm_parseSingle _).bind fun _ ↦ ih _ _
        · exact ih _ _
      · split
        · exact ih _ _
        · split
          · split
            · exact ih _ _
            · exact failsAs_error rfl
          · exact (mode.keepsForm_parseSingle _).bind fun _ ↦ ih _ _

end FailsAs

/-- Whether all that a directive needs is there as soon as its line is read.  The fields of a
pattern and of an affix line are counted only when they are used. -/
def Directive.isComplete : Directive → Bool
  | compoundPattern _ | affix .. => false
  | _ => true

namespace Loading

variable {l next final : Loading} {number : Nat} {line : Text} {lines : List Text}

theorem keepsForm_set (settings : Settings) {directive : Directive} (h : directive.isComplete) :
    KeepsForm (set settings directive) := by
  cases directive with
  | role role flag =>
      exact (settings.flagMode.keepsForm_parseSingle flag).bind fun _ ↦ failsAs_ok _
  | compoundPattern fields => cases h
  | compoundRule rule =>
      exact (CompoundRule.keepsForm_readFrom _ rule none [] rule).bind fun _ ↦ failsAs_ok _
  | flagAlias flags =>
      exact ((settings.flagMode.keepsForm_parse flags).map _).bind fun _ ↦ failsAs_ok _
  | _ => exact failsAs_ok _

theorem unplaced_set (settings : Settings) (directive : Directive) :
    Unplaced (set settings directive) := by
  cases directive with
  | compoundPattern fields =>
      exact (CompoundPattern.unplaced_ofFields _ fields).bind fun _ ↦ failsAs_ok _
  | affix kind flag fields => exact failsAs_ok _
  | _ => exact (keepsForm_set settings rfl).unplaced

theorem keepsForm_addRule (l : Loading) (kind : AffixKind) (flag : Flag) (cross : Bool) :
    KeepsForm (l.addRule kind flag cross) := by
  cases kind
  all_goals
    simp only [addRule]
    split
    · exact failsAs_error rfl
    · split
      · exact failsAs_ok _
      · exact failsAs_ok _

/-- An entry of a rule that is not declared is out of form; otherwise only what it says can be
wrong. -/
theorem addEntry_cases (l : Loading) (kind : AffixKind) (flag : Flag) (strip add : Text)
    (more : List Text) :
    declares (l.rules kind) flag = false ∧
        l.addEntry kind flag strip add more = .error (.malformedLine 0 (.noHeader kind flag)) ∨
      declares (l.rules kind) flag ∧ KeepsForm (l.addEntry kind flag strip add more) := by
  have hletters : KeepsForm (addedLetters l.settings add) := by
    rw [addedLetters]
    split
    · exact failsAs_ok _
    · exact (l.settings.keepsForm_parseFlags _).bind fun _ ↦ failsAs_ok _
  rw [addEntry, declares]
  split
  · rename_i hnone
    refine Or.inl ⟨?_, rfl⟩
    rw [List.any_eq_false]
    exact List.find?_eq_none.1 hnone
  · rename_i rule hrule
    have hflag : rule.flag = flag := by simpa using List.find?_some hrule
    refine Or.inr ⟨?_, ?_⟩
    · exact List.any_eq_true.2 ⟨rule, List.mem_of_find?_eq_some hrule, beq_iff_eq.2 hflag⟩
    · exact hletters.bind fun _ ↦ (Condition.keepsForm_parse _).bind fun _ ↦ failsAs_ok _

theorem unplaced_affixLine (l : Loading) (kind : AffixKind) (flag : Text) (fields : List Text) :
    Unplaced (l.affixLine kind flag fields) := by
  rw [affixLine]
  apply (l.settings.flagMode.keepsForm_parseSingle flag).unplaced.bind
  intro flag
  split
  · exact (keepsForm_addRule l kind flag _).unplaced
  · split
    · rename_i strip add more _
      rcases addEntry_cases l kind flag strip add more with ⟨-, hentry⟩ | ⟨-, hentry⟩
      · rw [hentry]
        exact failsAs_error rfl
      · exact hentry.unplaced
    · exact failsAs_error rfl

theorem keepsForm_apply (l : Loading) {directive : Directive} (h : directive.isComplete) :
    KeepsForm (l.apply directive) := by
  have hset {directive : Directive} (h : directive.isComplete) : KeepsForm
      ((set l.settings directive).map fun settings ↦ { l with settings }) :=
    (keepsForm_set l.settings h).map _
  unfold apply
  split
  · cases h
  · split
    · exact hset rfl
    · exact failsAs_ok _
  · split
    · exact hset rfl
    · exact failsAs_ok _
  · exact hset h

theorem unplaced_apply (l : Loading) (directive : Directive) : Unplaced (l.apply directive) := by
  cases directive with
  | affix kind flag fields => exact unplaced_affixLine l kind flag fields
  | compoundPattern fields => exact (unplaced_set l.settings _).map _
  | _ => exact (keepsForm_apply l rfl).unplaced

/-- The fields of an affix line are enough: they declare the rule of the flag, or they are those of
an entry and the rule has been declared.  With a flag that is none the line is not looked at any
further. -/
def HasEnoughFields (l : Loading) (kind : AffixKind) (flag : Text) (fields : List Text) : Prop :=
  ∀ f, l.settings.flagMode.parseSingle flag = .ok f →
    (header? fields).isSome ∨ 2 ≤ fields.length ∧ declares (l.rules kind) f

theorem affixLine_ne_malformedLine_iff {kind : AffixKind} {flag : Text} {fields : List Text} :
    (∀ fault, l.affixLine kind flag fields ≠ .error (.malformedLine 0 fault)) ↔
      l.HasEnoughFields kind flag fields := by
  rw [HasEnoughFields, affixLine]
  cases hflag : l.settings.flagMode.parseSingle flag with
  | error problem =>
      apply iff_of_true
      · intro fault hfault
        obtain rfl := Except.error.inj hfault
        exact (l.settings.flagMode.keepsForm_parseSingle flag).ne_malformedLine 0 fault hflag
      · intro f hf
        cases hf
  | ok f =>
      simp only [Except.ok.injEq, forall_eq', Bind.bind, Except.bind]
      cases header? fields with
      | some cross =>
          exact iff_of_true ((keepsForm_addRule l kind f cross).ne_malformedLine 0) (Or.inl rfl)
      | none =>
          rcases fields with _ | ⟨strip, _ | ⟨add, more⟩⟩
          · exact iff_of_false (fun h ↦ h _ rfl) (by simp)
          · exact iff_of_false (fun h ↦ h _ rfl) (by simp)
          · rcases addEntry_cases l kind f strip add more with ⟨hnew, hentry⟩ | ⟨hold, hentry⟩
            · exact iff_of_false (fun h ↦ h _ hentry) (by simp [hnew])
            · exact iff_of_true (hentry.ne_malformedLine 0) (by simp [hold])

/-! ## What a line leaves behind -/

/-- A line that is left out for its form: it cannot be read, or not be carried out as it is. -/
def IsRefused (l : Loading) (line : Text) : Prop :=
  (∃ fault, Directive.ofLine line = .error fault) ∨
    ∃ directive fault, Directive.ofLine line = .ok directive ∧
      l.apply directive = .error (.malformedLine 0 fault)

theorem not_isRefused_iff :
    ¬ l.IsRefused line ↔ ∃ directive, Directive.ofLine line = .ok directive ∧
      ∀ fault, l.apply directive ≠ .error (.malformedLine 0 fault) := by
  constructor
  · intro h
    cases hline : Directive.ofLine line with
    | error fault => exact absurd (Or.inl ⟨fault, hline⟩) h
    | ok directive =>
        exact ⟨directive, rfl, fun fault happly ↦ h (Or.inr ⟨directive, fault, hline, happly⟩)⟩
  · rintro ⟨directive, hline, happly⟩ (⟨fault, hfault⟩ | ⟨other, fault, hother, hrefused⟩)
    · rw [hline] at hfault
      cases hfault
    · rw [hline] at hother
      cases hother
      exact happly fault hrefused

/-- A line leaves a problem with its own number exactly if it is refused, and then it is the only
one that it leaves. -/
theorem exists_problems_of_readLine (hnumber : 0 < number)
    (h : l.readLine number line = .ok next) :
    ∃ more, next.settings.problems = l.settings.problems ++ more ∧
      (∀ problem ∈ more, problem.line = 0 ∨ problem.line = number) ∧
        (more.countP (fun problem ↦ problem.line = number) = 1 ↔ l.IsRefused line) := by
  have hsilent : List.countP (fun problem : Problem ↦ decide (problem.line = number)) [] ≠ 1 := by
    simp
  rcases readLine_cases h with ⟨fault, hfault, rfl⟩ | ⟨name, mode, hmode, -, rfl⟩ |
    ⟨directive, hdirective, -, happly | ⟨problem, hproblem, rfl⟩⟩
  · refine ⟨[.malformedLine number fault], rfl, ?_, ?_⟩
    · intro problem hproblem
      rw [List.mem_singleton.1 hproblem]
      exact Or.inr rfl
    · apply iff_of_true
      · simp [Problem.line]
      · exact Or.inl ⟨fault, hfault⟩
  · refine ⟨[], (List.append_nil _).symm, fun _ hnone ↦ absurd hnone List.not_mem_nil, ?_⟩
    apply iff_of_false hsilent
    refine not_isRefused_iff.2 ⟨_, hmode, fun fault hrefused ↦ ?_⟩
    cases hrefused
  · have hkept : ¬ l.IsRefused line := by
      refine not_isRefused_iff.2 ⟨directive, hdirective, fun fault hrefused ↦ ?_⟩
      rw [happly] at hrefused
      cases hrefused
    rcases problems_of_apply happly with hproblems | ⟨flag, hproblems⟩
    · refine ⟨[], hproblems.trans (List.append_nil _).symm,
        fun _ hnone ↦ absurd hnone List.not_mem_nil, ?_⟩
      exact iff_of_false hsilent hkept
    · refine ⟨_, hproblems, ?_, ?_⟩
      · intro problem hproblem
        rw [List.mem_singleton.1 hproblem]
        exact Or.inl rfl
      · apply iff_of_false _ hkept
        simp [Problem.line, hnumber.ne]
  · have hplace := Problem.line_atLine (unplaced_apply l directive problem hproblem) number
    refine ⟨[problem.atLine number], rfl, ?_, ?_⟩
    · intro other hother
      rwa [List.mem_singleton.1 hother]
    · rw [List.countP_singleton]
      cases problem with
      | malformedLine line fault =>
          obtain rfl : line = 0 := unplaced_apply l directive _ hproblem
          apply iff_of_true
          · simp [Problem.atLine, Problem.line]
          · exact Or.inr ⟨directive, fault, hdirective, hproblem⟩
      | _ =>
          apply iff_of_false
          · simp [Problem.atLine, Problem.line, hnumber.ne]
          · refine not_isRefused_iff.2 ⟨directive, hdirective, fun fault hrefused ↦ ?_⟩
            rw [hproblem] at hrefused
            cases hrefused

/-- The numbers that are told are those of the lines that are read. -/
theorem exists_problems_of_readLines (hnumber : 0 < number)
    (h : l.readLines number lines = .ok final) :
    ∃ more, final.settings.problems = l.settings.problems ++ more ∧
      ∀ problem ∈ more, problem.line = 0 ∨
        number ≤ problem.line ∧ problem.line < number + lines.length := by
  induction lines generalizing l number with
  | nil =>
      cases h
      exact ⟨[], (List.append_nil _).symm, fun _ hnone ↦ absurd hnone List.not_mem_nil⟩
  | cons line lines ih =>
      rw [readLines_cons] at h
      obtain ⟨next, hnext, hrest⟩ := exists_of_bind_eq_ok h
      obtain ⟨first, hfirst, hplaces, -⟩ := exists_problems_of_readLine hnumber hnext
      obtain ⟨more, hmore, hlater⟩ := ih (Nat.succ_pos number) hrest
      refine ⟨first ++ more, ?_, ?_⟩
      · rw [hmore, hfirst, List.append_assoc]
      · intro problem hproblem
        rw [List.length_cons]
        rcases List.mem_append.1 hproblem with hmem | hmem
        · have hplace := hplaces problem hmem
          omega
        · have hplace := hlater problem hmem
          omega

end Loading

namespace Settings

open Loading

variable {text line : Text} {settings : Settings} {n : Nat}

/-- Of the problems of a text, those with the number of a line tell whether the line was refused. -/
theorem exists_readLine_of_parse (hparse : parse text = .ok settings)
    (hline : (linesOf text)[n]? = some line) :
    ∃ l next, readLines {} 1 ((linesOf text).take n) = .ok l ∧
      l.readLine (n + 1) line = .ok next ∧
        (settings.problems.countP (fun problem ↦ problem.line = n + 1) = 1 ↔
          l.IsRefused line) := by
  obtain ⟨final, hfinal, rfl⟩ := exists_of_map_eq_ok hparse
  obtain ⟨hn, hget⟩ := List.getElem?_eq_some_iff.1 hline
  change readLines {} 1 (linesOf text) = .ok final at hfinal
  have hsplit : linesOf text =
      (linesOf text).take n ++ line :: (linesOf text).drop (n + 1) := by
    rw [← hget, List.getElem_cons_drop, List.take_append_drop]
  rw [hsplit, readLines_append] at hfinal
  obtain ⟨l, hl, hfinal⟩ := exists_of_bind_eq_ok hfinal
  rw [List.length_take_of_le hn.le, readLines_cons] at hfinal
  obtain ⟨next, hnext, hfinal⟩ := exists_of_bind_eq_ok hfinal
  rw [Nat.add_comm 1 n] at hnext hfinal
  obtain ⟨before, hbefore, hearlier⟩ := exists_problems_of_readLines Nat.one_pos hl
  obtain ⟨new, hnew, -, hrefused⟩ := exists_problems_of_readLine (Nat.succ_pos n) hnext
  obtain ⟨more, hmore, hlater⟩ := exists_problems_of_readLines (Nat.succ_pos _) hfinal
  have hproblems : final.finish.problems = before ++ new ++ more := by
    rw [hnew, hbefore] at hmore
    exact hmore
  have hcountBefore : before.countP (fun problem ↦ problem.line = n + 1) = 0 := by
    apply countP_line_eq_zero
    intro problem hproblem
    have hplace := hearlier problem hproblem
    rw [List.length_take_of_le hn.le] at hplace
    omega
  have hcountMore : more.countP (fun problem ↦ problem.line = n + 1) = 0 := by
    apply countP_line_eq_zero
    intro problem hproblem
    have hplace := hlater problem hproblem
    omega
  refine ⟨l, next, hl, hnext, ?_⟩
  rw [hproblems, List.countP_append, List.countP_append, hcountBefore, hcountMore, Nat.zero_add,
    Nat.add_zero, hrefused]

end Settings
end Orthography
