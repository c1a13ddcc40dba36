import Orthography.Proofs.Settings.Reader

/-!
# What a directive changes

A directive sets one component of the settings and leaves all others as they are.  An affix line
changes the rules that have been declared and may leave a problem behind; the first line of a table
of aliases is only counted.
-/

namespace Orthography

/-- The settings without the component that a directive sets. -/
def Directive.without (settings : Settings) : Directive → Settings
  | .language _ => { settings with casing := .standard }
  | .keyboard _ => { settings with keyboard := none }
  | .tryChars _ => { settings with tryChars := none }
  | .ignore _ => { settings with ignored := [] }
  | .role .. => { settings with roles := .none }
  | .compoundMin _ => { settings with compoundMin := 0 }
  | .compoundMax _ => { settings with compoundMax := none }
  | .choose .forbidDouble => { settings with forbidDouble := false }
  | .choose .forbidCapitals => { settings with forbidCapitals := false }
  | .choose .forbidTriple => { settings with forbidTriple := false }
  | .choose .fullStrip => { settings with fullStrip := false }
  | .inputConversion .. => { settings with inputs := [] }
  | .outputConversion .. => { settings with outputs := [] }
  | .correction .. => { settings with replacements := [] }
  | .compoundPattern _ => { settings with patterns := [] }
  | .compoundRule _ => { settings with rules := [] }
  | .related _ => { settings with related := [] }
  | .wordBreak _ => { settings with breaks := [] }
  | .flagAlias _ => { settings with flagAliases := [] }
  | .morphAlias _ => { settings with morphAliases := [] }
  | .nothing | .encoding _ | .flagMode _ | .affix .. => settings

namespace Loading

variable {settings after : Settings} {l next : Loading} {directive : Directive}

theorem without_of_set (h : set settings directive = .ok after) :
    directive.without after = directive.without settings := by
  cases directive with
  | role role flag =>
      obtain ⟨flag, -, h⟩ := exists_of_bind_eq_ok h
      cases h
      rfl
  | compoundPattern fields =>
      obtain ⟨pattern, -, h⟩ := exists_of_bind_eq_ok h
      cases h
      rfl
  | compoundRule rule =>
      obtain ⟨rule, -, h⟩ := exists_of_bind_eq_ok h
      cases h
      rfl
  | flagAlias flags =>
      obtain ⟨flags, -, h⟩ := exists_of_bind_eq_ok h
      cases h
      rfl
  | choose choice =>
      cases h
      cases choice <;> rfl
  | _ =>
      cases h
      rfl

/-- What is read off the settings without some component is kept when that component is set. -/
theorem eq_of_set {α : Type} {read : Settings → α} (h : set settings directive = .ok after)
    (hread : ∀ settings, read (directive.without settings) = read settings) :
    read after = read settings := by
  rw [← hread after, without_of_set h, hread]

theorem setRules_eq (kind : AffixKind) (rules : List AffixRule) :
    ∃ prefixes suffixes, l.setRules kind rules = { l with prefixes, suffixes } := by
  cases kind
  · exact ⟨rules, l.suffixes, rfl⟩
  · exact ⟨l.prefixes, rules, rfl⟩

/-- An affix line changes the rules alone, but for a problem where a flag names rules of both
kinds. -/
theorem exists_of_affixLine {kind : AffixKind} {name : Text} {fields : List Text}
    (h : l.affixLine kind name fields = .ok next) :
    ∃ prefixes suffixes, next = { l with prefixes, suffixes } ∨
      ∃ flag, next = { l with prefixes, suffixes }.report (.conflictingRule flag) := by
  obtain ⟨flag, -, h⟩ := exists_of_bind_eq_ok h
  split at h
  · rename_i cross _
    obtain ⟨prefixes, suffixes, hrules⟩ :=
      setRules_eq (l := l) kind (l.rules kind ++ [.new kind flag cross])
    simp only [addRule, hrules] at h
    refine ⟨prefixes, suffixes, ?_⟩
    split at h
    · cases h
    · split at h <;> split at h <;> cases h
      · exact Or.inr ⟨flag, rfl⟩
      · exact Or.inl rfl
      · exact Or.inr ⟨flag, rfl⟩
      · exact Or.inl rfl
  · split at h
    · simp only [addEntry] at h
      split at h
      · cases h
      · obtain ⟨added, -, h⟩ := exists_of_bind_eq_ok h
        obtain ⟨condition, -, h⟩ := exists_of_bind_eq_ok h
        cases h
        obtain ⟨prefixes, suffixes, hrules⟩ := setRules_eq (l := l) kind _
        exact ⟨prefixes, suffixes, Or.inl hrules⟩
    · cases h

/-- All that carrying out a directive can come to. -/
theorem apply_cases (h : l.apply directive = .ok next) :
    (∃ settings, set l.settings directive = .ok settings ∧ next = { l with settings }) ∨
    (∃ kind name fields, directive = .affix kind name fields ∧
      l.affixLine kind name fields = .ok next) ∨
    (∃ text, directive = .flagAlias text ∧ l.flagAliasesCounted = false ∧
      next = { l with flagAliasesCounted := true }) ∨
    (∃ text, directive = .morphAlias text ∧ l.morphAliasesCounted = false ∧
      next = { l with morphAliasesCounted := true }) := by
  have hset (hmap : ((set l.settings directive).map fun settings ↦ { l with settings }) = .ok next) :
      ∃ settings, set l.settings directive = .ok settings ∧ next = { l with settings } := by
    obtain ⟨settings, hsettings, heq⟩ := exists_of_map_eq_ok hmap
    exact ⟨settings, hsettings, heq.symm⟩
  cases directive with
  | affix kind name fields => exact Or.inr (Or.inl ⟨kind, name, fields, rfl, h⟩)
  | flagAlias text =>
      rw [apply] at h
      split at h
      · exact Or.inl (hset h)
      · rename_i hcounted
        cases h
        exact Or.inr (Or.inr (Or.inl ⟨text, rfl, by simpa using hcounted, rfl⟩))
  | morphAlias text =>
      rw [apply] at h
      split at h
      · exact Or.inl (hset h)
      · rename_i hcounted
        cases h
        exact Or.inr (Or.inr (Or.inr ⟨text, rfl, by simpa using hcounted, rfl⟩))
  | _ => exact Or.inl (hset h)

/-- All that reading a line can come to. -/
theorem readLine_cases {number : Nat} {line : Text} (h : l.readLine number line = .ok next) :
    (∃ fault, Directive.ofLine line = .error fault ∧
      next = l.report (.malformedLine number fault)) ∨
    (∃ name mode, Directive.ofLine line = .ok (.flagMode name) ∧ flagModeOf? name = some mode ∧
      next = { l with settings := { l.settings with flagMode := mode } }) ∨
    ∃ directive, Directive.ofLine line = .ok directive ∧
      (∀ name, directive ≠ .flagMode name) ∧ (l.apply directive = .ok next ∨
        ∃ problem, l.apply directive = .error problem ∧
          next = l.report (problem.atLine number)) := by
  unfold readLine at h
  split at h
  · rename_i fault hline
    cases h
    exact Or.inl ⟨fault, hline, rfl⟩
  · rename_i name hline
    split at h
    · cases h
      exact Or.inr (Or.inr ⟨_, hline, by simp, Or.inl rfl⟩)
    · cases h
  · rename_i name hline
    split at h
    · rename_i mode hmode
      cases h
      exact Or.inr (Or.inl ⟨name, mode, hline, hmode, rfl⟩)
    · cases h
  · rename_i directive _ hflagMode hline
    refine Or.inr (Or.inr ⟨directive, hline, hflagMode, ?_⟩)
    split at h
    · rename_i happly
      cases h
      exact Or.inl happly
    · rename_i problem happly
      cases h
      exact Or.inr ⟨problem, happly, rfl⟩

end Loading
end Orthography
