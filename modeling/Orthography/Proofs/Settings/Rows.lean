import Orthography.Proofs.Settings.Lines
import Orthography.Proofs.Settings.TableLines

/-!
# Rows of tables

While an affix text is read its tables and its problems only grow, so each line can be asked what it
adds to them.  A line that is about a table adds one row or one problem, unless it gives a
replacement whose pattern is made of anchors: that is left out without a word.
-/

namespace Orthography

open Directive

abbrev Table.Row : Table → Type
  | inputs | outputs | replacements => Replacement
  | patterns => CompoundPattern
  | rules => CompoundRule
  | related | breaks => Text

def Settings.rows (settings : Settings) : (table : Table) → List table.Row
  | .inputs => settings.inputs
  | .outputs => settings.outputs
  | .replacements => settings.replacements
  | .patterns => settings.patterns
  | .rules => settings.rules
  | .related => settings.related
  | .breaks => settings.breaks

/-! ## The steps of reading -/

/-- A line with the settings before and after it is read. -/
structure Step where
  line : Text
  before : Settings
  after : Settings

namespace Step

variable {α : Type} (step : Step) (table : Table)

/-- What a step appends to a list that only grows. -/
def new (list : Settings → List α) : List α :=
  (list step.after).drop (list step.before).length

def newRows : List table.Row := step.new (·.rows table)

def newProblems : List Problem := step.new (·.problems)

/-- Whether a step appends just these rows and problems. -/
structure Adds (rows : List table.Row) (problems : List Problem) : Prop where
  rows : step.after.rows table = step.before.rows table ++ rows
  problems : step.after.problems = step.before.problems ++ problems

def AddsOne : Prop :=
  (∃ row, step.Adds table [row] []) ∨ ∃ problem, step.Adds table [] [problem]

variable {step table} {rows : List table.Row} {problems : List Problem}

theorem Adds.newRows_eq (h : step.Adds table rows problems) : step.newRows table = rows := by
  rw [newRows, new, h.rows, List.drop_left]

theorem Adds.newProblems_eq (h : step.Adds table rows problems) : step.newProblems = problems := by
  rw [newProblems, new, h.problems, List.drop_left]

theorem Adds.addsOne_iff (h : step.Adds table rows problems) :
    step.AddsOne table ↔ rows.length + problems.length = 1 := by
  constructor
  · intro hone
    rcases hone with ⟨row, hrow⟩ | ⟨problem, hproblem⟩
    · rw [← h.newRows_eq, ← h.newProblems_eq, hrow.newRows_eq, hrow.newProblems_eq]
      rfl
    · rw [← h.newRows_eq, ← h.newProblems_eq, hproblem.newRows_eq, hproblem.newProblems_eq]
      rfl
  · intro hlength
    cases rows with
    | nil =>
        rw [List.length_nil, Nat.zero_add] at hlength
        obtain ⟨problem, rfl⟩ := List.length_eq_one_iff.1 hlength
        exact Or.inr ⟨problem, h⟩
    | cons row more =>
        rw [List.length_cons] at hlength
        obtain rfl := List.length_eq_zero_iff.1 (by omega : more.length = 0)
        obtain rfl := List.length_eq_zero_iff.1 (by omega : problems.length = 0)
        exact Or.inl ⟨row, h⟩

end Step

namespace Loading

/-- The steps by which some lines are read, up to a line that makes the text unusable. -/
def steps (l : Loading) (number : Nat) : List Text → List Step
  | [] => []
  | line :: lines =>
      match l.readLine number line with
      | .error _ => []
      | .ok next => ⟨line, l.settings, next.settings⟩ :: next.steps (number + 1) lines

variable {α : Type} {l final : Loading} {number : Nat} {lines : List Text}

/-- The steps of a run make up its result. -/
theorem list_of_readLines (list : Settings → List α)
    (hgrows : ∀ (l next : Loading) (number : Nat) (line : Text),
      l.readLine number line = .ok next → list l.settings <+: list next.settings)
    (h : l.readLines number lines = .ok final) :
    list final.settings =
      list l.settings ++ (l.steps number lines).flatMap fun step ↦ step.new list := by
  induction lines generalizing l number with
  | nil =>
      cases h
      exact (List.append_nil _).symm
  | cons line lines ih =>
      rw [readLines_cons] at h
      obtain ⟨next, hnext, hrest⟩ := exists_of_bind_eq_ok h
      have hfirst : list l.settings ++ (list next.settings).drop (list l.settings).length =
          list next.settings := List.prefix_iff_eq_append.1 (hgrows l next number line hnext)
      rw [ih hrest, steps, hnext, List.flatMap_cons, Step.new, ← List.append_assoc, hfirst]

/-- Each line of a run has a step of its own. -/
theorem map_line_steps (h : l.readLines number lines = .ok final) :
    (l.steps number lines).map (·.line) = lines := by
  induction lines generalizing l number with
  | nil => rfl
  | cons line lines ih =>
      rw [readLines_cons] at h
      obtain ⟨next, hnext, hrest⟩ := exists_of_bind_eq_ok h
      rw [steps, hnext, List.map_cons, ih hrest]

theorem exists_readLine_of_mem_steps {step : Step} (h : step ∈ l.steps number lines) :
    ∃ (l next : Loading) (number : Nat), l.readLine number step.line = .ok next ∧
      step = ⟨step.line, l.settings, next.settings⟩ := by
  induction lines generalizing l number with
  | nil => cases h
  | cons line lines ih =>
      rw [steps] at h
      split at h
      · cases h
      · rename_i next hnext
        rcases List.mem_cons.1 h with rfl | hmem
        · exact ⟨l, next, number, hnext, rfl⟩
        · exact ih hmem

end Loading

/-! ## What a line adds -/

namespace Loading

variable {table : Table} {settings after : Settings} {l next : Loading} {number : Nat}
  {line value : Text} {directive : Directive}

theorem rows_of_set_of_ne (h : set settings directive = .ok after)
    (htable : directive.table? ≠ some table) : after.rows table = settings.rows table := by
  apply eq_of_set h
  intro settings
  unfold Directive.without
  split <;> cases table <;> first
    | rfl
    | exact absurd rfl htable

theorem rows_of_set (h : set settings directive = .ok after)
    (htable : directive.table? = some table) :
    ∃ rows, after.rows table = settings.rows table ++ rows ∧
      rows.length = if directive.hasOnlyAnchors then 0 else 1 := by
  cases directive with
  | inputConversion pattern result =>
      cases htable
      cases h
      exact ⟨_, rfl, Replacement.length_toList_ofPattern? pattern result⟩
  | outputConversion pattern result =>
      cases htable
      cases h
      exact ⟨_, rfl, Replacement.length_toList_ofPattern? pattern result⟩
  | correction pattern result =>
      cases htable
      cases h
      refine ⟨_, rfl, ?_⟩
      rw [Replacement.length_toList_ofPattern?, Replacement.hasOnlyAnchors_replaceChar]
      rfl
  | compoundPattern fields =>
      cases htable
      obtain ⟨pattern, -, h⟩ := exists_of_bind_eq_ok h
      cases h
      exact ⟨[pattern], rfl, rfl⟩
  | compoundRule rule =>
      cases htable
      obtain ⟨rule, -, h⟩ := exists_of_bind_eq_ok h
      cases h
      exact ⟨[rule], rfl, rfl⟩
  | related group =>
      cases htable
      cases h
      exact ⟨[group], rfl, rfl⟩
  | wordBreak text =>
      cases htable
      cases h
      exact ⟨[text], rfl, rfl⟩
  | _ => cases htable

theorem hasOnlyAnchors_of_set {problem : Problem} (h : set settings directive = .error problem) :
    directive.hasOnlyAnchors = false := by
  cases directive with
  | inputConversion pattern result => cases h
  | outputConversion pattern result => cases h
  | correction pattern result => cases h
  | _ => rfl

theorem rows_of_apply_of_ne (h : l.apply directive = .ok next)
    (htable : directive.table? ≠ some table) :
    next.settings.rows table = l.settings.rows table := by
  rcases apply_cases h with ⟨settings, hset, rfl⟩ | ⟨kind, name, fields, -, haffix⟩ |
    ⟨text, -, -, rfl⟩ | ⟨text, -, -, rfl⟩
  · exact rows_of_set_of_ne hset htable
  · obtain ⟨prefixes, suffixes, rfl | ⟨flag, rfl⟩⟩ := exists_of_affixLine haffix
    · rfl
    · cases table <;> rfl
  · rfl
  · rfl

theorem adds_report (problem : Problem) :
    Step.Adds ⟨line, l.settings, (l.report problem).settings⟩ table [] [problem] where
  rows := by cases table <;> exact (List.append_nil _).symm
  problems := rfl

/-- A line that is not about a table adds no row to it. -/
theorem exists_adds_of_ne (h : l.readLine number line = .ok next)
    (hline : ∀ directive, ofLine line = .ok directive → directive.table? ≠ some table) :
    ∃ problems, Step.Adds ⟨line, l.settings, next.settings⟩ table [] problems := by
  rcases readLine_cases h with ⟨fault, -, rfl⟩ | ⟨name, mode, -, -, rfl⟩ |
    ⟨directive, hdirective, -, happly | ⟨problem, -, rfl⟩⟩
  · exact ⟨_, adds_report _⟩
  · refine ⟨[], ?_, (List.append_nil _).symm⟩
    cases table <;> exact (List.append_nil _).symm
  · have hrows := rows_of_apply_of_ne happly (hline directive hdirective)
    rcases problems_of_apply happly with hproblems | ⟨flag, hproblems⟩
    · exact ⟨[], hrows.trans (List.append_nil _).symm, hproblems.trans (List.append_nil _).symm⟩
    · exact ⟨_, hrows.trans (List.append_nil _).symm, hproblems⟩
  · exact ⟨_, adds_report _⟩

/-- A line that is about a table adds one row or one problem, unless it is about anchors alone. -/
theorem exists_adds_of_table? (h : l.readLine number line = .ok next)
    (hline : ofLine line = .ok directive) (htable : directive.table? = some table) :
    ∃ rows problems, Step.Adds ⟨line, l.settings, next.settings⟩ table rows problems ∧
      rows.length + problems.length = if directive.hasOnlyAnchors then 0 else 1 := by
  have happly : l.apply directive =
      (set l.settings directive).map fun settings ↦ { l with settings } := by
    cases directive <;> cases htable <;> rfl
  rcases readLine_cases h with ⟨fault, hother, -⟩ | ⟨name, mode, hother, -, -⟩ |
    ⟨other, hother, -, hnext⟩
  · rw [hline] at hother
    cases hother
  · rw [hline] at hother
    cases hother
    cases htable
  · rw [hline] at hother
    cases hother
    rw [happly] at hnext
    rcases hnext with hset | ⟨problem, hset, rfl⟩
    · obtain ⟨after, hafter, rfl⟩ := exists_of_map_eq_ok hset
      obtain ⟨rows, hrows, hlength⟩ := rows_of_set hafter htable
      refine ⟨rows, [], ⟨hrows, ?_⟩, hlength⟩
      exact (problems_of_set hafter).trans (List.append_nil _).symm
    · refine ⟨[], _, adds_report _, ?_⟩
      cases hafter : set l.settings directive with
      | error fault =>
          rw [hasOnlyAnchors_of_set hafter]
          rfl
      | ok after =>
          rw [hafter] at hset
          cases hset

theorem exists_adds (h : l.readLine number line = .ok next) (table : Table) :
    ∃ rows problems, Step.Adds ⟨line, l.settings, next.settings⟩ table rows problems := by
  by_cases hline : ∃ directive, ofLine line = .ok directive ∧ directive.table? = some table
  · obtain ⟨directive, hdirective, htable⟩ := hline
    obtain ⟨rows, problems, hadds, -⟩ := exists_adds_of_table? h hdirective htable
    exact ⟨rows, problems, hadds⟩
  · obtain ⟨problems, hadds⟩ := exists_adds_of_ne h fun directive hdirective htable ↦
      hline ⟨directive, hdirective, htable⟩
    exact ⟨[], problems, hadds⟩

end Loading

end Orthography
