import Orthography.Proofs.Settings.Rows

/-!
# Counted tables

The first line of a table is its count, and each line behind it should add a row to the table, or
else a problem.  A row that reads like a count is lost, and so is a replacement whose pattern is
made of anchors; where neither occurs nothing is lost, as `keepsRows_iff` says.
-/

namespace Orthography

open Directive

/-! ## Lines that are lost -/

namespace Table

def isCountLine (table : Table) (line : Text) : Bool := (table.value? line).any isCount

def isNumberLine (table : Table) (line : Text) : Bool := (table.value? line).any isLoneNumber

end Table

/-- Whether a line gives a replacement whose pattern is made of anchors alone. -/
def Directive.isAnchorLine (line : Text) : Bool :=
  match ofLine line with
  | .ok directive => directive.hasOnlyAnchors
  | .error _ => false

theorem Directive.isAnchorLine_of_isNumberLine {table : Table} {line : Text}
    (h : table.isNumberLine line) : isAnchorLine line = false := by
  obtain ⟨value, hvalue, hnumber⟩ := (Option.any_eq_true _ _).1 h
  unfold isAnchorLine
  split
  · rename_i directive hline
    rcases ofLine_of_value? hvalue hline with ⟨rfl, -⟩ | ⟨-, hanchors⟩
    · rfl
    · rw [← Bool.not_eq_true]
      intro honly
      have htoken := hasOnlyAnchors_token_of_isLoneNumber hnumber (token_ne_nil_of_value? hvalue)
      rw [hanchors honly] at htoken
      cases htoken
  · rfl

/-- Whether a line of a table leaves nothing behind. -/
def Table.loses (table : Table) (line : Text) : Bool := table.isCountLine line || isAnchorLine line

namespace Loading

variable {table : Table} {l next : Loading} {number : Nat} {line value : Text}

theorem exists_adds_of_value? (h : l.readLine number line = .ok next)
    (hvalue : table.value? line = some value) :
    ∃ rows problems, Step.Adds ⟨line, l.settings, next.settings⟩ table rows problems ∧
      rows.length + problems.length = if table.loses line then 0 else 1 := by
  have hcountLine : table.isCountLine line = isCount value := by
    rw [Table.isCountLine, hvalue]
    rfl
  have hcount (hnothing : ofLine line ≠ .ok nothing) : isCount value = false := by
    rw [← Bool.not_eq_true]
    exact fun hcount ↦ hnothing (ofLine_of_isCount hvalue hcount)
  rw [Table.loses, hcountLine]
  cases hline : ofLine line with
  | error fault =>
      rw [readLine, hline] at h
      cases h
      rw [hcount (by simp [hline]), isAnchorLine, hline]
      exact ⟨[], _, adds_report _, rfl⟩
  | ok directive =>
      rcases ofLine_of_value? hvalue hline with ⟨rfl, hcount⟩ | ⟨htable, -⟩
      · rw [readLine, hline] at h
        cases h
        rw [hcount]
        exact ⟨[], [], ⟨(List.append_nil _).symm, (List.append_nil _).symm⟩, rfl⟩
      · have hnothing : ofLine line ≠ .ok nothing := by
          rw [hline]
          intro heq
          cases heq
          cases htable
        rw [hcount hnothing, isAnchorLine, hline]
        exact exists_adds_of_table? h hline htable

end Loading

/-! ## Tables that are read -/

theorem flatMap_filter_of_eq_nil {α β : Type} {p : α → Bool} {f : α → List β} {as : List α}
    (h : ∀ a ∈ as, p a = false → f a = []) : (as.filter p).flatMap f = as.flatMap f := by
  induction as with
  | nil => rfl
  | cons a as ih =>
      rw [List.forall_mem_cons] at h
      rw [List.filter_cons, List.flatMap_cons]
      split
      · rw [List.flatMap_cons, ih h.2]
      · rename_i hnot
        rw [ih h.2, h.1 (by simpa using hnot), List.nil_append]

namespace Settings

variable {settings : Settings} {text : Text} {table : Table} {step count : Step}
  {later : List Step}

/-- The steps by which an affix text is read. -/
def steps (text : Text) : List Step := Loading.steps {} 1 (linesOf text)

/-- The steps that read a value for a table. -/
def tableSteps (table : Table) (text : Text) : List Step :=
  (steps text).filter fun step ↦ (table.value? step.line).isSome

/-- Behind the count each line of a table adds one row or one problem, and the rows come in the
order of their lines. -/
structure KeepsRows (settings : Settings) (table : Table) (count : Step) (later : List Step) :
    Prop where
  each : ∀ step ∈ later, step.AddsOne table
  number : (settings.rows table).length + ((count :: later).flatMap Step.newProblems).length =
    later.length
  order : settings.rows table = later.flatMap fun step ↦ step.newRows table

theorem map_line_tableSteps (h : parse text = .ok settings) (table : Table) :
    (tableSteps table text).map (·.line) =
      (linesOf text).filter fun line ↦ (table.value? line).isSome := by
  obtain ⟨final, hfinal, -⟩ := exists_of_map_eq_ok h
  have hlines : (steps text).map (·.line) = linesOf text := Loading.map_line_steps hfinal
  rw [← hlines, List.filter_map, tableSteps]
  rfl

theorem problems_of_parse (h : parse text = .ok settings) :
    settings.problems = (steps text).flatMap Step.newProblems := by
  obtain ⟨final, hfinal, rfl⟩ := exists_of_map_eq_ok h
  refine Loading.list_of_readLines (·.problems) ?_ hfinal
  intro l next number line hnext
  obtain ⟨rows, problems, hadds⟩ := Loading.exists_adds hnext .breaks
  exact ⟨problems, hadds.problems.symm⟩

theorem newRows_eq_nil (hstep : step ∈ steps text) (hvalue : table.value? step.line = none) :
    step.newRows table = [] := by
  obtain ⟨l, next, number, hnext, heq⟩ := Loading.exists_readLine_of_mem_steps hstep
  have hline (directive : Directive) (hdirective : ofLine step.line = .ok directive) :
      directive.table? ≠ some table := by
    intro htable
    have hsome := isSome_value?_of_ofLine hdirective htable
    rw [hvalue] at hsome
    cases hsome
  obtain ⟨problems, hadds⟩ := Loading.exists_adds_of_ne hnext hline
  rw [← heq] at hadds
  exact hadds.newRows_eq

/-- The rows of a table are those that its own lines add, in their order. -/
theorem rows_of_parse (h : parse text = .ok settings) (table : Table) :
    settings.rows table = (tableSteps table text).flatMap fun step ↦ step.newRows table := by
  obtain ⟨final, hfinal, rfl⟩ := exists_of_map_eq_ok h
  have hgrows (l next : Loading) (number : Nat) (line : Text)
      (hnext : l.readLine number line = .ok next) :
      l.settings.rows table <+: next.settings.rows table := by
    obtain ⟨rows, problems, hadds⟩ := Loading.exists_adds hnext table
    exact ⟨rows, hadds.rows.symm⟩
  have hempty : (({} : Loading).settings.rows table) = [] := by
    cases table <;> rfl
  have hfinish : final.finish.rows table = final.settings.rows table := by
    cases table <;> rfl
  have hall := Loading.list_of_readLines (·.rows table) hgrows hfinal
  rw [hempty, List.nil_append] at hall
  rw [hfinish, hall, tableSteps]
  symm
  apply flatMap_filter_of_eq_nil
  intro step hstep hvalue
  exact newRows_eq_nil hstep (by simpa using hvalue)

theorem exists_adds_of_mem_tableSteps (h : step ∈ tableSteps table text) :
    ∃ rows problems, step.Adds table rows problems ∧
      rows.length + problems.length = if table.loses step.line then 0 else 1 := by
  obtain ⟨hmem, hvalue⟩ := List.mem_filter.1 h
  obtain ⟨value, hvalue⟩ := Option.isSome_iff_exists.1 hvalue
  obtain ⟨l, next, number, hnext, heq⟩ := Loading.exists_readLine_of_mem_steps hmem
  rw [heq]
  exact Loading.exists_adds_of_value? hnext hvalue

theorem addsOne_iff (h : step ∈ tableSteps table text) :
    step.AddsOne table ↔ table.loses step.line = false := by
  obtain ⟨rows, problems, hadds, hlength⟩ := exists_adds_of_mem_tableSteps h
  rw [hadds.addsOne_iff, hlength]
  cases table.loses step.line <;> simp

/-- Each line of a table that is not lost counts once, be it as a row or as a problem. -/
theorem length_newRows_add_length_newProblems {some : List Step}
    (h : ∀ step ∈ some, step ∈ tableSteps table text) :
    (some.flatMap fun step ↦ step.newRows table).length +
        (some.flatMap Step.newProblems).length =
      some.countP fun step ↦ !table.loses step.line := by
  induction some with
  | nil => rfl
  | cons step more ih =>
      rw [List.forall_mem_cons] at h
      obtain ⟨rows, problems, hadds, hlength⟩ := exists_adds_of_mem_tableSteps h.1
      have hmore := ih h.2
      rw [List.flatMap_cons, List.flatMap_cons, hadds.newRows_eq, hadds.newProblems_eq,
        List.length_append, List.length_append, List.countP_cons]
      cases hloses : table.loses step.line with
      | false =>
          simp only [hloses, Bool.false_eq_true, if_false] at hlength
          simp only [Bool.not_false, if_true]
          omega
      | true =>
          simp only [hloses, if_true] at hlength
          simp only [Bool.not_true, Bool.false_eq_true, if_false]
          omega

theorem countP_loses_eq_length (h : ∀ step ∈ later, table.loses step.line = false) :
    (later.countP fun step ↦ !table.loses step.line) = later.length := by
  rw [List.countP_eq_length]
  intro step hstep
  rw [h step hstep]
  rfl

/-- Nothing of a table is lost just if its count is below the bound of a count and no line behind
it is again a count, or a replacement of anchors alone.  The problems in the end are those that the
single lines leave behind, in their order. -/
theorem keepsRows_iff (hparse : parse text = .ok settings)
    (htable : tableSteps table text = count :: later) (hnumber : table.isNumberLine count.line) :
    (settings.KeepsRows table count later ↔
      table.isCountLine count.line ∧
        ∀ step ∈ later, table.isCountLine step.line = false ∧ isAnchorLine step.line = false) ∧
    settings.problems = (steps text).flatMap Step.newProblems := by
  refine ⟨?_, problems_of_parse hparse⟩
  have hcount : table.loses count.line = table.isCountLine count.line := by
    rw [Table.loses, isAnchorLine_of_isNumberLine hnumber, Bool.or_false]
  have hlater : (∀ step ∈ later, table.loses step.line = false) ↔
      ∀ step ∈ later, table.isCountLine step.line = false ∧ isAnchorLine step.line = false := by
    simp only [Table.loses, Bool.or_eq_false_iff]
  have hmem : ∀ step ∈ count :: later, step ∈ tableSteps table text := by
    rw [htable]
    exact fun _ hstep ↦ hstep
  have hrows := rows_of_parse hparse table
  rw [htable] at hrows
  have hsum := length_newRows_add_length_newProblems hmem
  rw [← hrows, List.countP_cons] at hsum
  rw [← hlater, ← hcount]
  constructor
  · intro h
    have hkept : ∀ step ∈ later, table.loses step.line = false := fun step hstep ↦
      (addsOne_iff (hmem step (List.mem_cons_of_mem _ hstep))).1 (h.each step hstep)
    rw [h.number, countP_loses_eq_length hkept] at hsum
    refine ⟨?_, hkept⟩
    by_contra hnot
    rw [Bool.not_eq_true] at hnot
    rw [hnot] at hsum
    simp at hsum
  · intro h
    obtain ⟨hlost, hkept⟩ := h
    obtain ⟨rows, problems, hadds, hlength⟩ :=
      exists_adds_of_mem_tableSteps (hmem count List.mem_cons_self)
    rw [hlost, if_pos rfl] at hlength
    refine ⟨fun step hstep ↦ ?_, ?_, ?_⟩
    · exact (addsOne_iff (hmem step (List.mem_cons_of_mem _ hstep))).2 (hkept step hstep)
    · rw [hsum, countP_loses_eq_length hkept, hlost]
      rfl
    · have hnone : rows = [] := List.length_eq_zero_iff.1 (by omega)
      rw [hrows, List.flatMap_cons, hadds.newRows_eq, hnone, List.nil_append]

/-- One line of the table cannot be read, and another table is counted in between. -/
theorem keepsRows_around_malformed :
    let text := "REP 3\nREP f ph\nMAP 1\nREP alot\nREP ^alot$ a_lot # two words\n".toList
    ∃ settings count later, parse text = .ok settings ∧
      tableSteps .replacements text = count :: later ∧
        Table.replacements.isNumberLine count.line ∧ later.length = 3 ∧
          settings.KeepsRows .replacements count later := by
  intro text
  have hvalues : ((linesOf text).filter fun line ↦ (Table.replacements.value? line).isSome) =
      ["REP 3".toList, "REP f ph".toList, "REP alot".toList,
        "REP ^alot$ a_lot # two words".toList] := by decide +kernel
  have hsettings : (parse text).map (·.replacements.length) = .ok 2 := by decide +kernel
  obtain ⟨settings, hparse, -⟩ := exists_of_map_eq_ok hsettings
  have hlines := (map_line_tableSteps hparse .replacements).trans hvalues
  obtain ⟨count, later, htable, hcount, hlater⟩ := List.map_eq_cons_iff.1 hlines
  have hnumber : Table.replacements.isNumberLine count.line := by
    rw [hcount]
    decide +kernel
  refine ⟨settings, count, later, hparse, htable, hnumber, ?_, ?_⟩
  · rw [← List.length_map, hlater]
    rfl
  apply (keepsRows_iff hparse htable hnumber).1.2
  constructor
  · rw [hcount]
    decide +kernel
  · have hkept : ∀ line ∈ later.map (·.line),
        Table.replacements.isCountLine line = false ∧ isAnchorLine line = false := by
      rw [hlater]
      decide +kernel
    exact List.forall_mem_map.1 hkept

/-- A rule of two flags that are written as digits is taken for another count. -/
theorem not_keepsRows_rule_of_digits :
    let text := "COMPOUNDRULE 1\nCOMPOUNDRULE 12\n".toList
    ∃ settings count later, parse text = .ok settings ∧
      tableSteps .rules text = count :: later ∧ Table.rules.isNumberLine count.line ∧
        settings.rules = [] ∧ settings.problems = [] ∧
          ¬ settings.KeepsRows .rules count later := by
  intro text
  have hvalues : ((linesOf text).filter fun line ↦ (Table.rules.value? line).isSome) =
      ["COMPOUNDRULE 1".toList, "COMPOUNDRULE 12".toList] := by decide +kernel
  have hsettings : (parse text).map (fun settings ↦ (settings.rules, settings.problems)) =
      .ok ([], []) := by decide +kernel
  obtain ⟨settings, hparse, hempty⟩ := exists_of_map_eq_ok hsettings
  obtain ⟨hrules, hproblems⟩ := Prod.mk.inj hempty
  have hlines := (map_line_tableSteps hparse .rules).trans hvalues
  obtain ⟨count, later, htable, hcount, hlater⟩ := List.map_eq_cons_iff.1 hlines
  refine ⟨settings, count, later, hparse, htable, ?_, hrules, hproblems, ?_⟩
  · rw [hcount]
    decide +kernel
  intro hkeeps
  obtain ⟨step, more, rfl, hstep, -⟩ := List.map_eq_cons_iff.1 hlater
  have hmem : step ∈ tableSteps .rules text := by
    rw [htable]
    exact List.mem_cons_of_mem _ List.mem_cons_self
  have hkept := (addsOne_iff hmem).1 (hkeeps.each step List.mem_cons_self)
  rw [hstep] at hkept
  exact absurd hkept (by decide +kernel)

end Settings

end Orthography
