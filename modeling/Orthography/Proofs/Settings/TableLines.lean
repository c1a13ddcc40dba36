import Mathlib.Data.List.TakeDrop
import Orthography.Settings.Basic
import Orthography.Proofs.Settings.Keyword

/-!
# Lines of tables

Seven keywords begin the lines of tables.  Such a line is read without memory of the lines before
it: where its value is a number that fits, it is taken for a count and says nothing.
-/

namespace Orthography

inductive Table where
  | inputs
  | outputs
  | replacements
  | patterns
  | rules
  | related
  | breaks
  deriving DecidableEq

namespace Table

def keyword : Table → Text
  | inputs => "ICONV".toList
  | outputs => "OCONV".toList
  | replacements => "REP".toList
  | patterns => "CHECKCOMPOUNDPATTERN".toList
  | rules => "COMPOUNDRULE".toList
  | related => "MAP".toList
  | breaks => "BREAK".toList

/-- The value behind the keyword of a table, if there is one. -/
def value? (table : Table) (line : Text) : Option Text :=
  (Directive.afterKeyword? table.keyword line).filter fun value ↦ !(Text.token value).1.isEmpty

end Table

/-- Whether a pattern is made of anchors alone. -/
def Replacement.hasOnlyAnchors (pattern : Text) : Bool :=
  pattern ∈ [[], ['^'], ['$'], ['^', '$']]

theorem Replacement.ofPattern?_eq_none_iff {pattern result : Text} :
    ofPattern? pattern result = none ↔ hasOnlyAnchors pattern := by
  have hlist : hasOnlyAnchors pattern ↔
      pattern = [] ∨ pattern = ['^'] ∨ pattern = ['$'] ∨ pattern = ['^', '$'] := by
    simp [hasOnlyAnchors]
  rw [hlist, ofPattern?]
  cases hstart : Text.after? ['^'] pattern with
  | none =>
      have hnot (text : Text) : pattern ≠ '^' :: text := by
        intro heq
        rw [heq] at hstart
        cases hstart
      cases hend : Text.before? ['$'] pattern with
      | none =>
          have hnotEnd : pattern ≠ ['$'] := by
            intro heq
            rw [heq] at hend
            cases hend
          simp [hend, hnot, hnotEnd]
      | some text =>
          obtain rfl := Text.before?_eq_some_iff.1 hend
          simp [hend, hnot]
  | some rest =>
      obtain rfl := Text.after?_eq_some_iff.1 hstart
      cases hend : Text.before? ['$'] rest with
      | none =>
          have hnotEnd : rest ≠ ['$'] := by
            intro heq
            rw [heq] at hend
            cases hend
          simp [hend, hnotEnd]
      | some text =>
          obtain rfl := Text.before?_eq_some_iff.1 hend
          simp [hend]

theorem Replacement.length_toList_ofPattern? (pattern result : Text) :
    (ofPattern? pattern result).toList.length = if hasOnlyAnchors pattern then 0 else 1 := by
  cases h : ofPattern? pattern result with
  | none => rw [if_pos (ofPattern?_eq_none_iff.1 h), Option.toList_none, List.length_nil]
  | some replacement =>
      have hnot : ¬ hasOnlyAnchors pattern := by
        intro hanchors
        rw [ofPattern?_eq_none_iff.2 hanchors] at h
        cases h
      rw [if_neg hnot, Option.toList_some, List.length_singleton]

/-- No anchor is written as an underscore. -/
theorem Replacement.hasOnlyAnchors_replaceChar (pattern : Text) :
    hasOnlyAnchors (Text.replaceChar '_' ' ' pattern) = hasOnlyAnchors pattern := by
  have hstart (c : Char) : (if c = '_' then ' ' else c) = '^' ↔ c = '^' := by
    split <;> simp_all
  have hend (c : Char) : (if c = '_' then ' ' else c) = '$' ↔ c = '$' := by
    split <;> simp_all
  rcases pattern with - | ⟨c, - | ⟨d, - | ⟨e, text⟩⟩⟩ <;>
    simp [hasOnlyAnchors, Text.replaceChar, hstart, hend]

namespace Directive

open Text

/-- The table that a directive adds to. -/
def table? : Directive → Option Table
  | inputConversion .. => some .inputs
  | outputConversion .. => some .outputs
  | correction .. => some .replacements
  | compoundPattern _ => some .patterns
  | compoundRule _ => some .rules
  | related _ => some .related
  | wordBreak _ => some .breaks
  | _ => none

/-- Whether a directive is about a replacement whose pattern is made of anchors alone. -/
def hasOnlyAnchors : Directive → Bool
  | inputConversion pattern _ | outputConversion pattern _ | correction pattern _ =>
      Replacement.hasOnlyAnchors pattern
  | _ => false

def isLoneNumber (value : Text) : Bool :=
  !(value.takeWhile Char.isDigit).isEmpty && isEnd (value.dropWhile Char.isDigit)

/-- Whether a lone number is below the bound of a count. -/
def isCount (value : Text) : Bool :=
  isLoneNumber value && digitsValue (value.takeWhile Char.isDigit) < UInt32.size

variable {table : Table} {line value rest : Text} {directive : Directive}

/-! ## Counts -/

theorem isBlank_of_isGap {c : Char} (h : isGap c) : isBlank c := by
  rw [isGap, Bool.or_eq_true, beq_iff_eq, beq_iff_eq] at h
  rcases h with rfl | rfl <;> decide

theorem endsSoon_of_isEnd (h : isEnd rest) : endsSoon rest := by
  induction rest with
  | nil => rfl
  | cons c rest ih =>
      by_cases hgap : isGap c
      · rw [isEnd, List.dropWhile_cons_of_pos hgap] at h
        rw [endsSoon, trimStart, List.dropWhile_cons_of_pos (isBlank_of_isGap hgap)]
        exact ih h
      · simp only [isEnd, List.dropWhile_cons_of_neg hgap, isComment, List.isEmpty_cons,
          Bool.false_or, Bool.and_eq_true, beq_iff_eq] at h
        rw [h.1]
        rfl

theorem isSome_numberBelow?_iff {bound : Nat} (h : value.all Char.isDigit) :
    (numberBelow? bound value).isSome ↔ value ≠ [] ∧ digitsValue value < bound := by
  have hplus : value.head? ≠ some '+' := by
    intro hhead
    exact absurd (List.all_eq_true.1 h _ (List.mem_of_head? hhead)) (by decide)
  unfold numberBelow?
  split
  · exact absurd rfl hplus
  · simp only [decimal?, h, Bool.and_true]
    split
    · rename_i hvalue
      have hne : value ≠ [] := by simpa using hvalue
      simp [hne]
    · rename_i hvalue
      simp at hvalue
      simp [hvalue]

theorem isCount_iff :
    isCount value ↔ (numberBelow? UInt32.size (value.takeWhile Char.isDigit)).isSome ∧
      isEnd (value.dropWhile Char.isDigit) := by
  rw [isSome_numberBelow?_iff List.all_takeWhile, isCount, isLoneNumber]
  simp only [Bool.and_eq_true, Bool.not_eq_true', List.isEmpty_eq_false_iff, decide_eq_true_eq]
  exact and_right_comm

theorem row_eq (read : Text → Reading Directive) (value : Text) :
    row read value =
      if (numberBelow? UInt32.size (value.takeWhile Char.isDigit)).isSome &&
          endsSoon (value.dropWhile Char.isDigit) then
        .ok (nothing, value.dropWhile Char.isDigit)
      else read value := by
  rw [row, number]
  cases numberBelow? UInt32.size (value.takeWhile Char.isDigit) <;> rfl

theorem row_of_isCount (h : isCount value) (read : Text → Reading Directive) :
    row read value = .ok (nothing, value.dropWhile Char.isDigit) := by
  obtain ⟨hnumber, hend⟩ := isCount_iff.1 h
  rw [row_eq, if_pos (Bool.and_eq_true_iff.2 ⟨hnumber, endsSoon_of_isEnd hend⟩)]

/-- A line that says nothing is a count; any other is read as a row. -/
theorem row_cases {read : Text → Reading Directive} (h : row read value = .ok (directive, rest))
    (hend : isEnd rest) :
    directive = nothing ∧ isCount value ∨ read value = .ok (directive, rest) := by
  rw [row_eq] at h
  split at h
  · rename_i hcount
    cases h
    exact Or.inl ⟨rfl, isCount_iff.2 ⟨(Bool.and_eq_true_iff.1 hcount).1, hend⟩⟩
  · exact Or.inr h

/-! ## Rows -/

/-- What the reader of the rows of a table gives. -/
def ReadsRows (table : Table) (read : Text → Reading Directive) : Prop :=
  ∀ value directive rest, read value = .ok (directive, rest) →
    directive.table? = some table ∧ (token value).1 ≠ [] ∧
      (directive.hasOnlyAnchors → Replacement.hasOnlyAnchors (token value).1)

theorem value_eq_ok_iff {first : Text} :
    Directive.value value = .ok (first, rest) ↔ token value = (first, rest) ∧ first ≠ [] := by
  unfold Directive.value
  dsimp only
  split
  · rename_i hempty
    apply iff_of_false
    · intro h
      cases h
    · rintro ⟨htoken, hne⟩
      rw [htoken] at hempty
      exact hne (List.isEmpty_iff.1 hempty)
  · rename_i hne
    rw [Except.ok.injEq]
    refine ⟨fun htoken ↦ ⟨htoken, ?_⟩, And.left⟩
    rintro rfl
    rw [(Prod.mk.inj htoken).1] at hne
    exact hne rfl

theorem token_ne_nil_of_value {first : Text} (h : Directive.value value = .ok (first, rest)) :
    (token value).1 ≠ [] := by
  obtain ⟨htoken, hne⟩ := value_eq_ok_iff.1 h
  rwa [htoken]

theorem readsRows_reading {α : Type} {make : α → Directive} {read : Text → Reading α}
    (hmake : ∀ a, (make a).table? = some table)
    (hread : ∀ value a rest, read value = .ok (a, rest) → (token value).1 ≠ [] ∧
      ((make a).hasOnlyAnchors → Replacement.hasOnlyAnchors (token value).1)) :
    ReadsRows table (reading make read) := by
  intro value directive rest h
  obtain ⟨a, rest', hvalue, hmade⟩ := Reading.exists_of_bind_eq_ok h
  cases hmade
  exact ⟨hmake a, hread value a rest hvalue⟩

theorem token_ne_nil_of_someFields {fields : List Text}
    (h : someFields value = .ok (fields, rest)) : (token value).1 ≠ [] := by
  obtain ⟨first, behind, hfirst, -⟩ := Reading.exists_of_bind_eq_ok h
  exact token_ne_nil_of_value hfirst

theorem readsRows_plain {α : Type} {make : α → Directive} {read : Text → Reading α}
    (hmake : ∀ a, (make a).table? = some table) (hanchors : ∀ a, (make a).hasOnlyAnchors = false)
    (htoken : ∀ {value a rest}, read value = .ok (a, rest) → (token value).1 ≠ []) :
    ReadsRows table (reading make read) := by
  apply readsRows_reading hmake
  intro value a rest h
  refine ⟨htoken h, ?_⟩
  rw [hanchors]
  exact fun honly ↦ absurd honly Bool.false_ne_true

theorem readsRows_valuePair {make : Text × Text → Directive}
    (hmake : ∀ pair, (make pair).table? = some table)
    (hanchors : ∀ pair, (make pair).hasOnlyAnchors = Replacement.hasOnlyAnchors pair.1) :
    ReadsRows table (reading make valuePair) := by
  apply readsRows_reading hmake
  intro value pair rest h
  obtain ⟨first, behind, hfirst, hpair⟩ := Reading.exists_of_bind_eq_ok h
  split at hpair
  · cases hpair
  · obtain ⟨second, more, -, hsecond⟩ := Reading.exists_of_bind_eq_ok hpair
    cases hsecond
    obtain ⟨htoken, hne⟩ := value_eq_ok_iff.1 hfirst
    rw [hanchors, htoken]
    exact ⟨hne, id⟩

theorem exists_readsRows (table : Table) :
    ∃ read, (table.keyword, row read) ∈ keywords ∧ ReadsRows table read := by
  cases table with
  | inputs =>
      exact ⟨_, List.mem_of_getElem? (i := 8) rfl,
        readsRows_valuePair (fun _ ↦ rfl) fun _ ↦ rfl⟩
  | outputs =>
      exact ⟨_, List.mem_of_getElem? (i := 9) rfl,
        readsRows_valuePair (fun _ ↦ rfl) fun _ ↦ rfl⟩
  | replacements =>
      exact ⟨_, List.mem_of_getElem? (i := 10) rfl,
        readsRows_valuePair (fun _ ↦ rfl) fun _ ↦ rfl⟩
  | patterns =>
      exact ⟨_, List.mem_of_getElem? (i := 11) rfl,
        readsRows_plain (fun _ ↦ rfl) (fun _ ↦ rfl) token_ne_nil_of_someFields⟩
  | rules =>
      exact ⟨_, List.mem_of_getElem? (i := 12) rfl,
        readsRows_plain (fun _ ↦ rfl) (fun _ ↦ rfl) token_ne_nil_of_value⟩
  | related =>
      exact ⟨_, List.mem_of_getElem? (i := 13) rfl,
        readsRows_plain (fun _ ↦ rfl) (fun _ ↦ rfl) token_ne_nil_of_value⟩
  | breaks =>
      exact ⟨_, List.mem_of_getElem? (i := 14) rfl,
        readsRows_plain (fun _ ↦ rfl) (fun _ ↦ rfl) token_ne_nil_of_value⟩

/-! ## Lines with a value -/

theorem ofFront_of_value? (h : table.value? line = some value) :
    ∃ read, ReadsRows table read ∧ ofFront line = row read value := by
  obtain ⟨read, hmem, hread⟩ := exists_readsRows table
  have hbehind : afterKeyword? table.keyword line = some value := (Option.filter_eq_some_iff.1 h).1
  exact ⟨read, hread, ofFront_of_afterKeyword? hmem hbehind⟩

theorem ofLine_of_isCount (h : table.value? line = some value) (hcount : isCount value) :
    ofLine line = .ok nothing := by
  obtain ⟨read, -, hfront⟩ := ofFront_of_value? h
  rw [ofLine_eq_ok_iff]
  exact ⟨_, hfront.trans (row_of_isCount hcount read), (isCount_iff.1 hcount).2⟩

/-- A line of a table that can be read is a count or gives a row. -/
theorem ofLine_of_value? (h : table.value? line = some value)
    (hline : ofLine line = .ok directive) :
    directive = nothing ∧ isCount value ∨ directive.table? = some table ∧
      (directive.hasOnlyAnchors → Replacement.hasOnlyAnchors (token value).1) := by
  obtain ⟨read, hread, hfront⟩ := ofFront_of_value? h
  obtain ⟨rest, hdirective, hend⟩ := ofLine_eq_ok_iff.1 hline
  rw [hfront] at hdirective
  rcases row_cases hdirective hend with hcount | hrow
  · exact Or.inl hcount
  · obtain ⟨htable, -, hanchors⟩ := hread value directive rest hrow
    exact Or.inr ⟨htable, hanchors⟩

theorem names_of_table? (h : directive.table? = some table) :
    directive.names = [table.keyword] := by
  cases directive <;> cases h <;> rfl

theorem isSome_value?_of_ofLine (hline : ofLine line = .ok directive)
    (htable : directive.table? = some table) : (table.value? line).isSome := by
  have hnothing : directive ≠ nothing := by
    intro heq
    rw [heq] at htable
    cases htable
  have hchoose (choice : Choice) : directive ≠ choose choice := by
    intro heq
    rw [heq] at htable
    cases htable
  obtain ⟨rest, hdirective, hend⟩ := ofLine_eq_ok_iff.1 hline
  obtain ⟨keyword, hkeyword, hsome⟩ := exists_keyword_of_ofFront hdirective hnothing hchoose
  rw [names_of_table? htable, List.mem_singleton] at hkeyword
  obtain ⟨value, hvalue⟩ := Option.isSome_iff_exists.1 (hkeyword ▸ hsome)
  obtain ⟨read, hmem, hread⟩ := exists_readsRows table
  rw [ofFront_of_afterKeyword? hmem hvalue] at hdirective
  have hrow := (row_cases hdirective hend).resolve_left fun hcount ↦ hnothing hcount.1
  have htoken := (hread value directive rest hrow).2.1
  rw [Table.value?, hvalue, Option.isSome_filter]
  simpa using htoken

theorem token_ne_nil_of_value? (h : table.value? line = some value) : (token value).1 ≠ [] := by
  simpa using (Option.filter_eq_some_iff.1 h).2

/-- What begins with a digit is not made of anchors. -/
theorem hasOnlyAnchors_token_of_isLoneNumber (h : isLoneNumber value)
    (htoken : (token value).1 ≠ []) : Replacement.hasOnlyAnchors (token value).1 = false := by
  cases value with
  | nil => cases h
  | cons c value =>
      have hdigit : c.isDigit := by
        by_contra hnot
        rw [isLoneNumber, List.takeWhile_cons_of_neg hnot] at h
        cases h
      have hstart : c ≠ '^' := by
        intro heq
        rw [heq] at hdigit
        cases hdigit
      have hend : c ≠ '$' := by
        intro heq
        rw [heq] at hdigit
        cases hdigit
      rw [token, List.takeWhile_cons] at htoken ⊢
      split at htoken
      · rename_i hblank
        simp [Replacement.hasOnlyAnchors, hblank, hstart, hend]
      · exact absurd rfl htoken

end Directive
end Orthography
