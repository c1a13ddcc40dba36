import Mathlib.Data.List.Nodup
import Orthography.Settings.Directive

/-!
# Keywords

What a line is about is settled by what stands before its first gap: no two keywords begin the
same line, so the order in which they are tried is of no account, and each keyword leads to
directives of its own.
-/

namespace Orthography
namespace Directive

open Text

/-- Whether nothing but a comment is left of a line. -/
def isEnd (rest : Text) : Bool :=
  let rest := rest.dropWhile isGap
  rest.isEmpty || isComment rest

/-- Whether a text is without gaps. -/
def isToken (text : Text) : Bool := text.all fun c ↦ !isGap c

variable {keyword other line rest : Text}

/-- Behind the keyword a gap comes next. -/
theorem afterKeyword?_iff_afterGap? :
    afterKeyword? keyword line = some rest ↔
      ∃ text, line = keyword ++ text ∧ afterGap? text = some rest := by
  rw [afterKeyword?, Option.bind_eq_bind, Option.bind_eq_some_iff]
  simp only [after?_eq_some_iff]

theorem afterKeyword?_eq_some_iff :
    afterKeyword? keyword line = some rest ↔
      ∃ gap behind, isGap gap ∧ line = keyword ++ gap :: behind ∧ rest = behind.dropWhile isGap := by
  rw [afterKeyword?_iff_afterGap?]
  constructor
  · intro h
    obtain ⟨text, hline, hrest⟩ := h
    cases text with
    | nil => cases hrest
    | cons c text =>
        rw [afterGap?] at hrest
        split at hrest
        · rename_i hgap
          exact ⟨c, text, hgap, hline, (Option.some.inj hrest).symm⟩
        · cases hrest
  · intro h
    obtain ⟨gap, behind, hgap, hline, hrest⟩ := h
    refine ⟨gap :: behind, hline, ?_⟩
    rw [afterGap?, if_pos hgap, hrest]

/-- A keyword is all that stands before the first gap. -/
theorem takeWhile_of_afterKeyword? (hkeyword : isToken keyword)
    (h : afterKeyword? keyword line = some rest) :
    line.takeWhile (fun c ↦ !isGap c) = keyword := by
  obtain ⟨gap, behind, hgap, rfl, -⟩ := afterKeyword?_eq_some_iff.1 h
  rw [List.takeWhile_append_of_pos, List.takeWhile_cons_of_neg, List.append_nil]
  · simpa using hgap
  · exact List.all_eq_true.1 hkeyword

theorem keyword_unique (hkeyword : isToken keyword) (hother : isToken other)
    (h : afterKeyword? keyword line = some rest) {rest' : Text}
    (h' : afterKeyword? other line = some rest') : keyword = other := by
  rw [← takeWhile_of_afterKeyword? hkeyword h, takeWhile_of_afterKeyword? hother h']

theorem isToken_of_mem_keywords {read : Text → Reading Directive}
    (h : (keyword, read) ∈ keywords) : isToken keyword := by
  have hall : (keywords.all fun entry ↦ isToken entry.1) = true := by decide +kernel
  exact List.all_eq_true.1 hall _ h

theorem nodup_keywords : (keywords.map Prod.fst).Nodup := by
  simp [keywords, roleKeywords]

/-- A line that begins with a keyword is read by the reader of this keyword. -/
theorem ofFront_of_afterKeyword? {read : Text → Reading Directive}
    (hmem : (keyword, read) ∈ keywords) (h : afterKeyword? keyword line = some rest) :
    ofFront line = read rest := by
  rw [ofFront]
  split
  · rename_i result hresult
    obtain ⟨⟨other, read'⟩, hother, hresult⟩ := List.exists_of_findSome?_eq_some hresult
    obtain ⟨rest', hrest', rfl⟩ := Option.map_eq_some_iff.1 hresult
    have hsame : keyword = other :=
      keyword_unique (isToken_of_mem_keywords hmem) (isToken_of_mem_keywords hother) h hrest'
    have hentry := List.inj_on_of_nodup_map nodup_keywords hmem hother hsame
    obtain ⟨rfl, rfl⟩ := Prod.mk.inj hentry
    rw [h] at hrest'
    rw [Option.some.inj hrest']
  · rename_i hnone
    have hread := List.findSome?_eq_none_iff.1 hnone _ hmem
    simp [h] at hread

theorem ofLine_eq_ok_iff {directive : Directive} :
    ofLine line = .ok directive ↔ ∃ rest, ofFront line = .ok (directive, rest) ∧ isEnd rest := by
  rw [ofLine]
  constructor
  · intro h
    split at h
    · cases h
    · rename_i directive rest hfront
      dsimp only at h
      split at h
      · rename_i hend
        cases h
        exact ⟨rest, hfront, hend⟩
      · cases h
  · intro h
    obtain ⟨rest, hfront, hend⟩ := h
    rw [hfront]
    exact if_pos hend

theorem exists_ofFront_of_ofLine {directive : Directive} (h : ofLine line = .ok directive) :
    ∃ rest, ofFront line = .ok (directive, rest) := by
  obtain ⟨rest, hfront, -⟩ := ofLine_eq_ok_iff.1 h
  exact ⟨rest, hfront⟩

/-! ## What a keyword leads to -/

/-- The keywords under which a directive is written.  The choices are told without one. -/
def names : Directive → List Text
  | nothing | choose _ => []
  | encoding _ => ["SET".toList]
  | flagMode _ => ["FLAG".toList]
  | language _ => ["LANG".toList]
  | keyboard _ => ["KEY".toList]
  | tryChars _ => ["TRY".toList]
  | ignore _ => ["IGNORE".toList]
  | role r _ => (roleKeywords.filter fun keyword ↦ keyword.2 = r).map Prod.fst
  | compoundMin _ => ["COMPOUNDMIN".toList]
  | compoundMax _ => ["COMPOUNDWORDMAX".toList]
  | inputConversion .. => ["ICONV".toList]
  | outputConversion .. => ["OCONV".toList]
  | correction .. => ["REP".toList]
  | compoundPattern _ => ["CHECKCOMPOUNDPATTERN".toList]
  | compoundRule _ => ["COMPOUNDRULE".toList]
  | related _ => ["MAP".toList]
  | wordBreak _ => ["BREAK".toList]
  | flagAlias _ => ["AF".toList]
  | morphAlias _ => ["AM".toList]
  | affix .pre .. => ["PFX".toList]
  | affix .suf .. => ["SFX".toList]

/-- What a reader gives is written under a keyword, or says nothing. -/
def Gives (keyword : Text) (read : Text → Reading Directive) : Prop :=
  ∀ text directive rest, read text = .ok (directive, rest) →
    directive = nothing ∨ keyword ∈ directive.names

theorem Reading.exists_of_bind_eq_ok {α β : Type} {r : Reading α} {f : α → Text → Reading β}
    {result : β × Text} (h : r.bind f = .ok result) :
    ∃ a rest, r = .ok (a, rest) ∧ f a rest = .ok result := by
  cases r with
  | error fault => cases h
  | ok first => exact ⟨first.1, first.2, rfl, h⟩

theorem gives_reading {α : Type} {make : α → Directive} {read : Text → Reading α}
    (hmake : ∀ a, keyword ∈ (make a).names) : Gives keyword (reading make read) := by
  intro text directive rest h
  obtain ⟨a, rest', -, hmade⟩ := Reading.exists_of_bind_eq_ok h
  cases hmade
  exact Or.inr (hmake a)

theorem Gives.row {read : Text → Reading Directive} (hread : Gives keyword read) :
    Gives keyword (row read) := by
  intro text directive rest h
  rw [Directive.row] at h
  split at h
  · split at h
    · cases h
      exact Or.inl rfl
    · exact hread _ _ _ h
  · exact hread _ _ _ h

theorem gives_affixLine {kind : AffixKind}
    (hkind : ∀ flag fields, keyword ∈ (affix kind flag fields).names) :
    Gives keyword (affixLine kind) := by
  intro text directive rest h
  obtain ⟨flag, rest', -, hmade⟩ := Reading.exists_of_bind_eq_ok h
  cases hmade
  exact Or.inr (hkind flag _)

theorem gives_of_mem_keywords {read : Text → Reading Directive} (h : (keyword, read) ∈ keywords) :
    Gives keyword read := by
  have hall : ∀ entry ∈ keywords, Gives entry.1 entry.2 := by
    rw [keywords, List.forall_mem_append]
    constructor
    · simp only [List.forall_mem_cons, List.not_mem_nil, IsEmpty.forall_iff, implies_true, and_true]
      and_intros <;> first
        | exact gives_reading fun _ ↦ .head _
        | exact (gives_reading fun _ ↦ .head _).row
        | exact gives_affixLine fun _ _ ↦ .head _
    · rw [List.forall_mem_map]
      intro entry hentry
      refine gives_reading fun flag ↦ List.mem_map.2 ⟨entry, ?_, rfl⟩
      exact List.mem_filter.2 ⟨hentry, decide_eq_true rfl⟩
  exact hall _ h

/-- A line says what one of its keywords says, unless it makes a choice or says nothing. -/
theorem exists_keyword_of_ofFront {directive : Directive}
    (h : ofFront line = .ok (directive, rest)) (hnothing : directive ≠ nothing)
    (hchoose : ∀ choice, directive ≠ choose choice) :
    ∃ keyword ∈ directive.names, (afterKeyword? keyword line).isSome := by
  rw [ofFront] at h
  split at h
  · rename_i result hresult
    subst h
    obtain ⟨⟨keyword, read⟩, hmem, hread⟩ := List.exists_of_findSome?_eq_some hresult
    obtain ⟨behind, hbehind, hread⟩ := Option.map_eq_some_iff.1 hread
    refine ⟨keyword, ?_, Option.isSome_of_eq_some hbehind⟩
    exact (gives_of_mem_keywords hmem behind directive rest hread).resolve_left hnothing
  · split at h
    · rename_i result hresult
      cases h
      obtain ⟨⟨keyword, choice⟩, -, hread⟩ := List.exists_of_findSome?_eq_some hresult
      obtain ⟨behind, -, hread⟩ := Option.map_eq_some_iff.1 hread
      exact absurd (Prod.mk.inj hread).1.symm (hchoose choice)
    · split at h
      · cases h
      · cases h
        exact absurd rfl hnothing

end Directive
end Orthography
