import Orthography.Proofs.Settings.TakenComments

/-!
# Missing values

A keyword that takes a value should not stand on a line of its own.  Whether such a line is refused
depends on the gap behind the keyword: with one the value is missed, or a comment is taken for it;
without one the line says nothing, as any line does that begins with no keyword.
-/

namespace Orthography
namespace Directive

open Text

/-! ## What a line begins with -/

/-- The names under which directives are known: keywords and choices. -/
def knownNames : List Text := keywords.map Prod.fst ++ choices.map Prod.fst

/-- The first token of a line, and what stands behind it. -/
def firstToken (line : Text) : Text × Text := token (trimStart line)

/-- Whether a line has a keyword and then nothing, or nothing but a comment. -/
def LacksValue (line : Text) : Prop :=
  (firstToken line).1 ∈ keywords.map Prod.fst ∧ endsSoon (firstToken line).2

/-- Whether a line begins with its first token and a gap. -/
def isLed (line : Text) : Bool := (afterKeyword? (firstToken line).1 line).isSome

instance (line : Text) : Decidable (LacksValue line) := inferInstanceAs (Decidable (_ ∧ _))

variable {name line rest behind : Text} {directive : Directive}

theorem not_isBlank_of_mem_knownNames (h : name ∈ knownNames) {c : Char} (hc : c ∈ name) :
    isBlank c = false := by
  have hall : (knownNames.all fun name ↦ name.all fun c ↦ !isBlank c) = true := by decide +kernel
  simpa using List.all_eq_true.1 (List.all_eq_true.1 hall name h) c hc

theorem ne_nil_of_mem_knownNames (h : name ∈ knownNames) : name ≠ [] := by
  have hall : (knownNames.all fun name ↦ !name.isEmpty) = true := by decide +kernel
  simpa using List.all_eq_true.1 hall name h

theorem firstToken_append (h : name ∈ knownNames) (rest : Text) :
    firstToken (name ++ rest) = (name ++ (token rest).1, (token rest).2) := by
  have hname : ∀ c ∈ name, (!isBlank c) = true := by
    intro c hc
    rw [not_isBlank_of_mem_knownNames h hc]
    rfl
  have hstart : trimStart (name ++ rest) = name ++ rest := by
    obtain ⟨c, more, rfl⟩ := List.exists_cons_of_ne_nil (ne_nil_of_mem_knownNames h)
    rw [trimStart, List.cons_append, List.dropWhile_cons_of_neg]
    simpa using hname c List.mem_cons_self
  rw [firstToken, hstart, token, List.takeWhile_append_of_pos hname,
    List.dropWhile_append_of_pos hname]
  rfl

theorem firstToken_of_afterGap? {text : Text} (h : name ∈ knownNames)
    (hgap : afterGap? text = some behind) : firstToken (name ++ text) = (name, text) := by
  obtain ⟨gap, rfl, hne, hgap, -⟩ := afterGap?_eq_some_iff.1 hgap
  have htoken : token (gap ++ behind) = ([], gap ++ behind) := by
    refine token_eq_iff.2 ⟨rfl, fun _ hnone ↦ absurd hnone List.not_mem_nil, fun c hc ↦ ?_⟩
    rw [List.head?_append_of_ne_nil _ hne] at hc
    exact isBlank_of_isGap (hgap c (List.mem_of_head? hc))
  rw [firstToken_append h, htoken, List.append_nil]

theorem firstToken_of_afterKeyword? (h : name ∈ knownNames)
    (hbehind : afterKeyword? name line = some behind) : (firstToken line).1 = name := by
  obtain ⟨text, rfl, hgap⟩ := afterKeyword?_iff_afterGap?.1 hbehind
  rw [firstToken_of_afterGap? h hgap]

theorem not_mem_return_of_isEnd (h : isEnd rest) : '\r' ∉ rest := by
  intro hreturn
  have hmem : '\r' ∈ rest.dropWhile isGap := mem_dropWhile_of_mem hreturn rfl
  rw [isEnd] at h
  cases hrest : rest.dropWhile isGap with
  | nil =>
      rw [hrest] at hmem
      cases hmem
  | cons c more =>
      simp only [hrest, List.isEmpty_cons, Bool.false_or, isComment, Bool.and_eq_true, beq_iff_eq,
        Bool.not_eq_true', List.contains_eq_mem, decide_eq_false_iff_not] at h
      rw [hrest, List.mem_cons, h.1] at hmem
      exact h.2 (hmem.resolve_left (by decide))

theorem mem_knownNames_of_mem_keywords {read : Text → Reading Directive}
    (h : (name, read) ∈ keywords) : name ∈ knownNames :=
  List.mem_append_left _ (List.mem_map_of_mem h)

theorem mem_knownNames_of_mem_choices {choice : Choice} (h : (name, choice) ∈ choices) :
    name ∈ knownNames :=
  List.mem_append_right _ (List.mem_map_of_mem h)

/-- A line begins with a keyword and a gap, or with a choice, or with neither. -/
theorem ofFront_cases (line : Text) :
    (∃ keyword read rest, (keyword, read) ∈ keywords ∧ afterKeyword? keyword line = some rest ∧
      ofFront line = read rest) ∨
    (∀ keyword ∈ keywords.map Prod.fst, afterKeyword? keyword line = none) ∧
      ((∃ name choice rest, (name, choice) ∈ choices ∧ line = name ++ rest ∧
        ofFront line = .ok (choose choice, rest)) ∨
      (∀ name ∈ choices.map Prod.fst, after? name line = none) ∧
        ofFront line = if line.contains '\r' then .error (.unreadable .literal line)
          else .ok (nothing, [])) := by
  rw [ofFront]
  split
  · rename_i result hresult
    obtain ⟨⟨keyword, read⟩, hmem, hread⟩ := List.exists_of_findSome?_eq_some hresult
    obtain ⟨rest, hrest, hread⟩ := Option.map_eq_some_iff.1 hread
    exact Or.inl ⟨keyword, read, rest, hmem, hrest, hread.symm⟩
  · rename_i hnone
    refine Or.inr ⟨?_, ?_⟩
    · rw [List.forall_mem_map]
      intro entry hentry
      simpa using List.findSome?_eq_none_iff.1 hnone entry hentry
    split
    · rename_i result hresult
      obtain ⟨⟨name, choice⟩, hmem, hread⟩ := List.exists_of_findSome?_eq_some hresult
      obtain ⟨rest, hrest, hread⟩ := Option.map_eq_some_iff.1 hread
      refine Or.inl ⟨name, choice, rest, hmem, after?_eq_some_iff.1 hrest, ?_⟩
      rw [← hread]
    · rename_i hnone
      refine Or.inr ⟨?_, rfl⟩
      rw [List.forall_mem_map]
      intro entry hentry
      simpa using List.findSome?_eq_none_iff.1 hnone entry hentry

theorem not_mem_return_of_ofLine (h : ofLine line = .ok directive) : '\r' ∉ line := by
  obtain ⟨rest, hfront, hend⟩ := ofLine_eq_ok_iff.1 h
  have hrest := not_mem_return_of_isEnd hend
  have hname {name : Text} (hmem : name ∈ knownNames) : '\r' ∉ name := by
    intro hreturn
    have hblank := not_isBlank_of_mem_knownNames hmem hreturn
    cases hblank
  intro hreturn
  rcases ofFront_cases line with ⟨keyword, read, behind, hmem, hbehind, hread⟩ | ⟨-, ⟨name, choice,
    behind, hmem, hline, hread⟩ | ⟨-, hread⟩⟩
  · rw [hread] at hfront
    obtain ⟨gap, more, hgap, rfl, rfl⟩ := afterKeyword?_eq_some_iff.1 hbehind
    have hmore : '\r' ∈ gap :: more :=
      (List.mem_append.1 hreturn).resolve_left (hname (mem_knownNames_of_mem_keywords hmem))
    have hbehind : '\r' ∈ more.dropWhile isGap := by
      apply mem_of_afterGap? _ hmore
      rw [afterGap?, if_pos hgap]
    exact hrest (keepsReturn_of_mem_keywords hmem _ _ _ hfront hbehind)
  · rw [hread] at hfront
    cases hfront
    rw [hline] at hreturn
    have hmore := (List.mem_append.1 hreturn).resolve_left
      (hname (mem_knownNames_of_mem_choices hmem))
    exact hrest hmore
  · rw [hread, if_pos (List.contains_iff_mem.2 hreturn)] at hfront
    cases hfront

/-! ## Lines without a value -/

/-- No choice is the beginning of a keyword. -/
theorem not_isPrefix_of_mem_keywords {keyword : Text} (hname : name ∈ choices.map Prod.fst)
    (hkeyword : keyword ∈ keywords.map Prod.fst) : ¬ name <+: keyword := by
  have hall : ((choices.map Prod.fst).all fun name ↦ (keywords.map Prod.fst).all fun keyword ↦
      !name.isPrefixOf keyword) = true := by decide +kernel
  intro hbegins
  have hnot := List.all_eq_true.1 (List.all_eq_true.1 hall name hname) keyword hkeyword
  rw [List.isPrefixOf_iff_prefix.2 hbegins] at hnot
  cases hnot

theorem ofLine_of_not_isLed (h : LacksValue line) (hled : isLed line = false) :
    (∃ fault, ofLine line = .error fault) ∧ '\r' ∈ line ∨
      ofLine line = .ok nothing ∧ '\r' ∉ line := by
  have hfront : ofFront line =
      if line.contains '\r' then .error (.unreadable .literal line) else .ok (nothing, []) := by
    rcases ofFront_cases line with ⟨keyword, read, behind, hmem, hbehind, -⟩ | ⟨-, ⟨name, choice,
      behind, hmem, rfl, -⟩ | ⟨-, hread⟩⟩
    · have hfirst := firstToken_of_afterKeyword? (mem_knownNames_of_mem_keywords hmem) hbehind
      rw [isLed, hfirst, hbehind] at hled
      cases hled
    · have hfirst := h.1
      rw [firstToken_append (mem_knownNames_of_mem_choices hmem)] at hfirst
      exact absurd (List.prefix_append _ _)
        (not_isPrefix_of_mem_keywords (List.mem_map_of_mem hmem) hfirst)
    · exact hread
  by_cases hreturn : '\r' ∈ line
  · rw [if_pos (List.contains_iff_mem.2 hreturn)] at hfront
    refine Or.inl ⟨⟨.unreadable .literal line, ?_⟩, hreturn⟩
    rw [ofLine, hfront]
  · rw [if_neg (mt List.contains_iff_mem.1 hreturn)] at hfront
    exact Or.inr ⟨ofLine_eq_ok_iff.2 ⟨[], hfront, rfl⟩, hreturn⟩

/-! ## Lines about nothing known -/

/-- No two choices begin the same line. -/
theorem choice_unique {other : Text} (hname : name ∈ choices.map Prod.fst)
    (hother : other ∈ choices.map Prod.fst) (h : name <+: line) (h' : other <+: line) :
    name = other := by
  have hall : ((choices.map Prod.fst).all fun name ↦ (choices.map Prod.fst).all fun other ↦
      !name.isPrefixOf other || name == other) = true := by decide +kernel
  have hsame {one two : Text} (hone : one ∈ choices.map Prod.fst)
      (htwo : two ∈ choices.map Prod.fst) (hbegins : one <+: two) : one = two := by
    have hor := List.all_eq_true.1 (List.all_eq_true.1 hall one hone) two htwo
    rw [List.isPrefixOf_iff_prefix.2 hbegins] at hor
    exact beq_iff_eq.1 hor
  rcases List.prefix_or_prefix_of_prefix h h' with hbegins | hbegins
  · exact hsame hname hother hbegins
  · exact (hsame hother hname hbegins).symm

theorem isEnd_cons {c : Char} {more : Text} (hc : isBlank c = false) :
    isEnd (c :: more) ↔ c = '#' ∧ '\r' ∉ more := by
  simp [isEnd, isGap_eq_false hc, isComment]

/-- A line that begins with no known name can be read just if it has no stray carriage return and
any choice that it happens to begin with is followed by a comment. -/
theorem exists_ofLine_iff_of_unknown (h : (firstToken line).1 ∉ knownNames) :
    (∃ directive, ofLine line = .ok directive) ↔
      '\r' ∉ line ∧ ∀ name ∈ choices.map Prod.fst, ∀ rest, line = name ++ rest →
        rest.head? = some '#' := by
  rcases ofFront_cases line with ⟨keyword, read, behind, hmem, hbehind, -⟩ | ⟨-, ⟨name, choice,
    behind, hmem, rfl, hread⟩ | ⟨hnone, hread⟩⟩
  · have hknown := mem_knownNames_of_mem_keywords hmem
    rw [firstToken_of_afterKeyword? hknown hbehind] at h
    exact absurd hknown h
  · have hknown := mem_knownNames_of_mem_choices hmem
    have hname := List.mem_map_of_mem (f := Prod.fst) hmem
    rw [firstToken_append hknown] at h
    cases behind with
    | nil => exact absurd ((List.append_nil name).symm ▸ hknown) h
    | cons c more =>
        have hc : isBlank c = false := by
          rw [← Bool.not_eq_true]
          intro hblank
          rw [token, List.takeWhile_cons_of_neg (by simp [hblank]), List.append_nil] at h
          exact h hknown
        constructor
        · intro hok
          obtain ⟨directive, hok⟩ := hok
          refine ⟨not_mem_return_of_ofLine hok, ?_⟩
          intro other hother rest hrest
          have hbegins : other <+: name ++ c :: more := ⟨rest, hrest.symm⟩
          obtain rfl : name = other :=
            choice_unique hname hother (List.prefix_append _ _) hbegins
          obtain rfl := List.append_cancel_left hrest
          obtain ⟨rest, hfront, hend⟩ := ofLine_eq_ok_iff.1 hok
          rw [hread] at hfront
          cases hfront
          rw [((isEnd_cons hc).1 hend).1]
          rfl
        · intro hrest
          obtain ⟨hreturn, hrest⟩ := hrest
          have hhead := hrest name hname _ rfl
          refine ⟨_, ofLine_eq_ok_iff.2 ⟨_, hread, (isEnd_cons hc).2 ⟨Option.some.inj hhead, ?_⟩⟩⟩
          intro hmore
          exact hreturn (List.mem_append_right _ (List.mem_cons_of_mem _ hmore))
  · constructor
    · intro hok
      obtain ⟨directive, hok⟩ := hok
      refine ⟨not_mem_return_of_ofLine hok, ?_⟩
      intro name hname rest hrest
      have hafter := hnone name hname
      rw [after?_eq_some_iff.2 hrest] at hafter
      cases hafter
    · intro hrest
      rw [if_neg (mt List.contains_iff_mem.1 hrest.1)] at hread
      exact ⟨nothing, ofLine_eq_ok_iff.2 ⟨[], hread, rfl⟩⟩

/-- What such a line can say is harmless. -/
theorem eq_of_ofLine_of_unknown (h : (firstToken line).1 ∉ knownNames)
    (hline : ofLine line = .ok directive) :
    directive = nothing ∨ ∃ choice, directive = choose choice := by
  obtain ⟨rest, hfront, -⟩ := ofLine_eq_ok_iff.1 hline
  rcases ofFront_cases line with ⟨keyword, read, behind, hmem, hbehind, -⟩ | ⟨-, ⟨name, choice,
    behind, -, -, hread⟩ | ⟨-, hread⟩⟩
  · have hknown := mem_knownNames_of_mem_keywords hmem
    rw [firstToken_of_afterKeyword? hknown hbehind] at h
    exact absurd hknown h
  · rw [hread] at hfront
    cases hfront
    exact Or.inr ⟨choice, rfl⟩
  · rw [hread] at hfront
    split at hfront
    · cases hfront
    · cases hfront
      exact Or.inl rfl

end Directive

namespace Loading

open Directive

variable {l next : Loading} {line : Text} {number : Nat}

theorem TakesComment.isLed (h : l.TakesComment line) : isLed line := by
  obtain ⟨keyword, form, text, hform, rfl, hgap, -⟩ := h
  rw [← isSome_afterGap?] at hgap
  obtain ⟨behind, hgap⟩ := Option.isSome_iff_exists.1 hgap
  obtain ⟨read, hmem, -⟩ := ValueForm.exists_reader_of_mem_valueForms hform
  have hbehind : afterKeyword? keyword (keyword ++ text) = some behind :=
    afterKeyword?_iff_afterGap?.2 ⟨text, rfl, hgap⟩
  rw [Directive.isLed, firstToken_of_afterKeyword? (mem_knownNames_of_mem_keywords hmem) hbehind,
    hbehind]
  rfl

theorem TakesComment.mem (h : l.TakesComment line) : '#' ∈ line := by
  obtain ⟨keyword, form, text, -, rfl, -, hhead, -⟩ := h
  exact List.mem_append_right _ ((Text.trimStart_isSuffix text).mem (List.mem_of_head? hhead))

theorem takesComment_of_isLed (h : LacksValue line) (hled : isLed line)
    (hkept : ¬ l.IsRefused line) : l.TakesComment line := by
  obtain ⟨behind, hbehind⟩ := Option.isSome_iff_exists.1 hled
  obtain ⟨text, hline, hgap⟩ := afterKeyword?_iff_afterGap?.1 hbehind
  obtain ⟨hname, hend⟩ := h
  rw [hline] at hend hkept ⊢
  rw [firstToken_of_afterGap? (List.mem_append_left _ hname) hgap] at hend
  exact takesComment_of_not_isRefused hname hgap hend hkept

/-- A line without a value is refused if its keyword is followed by a gap, and no comment is taken
for the value. -/
theorem isRefused_iff_of_lacksValue (h : LacksValue line) :
    l.IsRefused line ↔
      (isLed line ∨ '\r' ∈ line) ∧ ('#' ∈ line → ¬ l.TakesComment line) := by
  cases hled : isLed line with
  | false =>
      have hnot : ¬ l.TakesComment line := by
        intro htakes
        rw [htakes.isLed] at hled
        cases hled
      rcases ofLine_of_not_isLed h hled with ⟨⟨fault, hfault⟩, hreturn⟩ | ⟨hline, hreturn⟩
      · exact iff_of_true (Or.inl ⟨fault, hfault⟩) ⟨Or.inr hreturn, fun _ ↦ hnot⟩
      · apply iff_of_false
        · refine not_isRefused_iff.2 ⟨nothing, hline, fun fault happly ↦ ?_⟩
          cases happly
        · simp [hreturn]
  | true =>
      rw [and_iff_right (Or.inl rfl)]
      constructor
      · intro hrefused _ htakes
        exact htakes.not_isRefused hrefused
      · intro hnot
        by_contra hkept
        have htakes := takesComment_of_isLed h hled hkept
        exact hnot htakes.mem htakes

theorem problems_eq_iff_of_unknown (h : l.readLine number line = .ok next)
    (hunknown : (firstToken line).1 ∉ knownNames) :
    next.settings.problems = l.settings.problems ↔ ∃ directive, ofLine line = .ok directive := by
  rcases readLine_cases h with ⟨fault, hfault, rfl⟩ | ⟨name, mode, hmode, -, rfl⟩ |
    ⟨directive, hdirective, -, hnext⟩
  · apply iff_of_false
    · simp [report, Settings.report]
    · rw [hfault]
      simp
  · exact iff_of_true rfl ⟨_, hmode⟩
  · apply iff_of_true _ ⟨_, hdirective⟩
    have happly : l.apply directive = .ok next ∧
        next.settings.problems = l.settings.problems := by
      rcases eq_of_ofLine_of_unknown hunknown hdirective with rfl | ⟨choice, rfl⟩
      · rcases hnext with happly | ⟨problem, happly, -⟩
        · cases happly
          exact ⟨rfl, rfl⟩
        · cases happly
      · rcases hnext with happly | ⟨problem, happly, -⟩
        · cases happly
          exact ⟨rfl, by cases choice <;> rfl⟩
        · cases happly
    exact happly.2

end Loading

namespace Settings

open Directive Loading

variable {text line : Text} {settings : Settings} {n : Nat}

/-- A line whose keyword lacks its value leaves one problem with its number just if the line begins
with the keyword and a gap, or has a stray carriage return, and no comment is taken for the value.
A line that begins with no known name leaves no problem just if it has no stray carriage return and
the choice that it may happen to begin with is followed by a comment. -/
theorem problems_of_line (hparse : parse text = .ok settings)
    (hline : (linesOf text)[n]? = some line) :
    ∃ l next, readLines {} 1 ((linesOf text).take n) = .ok l ∧
      l.readLine (n + 1) line = .ok next ∧
      (LacksValue line →
        (settings.problems.countP (fun problem ↦ problem.line = n + 1) = 1 ↔
          (isLed line ∨ '\r' ∈ line) ∧ ('#' ∈ line → ¬ l.TakesComment line))) ∧
      ((firstToken line).1 ∉ knownNames →
        (next.settings.problems = l.settings.problems ↔
          '\r' ∉ line ∧ ∀ name ∈ choices.map Prod.fst, ∀ rest, line = name ++ rest →
            rest.head? = some '#')) := by
  obtain ⟨l, next, hl, hnext, hcount⟩ := exists_readLine_of_parse hparse hline
  refine ⟨l, next, hl, hnext, ?_, ?_⟩
  · intro hlacks
    rw [hcount, isRefused_iff_of_lacksValue hlacks]
  · intro hunknown
    rw [problems_eq_iff_of_unknown hnext hunknown, exists_ofLine_iff_of_unknown hunknown]

/-- The first line has a gap for its value; the second is not known; in the third the comment is
taken for the value. -/
theorem problems_of_line_key :
    let text := "KEY \t\nWORDCHARS # none\nTRY #aei\n".toList
    ∃ (settings : Settings) (l next taking : Loading), parse text = .ok settings ∧
      LacksValue "KEY \t".toList ∧ settings.problems.countP (fun problem ↦ problem.line = 1) = 1 ∧
        (firstToken "WORDCHARS # none".toList).1 ∉ knownNames ∧
          l.readLine 2 "WORDCHARS # none".toList = .ok next ∧
            next.settings.problems = l.settings.problems ∧
              LacksValue "TRY #aei".toList ∧ taking.TakesComment "TRY #aei".toList ∧
                settings.problems.countP (fun problem ↦ problem.line = 3) ≠ 1 := by
  intro text
  have hone : (parse text).map (·.problems.length) = .ok 1 := by decide +kernel
  obtain ⟨settings, hparse, -⟩ := exists_of_map_eq_ok hone
  have hlacks : LacksValue "KEY \t".toList := by decide +kernel
  have hunknown : (firstToken "WORDCHARS # none".toList).1 ∉ knownNames := by decide +kernel
  have hcomment : LacksValue "TRY #aei".toList := by decide +kernel
  have hfirst : (linesOf text)[0]? = some "KEY \t".toList := by decide +kernel
  have hsecond : (linesOf text)[1]? = some "WORDCHARS # none".toList := by decide +kernel
  have hthird : (linesOf text)[2]? = some "TRY #aei".toList := by decide +kernel
  obtain ⟨_, _, -, -, hmissing, -⟩ := problems_of_line hparse hfirst
  obtain ⟨l, next, -, hnext, -, hknown⟩ := problems_of_line hparse hsecond
  obtain ⟨taking, _, -, -, htaken, -⟩ := problems_of_line hparse hthird
  have hword : HasWord " #aei".toList "#aei".toList [] := by
    refine ⟨⟨[' '], rfl, List.cons_ne_nil _ _, ?_⟩, List.cons_ne_nil _ _, ?_, ?_⟩
    · rw [List.forall_mem_singleton]
      rfl
    · exact Text.forall_not_isBlank rfl
    · exact fun c hc ↦ absurd hc (Option.not_mem_none c)
  have htakes : taking.TakesComment "TRY #aei".toList :=
    ⟨"TRY".toList, .word, " #aei".toList, List.mem_of_getElem? (i := 4) rfl, rfl, rfl, rfl,
      "#aei".toList, .cons hword (.nil rfl)⟩
  refine ⟨settings, l, next, taking, hparse, hlacks, ?_, hunknown, hnext, ?_, hcomment, htakes, ?_⟩
  · apply (hmissing hlacks).2
    refine ⟨Or.inl (by decide +kernel), fun hcomment ↦ ?_⟩
    exact absurd hcomment (by decide)
  · apply (hknown hunknown).2
    refine ⟨by decide, fun name hname rest hrest ↦ ?_⟩
    have hbegins : ((choices.map Prod.fst).any fun name ↦
        name.isPrefixOf "WORDCHARS # none".toList) = false := by decide +kernel
    have hnot := List.any_eq_false.1 hbegins name hname
    rw [List.isPrefixOf_iff_prefix] at hnot
    exact absurd ⟨rest, hrest.symm⟩ hnot
  · intro hrefused
    exact ((htaken hcomment).1 hrefused).2 htakes.mem htakes

/-- A bare keyword is passed over, and a name that begins like a choice is not. -/
theorem not_problems_of_bare_keyword :
    let text := "TRY\nFULLSTRIPx\n".toList
    ∃ settings, parse text = .ok settings ∧ linesOf text = ["TRY".toList, "FULLSTRIPx".toList] ∧
      LacksValue "TRY".toList ∧ settings.problems.countP (fun problem ↦ problem.line = 1) = 0 ∧
        (firstToken "FULLSTRIPx".toList).1 ∉ knownNames ∧
          settings.problems = [.malformedLine 2 (.unreadable .endOfLine "x".toList)] := by
  intro text
  have hproblems : (parse text).map (·.problems) =
      .ok [.malformedLine 2 (.unreadable .endOfLine "x".toList)] := by decide +kernel
  obtain ⟨settings, hparse, hproblems⟩ := exists_of_map_eq_ok hproblems
  refine ⟨settings, hparse, by decide +kernel, by decide +kernel, ?_, by decide +kernel,
    hproblems⟩
  rw [hproblems]
  rfl

end Settings
end Orthography
