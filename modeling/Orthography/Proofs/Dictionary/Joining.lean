import Orthography.Proofs.Dictionary.Stems
import Orthography.Proofs.Text.Occurrence

/-!
# Words joined by a break text

A word is broken at the first occurrence of a break text only.  Two right words with a break text
between them are right together, if the first one is taken apart at all the places where the break
text occurs in it before its end.
-/

namespace Orthography

namespace Text

variable {breaks : List Text} {brk head left right rest : Text}

theorem mem_breakings_start (anchored : '^' :: head ∈ breaks) (kept : rest ≠ []) :
    [rest] ∈ breakings breaks (head ++ rest) := by
  have hpieces : anchoredPieces? (head ++ rest) ('^' :: head) = some [rest] := by
    simp [anchoredPieces?, after?, after?_eq_some_iff.2]
  refine List.mem_filter.2 ⟨List.mem_append_left _ ?_, by simpa using kept⟩
  exact List.mem_filterMap.2 ⟨_, anchored, hpieces⟩

theorem mem_breakings_inside (mem : brk ∈ breaks) (freeStart : brk.head? ≠ some '^')
    (freeEnd : brk.getLast? ≠ some '$') (first : IsFirstBehind brk left) (keptLeft : left ≠ [])
    (keptRight : right ≠ []) : [left, right] ∈ breakings breaks (left ++ brk ++ right) := by
  have hfree : ((after? ['^'] brk).isSome || (before? ['$'] brk).isSome) = false := by
    rw [Ne, ← after?_caret_isSome] at freeStart
    rw [Ne, ← before?_dollar_isSome] at freeEnd
    rw [Bool.not_eq_true] at freeStart freeEnd
    rw [freeStart, freeEnd, Bool.or_false]
  have hpieces : splitPieces? (left ++ brk ++ right) brk = some [left, right] := by
    rw [splitPieces?, hfree, splitOnce?_append_iff.2 first]
    rfl
  refine List.mem_filter.2 ⟨List.mem_append_right _ ?_, by simp [keptLeft, keptRight]⟩
  exact List.mem_filterMap.2 ⟨brk, mem, hpieces⟩

end Text

/-! ## What a text comes down to -/

/-- Taking breaks off the start of a text leaves a last piece: a break text that is anchored there
goes alone, and one that is not takes with it the piece before its first occurrence, which has to be
as asked. -/
inductive ComesDownTo (breaks : List Text) (good : Text → Prop) : Text → Text → Prop
  | refl {text : Text} : ComesDownTo breaks good text text
  | start {head rest last : Text} (anchored : '^' :: head ∈ breaks)
      (down : ComesDownTo breaks good rest last) : ComesDownTo breaks good (head ++ rest) last
  | inside {left brk rest last : Text} (mem : brk ∈ breaks) (freeStart : brk.head? ≠ some '^')
      (freeEnd : brk.getLast? ≠ some '$') (first : Text.IsFirstBehind brk left)
      (keptLeft : left ≠ []) (accepted : good left) (down : ComesDownTo breaks good rest last) :
      ComesDownTo breaks good (left ++ brk ++ rest) last

namespace Dictionary

open Text

variable {dictionary : Dictionary} {a brk c last : Text}

/-- A tree that breaks a word at first occurrences, each leaf accepted. -/
abbrev HasBreakTree (dictionary : Dictionary) (word : Text) : Prop :=
  BreakTree (fun text pieces ↦ pieces ∈ breakings dictionary.settings.breaks text)
    (fun text ↦ dictionary.acceptsCased false text) word

theorem hasBreakTree_of_acceptsBroken {word : Text} (h : dictionary.acceptsBroken false word) :
    dictionary.HasBreakTree word :=
  breakTree_of_attempt h

/-- A free break text, behind which a right word may follow. -/
structure IsFreeBreak (dictionary : Dictionary) (brk : Text) : Prop where
  mem : brk ∈ dictionary.settings.breaks
  freeStart : brk.head? ≠ some '^'
  freeEnd : brk.getLast? ≠ some '$'

/-- A text comes down to an accepted piece behind which the break text occurs first. -/
def TakesBehind (dictionary : Dictionary) (brk text : Text) : Prop :=
  ∃ last, ComesDownTo dictionary.settings.breaks (fun piece ↦ dictionary.acceptsBroken false piece)
    text last ∧ last ≠ [] ∧ dictionary.acceptsBroken false last ∧ IsFirstBehind brk last

theorem hasBreakTree_append (hbrk : dictionary.IsFreeBreak brk) (ha : dictionary.TakesBehind brk a)
    (hne : c ≠ []) (hc : dictionary.HasBreakTree c) : dictionary.HasBreakTree (a ++ brk ++ c) := by
  obtain ⟨last, hdown, hlast, haccepted, hfirst⟩ := ha
  -- What follows a text moves none of the first occurrences on the way down.
  induction hdown with
  | @refl last =>
      have hstep := mem_breakings_inside hbrk.mem hbrk.freeStart hbrk.freeEnd hfirst hlast hne
      refine .node hstep fun piece hpiece ↦ ?_
      rcases List.mem_pair.1 hpiece with rfl | rfl
      · exact hasBreakTree_of_acceptsBroken haccepted
      · exact hc
  | @start head rest last anchored _ ih =>
      have hkept : rest ++ brk ++ c ≠ [] := by simp [hne]
      have hstep := mem_breakings_start anchored hkept
      rw [← List.append_assoc, ← List.append_assoc] at hstep
      refine .node hstep fun piece hpiece ↦ ?_
      obtain rfl := List.mem_singleton.1 hpiece
      exact ih hlast haccepted hfirst
  | @inside left sep rest last mem freeStart freeEnd first keptLeft accepted _ ih =>
      have hkept : rest ++ brk ++ c ≠ [] := by simp [hne]
      have hstep := mem_breakings_inside mem freeStart freeEnd first keptLeft hkept
      rw [← List.append_assoc, ← List.append_assoc] at hstep
      refine .node hstep fun piece hpiece ↦ ?_
      rcases List.mem_pair.1 hpiece with rfl | rfl
      · exact hasBreakTree_of_acceptsBroken accepted
      · exact ih hlast haccepted hfirst

theorem prepare_of_isTidy {word : Text} (hinputs : dictionary.settings.inputs = [])
    (hignored : dictionary.settings.ignored = []) (hword : word.IsTidy) :
    dictionary.prepare word = word := by
  rw [prepare_of_no_inputs hinputs, hword.trim_eq, Settings.stripIgnored_eq_self_iff]
  simp [hignored]

theorem checkKeepsLimit_of_attempts_le {word : Text}
    (h : (dictionary.attempts false (dictionary.prepare word) 0).2 ≤ maxBreakAttempts) :
    dictionary.CheckKeepsLimit word :=
  fun _ _ _ ↦ keepsLimit_of_attempts_le h

theorem check_of_hasBreakTree {word : Text} (hprepare : dictionary.prepare word = word)
    (hne : word ≠ []) (hallowed : dictionary.isForbidden word = false)
    (hlimit : dictionary.CheckKeepsLimit word) (h : dictionary.HasBreakTree word) :
    dictionary.check word := by
  cases hnumeric : isNumeric word with
  | true => simp [check, hprepare, hnumeric]
  | false =>
      rw [CheckKeepsLimit, hprepare] at hlimit
      have hbroken := acceptsBroken_of_breakTree h (hlimit hne hnumeric hallowed)
      simp [check, hprepare, hallowed, hbroken]

/-- Two words with a break text between them are right together if the second one is accepted and
the first one comes down to an accepted piece behind which the break text occurs first. -/
theorem check_joined (hinputs : dictionary.settings.inputs = [])
    (hignored : dictionary.settings.ignored = []) (hbrk : dictionary.IsFreeBreak brk)
    (hatidy : a.IsTidy) (hctidy : c.IsTidy) (ha : dictionary.TakesBehind brk a)
    (hc : dictionary.acceptsBroken false c)
    (hallowed : dictionary.isForbidden (a ++ brk ++ c) = false)
    (hlimit : dictionary.CheckKeepsLimit (a ++ brk ++ c)) : dictionary.check (a ++ brk ++ c) := by
  have htidy : (a ++ brk ++ c).IsTidy := hatidy.append hctidy brk
  have hprepare := prepare_of_isTidy hinputs hignored htidy
  apply check_of_hasBreakTree hprepare htidy.ne_nil hallowed hlimit
  exact hasBreakTree_append hbrk ha hctidy.ne_nil (hasBreakTree_of_acceptsBroken hc)

/-- Words break at single and at double dashes. -/
def dashDictionary : Dictionary :=
  ofParts { breaks := [['-'], ['-', '-']] }
    ((Lexicon.empty.add ⟨['x'], .empty, [], []⟩).add ⟨['y', '-', 'x'], .empty, [], []⟩)

theorem isFreeBreak_dash : dashDictionary.IsFreeBreak ['-'] where
  mem := by decide
  freeStart := by decide
  freeEnd := by decide

theorem isFreeBreak_dash_dash : dashDictionary.IsFreeBreak ['-', '-'] where
  mem := by decide
  freeStart := by decide
  freeEnd := by decide

/-- The double dash comes first behind the piece `x` that a single dash leaves of `x-x`. -/
theorem takesBehind_x_x : dashDictionary.TakesBehind ['-', '-'] ['x', '-', 'x'] := by
  have hx : dashDictionary.acceptsBroken false ['x'] := by decide +kernel
  have hsingle : IsFirstBehind ['-'] ['x'] := isFirstBehind_singleton (by decide)
  have hdouble : IsFirstBehind ['-', '-'] ['x'] :=
    splitOnce?_append_iff.1 (show splitOnce? ['-', '-'] (['x'] ++ ['-', '-'] ++ []) = _ by decide)
  refine ⟨['x'], ?_, List.cons_ne_nil _ _, hx, hdouble⟩
  exact .inside isFreeBreak_dash.mem isFreeBreak_dash.freeStart isFreeBreak_dash.freeEnd hsingle
    (List.cons_ne_nil _ _) hx .refl

/-- A single dash takes `x-x` apart, and the first double one is behind the second `x`. -/
theorem check_joined_dashes :
    let a : Text := ['x', '-', 'x']
    let c : Text := ['y', '-', 'x', '-', '-', 'x']
    dashDictionary.settings.inputs = [] ∧ dashDictionary.settings.ignored = [] ∧
      dashDictionary.IsFreeBreak ['-', '-'] ∧ a.IsTidy ∧ c.IsTidy ∧
      dashDictionary.TakesBehind ['-', '-'] a ∧ dashDictionary.acceptsBroken false c ∧
      dashDictionary.isForbidden (a ++ ['-', '-'] ++ c) = false ∧
      dashDictionary.CheckKeepsLimit (a ++ ['-', '-'] ++ c) ∧
      dashDictionary.check (a ++ ['-', '-'] ++ c) := by
  intro a c
  have hatidy : a.IsTidy := by decide
  have hctidy : c.IsTidy := by decide
  have hc : dashDictionary.acceptsBroken false c := by decide +kernel
  have hallowed : dashDictionary.isForbidden (a ++ ['-', '-'] ++ c) = false := by decide +kernel
  have hlimit : dashDictionary.CheckKeepsLimit (a ++ ['-', '-'] ++ c) :=
    checkKeepsLimit_of_attempts_le (by decide +kernel)
  exact ⟨rfl, rfl, isFreeBreak_dash_dash, hatidy, hctidy, takesBehind_x_x, hc, hallowed, hlimit,
    check_joined rfl rfl isFreeBreak_dash_dash hatidy hctidy takesBehind_x_x hc hallowed hlimit⟩

/-- A dash does not join the right words `y-x` and `x`: at its first occurrence it splits off the
wrong word `y`. -/
theorem not_check_joined_y_x :
    let a : Text := ['y', '-', 'x']
    let c : Text := ['x']
    dashDictionary.settings.inputs = [] ∧ dashDictionary.settings.ignored = [] ∧
      dashDictionary.IsFreeBreak ['-'] ∧ a.IsTidy ∧ c.IsTidy ∧
      dashDictionary.acceptsBroken false a ∧ dashDictionary.acceptsBroken false c ∧
      dashDictionary.isForbidden (a ++ ['-'] ++ c) = false ∧
      dashDictionary.CheckKeepsLimit (a ++ ['-'] ++ c) ∧
      dashDictionary.check (a ++ ['-'] ++ c) = false := by
  intro a c
  exact ⟨rfl, rfl, isFreeBreak_dash, by decide, by decide, by decide +kernel, by decide +kernel,
    by decide +kernel, checkKeepsLimit_of_attempts_le (by decide +kernel), by decide +kernel⟩

end Dictionary
end Orthography
