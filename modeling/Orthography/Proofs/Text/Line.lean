import Orthography.Settings.Reader

/-!
# Lines

How a text falls into lines, told character by character, and what becomes of them when one line is
emptied.
-/

namespace Orthography
namespace Text

/-- Whether the end of a line comes next, with or without a carriage return. -/
def endsLine : Text → Bool
  | '\n' :: _ => true
  | '\r' :: '\n' :: _ => true
  | _ => false

theorem lines_cons {c : Char} {text : Text} (h : endsLine (c :: text) = false) :
    lines (c :: text) = (c :: (lines text).headD []) :: (lines text).tail := by
  rw [lines.eq_4 c text]
  · cases lines text <;> rfl
  · rintro rfl
    cases h
  · rintro rest rfl rfl
    cases h

theorem lines_cr_lf (text : Text) : lines ('\r' :: '\n' :: text) = lines ('\n' :: text) := by
  simp [lines]

theorem lines_eq_nil_iff {text : Text} : lines text = [] ↔ text = [] := by
  fun_cases lines text <;> simp

theorem endsLine_congr {c : Char} {a b : Text} (h : a.head? = b.head?) :
    endsLine (c :: a) = endsLine (c :: b) := by
  cases a with
  | nil => cases b with
    | nil => rfl
    | cons d b => cases h
  | cons d a =>
      cases b with
      | nil => cases h
      | cons e b =>
          obtain rfl := Option.some.inj h
          unfold endsLine
          split <;> simp_all

/-- A byte order mark touches the first line only. -/
theorem tail_lines_withoutByteOrderMark (text : Text) :
    (lines (withoutByteOrderMark text)).tail = (lines text).tail := by
  rw [withoutByteOrderMark]
  cases hrest : after? ['\ufeff'] text with
  | none => rfl
  | some rest =>
      obtain rfl := after?_eq_some_iff.1 hrest
      rw [Option.getD_some, List.singleton_append, lines_cons rfl, List.tail_cons]

/-! ## Emptying a line -/

/-- A text with one of its lines emptied; lines are counted from zero. -/
def clearLine : Nat → Text → Text
  | _, [] => []
  | 0, '\n' :: text => '\n' :: text
  | 0, '\r' :: '\n' :: text => '\r' :: '\n' :: text
  | 0, _ :: text => clearLine 0 text
  | n + 1, '\n' :: text => '\n' :: clearLine n text
  | n + 1, c :: text => c :: clearLine (n + 1) text

theorem head?_clearLine_succ (n : Nat) (text : Text) :
    (clearLine (n + 1) text).head? = text.head? := by
  unfold clearLine
  split <;> simp_all

/-- Lines of which one has been emptied.  At the end of a text an empty line need not show. -/
def IsCleared (n : Nat) (cleared lines : List Text) : Prop :=
  cleared = lines.set n [] ∨ cleared ++ [[]] = lines.set n []

/-- A character that is put before the first line is out of the way of the others. -/
theorem IsCleared.extend {n : Nat} {cleared lines : List Text}
    (h : IsCleared (n + 1) cleared lines) (c : Char) :
    IsCleared (n + 1) ((c :: cleared.headD []) :: cleared.tail)
      ((c :: lines.headD []) :: lines.tail) := by
  cases lines with
  | nil =>
      have hnil : cleared = [] := by
        rcases h with h | h
        · exact h
        · exact absurd h (by simp)
      rw [hnil]
      exact Or.inl rfl
  | cons line lines =>
      rw [IsCleared, List.set_cons_succ] at h
      rcases h with h | h
      · rw [h]
        exact Or.inl rfl
      · cases cleared with
        | nil =>
            obtain ⟨rfl, hlines⟩ := List.cons.inj h
            rw [List.headD_cons, List.tail_cons, IsCleared, List.set_cons_succ, ← hlines]
            exact Or.inl rfl
        | cons first cleared =>
            obtain ⟨rfl, hlines⟩ := List.cons.inj h
            exact Or.inr (congrArg (_ :: ·) hlines)

theorem isCleared_lines_clearLine (n : Nat) (text : Text) :
    IsCleared n (lines (clearLine n text)) (lines text) := by
  fun_induction clearLine n text with
  | case1 => simp [IsCleared, lines]
  | case2 text => simp [IsCleared, lines]
  | case3 text => simp [IsCleared, lines]
  | case4 c text hlf hcrlf ih =>
      have hends : endsLine (c :: text) = false := by
        unfold endsLine
        split <;> simp_all
      rw [lines_cons hends, IsCleared, List.set_cons_zero]
      cases htext : lines text with
      | nil =>
          obtain rfl := lines_eq_nil_iff.1 htext
          exact Or.inr rfl
      | cons line more =>
          rw [htext] at ih
          exact ih
  | case5 n text ih => simpa [IsCleared, lines] using ih
  | case6 n c text hlf ih =>
      cases hends : endsLine (c :: text) with
      | true =>
          -- A carriage return before the line feed adds nothing to what the rest gives.
          obtain ⟨rest, rfl, rfl⟩ : ∃ rest, c = '\r' ∧ text = '\n' :: rest := by
            unfold endsLine at hends
            split at hends <;> simp_all
          rw [clearLine] at ih ⊢
          rw [lines_cr_lf, lines_cr_lf]
          exact ih
      | false =>
          have hcleared : endsLine (c :: clearLine (n + 1) text) = false := by
            rw [endsLine_congr (head?_clearLine_succ n text), hends]
          rw [lines_cons hends, lines_cons hcleared]
          exact ih.extend c

theorem clearLine_zero_cons {c : Char} {text : Text} (h : endsLine (c :: text) = false) :
    clearLine 0 (c :: text) = clearLine 0 text := by
  rw [clearLine.eq_4]
  · rintro rfl
    cases h
  · rintro rest rfl rfl
    cases h

theorem head?_clearLine_zero (text : Text) : (clearLine 0 text).head? ≠ some '\ufeff' := by
  induction text with
  | nil => simp [clearLine]
  | cons c text ih =>
      cases hends : endsLine (c :: text) with
      | true =>
          unfold endsLine at hends
          split at hends <;> simp_all [clearLine]
      | false =>
          rw [clearLine_zero_cons hends]
          exact ih

theorem withoutByteOrderMark_eq_self {text : Text} (h : text.head? ≠ some '\ufeff') :
    withoutByteOrderMark text = text := by
  cases text with
  | nil => rfl
  | cons c text =>
      have hne : '\ufeff' ≠ c := fun heq ↦ h (congrArg some heq.symm)
      simp [withoutByteOrderMark, after?, hne]

theorem withoutByteOrderMark_clearLine (n : Nat) (text : Text) :
    withoutByteOrderMark (clearLine n text) = clearLine n (withoutByteOrderMark text) := by
  cases n with
  | zero =>
      rw [withoutByteOrderMark_eq_self (head?_clearLine_zero text)]
      by_cases hmark : text.head? = some '\ufeff'
      · obtain ⟨rest, rfl⟩ := List.head?_eq_some_iff.1 hmark
        exact clearLine_zero_cons rfl
      · rw [withoutByteOrderMark_eq_self hmark]
  | succ n =>
      by_cases hmark : text.head? = some '\ufeff'
      · obtain ⟨rest, rfl⟩ := List.head?_eq_some_iff.1 hmark
        rfl
      · rw [withoutByteOrderMark_eq_self hmark, withoutByteOrderMark_eq_self]
        rw [head?_clearLine_succ]
        exact hmark

end Text
end Orthography
