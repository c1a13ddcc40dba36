/-!
# Text

Words, stems and lines are lists of characters.  This module cuts them: at a head or a tail that
is known, at a separator, into lines; it encodes them; and it reads and writes decimal numbers.
-/

namespace Orthography

abbrev Text := List Char

namespace Text

/-- What follows `head` in a text that starts with it. -/
def after? : (head text : Text) → Option Text
  | [], text => some text
  | _ :: _, [] => none
  | a :: head, c :: text => if a = c then after? head text else none

/-- What precedes `tail` in a text that ends with it. -/
def before? (tail text : Text) : Option Text :=
  (after? tail.reverse text.reverse).map List.reverse

theorem after?_eq_some_iff {head text rest : Text} :
    after? head text = some rest ↔ text = head ++ rest := by
  induction head generalizing text with
  | nil => simp [after?, eq_comm]
  | cons a head ih =>
      cases text with
      | nil => simp [after?]
      | cons c text =>
          by_cases h : a = c
          · simp [after?, h, ih]
          · simp [after?, h, Ne.symm h]

theorem before?_eq_some_iff {tail text rest : Text} :
    before? tail text = some rest ↔ text = rest ++ tail := by
  simp only [before?, Option.map_eq_some_iff, after?_eq_some_iff]
  constructor
  · rintro ⟨r, h, rfl⟩
    simpa using congrArg List.reverse h
  · rintro rfl
    exact ⟨rest.reverse, by simp, by simp⟩

/-- The parts before and after the first occurrence of `sep`. -/
def splitOnce? (sep : Text) : Text → Option (Text × Text)
  | [] => (after? sep []).map fun rest ↦ ([], rest)
  | c :: text =>
      match after? sep (c :: text) with
      | some rest => some ([], rest)
      | none => (splitOnce? sep text).map fun (left, right) ↦ (c :: left, right)

theorem eq_append_of_splitOnce? {sep text left right : Text}
    (h : splitOnce? sep text = some (left, right)) : text = left ++ sep ++ right := by
  induction text generalizing left with
  | nil =>
      obtain ⟨rest, hr, he⟩ := Option.map_eq_some_iff.1 h
      obtain ⟨rfl, rfl⟩ := Prod.mk.inj he
      simpa using after?_eq_some_iff.1 hr
  | cons c text ih =>
      simp only [splitOnce?] at h
      split at h
      · rename_i rest hr
        obtain ⟨rfl, rfl⟩ := Prod.mk.inj (Option.some.inj h)
        simpa using after?_eq_some_iff.1 hr
      · obtain ⟨⟨l, r⟩, hl, he⟩ := Option.map_eq_some_iff.1 h
        obtain ⟨rfl, rfl⟩ := Prod.mk.inj he
        simp [ih hl]

/-- The pieces between the occurrences of a character, empty ones included. -/
def splitOn (sep : Char) : Text → List Text
  | [] => [[]]
  | c :: text =>
      if c = sep then [] :: splitOn sep text
      else
        match splitOn sep text with
        | [] => [[c]]
        | piece :: pieces => (c :: piece) :: pieces

/-- The lines of a text.  A carriage return before the line feed belongs to the line's end, and
no empty line follows the last line feed. -/
def lines : Text → List Text
  | [] => []
  | '\n' :: text => [] :: lines text
  | '\r' :: '\n' :: text => [] :: lines text
  | c :: text =>
      match lines text with
      | [] => [[c]]
      | line :: rest => (c :: line) :: rest

def replaceChar (a b : Char) (text : Text) : Text :=
  text.map fun c ↦ if c = a then b else c

/-- A text as it is encoded in UTF-8. -/
def bytes (text : Text) : List UInt8 := text.flatMap String.utf8EncodeChar

def byteSize : Text → Nat
  | [] => 0
  | c :: text => c.utf8Size + byteSize text

@[simp] theorem byteSize_append (a b : Text) : byteSize (a ++ b) = byteSize a + byteSize b := by
  induction a with
  | nil => simp [byteSize]
  | cons c a ih => simp [byteSize, ih, Nat.add_assoc]

def digitsValue (digits : Text) : Nat :=
  digits.foldl (fun n c ↦ 10 * n + (c.toNat - '0'.toNat)) 0

def decimal? (text : Text) : Option Nat :=
  if !text.isEmpty && text.all Char.isDigit then some (digitsValue text) else none

/-- Reads a number below `bound`, with or without a plus sign before it. -/
def numberBelow? (bound : Nat) (text : Text) : Option Nat :=
  let digits := match text with
    | '+' :: rest => rest
    | _ => text
  (decimal? digits).filter (· < bound)

def ofNat (n : Nat) : Text := Nat.toDigits 10 n

theorem decimal?_ofNat (n : Nat) : decimal? (ofNat n) = some n := by
  have hvalue : digitsValue (ofNat n) = n := Nat.ofDigitChars_ten_toDigits
  have hdigits : (ofNat n).all Char.isDigit := by
    rw [List.all_eq_true]
    exact fun _ hc ↦ Nat.isDigit_of_mem_toDigits (by decide) (by decide) hc
  have hempty : (ofNat n).isEmpty = false := by
    rw [List.isEmpty_eq_false_iff]
    exact Nat.toDigits_ne_nil
  simp [decimal?, hvalue, hdigits, hempty]

theorem numberBelow?_ofNat {bound n : Nat} (h : n < bound) :
    numberBelow? bound (ofNat n) = some n := by
  have hplus : (ofNat n).head? ≠ some '+' := by
    intro hhead
    have hdigit := Nat.isDigit_of_mem_toDigits (by decide) (by decide) (List.mem_of_head? hhead)
    exact absurd hdigit (by decide)
  unfold numberBelow?
  split
  · rename_i rest hrest
    rw [hrest] at hplus
    exact absurd rfl hplus
  · simp [decimal?_ofNat, h]

end Text
end Orthography
