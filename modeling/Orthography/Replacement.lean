import Orthography.Text.Basic

/-!
# Replacements

A table of replacements serves two ends.  `convert` goes over a whole word and
replaces the longest match at each position; `candidates` lists the words that one single
replacement makes.
-/

namespace Orthography

/-- Puts `result` in the place of `pattern`.  An anchored pattern stands only at the start of the
word, or only at its end. -/
structure Replacement where
  atStart : Bool
  atEnd : Bool
  pattern : Text
  result : Text
  deriving DecidableEq, Repr

/-- Whether a replacement applies where `text` is what is left of the word. -/
def Replacement.applies (r : Replacement) (isStart : Bool) (text : Text) : Bool :=
  if r.atStart && !isStart then false
  else if r.atEnd then text == r.pattern
  else (Text.after? r.pattern text).isSome

/-- Reads a pattern whose anchors are written as signs at its ends; without characters of its own
it is no pattern. -/
def Replacement.ofPattern? (pattern result : Text) : Option Replacement :=
  let (atStart, pattern) := match Text.after? ['^'] pattern with
    | some rest => (true, rest)
    | none => (false, pattern)
  let (atEnd, pattern) := match Text.before? ['$'] pattern with
    | some rest => (true, rest)
    | none => (false, pattern)
  if pattern.isEmpty then none else some ⟨atStart, atEnd, pattern, result⟩

abbrev Replacements := List Replacement

namespace Replacements

def push (table : Replacements) (pattern result : Text) : Replacements :=
  table ++ (Replacement.ofPattern? pattern result).toList

/-- As `push`, with underscores for spaces. -/
def pushSpaced (table : Replacements) (pattern result : Text) : Replacements :=
  table.push (Text.replaceChar '_' ' ' pattern) (Text.replaceChar '_' ' ' result)

/-- The longer of two patterns, the first one if they are equally long. -/
def longer (best : Option Replacement) (r : Replacement) : Option Replacement :=
  match best with
  | none => some r
  | some b => if b.pattern.length < r.pattern.length then some r else some b

def longest? (table : Replacements) (isStart : Bool) (text : Text) : Option Replacement :=
  (table.filter (·.applies isStart text)).foldl longer none

/-- Converts a text of which the first `skip` characters are already replaced. -/
def convertFrom (table : Replacements) (isStart : Bool) : (skip : Nat) → Text → Text
  | _, [] => []
  | skip + 1, _ :: text => convertFrom table false skip text
  | 0, c :: text =>
      match table.longest? isStart (c :: text) with
      | some r => r.result ++ convertFrom table false (r.pattern.length - 1) text
      | none => c :: convertFrom table false 0 text

/-- Converts a word from left to right.  What a replacement writes is not looked at again. -/
def convert (table : Replacements) (word : Text) : Text := convertFrom table true 0 word

theorem convertFrom_nil {isStart : Bool} (text : Text) :
    convertFrom [] isStart 0 text = text := by
  induction text generalizing isStart with
  | nil => rfl
  | cons c text ih => simp [convertFrom, longest?, ih]

theorem convert_nil (text : Text) : convert [] text = text := convertFrom_nil text

/-- The words made by one replacement at or after a place, with `before` the text up to it. -/
def candidatesFrom (table : Replacements) (before : Text) : Text → List Text
  | [] => []
  | c :: text =>
      (table.filter (·.applies before.isEmpty (c :: text))).map
          (fun r ↦ before ++ r.result ++ (c :: text).drop r.pattern.length) ++
        candidatesFrom table (before ++ [c]) text

/-- The words made by one replacement, from left to right and in table order at each place. -/
def candidates (table : Replacements) (word : Text) : List Text := candidatesFrom table [] word

end Replacements
end Orthography
