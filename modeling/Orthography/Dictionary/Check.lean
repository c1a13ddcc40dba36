import Orthography.Compound.Search
import Orthography.Text.Case

/-!
# Checking words

A word is right if it is a number, or if it is derived from the dictionary, as it stands or in
small letters, by affixes, by compounding, or as several right words with breaks between them.
-/

namespace Orthography
namespace Text

/-- Digits with single dots and commas between them; `afterDigit` tells whether a digit comes
before. -/
def isDotted (afterDigit : Bool) : Text → Bool
  | [] => true
  | c :: text =>
      if c = '.' ∨ c = ',' then afterDigit && isDotted false text
      else c.isDigit && isDotted true text

/-- Numbers may have a minus sign before them and a dash behind them. -/
def isNumeric (word : Text) : Bool :=
  let word := (before? ['-', '-'] word).getD word
  let word := (after? ['-'] word).getD word
  !word.isEmpty && isDotted false word

/-- The pieces that a break text makes of a word: one piece if the break is anchored at an end of
the word, and two pieces otherwise. -/
def anchoredPieces? (word brk : Text) : Option (List Text) :=
  match after? ['^'] brk with
  | some brk => (after? brk word).map ([·])
  | none =>
      match before? ['$'] brk with
      | some brk => (before? brk word).map ([·])
      | none => none

def splitPieces? (word brk : Text) : Option (List Text) :=
  if (after? ['^'] brk).isSome || (before? ['$'] brk).isSome then none
  else (splitOnce? brk word).map fun (left, right) ↦ [left, right]

/-- All ways of breaking a word; those at its ends come first.  No piece is empty. -/
def breakings (breaks : List Text) (word : Text) : List (List Text) :=
  (breaks.filterMap (anchoredPieces? word) ++ breaks.filterMap (splitPieces? word)).filter
    fun pieces ↦ pieces.all fun piece ↦ !piece.isEmpty

end Text

/-! ## Counted attempts -/

/-- Makes attempts until one fails, and counts them on. -/
def tryAll (attempt : Text → Nat → Bool × Nat) : List Text → Nat → Bool × Nat
  | [], count => (true, count)
  | piece :: pieces, count =>
      match attempt piece count with
      | (true, count) => tryAll attempt pieces count
      | (false, count) => (false, count)

/-- Makes attempts until all those of one list succeed, and counts them on. -/
def tryAny (attempt : Text → Nat → Bool × Nat) : List (List Text) → Nat → Bool × Nat
  | [], count => (false, count)
  | pieces :: more, count =>
      match tryAll attempt pieces count with
      | (true, count) => (true, count)
      | (false, count) => tryAny attempt more count

/-- No more than this many further attempts are made at a word by breaking it. -/
def maxBreakAttempts : Nat := 1000

/-- Whether a word or the pieces it breaks into are accepted.  Attempts are counted across the
whole search, and those beyond the limit fail.  As every attempt that breaks a word counts,
`fuel` ends the search no earlier than the limit does if it exceeds the limit at the start. -/
def attempt (accepts : Text → Bool) (breaks : List Text) :
    (fuel : Nat) → Text → Nat → Bool × Nat
  | 0, _, count => (false, count)
  | fuel + 1, word, count =>
      if maxBreakAttempts < count then (false, count)
      else if accepts word then (true, count + 1)
      else tryAny (attempt accepts breaks fuel) (Text.breakings breaks word) (count + 1)

namespace Dictionary

variable (dictionary : Dictionary)

/-- A word as it is looked up: without blanks around it, converted, and without the characters
that do not count. -/
def prepare (word : Text) : Text :=
  dictionary.settings.stripIgnored (dictionary.settings.inputs.convert (Text.trim word))

/-- A word is forbidden if all its homonyms are. -/
def isForbidden (word : Text) : Bool :=
  match dictionary.settings.roles.flagOf .forbidden with
  | some flag => dictionary.lexicon.allHomonymsHave word flag
  | none => false

/-- The forms of a word to look up, and whether the case of each has been changed. -/
def caseVariants (word : Text) : List (Text × Bool) :=
  let casing := dictionary.settings.casing
  (word, false) ::
    match CapStyle.ofText word with
    | .capitalized => [(casing.lowercase word, true)]
    | .allCaps => [(casing.lowercase word, true), (casing.titlecase word, true)]
    | _ => []

/-- The forms of a word that are worth looking up: a form in another case may not be forbidden. -/
def usableVariants (word : Text) : List (Text × Bool) :=
  (dictionary.caseVariants word).filter fun (form, folded) ↦
    !(folded && dictionary.isForbidden form)

/-- Whether a word is accepted in its own case, by affixes or as a compound. -/
def acceptsExactly (purpose : Purpose) (word : Text) : Bool :=
  dictionary.accepts purpose .alone word || dictionary.isCompound purpose word

/-- Whether a word is accepted in its own case or in one that it may stand for. -/
def acceptsCased (suggesting : Bool) (word : Text) : Bool :=
  (dictionary.usableVariants word).any fun (form, folded) ↦
    dictionary.acceptsExactly { folded, suggesting } form

/-- Whether a word is accepted whole or in pieces, with the number of attempts. -/
def attempts (suggesting : Bool) (word : Text) (count : Nat) : Bool × Nat :=
  attempt (dictionary.acceptsCased suggesting) dictionary.settings.breaks (maxBreakAttempts + 1)
    word count

def acceptsBroken (suggesting : Bool) (word : Text) : Bool :=
  (dictionary.attempts suggesting word 0).1

def check (word : Text) : Bool :=
  let word := dictionary.prepare word
  word.isEmpty || Text.isNumeric word ||
    !dictionary.isForbidden word && dictionary.acceptsBroken false word

end Dictionary
end Orthography
