import Orthography.Dictionary.Check
import Orthography.Suggestion.Candidates

/-!
# Suggestions

Candidates from several sources are tried in turn, and those that are right are kept, without
repetition, until there are as many as are asked for.
-/

namespace Orthography

/-- No more than this many candidates from one source are tried. -/
def maxPerSource : Nat := 1000

structure Source where
  /-- Whether the candidates stand as they are; otherwise they take the case of the word. -/
  exact : Bool
  candidates : LazyList Text

/-- The suggestions so far, and how many candidates of the present source may still be tried. -/
structure Collection where
  found : List Text
  left : Nat

def Collection.isFull (max : Nat) (collection : Collection) : Bool :=
  max ≤ collection.found.length || collection.left == 0

namespace Dictionary

variable (dictionary : Dictionary)

/-- Whether a word may be offered as a correction; of a phrase all words must be right. -/
def mayOffer (word : Text) : Bool :=
  if dictionary.isForbidden word then false
  else if dictionary.acceptsBroken true word then true
  else
    match h : Text.splitOnce? [' '] word with
    | none => false
    | some (left, right) =>
        have hlen : word.length = left.length + (right.length + 1) := by
          simpa using congrArg List.length (Text.eq_append_of_splitOnce? h)
        !left.isEmpty && !right.isEmpty && mayOffer left && mayOffer right
termination_by word.length

variable (word : Text) (max : Nat)

/-- Whether a text is neither the word itself nor found already. -/
def isNew (found : List Text) (candidate : Text) : Bool :=
  candidate != word && !found.contains candidate

/-- The candidate in the case of the word, if that is another text. -/
def recased? (candidate : Text) : Option Text :=
  let casing := dictionary.settings.casing
  let cased := match CapStyle.ofText word with
    | .capitalized => casing.titlecase candidate
    | .allCaps => casing.uppercase candidate
    | _ => candidate
  if cased = candidate then none else some cased

/-- The form in which a new candidate is offered: in the case of the word if that is right, and
as it stands otherwise.  Where the cased form is known already it is not offered at all. -/
def form? (exact : Bool) (found : List Text) (candidate : Text) : Option Text :=
  let cased := if exact then none else recased? dictionary word candidate
  if cased.all (isNew word found) then (cased.toList ++ [candidate]).find? dictionary.mayOffer
  else none

/-- Tries a candidate, if it is new and there is room for more. -/
def offer (exact : Bool) (collection : Collection) (candidate : Text) : Collection :=
  if collection.isFull max || !isNew word collection.found candidate then collection
  else
    { found := collection.found ++ (form? dictionary word exact collection.found candidate).toList
      left := collection.left - 1 }

def collect (found : List Text) (source : Source) : List Text :=
  (source.candidates.foldUntil (·.isFull max) (offer dictionary word max source.exact)
    ⟨found, maxPerSource⟩).found

/-- The sources of corrections, the most likely first. -/
def sources : List Source :=
  let settings := dictionary.settings
  let casing := settings.casing
  let rows := settings.keyboard.getD []
  let chars := settings.tryChars.getD []
  [⟨true, .ofList [casing.titlecase word, casing.lowercase word, casing.uppercase word]⟩,
   ⟨false, Candidates.keyboard rows word⟩,
   ⟨false, Candidates.related settings.related word⟩,
   ⟨false, Candidates.replaced chars word⟩,
   ⟨false, Candidates.swapped word⟩,
   ⟨false, Candidates.deleted word⟩,
   ⟨false, Candidates.inserted chars word⟩,
   ⟨false, Candidates.divided word⟩,
   ⟨false, .ofList (settings.replacements.candidates word)⟩]

def suggestionsFor : List Text :=
  if word.isEmpty then [] else (sources dictionary word).foldl (collect dictionary word max) []

/-- At most `max` corrections of a word, the best first. -/
def suggestions (word : Text) (max : Nat) : List Text :=
  (dictionary.suggestionsFor (dictionary.prepare word) max).map dictionary.settings.outputs.convert

end Dictionary
end Orthography
