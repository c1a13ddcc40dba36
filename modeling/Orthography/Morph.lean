import Orthography.Text.Blank

/-!
# Morphological fields

Words and affixes are described by fields such as `po:noun`: a tag of two characters and a value.
-/

namespace Orthography

structure MorphField where
  tag : Text
  value : Text
  deriving DecidableEq, Repr

namespace MorphField

/-- Reads one token; the first colon ends the tag. -/
def parse? (token : Text) : Option MorphField := do
  let (tag, value) ← Text.splitOnce? [':'] token
  if tag.length = 2 ∧ value ≠ [] then some ⟨tag, value⟩ else none

/-- The fields among the tokens of a text; tokens of another form are passed over. -/
def parseList (text : Text) : List MorphField := (Text.tokens text).filterMap parse?

def render (field : MorphField) : Text := field.tag ++ ':' :: field.value

def stemTag : Text := ['s', 't']

/-- The tags of the fields that an analysis shows beside the stem. -/
def analysisTags : List Text :=
  [['p', 'o'], ['a', 'l'], ['t', 's'], ['i', 's'], ['d', 's'], ['d', 'p'], ['s', 'p']]

def isShown (field : MorphField) : Bool := analysisTags.contains field.tag

end MorphField
end Orthography
