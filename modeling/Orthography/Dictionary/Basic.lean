import Orthography.Lexicon.Line
import Orthography.Settings.Reader

/-!
# Dictionaries

A dictionary is a lexicon with the settings of its language.  Marks are kept in step with the
settings when the two are put together.
-/

namespace Orthography

structure Dictionary where
  settings : Settings
  lexicon : Lexicon

namespace Dictionary

/-- Puts settings and a lexicon together, with all marks computed from the settings. -/
def ofParts (settings : Settings) (lexicon : Lexicon) : Dictionary :=
  { settings := { settings with affixes := settings.affixes.withMarks settings.roles }
    lexicon := lexicon.withMarks settings.roles }

/-- Comments begin with a tab. -/
def isSkipped (line : Text) : Bool := line.head? == some '\t' || line.all Text.isBlank

def readLine (dictionary : Dictionary) (number : Nat) (line : Text) : Dictionary :=
  if isSkipped line then dictionary
  else
    match Entry.parse dictionary.settings line with
    | .ok entry => { dictionary with lexicon := dictionary.lexicon.add entry }
    | .error problem =>
        { dictionary with settings := dictionary.settings.report (problem.atLine number) }

/-- Reads the lines of a dictionary text.  The first one only tells how many there are. -/
def readWords (dictionary : Dictionary) (text : Text) : Dictionary :=
  let lines := (Text.lines (Text.withoutByteOrderMark text)).zipIdx 1
  (lines.drop 1).foldl (fun d (line, number) ↦ d.readLine number line) dictionary

def load (words affixes : Text) : Except Unusable Dictionary :=
  (Settings.parse affixes).map fun settings ↦ (ofParts settings .empty).readWords words

def problems (dictionary : Dictionary) : List Problem := dictionary.settings.problems

end Dictionary
end Orthography
