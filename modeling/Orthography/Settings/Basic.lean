import Orthography.Affix.Table
import Orthography.Compound.Pattern
import Orthography.Compound.Rule
import Orthography.Replacement
import Orthography.Text.Case

/-!
# Settings

Everything that an affix text lays down for a language: the affixes themselves, and the options
that govern checking, compounding and correction.
-/

namespace Orthography

structure Settings where
  affixes : AffixTable := .empty
  flagMode : FlagMode := .char
  roles : Roles := .none
  casing : Casing := .standard
  /-- The rows of the keyboard, for corrections. -/
  keyboard : Option Text := none
  tryChars : Option Text := none
  /-- Characters that are taken out of words and stems before they are compared. -/
  ignored : List Char := []
  /-- The least length of a part of a compound. -/
  compoundMin : Nat := 3
  compoundMax : Option Nat := none
  /-- No part of a compound may be followed by itself. -/
  forbidDouble : Bool := false
  /-- No capital may stand where parts of a compound meet. -/
  forbidCapitals : Bool := false
  /-- No letter may stand three times in a row where parts of a compound meet. -/
  forbidTriple : Bool := false
  /-- An affix may replace the whole stem. -/
  fullStrip : Bool := false
  patterns : List CompoundPattern := []
  rules : List CompoundRule := []
  replacements : Replacements := []
  /-- Conversions of words before they are looked up. -/
  inputs : Replacements := []
  outputs : Replacements := []
  /-- Groups of letters that are easily taken for one another. -/
  related : List Text := []
  /-- Where a word may be broken into parts that are checked one by one. -/
  breaks : List Text := []
  flagAliases : List FlagSet := []
  morphAliases : List (List MorphField) := []
  /-- What was left out, and why. -/
  problems : List Problem := []

namespace Settings

/-- Every part of a compound has at least one character, whatever the settings say. -/
def leastPart (settings : Settings) : Nat := max settings.compoundMin 1

def aliasNumber? (text : Text) : Option Nat := Text.numberBelow? UInt64.size text

/-- The member of a list that a number counted from one names. -/
def numbered? {α : Type} (list : List α) : Nat → Option α
  | 0 => none
  | n + 1 => list[n]?

/-- Reads flags.  Where there are flag aliases, a number stands for the flags of that alias. -/
def parseFlags (settings : Settings) (text : Text) : Except Problem FlagSet :=
  if settings.flagAliases.isEmpty || text.isEmpty then FlagSet.parse settings.flagMode text
  else
    match aliasNumber? text with
    | none => FlagSet.parse settings.flagMode text
    | some n =>
        match numbered? settings.flagAliases n with
        | some flags => .ok flags
        | none => .error (.malformedFlags text .unknownAlias)

/-- Reads morphological fields.  Where there are aliases for fields, a number stands for the
fields of that alias, and for none if there is no such alias. -/
def parseMorph (settings : Settings) (text : Text) : List MorphField :=
  let text := Text.trim text
  if settings.morphAliases.isEmpty then MorphField.parseList text
  else
    match aliasNumber? text with
    | none => MorphField.parseList text
    | some n => (numbered? settings.morphAliases n).getD []

def stripIgnored (settings : Settings) (word : Text) : Text :=
  word.filter fun c ↦ !settings.ignored.contains c

def report (settings : Settings) (problem : Problem) : Settings :=
  { settings with problems := settings.problems ++ [problem] }

end Settings
end Orthography
