import Orthography.Text.Quoted

/-!
# Problems

What can be wrong with affix and dictionary text.  A problem is kept as its cause; the wording is
given by `Problem.message` alone.  No problem stops a text from being loaded: the line it stands
on is left out.
-/

namespace Orthography

/-- A flag in its canonical form, the same for every way of writing flags. -/
abbrev Flag := Nat

/-- On which side of a stem an affix stands. -/
inductive AffixKind where
  | pre
  | suf
  deriving DecidableEq, Repr

def AffixKind.name : AffixKind → String
  | pre => "Prefix"
  | suf => "Suffix"

inductive FlagFault where
  | oddLength
  | wideCharacter
  | notNumber
  | outOfRange
  | notSingle
  | unknownAlias
  /-- A repetition sign in a compound rule has no flag of its own to repeat. -/
  | strayModifier
  | openParenthesis
  deriving DecidableEq, Repr

def FlagFault.reason : FlagFault → String
  | oddLength => "odd number of characters in long flags"
  | wideCharacter => "invalid characters in long flag"
  | notNumber => "numeric flag is not a number"
  | outOfRange => "numeric flag out of range"
  | notSingle => "expected a single flag"
  | unknownAlias => "unknown flag alias"
  | strayModifier => "* and ? must follow a flag"
  | openParenthesis => "unclosed parenthesis"

/-- What a line of an affix text should have held at the place where it became unreadable. -/
inductive Expected where
  | endOfLine
  | blank
  | value
  | number
  | usableValue
  | literal
  deriving DecidableEq, Repr

def Expected.name : Expected → String
  | endOfLine => "Eof"
  | blank => "Space"
  | value => "TakeTill1"
  | number => "Digit"
  | usableValue => "Verify"
  | literal => "Tag"

/-- Why a line cannot be used. -/
inductive LineFault where
  /-- The line breaks off from the grammar at `rest`. -/
  | unreadable (expected : Expected) (rest : Text)
  | noHeader (kind : AffixKind) (flag : Flag)
  | tooFewFields (kind : AffixKind) (flag : Flag)
  | patternFields
  | noWord
  deriving DecidableEq, Repr

def quotedString (text : Text) : String := String.ofList text.quoted

def LineFault.message : LineFault → String
  | unreadable expected rest => expected.name ++ " at " ++ quotedString rest
  | noHeader kind flag => kind.name ++ " entry for " ++ toString flag ++ " without a header"
  | tooFewFields kind flag => kind.name ++ " line for " ++ toString flag ++ " has too few fields"
  | patternFields => "CHECKCOMPOUNDPATTERN needs two or three fields"
  | noWord => "dictionary line without a word"

inductive Problem where
  | malformedFlags (text : Text) (fault : FlagFault)
  | invalidCondition (text : Text)
  | duplicateRule (kind : AffixKind) (flag : Flag)
  | conflictingRule (flag : Flag)
  /-- Line 0 stands for a line whose place is not known yet. -/
  | malformedLine (line : Nat) (fault : LineFault)
  deriving DecidableEq, Repr

namespace Problem

def message : Problem → String
  | malformedFlags text fault =>
      "malformed flag data " ++ quotedString text ++ ": " ++ fault.reason
  | invalidCondition text => "invalid affix condition " ++ quotedString text
  | duplicateRule kind flag =>
      "affix rule " ++ kind.name ++ " " ++ toString flag ++ " is declared more than once"
  | conflictingRule flag =>
      "affix flag " ++ toString flag ++ " is used for both prefixes and suffixes"
  | malformedLine line fault => "line " ++ toString line ++ ": " ++ fault.message

def atLine (line : Nat) : Problem → Problem
  | malformedLine 0 fault => malformedLine line fault
  | other => other

end Problem
end Orthography
