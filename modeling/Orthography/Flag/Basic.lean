import Orthography.Problem
import Orthography.Text.Blank

/-!
# Flags

A flag names an affix rule or a special role.  There are four ways of writing a list of flags,
which all lead to the same numbers: `FlagMode.parse` reads them.
-/

namespace Orthography

/-- How flags are written. -/
inductive FlagMode where
  /-- One character each. -/
  | char
  /-- Two characters each. -/
  | long
  /-- Decimal numbers between commas. -/
  | num
  /-- One character each, of any script. -/
  | utf8
  deriving DecidableEq, Repr

namespace FlagMode

open Text

/-- The flags of a text in which each flag has two characters. -/
def pairUp : Text → List Flag
  | a :: b :: text => (a.toNat * 256 + b.toNat) :: pairUp text
  | _ => []

def readLong (text : Text) : Except FlagFault (List Flag) :=
  if text.length % 2 = 1 then .error .oddLength
  else if text.all fun c ↦ c.toNat ≤ 255 then .ok (pairUp text)
  else .error .wideCharacter

/-- One number of a comma-separated list; blanks may surround it. -/
def readNumeral (piece : Text) : Except FlagFault Flag :=
  match decimal? (trim piece) with
  | none => .error .notNumber
  | some n => if n < 65536 then .ok n else .error .outOfRange

def readNum (text : Text) : Except FlagFault (List Flag) :=
  if text.isEmpty then .ok [] else (splitOn ',' text).mapM readNumeral

def read : FlagMode → Text → Except FlagFault (List Flag)
  | char, text | utf8, text => .ok (text.map Char.toNat)
  | long, text => readLong text
  | num, text => readNum text

def parse (mode : FlagMode) (text : Text) : Except Problem (List Flag) :=
  (mode.read text).mapError (.malformedFlags text)

def parseSingle (mode : FlagMode) (text : Text) : Except Problem Flag := do
  match ← mode.parse text with
  | [flag] => pure flag
  | _ => throw (.malformedFlags text .notSingle)

end FlagMode
end Orthography
