import Orthography.Lexicon.Basic

/-!
# Compound patterns

A pattern speaks of the place where two parts of a compound meet.  Without a replacement it
forbids parts of a certain form to stand side by side; with one it lets the parts be joined by
letters that stand for the end of the one and the beginning of the other.
-/

namespace Orthography

/-- The letters that a pattern asks for on one side of the meeting place, and the flag that it
asks of the part there. -/
structure PatternSide where
  chars : Text
  flag : Option Flag
  deriving DecidableEq, Repr

structure CompoundPattern where
  ending : PatternSide
  beginning : PatternSide
  replacement : Option Text
  deriving DecidableEq, Repr

/-- Reads letters with a flag after a slash; a lone zero stands for no letters. -/
def PatternSide.parse (mode : FlagMode) (text : Text) : Except Problem PatternSide := do
  match Text.splitOnce? ['/'] text with
  | some (chars, flag) =>
      let flag ← mode.parseSingle flag
      pure ⟨if chars = ['0'] then [] else chars, some flag⟩
  | none => pure ⟨if text = ['0'] then [] else text, none⟩

def PatternSide.allows (side : PatternSide) (root : Entry) : Bool :=
  match side.flag with
  | none => true
  | some flag => root.hasFlag flag

namespace CompoundPattern

def ofFields (mode : FlagMode) (fields : List Text) : Except Problem CompoundPattern := do
  match fields with
  | ending :: beginning :: more =>
      let ending ← PatternSide.parse mode ending
      let beginning ← PatternSide.parse mode beginning
      pure ⟨ending, beginning, more.head?⟩
  | _ => throw (.malformedLine 0 .patternFields)

/-- Whether the roots of two parts carry the flags that the pattern asks for. -/
def flagsMatch (pattern : CompoundPattern) (left right : Entry) : Bool :=
  pattern.ending.allows left && pattern.beginning.allows right

def forbids (pattern : CompoundPattern) (left : Text) (leftRoot : Entry) (right : Text)
    (rightRoot : Entry) : Bool :=
  pattern.replacement.isNone && (Text.before? pattern.ending.chars left).isSome &&
    (Text.after? pattern.beginning.chars right).isSome && pattern.flagsMatch leftRoot rightRoot

end CompoundPattern
end Orthography
