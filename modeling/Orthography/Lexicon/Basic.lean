import Std.Data.ExtTreeMap
import Orthography.Flag.Role
import Orthography.Morph

/-!
# Lexicon

The stems of a dictionary.  Several entries may share a stem; they are homonyms and keep the order
in which they came.  The number of stems under each first letter is kept beside them, so that a
search can tell at once where no stem begins.
-/

namespace Orthography

structure Entry where
  stem : Text
  flags : FlagSet
  morph : List MorphField
  marks : Marks
  deriving DecidableEq

namespace Entry

def hasFlag (entry : Entry) (flag : Flag) : Bool := entry.flags.contains flag

def hasRole (entry : Entry) (role : Role) : Bool := entry.marks.contains role

def withMarks (roles : Roles) (entry : Entry) : Entry :=
  { entry with marks := roles.marks entry.flags }

end Entry

structure Lexicon where
  homonyms : Std.ExtTreeMap Text (List Entry)
  initials : Std.ExtTreeMap Char Nat

namespace Lexicon

def empty : Lexicon := ⟨∅, ∅⟩

def size (lexicon : Lexicon) : Nat := lexicon.homonyms.size

def isEmpty (lexicon : Lexicon) : Bool := lexicon.homonyms.isEmpty

/-- The entries of a stem, none if it is unknown. -/
def lookup (lexicon : Lexicon) (stem : Text) : List Entry := lexicon.homonyms.getD stem []

def contains (lexicon : Lexicon) (stem : Text) : Bool := lexicon.homonyms.contains stem

/-- All entries, by stem and then in the order in which they came. -/
def entries (lexicon : Lexicon) : List Entry := lexicon.homonyms.toList.flatMap (·.2)

def mayBegin (lexicon : Lexicon) (c : Char) : Bool := lexicon.initials.contains c

def countUp (initials : Std.ExtTreeMap Char Nat) (stem : Text) : Std.ExtTreeMap Char Nat :=
  match stem with
  | [] => initials
  | c :: _ => initials.alter c fun count ↦ some (count.getD 0 + 1)

/-- Counts one stem less; a letter without stems is not kept. -/
def countDown (initials : Std.ExtTreeMap Char Nat) (stem : Text) : Std.ExtTreeMap Char Nat :=
  match stem with
  | [] => initials
  | c :: _ => initials.alter c fun count ↦
      match count with
      | some (n + 2) => some (n + 1)
      | _ => none

def add (lexicon : Lexicon) (entry : Entry) : Lexicon :=
  { homonyms := lexicon.homonyms.insert entry.stem (lexicon.lookup entry.stem ++ [entry])
    initials :=
      if lexicon.contains entry.stem then lexicon.initials
      else countUp lexicon.initials entry.stem }

/-- Removes the entries of a stem that satisfy `p`, and tells how many they were. -/
def removeMatching (lexicon : Lexicon) (stem : Text) (p : Entry → Bool) : Lexicon × Nat :=
  let kept := (lexicon.lookup stem).filter fun entry ↦ !p entry
  let removed := (lexicon.lookup stem).length - kept.length
  if !lexicon.contains stem then (lexicon, 0)
  else if kept.isEmpty then
    (⟨lexicon.homonyms.erase stem, countDown lexicon.initials stem⟩, removed)
  else (⟨lexicon.homonyms.insert stem kept, lexicon.initials⟩, removed)

def remove (lexicon : Lexicon) (stem : Text) : Lexicon × Nat :=
  lexicon.removeMatching stem fun _ ↦ true

def anyHomonymHas (lexicon : Lexicon) (stem : Text) (flag : Flag) : Bool :=
  (lexicon.lookup stem).any (·.hasFlag flag)

/-- An unknown stem has no homonyms and so does not qualify. -/
def allHomonymsHave (lexicon : Lexicon) (stem : Text) (flag : Flag) : Bool :=
  let homonyms := lexicon.lookup stem
  !homonyms.isEmpty && homonyms.all (·.hasFlag flag)

def withMarks (roles : Roles) (lexicon : Lexicon) : Lexicon :=
  { lexicon with homonyms := lexicon.homonyms.map fun _ entries ↦ entries.map (.withMarks roles) }

end Lexicon
end Orthography
