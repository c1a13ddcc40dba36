import Orthography.Lexicon.Basic
import Orthography.Settings.Basic

/-!
# Lines of a dictionary

A line holds one entry: the word, perhaps a slash and flags, and perhaps morphological fields.  A
slash that belongs to the word is written behind a backslash.  Where there are no flags the fields
are told from the words of a phrase by their form.
-/

namespace Orthography
namespace Entry

open Text

/-- A new entry for a stem, with the characters that do not count taken out. -/
def new (settings : Settings) (stem : Text) (flags : FlagSet) (morph : List MorphField) : Entry :=
  { stem := settings.stripIgnored stem, flags, morph, marks := settings.roles.marks flags }

/-- The parts before and after the first slash that separates; neither one behind a backslash nor
one at the very start does. -/
def splitAtSlash? (escaped atStart : Bool) : Text → Option (Text × Text)
  | [] => none
  | c :: text =>
      if c = '/' ∧ !escaped ∧ !atStart then some ([], text)
      else
        (splitAtSlash? (c == '\\' && !escaped) false text).map fun (word, rest) ↦
          (c :: word, rest)

/-- Whether a text begins with the tag of a field: alphanumeric characters of two bytes in all,
and a colon. -/
def startsWithTag : Text → Bool
  | a :: b :: rest =>
      isAlphanumeric a &&
        (a.utf8Size == 2 && b == ':' ||
          a.utf8Size == 1 && b.utf8Size == 1 && isAlphanumeric b && rest.head? == some ':')
  | _ => false

/-- The parts before and after the first gap behind which a field begins. -/
def splitAtField? : Text → Option (Text × Text)
  | [] => none
  | c :: text =>
      if (c = ' ' ∨ c = '\t') ∧ startsWithTag text then some ([], text)
      else (splitAtField? text).map fun (word, fields) ↦ (c :: word, fields)

def unescape : Text → Text
  | [] => []
  | '\\' :: '/' :: text => '/' :: unescape text
  | c :: text => c :: unescape text

def split (line : Text) : Text × Text × Text :=
  match splitAtSlash? false true line with
  | some (word, rest) =>
      let (flags, fields) := token rest
      (word, flags, fields)
  | none =>
      match splitAtField? line with
      | some (word, fields) => (word, [], fields)
      | none => (line, [], [])

def parse (settings : Settings) (line : Text) : Except Problem Entry := do
  let (word, flags, fields) := split (trimEnd line)
  let word := unescape (trim word)
  if word.isEmpty then throw (.malformedLine 0 .noWord)
  let flags ← settings.parseFlags flags
  pure (new settings word flags (settings.parseMorph fields))

end Entry
end Orthography
