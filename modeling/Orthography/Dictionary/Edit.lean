import Orthography.Dictionary.Check

/-!
# Changing a dictionary

Words can be added with flags and fields of their own or after the model of another word, and
removed.  Each operation gives the new dictionary together with its result.
-/

namespace Orthography
namespace Dictionary

variable (dictionary : Dictionary)

/-- Adds an entry for a word, unless the same entry is there.  Only an empty word is refused. -/
def addEntry (word : Text) (flags : FlagSet) (morph : List MorphField) : Dictionary × Bool :=
  let word := dictionary.prepare word
  if word.isEmpty then (dictionary, false)
  else
    let entry := Entry.new dictionary.settings word flags morph
    if (dictionary.lexicon.lookup entry.stem).contains entry then (dictionary, true)
    else ({ dictionary with lexicon := dictionary.lexicon.add entry }, true)

def addWord (word : Text) : Dictionary × Bool := dictionary.addEntry word .empty []

def addWordWithFlags (word flags : Text) : Except Problem (Dictionary × Bool) :=
  (dictionary.settings.parseFlags flags).map fun flags ↦ dictionary.addEntry word flags []

/-- Adds a word with the flags and fields of the first homonym of a model, so that it takes the
same affixes.  It is refused if the model is unknown. -/
def addWordLike (word model : Text) : Dictionary × Bool :=
  match dictionary.lexicon.lookup (dictionary.prepare model) with
  | [] => (dictionary, false)
  | entry :: _ => dictionary.addEntry word entry.flags entry.morph

/-- Removes the homonyms of a word that satisfy `p`, and tells how many they were. -/
def removeWordMatching (word : Text) (p : Entry → Bool) : Dictionary × Nat :=
  let (lexicon, removed) := dictionary.lexicon.removeMatching (dictionary.prepare word) p
  ({ dictionary with lexicon }, removed)

def removeWord (word : Text) : Dictionary × Bool :=
  let (dictionary, removed) := dictionary.removeWordMatching word fun _ ↦ true
  (dictionary, removed != 0)

end Dictionary
end Orthography
