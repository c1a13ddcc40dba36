import Orthography.Dictionary.Check

/-!
# Analyses

For a word that is accepted, `Dictionary.stems` gives the stems that it comes from and
`Dictionary.analyses` describes how it is built, each time without repetition.  Compounds are
considered only for forms that have no derivation by affixes.
-/

namespace Orthography

/-- A description of a derivation: the stem, and the fields of the root and of the affixes. -/
def Derivation.describe (d : Derivation) : Text :=
  let shown := (d.root.morph ++ d.affixes.flatMap (·.morph)).filter (·.isShown)
  let fields := (⟨MorphField.stemTag, d.root.stem⟩ :: shown).map MorphField.render
  List.intercalate [' '] fields

namespace Segment

def describe (parts : List Segment) : Text :=
  List.intercalate [' '] (parts.map (·.derivation.describe))

/-- The stem of a compound: its parts as they stand, but for the last one its root. -/
def stem (parts : List Segment) : Text :=
  match parts.getLast? with
  | none => []
  | some last => parts.dropLast.flatMap (·.text) ++ last.derivation.root.stem

end Segment

/-- No more than this many stems or analyses are given for one word. -/
def maxAnalyses : Nat := 100

def addNew (results : List Text) (text : Text) : List Text :=
  if results.contains text then results else results ++ [text]

def gather (results : List Text) (texts : LazyList Text) : List Text :=
  texts.foldUntil (maxAnalyses ≤ ·.length) addNew results

namespace Dictionary

variable (dictionary : Dictionary) (simple : Derivation → Text) (compound : List Segment → Text)

def waysOf (purpose : Purpose) (form : Text) : LazyList Text :=
  let derivations := dictionary.derivations purpose .alone form
  if derivations.isEmpty then (dictionary.divisions purpose form).map compound
  else derivations.map simple

def ways (word : Text) : List Text :=
  let word := dictionary.prepare word
  if word.isEmpty || dictionary.isForbidden word then []
  else
    (dictionary.usableVariants word).foldl (fun results (form, folded) ↦
      gather results (waysOf dictionary simple compound { folded } form)) []

def stems (word : Text) : List Text :=
  ways dictionary (fun d ↦ d.root.stem) Segment.stem word

def analyses (word : Text) : List Text :=
  ways dictionary Derivation.describe Segment.describe word

end Dictionary
end Orthography
