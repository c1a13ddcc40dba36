import Orthography.Compound.Rule

/-!
# Following a compound rule

Words are held against a rule one after the other, and all places of the rule that they may have
come to are kept in a `Progress`.  So each word is asked for each flag of the rule at most once,
however many ways there are to spread the words over the rule.
-/

namespace Orthography

/-- Whether words may stand before an element and whether they may stand behind it, if `came` says
whether the elements before it can end here and `reads` whether it can take the latest word. -/
def RuleElement.pass (came reads : Bool) : RuleElement → Bool × Bool
  | once _ => (came, reads)
  | optional _ => (came, came || reads)
  | multi _ => (came || reads, came || reads)

namespace CompoundRule

/-- The places of a rule that some words may have come to. -/
structure Progress where
  /-- The elements of the rule, each with whether the words may stand before it. -/
  marks : List (Bool × RuleElement)
  complete : Bool

namespace Progress

/-- The places behind one more word in what is left of a rule.  The word carries the flags that
`has` tells, and `came` says whether the elements before can end with it. -/
def advanceFrom (has : Flag → Bool) (came : Bool) : List (Bool × RuleElement) → Progress
  | [] => ⟨[], came⟩
  | (live, element) :: marks =>
      let (here, onward) := element.pass came (live && has element.flag)
      let rest := advanceFrom has onward marks
      ⟨(here, element) :: rest.marks, rest.complete⟩

def advance (progress : Progress) (has : Flag → Bool) : Progress :=
  advanceFrom has false progress.marks

/-- The places of a rule before any word: its beginning, and what optional elements lead on to. -/
def start (rule : CompoundRule) : Progress :=
  advanceFrom (fun _ ↦ false) true (rule.map (false, ·))

def isOpen (progress : Progress) : Bool :=
  progress.complete || progress.marks.any (·.1)

end Progress

variable (carries : Text → Flag → Bool)

/-- The places that words lead to. -/
def follow (rule : CompoundRule) (words : List Text) : Progress :=
  words.foldl (fun progress word ↦ progress.advance (carries word)) (.start rule)

end CompoundRule
end Orthography
