import Orthography.Condition
import Orthography.Flag.Role
import Orthography.Morph

/-!
# Affixes

An affix rule is named by a flag, and its entries are the ways of attaching it: an entry takes
`strip` off the stem and puts `add` there, if the stem satisfies its condition.
-/

namespace Orthography

structure AffixEntry where
  flag : Flag
  kind : AffixKind
  /-- Whether the entry goes together with an affix on the other side. -/
  cross : Bool
  strip : Text
  add : Text
  condition : Condition
  /-- Flags of the affixed word, such as that of a second suffix. -/
  contFlags : FlagSet
  morph : List MorphField
  marks : Marks
  deriving DecidableEq

namespace AffixEntry

def hasContFlag (entry : AffixEntry) (flag : Flag) : Bool := entry.contFlags.contains flag

def hasRole (entry : AffixEntry) (role : Role) : Bool := entry.marks.contains role

def withMarks (roles : Roles) (entry : AffixEntry) : AffixEntry :=
  { entry with marks := roles.marks entry.contFlags }

end AffixEntry

structure AffixRule where
  flag : Flag
  kind : AffixKind
  cross : Bool
  entries : List AffixEntry
  deriving DecidableEq

namespace AffixRule

def new (kind : AffixKind) (flag : Flag) (cross : Bool) : AffixRule := ⟨flag, kind, cross, []⟩

/-- An entry of the rule, as yet without marks. -/
def entry (rule : AffixRule) (strip add : Text) (condition : Condition) (contFlags : FlagSet)
    (morph : List MorphField) : AffixEntry :=
  { flag := rule.flag, kind := rule.kind, cross := rule.cross, strip, add, condition, contFlags,
    morph, marks := [] }

def push (rule : AffixRule) (entry : AffixEntry) : AffixRule :=
  { rule with entries := rule.entries ++ [entry] }

def withMarks (roles : Roles) (rule : AffixRule) : AffixRule :=
  { rule with entries := rule.entries.map (.withMarks roles) }

end AffixRule
end Orthography
