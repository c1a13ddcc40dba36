import Orthography.Affix.Basic
import Orthography.Lexicon.Basic

/-!
# Derivations

A derivation is one way of building a word: a root with at most one prefix and at most two
suffixes.  `Derivation.isAllowed` says which of them count where, by the roles of their flags.
-/

namespace Orthography

/-- Where a word stands: on its own, or as a part of a compound. -/
inductive Position where
  | alone
  | first
  | inner
  | last
  deriving DecidableEq, Repr

def Position.role? : Position → Option Role
  | alone => none
  | first => some .compoundBegin
  | inner => some .compoundMiddle
  | last => some .compoundEnd

/-- What a word is looked up for. -/
structure Purpose where
  /-- Its case has been changed, so roots that keep their case do not count. -/
  folded : Bool := false
  /-- It is to be offered as a correction, so words that must not be offered do not count. -/
  suggesting : Bool := false
  deriving DecidableEq, Repr

structure Derivation where
  root : Entry
  front : Option AffixEntry := none
  /-- The suffix that is attached to the root itself. -/
  inner : Option AffixEntry := none
  outer : Option AffixEntry := none
  deriving DecidableEq

namespace Derivation

def suffixes (d : Derivation) : List AffixEntry := d.inner.toList ++ d.outer.toList

/-- The affixes in the order in which an analysis tells them. -/
def affixes (d : Derivation) : List AffixEntry := d.front.toList ++ d.suffixes

def isAffixed (d : Derivation) : Bool := d.front.isSome || d.inner.isSome

/-- Whether the root may be used at all for this purpose. -/
def rootServes (purpose : Purpose) (d : Derivation) : Bool :=
  !d.root.hasRole .forbidden &&
    !(purpose.folded && d.root.hasRole .keepCase) &&
      !(purpose.suggesting &&
        (d.root.hasRole .noSuggest || d.affixes.any (·.hasRole .noSuggest)))

/-- Whether the word is complete: a root that needs an affix has one, and of the affixes not all
need a further one. -/
def isComplete (d : Derivation) : Bool :=
  if d.isAffixed then !d.affixes.all (·.hasRole .needAffix) else !d.root.hasRole .needAffix

/-- A circumfix is used on both sides or on neither. -/
def isBalanced (d : Derivation) : Bool :=
  d.front.any (·.hasRole .circumfix) == d.suffixes.any (·.hasRole .circumfix)

def standsAlone (d : Derivation) : Bool :=
  !d.root.hasRole .onlyInCompound && !d.affixes.any (·.hasRole .onlyInCompound)

/-- Whether the word may be the part of a compound at a position.  Affixes stand only at the ends
of the compound unless they are permitted inside. -/
def standsInCompound (position : Position) (d : Derivation) : Bool :=
  let wanted (marks : Marks) : Bool :=
    marks.contains .compoundFlag || position.role?.any marks.contains
  !d.affixes.any (·.hasRole .compoundForbid) &&
    (position == .first || d.front.all (·.hasRole .compoundPermit)) &&
      (position == .last || d.suffixes.all (·.hasRole .compoundPermit)) &&
        (wanted d.root.marks || d.affixes.any fun affix ↦ wanted affix.marks)

def isAllowed (purpose : Purpose) (position : Position) (d : Derivation) : Bool :=
  d.rootServes purpose && d.isComplete && d.isBalanced &&
    if position = .alone then d.standsAlone else d.standsInCompound position

end Derivation
end Orthography
