import Orthography.Derivation.Search

/-!
# Visiting derivations

A visitor is told the derivations of a word one after the other, works on them in a monad of its
own, and asks to stop when it has seen enough.  The search goes from index to index and from root
to root, and passes on at once that it has been asked to stop.
-/

namespace Orthography

section Keeping

variable {α : Type}

/-- Keeps all that it is told and never asks to stop. -/
def keepAll (a : α) : StateM (List α) Bool := do
  modify (· ++ [a])
  return false

/-- Keeps what it is told and asks to stop at the `n`-th. -/
def keepUpTo (n : Nat) (a : α) : StateM (List α) Bool := do
  modify (· ++ [a])
  return (← get).length == n

end Keeping

variable {m : Type → Type} [Monad m]

/-- Visits a slot unless it is in the shadow of one that has been committed to. -/
def Slot.visitUnshadowed (commits : Bool) (visit : m Bool) (slot : Slot) :
    StateT (List Slot) m Bool := do
  let committed ← get
  if committed.any slot.sameEffect then return false
  if commits then set (slot :: committed)
  visit

namespace Dictionary

variable (dictionary : Dictionary) (purpose : Purpose) (position : Position)

def visitRoots (stem : Text) (carries : Entry → Bool) (derive : Entry → Derivation)
    (found : Derivation → m Bool) : m Bool :=
  (dictionary.lexicon.lookup stem).anyM fun root ↦
    if carries root && (derive root).isAllowed purpose position then found (derive root)
    else pure false

def visitTwiceSuffixed (outer : AffixEntry) (word : Text) (found : Derivation → m Bool) :
    m Bool :=
  dictionary.settings.affixes.visitSuffixes word fun slot ↦
    let inner := slot.entry
    let stem := inner.stemBefore word
    if inner.hasContFlag outer.flag && dictionary.leavesStem word inner &&
        inner.condition.matchesEnd stem then
      visitRoots dictionary purpose position stem (·.hasFlag inner.flag)
        (fun root ↦ { root, inner := some inner, outer := some outer }) found
    else pure false

def visitSuffixed (front : Option AffixEntry) (word : Text) (found : Derivation → m Bool) :
    m Bool :=
  (dictionary.settings.affixes.visitSuffixes word fun slot ↦
    let suffix := slot.entry
    let stem := suffix.stemBefore word
    if dictionary.leavesStem word suffix && suffix.condition.matchesEnd stem &&
        suffix.goesWith front stem then
      slot.visitUnshadowed true
        (visitRoots dictionary purpose position stem (·.carries front suffix)
            (fun root ↦ { root, front, inner := some suffix }) found <||>
          if front.isNone then visitTwiceSuffixed dictionary purpose position suffix stem found
          else pure false)
    else pure false).run' []

def visitPrefixed (word : Text) (found : Derivation → m Bool) : m Bool :=
  (dictionary.settings.affixes.visitPrefixes word fun slot ↦
    let front := slot.entry
    let stem := front.stemBehind word
    let holds := front.condition.matchesStart stem
    if dictionary.leavesStem word front then
      slot.visitUnshadowed holds
        ((if holds then
            visitRoots dictionary purpose position stem (·.hasFlag front.flag)
              (fun root ↦ { root, front := some front }) found
          else pure false) <||>
          if front.cross then visitSuffixed dictionary purpose position (some front) stem found
          else pure false)
    else pure false).run' []

/-- Tells the derivations of a word in the order of `derivations`.  The result is whether the
visitor has asked to stop. -/
def visitDerivations (word : Text) (found : Derivation → m Bool) : m Bool :=
  visitRoots dictionary purpose position word (fun _ ↦ true) (fun root ↦ { root }) found <||>
    if dictionary.settings.affixes.isEmpty then pure false
    else
      visitSuffixed dictionary purpose position none word found <||>
        visitPrefixed dictionary purpose position word found

end Dictionary
end Orthography
