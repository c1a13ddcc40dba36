import Orthography.Compound.Search
import Orthography.Derivation.Visit

/-!
# Visiting divisions

A visitor is told the divisions of a compound one after the other.  The search keeps the parts it
has come through on a stack: it puts each part there before it goes on behind it and takes it off
afterwards, and the visitor is told the stack when the last part has been put there.
-/

namespace Orthography
namespace Dictionary

variable {m : Type → Type} [Monad m] (dictionary : Dictionary) (purpose : Purpose)

/-- Puts each part with this text that may follow the parts so far behind them, while `onward`
goes on. -/
def visitSegments (word : Text) (position : Position) (via : Option CompoundPattern)
    (start stop : Nat) (text : Text) (onward : StateT (List Segment) m Bool) :
    StateT (List Segment) m Bool :=
  dictionary.visitDerivations purpose position text fun derivation ↦ do
    let parts ← get
    if parts.getLast?.all fun before ↦
        dictionary.settings.joins word before text derivation via then
      set (parts ++ [⟨text, start, stop, derivation, via⟩])
      let stopped ← onward
      modify List.dropLast
      return stopped
    else return false

def visitDivisionsFrom (word : Text) (via : Option CompoundPattern) (start : Nat) (rest : Text)
    (found : List Segment → m Bool) : StateT (List Segment) m Bool := do
  let settings := dictionary.settings
  let carry := via.elim [] (·.beginning.chars)
  let depth := (← get).length
  if settings.compoundMax.any (· ≤ depth) || !dictionary.mayBegin (carry ++ rest) then
    return false
  let position := if depth = 0 then Position.first else .inner
  let inside := (Cut.all settings.patterns carry rest).anyM fun cut ↦
    if settings.leastPart ≤ cut.text.length then
      let stop := start + Text.byteSize cut.surface
      visitSegments dictionary purpose word position via start stop cut.text
        (visitDivisionsFrom word cut.via (stop + Text.byteSize cut.gap) cut.after found)
    else pure false
  let text := carry ++ rest
  inside <||>
    if 0 < depth ∧ settings.leastPart ≤ text.length then
      visitSegments dictionary purpose word .last via start (start + Text.byteSize rest) text
        (do found (← get))
    else pure false
termination_by rest.length
decreasing_by exact cut.shorter

/-- Tells the divisions of a word in the order of `divisions`.  The result is whether the visitor
has asked to stop. -/
def visitDivisions (word : Text) (found : List Segment → m Bool) : m Bool :=
  if dictionary.settings.roles.compounding && !word.isEmpty then
    (visitDivisionsFrom dictionary purpose word none 0 word found).run' []
  else pure false

end Dictionary
end Orthography
