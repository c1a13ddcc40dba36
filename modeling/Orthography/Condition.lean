import Orthography.Problem

/-!
# Conditions

An affix entry applies only to stems whose end, or start, has a certain shape.  A condition is a
row of items, one for each character: a character, any character, a group in brackets, or a
negated group.  It is read by `Condition.parse` and matched from either end of a word.
-/

namespace Orthography

inductive ConditionItem where
  | any
  | exactly (c : Char)
  | oneOf (chars : List Char)
  | noneOf (chars : List Char)
  deriving DecidableEq, Repr

namespace ConditionItem

def accepts : ConditionItem → Char → Bool
  | any, _ => true
  | exactly a, c => a == c
  | oneOf chars, c => chars.contains c
  | noneOf chars, c => !chars.contains c

inductive Place where
  | between
  | opened
  | inside (negated : Bool) (chars : List Char)

def read? : Place → Text → Option (List ConditionItem)
  | .between, [] => some []
  | .opened, [] => none
  | .inside _ _, [] => none
  | .between, c :: text =>
      if c = '[' then read? .opened text
      else if c = ']' then none
      else if c = '.' then (read? .between text).map (any :: ·)
      else (read? .between text).map (exactly c :: ·)
  | .opened, c :: text =>
      if c = '^' then read? (.inside true []) text
      else if c = ']' then none
      else read? (.inside false [c]) text
  | .inside negated chars, c :: text =>
      if c = ']' then
        (read? .between text).map ((if negated then noneOf chars else oneOf chars) :: ·)
      else read? (.inside negated (chars ++ [c])) text

end ConditionItem

/-- No items at all accept every word, the empty one included. -/
structure Condition where
  items : List ConditionItem
  deriving DecidableEq, Repr

namespace Condition

/-- Reads a condition.  A single dot asks for nothing. -/
def parse (text : Text) : Except Problem Condition :=
  match ConditionItem.read? .between text with
  | none => .error (.invalidCondition text)
  | some [.any] => .ok ⟨[]⟩
  | some items => .ok ⟨items⟩

def acceptsAll (condition : Condition) : Bool := condition.items.isEmpty

def startsWith : List ConditionItem → Text → Bool
  | [], _ => true
  | _ :: _, [] => false
  | item :: items, c :: text => item.accepts c && startsWith items text

def matchesStart (condition : Condition) (word : Text) : Bool := startsWith condition.items word

def matchesEnd (condition : Condition) (word : Text) : Bool :=
  startsWith condition.items.reverse word.reverse

end Condition
end Orthography
