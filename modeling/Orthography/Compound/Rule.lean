import Orthography.Flag.Basic

/-!
# Compound rules

A compound rule is a row of flags, each to be carried by one word, by one word or none, or by any
number of words in a row.  `matchesAll` asks whether words follow a rule, `matchesPartly` whether
they can be the beginning of words that do.
-/

namespace Orthography

inductive RuleElement where
  | once (flag : Flag)
  | optional (flag : Flag)
  | multi (flag : Flag)
  deriving DecidableEq, Repr

def RuleElement.flag : RuleElement → Flag
  | once flag => flag
  | optional flag => flag
  | multi flag => flag

/-- Whether an element can do without any word. -/
def RuleElement.isFree : RuleElement → Bool
  | once _ => false
  | optional _ => true
  | multi _ => true

def RuleElement.name : RuleElement → String
  | once flag => "Once(" ++ toString flag ++ ")"
  | optional flag => "Optional(" ++ toString flag ++ ")"
  | multi flag => "Multi(" ++ toString flag ++ ")"

abbrev CompoundRule := List RuleElement

namespace CompoundRule

/-- Reads on in a rule: `group` is the text of the parenthesis that is open, if one is, and `done`
holds the elements read so far, the latest first. -/
def readFrom (mode : FlagMode) (whole : Text) (group : Option Text) (done : List RuleElement) :
    Text → Except Problem CompoundRule
  | [] =>
      match group with
      | none => .ok done.reverse
      | some _ => .error (.malformedFlags whole .openParenthesis)
  | c :: text =>
      match group with
      | some flag =>
          if c = ')' then do
            let f ← mode.parseSingle flag
            readFrom mode whole none (.once f :: done) text
          else readFrom mode whole (some (flag ++ [c])) done text
      | none =>
          if c = '(' then readFrom mode whole (some []) done text
          else if c = '*' ∨ c = '?' then
            match done with
            | .once f :: done =>
                readFrom mode whole none ((if c = '*' then .multi f else .optional f) :: done) text
            | _ => .error (.malformedFlags whole .strayModifier)
          else do
            let f ← mode.parseSingle [c]
            readFrom mode whole none (.once f :: done) text

/-- Reads a rule.  A flag that takes more than one character to write stands in parentheses. -/
def parse (mode : FlagMode) (text : Text) : Except Problem CompoundRule :=
  readFrom mode text none [] text

/-- Whether some element takes a word with the flags that `has` tells, such that `onward` holds of
what this leaves of the rule.  The elements before it do without a word. -/
def takesFirst (has : Flag → Bool) (onward : CompoundRule → Bool) : CompoundRule → Bool
  | [] => false
  | .once f :: rule => has f && onward rule
  | .optional f :: rule => (has f && onward rule) || takesFirst has onward rule
  | .multi f :: rule => (has f && onward (.multi f :: rule)) || takesFirst has onward rule

section Matching

variable (carries : Text → Flag → Bool)

/-- Tries all ways to spread words over a rule.  If they need to match `partly` only, the rule may
go on behind them. -/
def matchesFrom (partly : Bool) : List Text → CompoundRule → Bool
  | [], rule => partly || rule.all RuleElement.isFree
  | word :: words, rule => takesFirst (carries word) (fun rule ↦ matchesFrom partly words rule) rule

def matchesAll (rule : CompoundRule) (words : List Text) : Bool :=
  matchesFrom carries false words rule

/-- Whether more words behind `words` could make a match. -/
def matchesPartly (rule : CompoundRule) (words : List Text) : Bool :=
  matchesFrom carries true words rule

end Matching

end CompoundRule
end Orthography
