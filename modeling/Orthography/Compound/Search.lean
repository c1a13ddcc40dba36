import Orthography.Compound.Progress
import Orthography.Derivation.Search

/-!
# Dividing compounds

`Dictionary.divisions` lists the ways of dividing a word into two or more parts that the flags of
the parts and the patterns allow; `Dictionary.followsRule` asks whether it consists of stems that
follow a compound rule.
-/

namespace Orthography

structure Segment where
  /-- The word that the part stands for.  It can differ from the letters of the compound where
  a pattern joins parts. -/
  text : Text
  /-- Where the part begins in the compound, in bytes. -/
  start : Nat
  stop : Nat
  derivation : Derivation
  via : Option CompoundPattern
  deriving DecidableEq

structure Cut (rest : Text) where
  surface : Text
  text : Text
  /-- The letters that join the part to the next one. -/
  gap : Text
  via : Option CompoundPattern
  after : Text
  shorter : after.length < rest.length

namespace Cut

def plain (carry : Text) {rest : Text} (left right : Text) (h : right.length < rest.length) :
    Cut rest :=
  ⟨left, carry ++ left, [], none, right, h⟩

/-- Cuts off a part that a pattern joins to the next one, if the letters of the pattern follow. -/
def joined? (carry : Text) {rest : Text} (left right : Text) (h : right.length < rest.length)
    (pattern : CompoundPattern) : Option (Cut rest) :=
  match pattern.replacement with
  | none => none
  | some [] => none
  | some gap =>
      match ha : Text.after? gap right with
      | none => none
      | some after =>
          have shorter : after.length < rest.length := by
            have he := Text.after?_eq_some_iff.1 ha
            rw [he, List.length_append] at h
            omega
          some ⟨left, carry ++ left ++ pattern.ending.chars, gap, some pattern, after, shorter⟩

/-- The cuts of `rest` that take off at least `left` and leave something of `right`, with the
letters `carry` put before the part.  A longer part comes later, and at one place the plain cut
comes before those that a pattern allows. -/
def allFrom (patterns : List CompoundPattern) (carry : Text) {rest : Text} (left : Text) :
    (right : Text) → right.length < rest.length → LazyList (Cut rest)
  | [], _ => .nil
  | c :: right, h =>
      .cons (plain carry left (c :: right) h) fun _ ↦
        (LazyList.ofList (patterns.filterMap (joined? carry left (c :: right) h))).append fun _ ↦
          allFrom patterns carry (left ++ [c]) right (Nat.lt_of_succ_lt h)

/-- All cuts that leave a part and a rest, with the letters `carry` put before the part. -/
def all (patterns : List CompoundPattern) (carry : Text) : (rest : Text) → LazyList (Cut rest)
  | [] => .nil
  | c :: rest => allFrom patterns carry [c] rest (Nat.lt_succ_self _)

end Cut

/-- Whether a word is written without small letters or without capitals. -/
def Text.isOneCase (word : Text) : Bool := !(word.any isLowercase && word.any isUppercase)

namespace Settings

/-- Whether a capital stands where two parts meet, where that is forbidden.  It does not matter
beside a hyphen or in a word that is written in one case. -/
def capitalsMeet (settings : Settings) (word left right : Text) : Bool :=
  settings.forbidCapitals && !Text.isOneCase word &&
    match left.reverse, right with
    | a :: _, b :: _ => (Text.isUppercase a || Text.isUppercase b) && a != '-' && b != '-'
    | _, _ => false

/-- Whether three equal letters meet, where that is forbidden. -/
def tripleMeets (settings : Settings) (left right : Text) : Bool :=
  settings.forbidTriple &&
    match left.reverse, right with
    | a :: left, b :: right => a == b && (left.head? == some a || right.head? == some b)
    | _, _ => false

/-- Whether a part may follow another one in a compound.  Parts that a pattern joins have to
satisfy that pattern alone. -/
def joins (settings : Settings) (word : Text) (before : Segment) (text : Text)
    (derivation : Derivation) : Option CompoundPattern → Bool
  | some pattern => pattern.flagsMatch before.derivation.root derivation.root
  | none =>
      !settings.patterns.any
          (·.forbids before.text before.derivation.root text derivation.root) &&
        !(settings.forbidDouble && before.text == text) &&
          !settings.capitalsMeet word before.text text &&
            !settings.tripleMeets before.text text

end Settings

namespace Dictionary

variable (dictionary : Dictionary) (purpose : Purpose)

def segments (word : Text) (before : Option Segment) (position : Position)
    (via : Option CompoundPattern) (start stop : Nat) (text : Text) : LazyList Segment :=
  ((dictionary.derivations purpose position text).filter fun derivation ↦
    before.all fun before ↦ dictionary.settings.joins word before text derivation via).map
      fun derivation ↦ ⟨text, start, stop, derivation, via⟩

/-- Whether some word, plain or prefixed, begins with the first letter of a text. -/
def mayBegin (text : Text) : Bool :=
  match text with
  | [] => false
  | c :: _ => dictionary.lexicon.mayBegin c || dictionary.settings.affixes.mayBegin c

/-- The ways of dividing the rest of a compound behind `depth` parts, of which `before` is the
last, where `via` joins the next part to it. -/
def divisionsFrom (word : Text) (depth : Nat) (before : Option Segment)
    (via : Option CompoundPattern) (start : Nat) (rest : Text) : LazyList (List Segment) :=
  let settings := dictionary.settings
  let carry := via.elim [] (·.beginning.chars)
  if settings.compoundMax.any (· ≤ depth) || !dictionary.mayBegin (carry ++ rest) then .nil
  else
    let position := if depth = 0 then Position.first else .inner
    let cuts := (Cut.all settings.patterns carry rest).filter
      fun cut ↦ settings.leastPart ≤ cut.text.length
    let inside := cuts.flatMap fun cut ↦
      let stop := start + Text.byteSize cut.surface
      (segments dictionary purpose word before position via start stop cut.text).flatMap
        fun segment ↦
          (divisionsFrom word (depth + 1) (some segment) cut.via
            (stop + Text.byteSize cut.gap) cut.after).map (segment :: ·)
    inside.append fun _ ↦
      let text := carry ++ rest
      if 0 < depth ∧ settings.leastPart ≤ text.length then
        (segments dictionary purpose word before .last via start (start + Text.byteSize rest)
          text).map ([·])
      else .nil
termination_by rest.length
decreasing_by exact cut.shorter

def divisions (word : Text) : LazyList (List Segment) :=
  if dictionary.settings.roles.compounding && !word.isEmpty then
    divisionsFrom dictionary purpose word 0 none none 0 word
  else .nil

/-- Whether a stem carries a flag of a compound rule; any homonym that is not forbidden will do. -/
def stemCarries (stem : Text) (flag : Flag) : Bool :=
  (dictionary.lexicon.lookup stem).any fun entry ↦
    entry.hasFlag flag && !entry.hasRole .forbidden

/-- Whether the rest of a word can be divided so that its stems follow a compound rule together
with the `count` stems found so far, which have come through the rules as `progress` tells.  The
letters of `stem` are the beginning of the next one. -/
def followsRuleFrom (progress : List CompoundRule.Progress) (count : Nat) (stem : Text) :
    Text → Bool
  | [] => stem.isEmpty && 2 ≤ count && progress.any (·.complete)
  | c :: rest =>
      let stem := stem ++ [c]
      (dictionary.settings.leastPart ≤ stem.length && dictionary.lexicon.contains stem &&
          !dictionary.settings.compoundMax.any (· < count + 1) &&
            let progress := progress.map (·.advance (dictionary.stemCarries stem))
            progress.any (·.isOpen) && followsRuleFrom progress (count + 1) [] rest) ||
        followsRuleFrom progress count stem rest

/-- Whether a word consists of stems that follow a compound rule.  Without rules none does, and
nothing is searched. -/
def followsRule (word : Text) : Bool :=
  let rules := dictionary.settings.rules
  !rules.isEmpty && followsRuleFrom dictionary (rules.map .start) 0 [] word

def isCompound (word : Text) : Bool :=
  !(divisions dictionary purpose word).isEmpty || followsRule dictionary word

end Dictionary
end Orthography
