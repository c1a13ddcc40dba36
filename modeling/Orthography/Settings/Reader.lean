import Orthography.Settings.Basic
import Orthography.Settings.Directive

/-!
# Reading affix texts

`Settings.parse` carries out the directives of an affix text line by line.  A line that cannot be
carried out changes nothing and leaves a problem behind; only a text in another encoding or with
an unknown way of writing flags is not read at all.
-/

namespace Orthography

/-- Why an affix text cannot be read at all. -/
inductive Unusable where
  | flagMode (name : Text)
  | encoding (name : Text)
  deriving DecidableEq, Repr

def Unusable.message : Unusable → String
  | flagMode name => "Unknown flag mode " ++ String.ofList name
  | encoding name => "Unsupported encoding " ++ String.ofList name

structure Loading where
  settings : Settings := {}
  prefixes : List AffixRule := []
  suffixes : List AffixRule := []
  /-- Whether the line that counts the flag aliases has been read. -/
  flagAliasesCounted : Bool := false
  morphAliasesCounted : Bool := false

namespace Loading

def rules (l : Loading) : AffixKind → List AffixRule
  | .pre => l.prefixes
  | .suf => l.suffixes

def setRules (l : Loading) (kind : AffixKind) (rules : List AffixRule) : Loading :=
  match kind with
  | .pre => { l with prefixes := rules }
  | .suf => { l with suffixes := rules }

def report (l : Loading) (problem : Problem) : Loading :=
  { l with settings := l.settings.report problem }

/-- A lone zero stands for no letters. -/
def letters (text : Text) : Text := if text = ['0'] then [] else text

def declares (rules : List AffixRule) (flag : Flag) : Bool := rules.any (·.flag == flag)

/-- Declares a rule.  A flag may name one rule of a kind; that it names rules of both kinds is
worth a problem but no reason to leave the rule out. -/
def addRule (l : Loading) (kind : AffixKind) (flag : Flag) (cross : Bool) :
    Except Problem Loading :=
  let other := match kind with
    | .pre => AffixKind.suf
    | .suf => AffixKind.pre
  if declares (l.rules kind) flag then .error (.duplicateRule kind flag)
  else
    let declared := l.setRules kind (l.rules kind ++ [.new kind flag cross])
    if declares (l.rules other) flag then .ok (declared.report (.conflictingRule flag))
    else .ok declared

/-- The letters of an affix with the flags behind a slash. -/
def addedLetters (settings : Settings) (text : Text) : Except Problem (Text × FlagSet) := do
  match Text.splitOnce? ['/'] text with
  | none => pure (text, .empty)
  | some (add, flags) => do
      let flags ← settings.parseFlags flags
      pure (add, flags)

/-- Adds an entry to a rule: what it strips and adds, then perhaps its condition and the
morphological fields. -/
def addEntry (l : Loading) (kind : AffixKind) (flag : Flag) (strip add : Text)
    (more : List Text) : Except Problem Loading := do
  match (l.rules kind).find? (·.flag == flag) with
  | none => throw (.malformedLine 0 (.noHeader kind flag))
  | some rule => do
      let (add, contFlags) ← addedLetters l.settings add
      let condition ← Condition.parse (more.headD ['.'])
      let morph := match more.tail with
        | [] => []
        | fields => l.settings.parseMorph (List.intercalate [' '] fields)
      let entry := rule.entry (letters strip) (l.settings.stripIgnored (letters add)) condition
        contFlags morph
      pure (l.setRules kind ((l.rules kind).map fun r ↦
        if r.flag = flag then r.push entry else r))

/-- Whether the fields of an affix line declare a rule, and whether it is a cross rule: a letter
for yes or no, and the number of entries. -/
def header? : List Text → Option Bool
  | [answer, count] =>
      if (answer = ['Y'] ∨ answer = ['N']) ∧ (Text.numberBelow? UInt32.size count).isSome then
        some (answer = ['Y'])
      else none
  | _ => none

def affixLine (l : Loading) (kind : AffixKind) (flag : Text) (fields : List Text) :
    Except Problem Loading := do
  let flag ← l.settings.flagMode.parseSingle flag
  match header? fields with
  | some cross => l.addRule kind flag cross
  | none =>
      match fields with
      | strip :: add :: more => l.addEntry kind flag strip add more
      | _ => throw (.malformedLine 0 (.tooFewFields kind flag))

def chosen (settings : Settings) : Choice → Settings
  | .forbidDouble => { settings with forbidDouble := true }
  | .forbidCapitals => { settings with forbidCapitals := true }
  | .forbidTriple => { settings with forbidTriple := true }
  | .fullStrip => { settings with fullStrip := true }

/-- The effect of a directive on the settings alone. -/
def set (settings : Settings) : Directive → Except Problem Settings
  | .language code => .ok { settings with casing := .ofLanguage code }
  | .keyboard rows => .ok { settings with keyboard := some rows }
  | .tryChars chars => .ok { settings with tryChars := some chars }
  | .ignore chars => .ok { settings with ignored := chars }
  | .role role flag => do
      let flag ← settings.flagMode.parseSingle flag
      pure { settings with roles := settings.roles.declare role flag }
  | .compoundMin n => .ok { settings with compoundMin := n }
  | .compoundMax n => .ok { settings with compoundMax := some n }
  | .choose choice => .ok (chosen settings choice)
  | .inputConversion a b => .ok { settings with inputs := settings.inputs.push a b }
  | .outputConversion a b => .ok { settings with outputs := settings.outputs.push a b }
  | .correction a b => .ok { settings with replacements := settings.replacements.pushSpaced a b }
  | .compoundPattern fields => do
      let pattern ← CompoundPattern.ofFields settings.flagMode fields
      pure { settings with patterns := settings.patterns ++ [pattern] }
  | .compoundRule rule => do
      let rule ← CompoundRule.parse settings.flagMode rule
      pure { settings with rules := settings.rules ++ [rule] }
  | .related group => .ok { settings with related := settings.related ++ [group] }
  | .wordBreak text => .ok { settings with breaks := settings.breaks ++ [text] }
  | .flagAlias flags => do
      let flags ← FlagSet.parse settings.flagMode flags
      pure { settings with flagAliases := settings.flagAliases ++ [flags] }
  | .morphAlias fields =>
      .ok { settings with
        morphAliases := settings.morphAliases ++ [MorphField.parseList fields] }
  | .nothing | .encoding _ | .flagMode _ | .affix .. => .ok settings

/-- Carries out a directive.  The first line of each table of aliases is its count. -/
def apply (l : Loading) : Directive → Except Problem Loading
  | .affix kind flag fields => l.affixLine kind flag fields
  | .flagAlias flags =>
      if l.flagAliasesCounted then
        (set l.settings (.flagAlias flags)).map fun settings ↦ { l with settings }
      else .ok { l with flagAliasesCounted := true }
  | .morphAlias fields =>
      if l.morphAliasesCounted then
        (set l.settings (.morphAlias fields)).map fun settings ↦ { l with settings }
      else .ok { l with morphAliasesCounted := true }
  | directive => (set l.settings directive).map fun settings ↦ { l with settings }

def flagModeOf? (name : Text) : Option FlagMode :=
  if name = "long".toList then some .long
  else if name = "num".toList then some .num
  else if name = "UTF-8".toList then some .utf8
  else none

def readLine (l : Loading) (number : Nat) (line : Text) : Except Unusable Loading :=
  match Directive.ofLine line with
  | .error fault => .ok (l.report (.malformedLine number fault))
  | .ok (.encoding name) =>
      if name.map Char.toUpper = "UTF-8".toList then .ok l else .error (.encoding name)
  | .ok (.flagMode name) =>
      match flagModeOf? name with
      | some flagMode => .ok { l with settings := { l.settings with flagMode } }
      | none => .error (.flagMode name)
  | .ok directive =>
      match l.apply directive with
      | .ok next => .ok next
      | .error problem => .ok (l.report (problem.atLine number))

/-- The settings in the end.  The marks of the affixes are computed only now, when all roles are
known. -/
def finish (l : Loading) : Settings :=
  { l.settings with
    affixes := (AffixTable.ofRules l.prefixes l.suffixes).withMarks l.settings.roles }

end Loading

/-- A text without the byte order mark that may stand before it. -/
def Text.withoutByteOrderMark (text : Text) : Text := (after? ['\ufeff'] text).getD text

namespace Settings

def parse (text : Text) : Except Unusable Settings := do
  let lines := (Text.lines (Text.withoutByteOrderMark text)).zipIdx 1
  let loaded ← lines.foldlM (fun l (line, number) ↦ l.readLine number line) ({} : Loading)
  pure loaded.finish

end Settings
end Orthography
