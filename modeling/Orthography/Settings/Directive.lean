import Orthography.Flag.Role
import Orthography.Text.Blank

/-!
# Directives

One line of an affix text is one directive: a keyword, its value, and perhaps a comment.
`Directive.ofLine` reads a line.  A line that begins with no keyword says nothing; one that does
has to go on as the keyword demands.
-/

namespace Orthography

inductive Choice where
  | forbidDouble
  | forbidCapitals
  | forbidTriple
  | fullStrip
  deriving DecidableEq, Repr

inductive Directive where
  | nothing
  | encoding (name : Text)
  | flagMode (name : Text)
  | language (code : Text)
  | keyboard (rows : Text)
  | tryChars (chars : Text)
  | ignore (chars : Text)
  | role (role : Role) (flag : Text)
  | compoundMin (n : Nat)
  | compoundMax (n : Nat)
  | choose (choice : Choice)
  | inputConversion (pattern result : Text)
  | outputConversion (pattern result : Text)
  | correction (pattern result : Text)
  | compoundPattern (fields : List Text)
  | compoundRule (rule : Text)
  | related (group : Text)
  | wordBreak (text : Text)
  | flagAlias (flags : Text)
  | morphAlias (fields : Text)
  | affix (kind : AffixKind) (flag : Text) (fields : List Text)
  deriving DecidableEq, Repr

namespace Directive

open Text

/-- What a reader takes from the front of a text, with the rest; or where the text breaks off. -/
abbrev Reading (α : Type) := Except LineFault (α × Text)

def Reading.bind {α β : Type} (r : Reading α) (f : α → Text → Reading β) : Reading β :=
  match r with
  | .error fault => .error fault
  | .ok (a, rest) => f a rest

def isGap (c : Char) : Bool := c == ' ' || c == '\t'

def afterGap? : Text → Option Text
  | [] => none
  | c :: text => if isGap c then some (text.dropWhile isGap) else none

/-- The value behind a keyword, if a line begins with the keyword and a gap. -/
def afterKeyword? (keyword line : Text) : Option Text := after? keyword line >>= afterGap?

def value (text : Text) : Reading Text :=
  let (token, rest) := token text
  if token.isEmpty then .error (.unreadable .value text) else .ok (token, rest)

def number (bound : Nat) (text : Text) : Reading Nat :=
  match numberBelow? bound (text.takeWhile Char.isDigit) with
  | some n => .ok (n, text.dropWhile Char.isDigit)
  | none => .error (.unreadable .number text)

def valuePair (text : Text) : Reading (Text × Text) :=
  (value text).bind fun first rest ↦
    match afterGap? rest with
    | none => .error (.unreadable .blank rest)
    | some rest => (value rest).bind fun second rest ↦ .ok ((first, second), rest)

/-- A token that does not begin a comment, behind a gap. -/
def field? (text : Text) : Option (Text × Text) :=
  match afterGap? text with
  | none => none
  | some rest =>
      match token rest with
      | ([], _) => none
      | (c :: field, rest) => if c = '#' then none else some (c :: field, rest)

theorem length_afterGap? {text rest : Text} (h : afterGap? text = some rest) :
    rest.length < text.length := by
  cases text with
  | nil => cases h
  | cons c text =>
      simp only [afterGap?] at h
      split at h
      · obtain rfl := Option.some.inj h
        exact Nat.lt_succ_of_le (List.dropWhile_sublist _).length_le
      · cases h

theorem length_token (text : Text) : (token text).2.length ≤ text.length := by
  exact (List.dropWhile_sublist _).length_le

theorem length_field? {text field rest : Text} (h : field? text = some (field, rest)) :
    rest.length < text.length := by
  simp only [field?] at h
  split at h
  · cases h
  · rename_i behind hb
    have hlt := length_afterGap? hb
    have hle := length_token behind
    split at h
    · cases h
    · rename_i c f r hf
      split at h
      · cases h
      · obtain ⟨rfl, rfl⟩ := Prod.mk.inj (Option.some.inj h)
        rw [hf] at hle
        exact Nat.lt_of_le_of_lt hle hlt

def fields (text : Text) : List Text × Text :=
  match h : field? text with
  | none => ([], text)
  | some (field, rest) =>
      have : rest.length < text.length := length_field? h
      let (more, rest) := fields rest
      (field :: more, rest)
termination_by text.length

/-- One or more fields; no gap is needed before the first. -/
def someFields (text : Text) : Reading (List Text) :=
  (value text).bind fun first rest ↦
    if first.head? = some '#' then .error (.unreadable .usableValue text)
    else
      let (more, rest) := fields rest
      .ok (first :: more, rest)

def remainder (text : Text) : Reading Text :=
  if text.contains '\r' then .error (.unreadable .literal text)
  else if text.all isBlank then .error (.unreadable .usableValue text)
  else .ok (trim text, [])

/-- Whether nothing but a comment follows. -/
def endsSoon (text : Text) : Bool :=
  match trimStart text with
  | [] => true
  | c :: _ => c == '#'

/-- The line of a table: a lone number is the count of the lines that follow, and says nothing. -/
def row (read : Text → Reading Directive) (text : Text) : Reading Directive :=
  match number UInt32.size text with
  | .ok (_, rest) => if endsSoon rest then .ok (nothing, rest) else read text
  | .error _ => read text

def reading {α : Type} (make : α → Directive) (read : Text → Reading α) (text : Text) :
    Reading Directive :=
  (read text).bind fun a rest ↦ .ok (make a, rest)

def affixLine (kind : AffixKind) (text : Text) : Reading Directive :=
  (value text).bind fun flag rest ↦
    let (fields, rest) := fields rest
    .ok (affix kind flag fields, rest)

def roleKeywords : List (Text × Role) :=
  [("FORBIDDENWORD".toList, .forbidden),
   ("COMPOUNDFLAG".toList, .compoundFlag),
   ("COMPOUNDBEGIN".toList, .compoundBegin),
   ("COMPOUNDMIDDLE".toList, .compoundMiddle),
   ("COMPOUNDEND".toList, .compoundEnd),
   ("COMPOUNDLAST".toList, .compoundEnd),
   ("COMPOUNDPERMITFLAG".toList, .compoundPermit),
   ("COMPOUNDFORBIDFLAG".toList, .compoundForbid),
   ("ONLYINCOMPOUND".toList, .onlyInCompound),
   ("NOSUGGEST".toList, .noSuggest),
   ("CIRCUMFIX".toList, .circumfix),
   ("NEEDAFFIX".toList, .needAffix),
   ("PSEUDOROOT".toList, .needAffix),
   ("KEEPCASE".toList, .keepCase)]

/-- The keywords that take a value, with the reader of the value. -/
def keywords : List (Text × (Text → Reading Directive)) :=
  [("SET".toList, reading encoding value),
   ("FLAG".toList, reading flagMode value),
   ("LANG".toList, reading language value),
   ("KEY".toList, reading keyboard value),
   ("TRY".toList, reading tryChars value),
   ("IGNORE".toList, reading ignore value),
   ("COMPOUNDMIN".toList, reading compoundMin (number UInt8.size)),
   ("COMPOUNDWORDMAX".toList, reading compoundMax (number UInt16.size)),
   ("ICONV".toList, row (reading (fun (a, b) ↦ inputConversion a b) valuePair)),
   ("OCONV".toList, row (reading (fun (a, b) ↦ outputConversion a b) valuePair)),
   ("REP".toList, row (reading (fun (a, b) ↦ correction a b) valuePair)),
   ("CHECKCOMPOUNDPATTERN".toList, row (reading compoundPattern someFields)),
   ("COMPOUNDRULE".toList, row (reading compoundRule value)),
   ("MAP".toList, row (reading related value)),
   ("BREAK".toList, row (reading wordBreak value)),
   ("AF".toList, reading flagAlias value),
   ("AM".toList, reading morphAlias remainder),
   ("PFX".toList, affixLine .pre),
   ("SFX".toList, affixLine .suf)] ++
  roleKeywords.map fun (keyword, r) ↦ (keyword, reading (role r) value)

def choices : List (Text × Choice) :=
  [("CHECKCOMPOUNDDUP".toList, .forbidDouble),
   ("CHECKCOMPOUNDCASE".toList, .forbidCapitals),
   ("CHECKCOMPOUNDTRIPLE".toList, .forbidTriple),
   ("FULLSTRIP".toList, .fullStrip)]

def ofFront (line : Text) : Reading Directive :=
  match keywords.findSome? fun (keyword, read) ↦ (afterKeyword? keyword line).map read with
  | some result => result
  | none =>
      match choices.findSome? fun (keyword, choice) ↦
          (after? keyword line).map fun rest ↦ (choose choice, rest) with
      | some result => .ok result
      | none =>
          if line.contains '\r' then .error (.unreadable .literal line) else .ok (nothing, [])

def isComment : Text → Bool
  | [] => false
  | c :: text => c == '#' && !text.contains '\r'

def ofLine (line : Text) : Except LineFault Directive :=
  match ofFront line with
  | .error fault => .error fault
  | .ok (directive, rest) =>
      let rest := rest.dropWhile isGap
      if rest.isEmpty || isComment rest then .ok directive
      else .error (.unreadable .endOfLine rest)

end Directive
end Orthography
