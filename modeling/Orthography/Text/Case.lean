import Orthography.Text.CharClass
import Orthography.Text.CaseMap

/-!
# Case of words

Lowercase, uppercase and titlecase of whole words, for languages with the standard alphabet and
for those that keep the dotted and the dotless i apart, and the capitalisation style of a word.
-/

namespace Orthography
namespace Text

/-- Whether the first character that is not transparent to case is a letter. -/
def meetsCased (text : Text) : Bool :=
  match text.dropWhile isCaseIgnorable with
  | [] => false
  | c :: _ => isCased c

/-- Lowercase of a text that follows the characters `before`, nearest first.  A capital sigma at
the end of a word takes its final form. -/
def lowercaseAfter (before : Text) : Text → Text
  | [] => []
  | c :: text =>
      (if c = 'Σ' then
        if meetsCased before && !meetsCased text then ['ς'] else ['σ']
      else lowerOf c) ++ lowercaseAfter (c :: before) text

def lowercase (text : Text) : Text := lowercaseAfter [] text

def uppercase (text : Text) : Text := text.flatMap upperOf

/-- The first character in titlecase and each other one in lowercase, whatever stands beside it. -/
def titlecase : Text → Text
  | [] => []
  | c :: text => titleOf c ++ text.flatMap lowerOf

end Text

/-- How a language pairs small and capital letters. -/
inductive Casing where
  | standard
  /-- Turkish, Azeri and Crimean Tatar have a dotted and a dotless i in both cases. -/
  | turkic
  deriving DecidableEq, Repr

namespace Casing

/-- The casing of a language, by the part of its code before the country. -/
def ofLanguage (code : Text) : Casing :=
  let language := code.takeWhile fun c ↦ c != '_' && c != '-'
  if language = ['t', 'r'] || language = ['a', 'z'] || language = ['c', 'r', 'h'] then .turkic
  else .standard

def lowercase : Casing → Text → Text
  | standard, word => Text.lowercase word
  | turkic, word =>
      Text.lowercase (word.map fun c ↦ if c = 'I' then 'ı' else if c = 'İ' then 'i' else c)

def uppercase : Casing → Text → Text
  | standard, word => Text.uppercase word
  | turkic, word => Text.uppercase (Text.replaceChar 'i' 'İ' word)

def titlecase : Casing → Text → Text
  | standard, word => Text.titlecase word
  | turkic, [] => []
  | turkic, c :: word => uppercase turkic [c] ++ lowercase turkic word

end Casing

/-- How capitals are spread over a word. -/
inductive CapStyle where
  | lowercase
  | capitalized
  | allCaps
  | mixed
  /-- No character has a case. -/
  | neutral
  deriving DecidableEq, Repr

namespace CapStyle

open Text

/-- Characters without case before the first letter do not count; the style is decided by the
first letter and by the letters that follow it. -/
def ofText : Text → CapStyle
  | [] => neutral
  | c :: text =>
      let capitals := text.any fun d ↦ isUppercase d || isTitlecase d
      if isLowercase c then if capitals then mixed else lowercase
      else if isUppercase c then
        if text.any isLowercase then if capitals then mixed else capitalized
        else if text.any isTitlecase then mixed
        else allCaps
      else if isTitlecase c then if capitals then mixed else capitalized
      else ofText text

end CapStyle
end Orthography
