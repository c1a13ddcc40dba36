import Orthography.LazyList
import Orthography.Text.Basic

/-!
# Candidates for corrections

Each function lists the words that one kind of mistake could have turned into a given word, the
likely ones first.  Whether they are right is not looked at here.
-/

namespace Orthography
namespace Candidates

/-- The places in a word: the text before each character, the character, and the text behind. -/
def places : Text → List (Text × Char × Text)
  | [] => []
  | c :: text => ([], c, text) :: (places text).map fun (before, d, after) ↦ (c :: before, d, after)

/-- What is made at each of some places, from left to right. -/
def atEach (places : List (Text × Char × Text)) (make : Text → Char → Text → List Text) :
    LazyList Text :=
  (LazyList.ofList places).flatMap fun (before, c, after) ↦ .ofList (make before c after)

/-- The keys beside the places of a character in a row of keys: for each place the key to the
left and then the one to the right. -/
def neighbours (c : Char) (left : Option Char) : List Char → List Char
  | [] => []
  | key :: row =>
      (if key = c then left.toList ++ row.head?.toList else []) ++ neighbours c (some key) row

/-- Each character becomes one beside it on the keyboard, whose rows are separated by bars. -/
def keyboard (rows word : Text) : LazyList Text :=
  let rows := Text.splitOn '|' rows
  atEach (places word) fun before c after ↦
    (rows.flatMap (neighbours c none)).map fun key ↦ before ++ key :: after

/-- The members of a group of related texts: single characters, or longer texts in
parentheses.  A parenthesis that is not closed holds nothing. -/
def members (opened : Option Text) : Text → List Text
  | [] => []
  | c :: group =>
      match opened with
      | some text =>
          if c = ')' then text :: members none group else members (some (text ++ [c])) group
      | none => if c = '(' then members (some []) group else [c] :: members none group

/-- The words made by putting another member of a group in the place of one at the front of
`rest`, with `before` the text up to it. -/
def exchanged (group : List Text) (before rest : Text) : List Text :=
  group.flatMap fun member ↦
    match if member.isEmpty then none else Text.after? member rest with
    | none => []
    | some after =>
        (group.filter (· ≠ member)).map fun other ↦ before ++ other ++ after

/-- A text becomes one that is related to it. -/
def related (groups : List Text) (word : Text) : LazyList Text :=
  let places := places word
  (LazyList.ofList groups).flatMap fun group ↦
    let group := members none group
    atEach places fun before c after ↦ exchanged group before (c :: after)

/-- Each character becomes one of those to try. -/
def replaced (chars word : Text) : LazyList Text :=
  let places := places word
  (LazyList.ofList chars).flatMap fun d ↦
    atEach places fun before c after ↦ if c = d then [] else [before ++ d :: after]

/-- Two different characters side by side change places. -/
def swapped (word : Text) : LazyList Text :=
  atEach (places word) fun before c after ↦
    match after with
    | [] => []
    | d :: rest => if c = d then [] else [before ++ d :: c :: rest]

def deleted (word : Text) : LazyList Text :=
  atEach (places word) fun before _ after ↦ [before ++ after]

/-- One of the characters to try comes in before each character, or at the end. -/
def inserted (chars word : Text) : LazyList Text :=
  let places := places word
  (LazyList.ofList chars).flatMap fun d ↦
    (atEach places fun before c after ↦ [before ++ d :: c :: after]).append fun _ ↦
      .ofList [word ++ [d]]

/-- A space divides the word. -/
def divided (word : Text) : LazyList Text :=
  atEach (places word) fun before c after ↦
    if before.isEmpty then [] else [before ++ ' ' :: c :: after]

end Candidates
end Orthography
