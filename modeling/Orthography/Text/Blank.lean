import Orthography.Text.CharClass

/-!
# Blanks

Trimming and splitting at white space.  Any Unicode white space counts as a blank.
-/

namespace Orthography
namespace Text

def trimStart (text : Text) : Text := text.dropWhile isBlank

def trimEnd (text : Text) : Text := (text.reverse.dropWhile isBlank).reverse

def trim (text : Text) : Text := trimEnd (trimStart text)

/-- The first token of a text, up to a blank, and the rest from that blank on. -/
def token (text : Text) : Text × Text :=
  (text.takeWhile fun c ↦ !isBlank c, text.dropWhile fun c ↦ !isBlank c)

def tokens : Text → List Text
  | [] => []
  | c :: text =>
      if isBlank c then tokens text
      else
        match text with
        | [] => [[c]]
        | d :: _ =>
            if isBlank d then [c] :: tokens text
            else
              match tokens text with
              | [] => [[c]]
              | t :: ts => (c :: t) :: ts

end Text
end Orthography
