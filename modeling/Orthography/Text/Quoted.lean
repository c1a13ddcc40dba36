import Orthography.Text.CharClass

/-!
# Quoted text

The form in which a message shows a piece of input: between double quotes, with an escape for
each character that would be misread or not be seen.
-/

namespace Orthography
namespace Text

def escape (c : Char) : Text :=
  match c with
  | '"' => ['\\', '"']
  | '\\' => ['\\', '\\']
  | '\t' => ['\\', 't']
  | '\r' => ['\\', 'r']
  | '\n' => ['\\', 'n']
  | '\x00' => ['\\', '0']
  | c =>
      if isExtender c || !isPrintable c then
        ['\\', 'u', '\x7b'] ++ Nat.toDigits 16 c.toNat ++ ['\x7d']
      else [c]

def quoted (text : Text) : Text := '"' :: text.flatMap escape ++ ['"']

end Text
end Orthography
