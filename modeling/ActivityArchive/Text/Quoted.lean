import ActivityArchive.Text.Digits
import ActivityArchive.Text.Hidden

/-!
Text between double quotes, as error messages show it: quotes, backslashes and the common controls
have short escapes, every other hidden character is written by its code point.
-/
namespace ActivityArchive.Text

def escape (c : Char) : List Char :=
  match c with
  | '"' => ['\\', '"']
  | '\\' => ['\\', '\\']
  | '\n' => ['\\', 'n']
  | '\r' => ['\\', 'r']
  | '\t' => ['\\', 't']
  | '\x00' => ['\\', '0']
  | c =>
    if isHidden c then
      ['\\', 'u', '\x7b'] ++ Nat.toDigits 16 c.toNat ++ ['\x7d']
    else [c]

def quoted (s : String) : String :=
  String.ofList (['"'] ++ s.toList.flatMap escape ++ ['"'])

end ActivityArchive.Text
