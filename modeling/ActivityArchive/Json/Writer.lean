import ActivityArchive.Decimal.Layout
import ActivityArchive.Json.Basic
import ActivityArchive.Text.Digits

/-!
Printing of JSON text, indented by two blanks. A number that is not finite is printed as null.
-/
namespace ActivityArchive.Json

def escapeChar (c : Char) : List Char :=
  match c with
  | '"' => ['\\', '"']
  | '\\' => ['\\', '\\']
  | '\x08' => ['\\', 'b']
  | '\x0c' => ['\\', 'f']
  | '\n' => ['\\', 'n']
  | '\r' => ['\\', 'r']
  | '\t' => ['\\', 't']
  | c =>
    if c.toNat < 0x20 then
      let ds := Nat.toDigits 16 c.toNat
      ['\\', 'u'] ++ List.replicate (4 - ds.length) '0' ++ ds
    else [c]

def printString (s : String) : String :=
  "\"" ++ String.ofList (s.toList.flatMap escapeChar) ++ "\""

def printReal (x : Float) : String :=
  if x.isFinite then Decimal.interchangeText.printDouble x else "null"

def newline (indent : Nat) : String := "\n" ++ String.ofList (List.replicate indent ' ')

def pretty (indent : Nat) : Json → String
  | .null => "null"
  | .lost => "null"
  | .bool true => "true"
  | .bool false => "false"
  | .integer i => Text.integer i
  | .real x => printReal x
  | .text s => printString s
  | .array [] => "[]"
  | .array (j :: js) =>
    "[" ++ newline (indent + 2) ++ pretty (indent + 2) j ++ prettyItems (indent + 2) js ++
      newline indent ++ "]"
  | .object [] => "\x7b\x7d"
  | .object ((k, j) :: ms) =>
    "\x7b" ++ newline (indent + 2) ++ printString k ++ ": " ++ pretty (indent + 2) j ++
      prettyMembers (indent + 2) ms ++ newline indent ++ "\x7d"
where
  prettyItems (indent : Nat) : List Json → String
    | [] => ""
    | j :: js => "," ++ newline indent ++ pretty indent j ++ prettyItems indent js
  prettyMembers (indent : Nat) : List (String × Json) → String
    | [] => ""
    | (k, j) :: ms =>
      "," ++ newline indent ++ printString k ++ ": " ++ pretty indent j ++ prettyMembers indent ms

def print (j : Json) : String := pretty 0 j

end ActivityArchive.Json
