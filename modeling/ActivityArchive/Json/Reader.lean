import ActivityArchive.Json.Number

/-!
Reading of JSON text. The whole text is one value with white space around it. Members of an object
stay in order, repeated keys included; a reader of records decides what to make of them.
-/
namespace ActivityArchive.Json

open Text

def skipSpace (cs : List Char) : List Char :=
  cs.dropWhile fun c => c = ' ' || c = '\n' || c = '\t' || c = '\r'

/-- The four hexadecimal digits of a code unit. -/
def unit? (cs : List Char) : Option (Nat × List Char) :=
  let ds := cs.take 4
  if ds.length = 4 ∧ IsDigits 16 ds then some (ofDigits 16 ds, cs.drop 4) else none

def isHigh (u : Nat) : Bool := 0xD800 ≤ u && u < 0xDC00

def isLow (u : Nat) : Bool := 0xDC00 ≤ u && u < 0xE000

def simpleEscape? (c : Char) : Option Char :=
  match c with
  | '"' => some '"'
  | '\\' => some '\\'
  | '/' => some '/'
  | 'b' => some '\x08'
  | 'f' => some '\x0c'
  | 'n' => some '\n'
  | 'r' => some '\r'
  | 't' => some '\t'
  | _ => none

/-- The escape after a backslash: its character, or nothing for half a surrogate pair. -/
def escape? (cs : List Char) : Option (Option Char × List Char) :=
  match cs with
  | 'u' :: r => do
    let (u, r) ← unit? r
    if isLow u then some (none, r)
    else if isHigh u then
      match r with
      | '\\' :: 'u' :: r' =>
        match unit? r' with
        | some (v, r'') =>
          if isLow v then
            some (some (Char.ofNat (0x10000 + (u - 0xD800) * 0x400 + (v - 0xDC00))), r'')
          else some (none, r)
        | none => none
      | _ => some (none, r)
    else some (some (Char.ofNat u), r)
  | c :: r => (simpleEscape? c).map fun x => (some x, r)
  | [] => none

/-- The rest of a string up to its closing quote; `lost` remembers half a surrogate pair. -/
def stringBody? (fuel : Nat) (done : List Char) (lost : Bool) (cs : List Char) :
    Option (Option String × List Char) :=
  match fuel, cs with
  | 0, _ => none
  | _, [] => none
  | fuel + 1, c :: r =>
    if c = '"' then some (if lost then none else some (String.ofList done.reverse), r)
    else if c.toNat < 0x20 then none
    else if c = '\\' then
      match escape? r with
      | some (some x, r) => stringBody? fuel (x :: done) lost r
      | some (none, r) => stringBody? fuel done true r
      | none => none
    else stringBody? fuel (c :: done) lost r

def keyword? (word : List Char) (value : Json) (cs : List Char) : Option (Json × List Char) :=
  if word.isPrefixOf cs then some (value, cs.drop word.length) else none

mutual

/-- Reads one value. Two steps of fuel for each character are enough: a call inside comes at most
two calls after a character is taken off the text. -/
def value? (fuel : Nat) (cs : List Char) : Option (Json × List Char) :=
  match fuel with
  | 0 => none
  | fuel + 1 =>
    let cs := skipSpace cs
    match cs with
    | [] => none
    | 'n' :: _ => keyword? ['n', 'u', 'l', 'l'] .null cs
    | 't' :: _ => keyword? ['t', 'r', 'u', 'e'] (.bool true) cs
    | 'f' :: _ => keyword? ['f', 'a', 'l', 's', 'e'] (.bool false) cs
    | '"' :: r => (stringBody? fuel [] false r).map fun (s, r) => (s.elim .lost .text, r)
    | '[' :: r =>
      let r := skipSpace r
      match r with
      | ']' :: r => some (.array [], r)
      | _ => (items? fuel r).map fun (js, r) => (.array js, r)
    | '\x7b' :: r =>
      let r := skipSpace r
      match r with
      | '\x7d' :: r => some (.object [], r)
      | _ => (members? fuel r).map fun (ms, r) => (.object ms, r)
    | _ => (numeral? cs).map fun (n, r) => (n.value, r)

def items? (fuel : Nat) (cs : List Char) : Option (List Json × List Char) :=
  match fuel with
  | 0 => none
  | fuel + 1 => do
    let (j, r) ← value? fuel cs
    match skipSpace r with
    | ',' :: r =>
      let (js, r) ← items? fuel r
      some (j :: js, r)
    | ']' :: r => some ([j], r)
    | _ => none

def members? (fuel : Nat) (cs : List Char) : Option (List (String × Json) × List Char) :=
  match fuel with
  | 0 => none
  | fuel + 1 =>
    match skipSpace cs with
    | '"' :: r => do
      let (key, r) ← stringBody? fuel [] false r
      let key ← key
      match skipSpace r with
      | ':' :: r =>
        let (j, r) ← value? fuel r
        match skipSpace r with
        | ',' :: r =>
          let (ms, r) ← members? fuel r
          some ((key, j) :: ms, r)
        | '\x7d' :: r => some ([(key, j)], r)
        | _ => none
      | _ => none
    | _ => none

end

def parse? (text : String) : Option Json :=
  let cs := text.toList
  match value? (2 * cs.length + 2) cs with
  | some (j, r) => if (skipSpace r).isEmpty then some j else none
  | none => none

end ActivityArchive.Json
