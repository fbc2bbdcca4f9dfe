/-!
JSON values. Numbers are carried exactly: as an integer of at most 64 bits when the text is one,
as a double otherwise.
-/
namespace ActivityArchive

inductive Json where
  | null
  | bool (b : Bool)
  | integer (i : Int)
  | real (x : Float)
  | text (s : String)
  | array (items : List Json)
  | object (members : List (String × Json))
  /-- A well-formed literal that stands for no value: a number beyond the doubles, or a string with
  half a surrogate pair. It can be skipped but not read. -/
  | lost
  deriving Inhabited

namespace Json

/-- The deepest nesting that is read as a whole. -/
def depthLimit : Nat := 127

/-- Whether every literal has a value and nothing is nested deeper than `depth`. -/
def whole (depth : Nat) : Json → Bool
  | .lost => false
  | .array items => depth != 0 && wholeItems (depth - 1) items
  | .object members => depth != 0 && wholeMembers (depth - 1) members
  | _ => true
where
  wholeItems (depth : Nat) : List Json → Bool
    | [] => true
    | j :: js => whole depth j && wholeItems depth js
  wholeMembers (depth : Nat) : List (String × Json) → Bool
    | [] => true
    | (_, j) :: ms => whole depth j && wholeMembers depth ms

/-- Of members with one key only the last one stays. -/
def lastOnly (members : List (String × Json)) : List (String × Json) :=
  members.foldr (fun m kept => if kept.any (·.1 == m.1) then kept else m :: kept) []

/-- Drops every member that a later one of the same key replaces. -/
def distinct : Json → Json
  | .array items => .array (distinctItems items)
  | .object members => .object (lastOnly (distinctMembers members))
  | j => j
where
  distinctItems : List Json → List Json
    | [] => []
    | j :: js => distinct j :: distinctItems js
  distinctMembers : List (String × Json) → List (String × Json)
    | [] => []
    | (k, j) :: ms => (k, distinct j) :: distinctMembers ms

def get? (key : String) : Json → Option Json
  | .object members => (members.find? (·.1 == key)).map (·.2)
  | _ => none

end Json

end ActivityArchive
