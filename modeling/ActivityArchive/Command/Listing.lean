import ActivityArchive.Group.All
import ActivityArchive.Json.Basic

/-!
The list of metrics that groups publish, as a table and as JSON.
-/
namespace ActivityArchive.Listing

open Json

/-- A line of the list: a metric with the name of its group. -/
abbrev Line := String × Descriptor

def ofGroups (groups : List Group) : List Line :=
  groups.flatMap fun g => g.metrics.map fun d => (g.name, d)

def domainText (d : Descriptor) : Option String := d.domain.map DomainId.text

/-- A cell of at least `width` characters. -/
def cell (width : Nat) (s : String) : String :=
  s ++ String.ofList (List.replicate (width - s.length) ' ')

def widths : List Nat := [14, 12, 48, 7, 9, 8, 0]

def row (cells : List String) : String :=
  " ".intercalate (List.zipWith cell widths cells) ++ "\n"

def cells : Line → List String
  | (group, d) =>
    [group, d.id.text, d.name, d.kind.name, d.semantics.name, (domainText d).getD "-", d.unit.label]

def table (lines : List Line) : String :=
  row ["GROUP", "ID", "NAME", "TYPE", "SEM", "INDOM", "UNIT"] ++
    String.join (lines.map fun l => row (cells l))

def entry : Line → Json
  | (group, d) =>
    .object
      [ ("group", .text group),
        ("id", .text d.id.text),
        ("domain", .integer d.id.domain.toNat),
        ("cluster", .integer d.id.cluster.toNat),
        ("item", .integer d.id.item.toNat),
        ("name", .text d.name),
        ("type", .text d.kind.name),
        ("semantics", .text d.semantics.name),
        ("indom", ((domainText d).map .text).getD .null),
        ("unit", .text d.unit.label) ]

def toJson (lines : List Line) : Json := .array (lines.map entry)

end ActivityArchive.Listing
