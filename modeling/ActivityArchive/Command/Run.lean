import ActivityArchive.Archive
import ActivityArchive.Command.Invocation
import ActivityArchive.Command.Listing
import ActivityArchive.Json.Reader
import ActivityArchive.Json.Writer

/-!
What an invocation does, given the texts of the files that can be read: a text for standard output,
a file to write, an exit code, and a message where it fails.
-/
namespace ActivityArchive

open Json

inductive CommandError where
  | unreadable (path : String)
  | malformed (path : String)
  | session (cause : SessionError)
  | unknownGroup (name : String)

def CommandError.message : CommandError → String
  | .unreadable path => "failed to read " ++ path
  | .malformed path => "failed to parse " ++ path
  | .session cause => cause.message
  | .unknownGroup name => "unknown group '" ++ name ++ "'"

/-- Texts by the paths of their files. -/
abbrev Files := List (String × String)

/-- What a successful invocation leaves behind. -/
structure Product where
  stdout : String
  file : Option (String × String)

namespace Invocation

/-- The files that an invocation reads. -/
def inputs : Invocation → List String
  | .exportSamples input _ config => input :: config.toList
  | .importArchive input _ => [input]
  | .catalog _ _ => []

def readFile {A : Type} (files : Files) (path : String) (read? : Json → Option A) :
    Except CommandError A :=
  match files.find? (·.1 == path) with
  | none => .error (.unreadable path)
  | some (_, content) =>
    match (Json.parse? content).bind read? with
    | some a => .ok a
    | none => .error (.malformed path)

/-- Puts a value into a file, or on standard output as a text of its own. -/
def deliver (output : Option String) (j : Json) : Product :=
  match output with
  | some path => ⟨"", some (path, j.print)⟩
  | none => ⟨j.print ++ "\n", none⟩

def inSession {A : Type} (r : Except SessionError A) : Except CommandError A :=
  r.mapError .session

def groups : Option String → Except CommandError (List Group)
  | none => .ok Group.all
  | some name =>
    match Group.ofName? name with
    | some g => .ok [g]
    | none => .error (.unknownGroup name)

def run (files : Files) : Invocation → Except CommandError Product
  | .exportSamples input output config => do
    let archive ← readFile files input Archive.ofJson?
    let config ← match config with
      | some path => readFile files path Config.shape.ofJson?
      | none => .ok {}
    let store ← inSession (archive.toStore config)
    return deliver (some output) (Store.shape.toJson store)
  | .importArchive input output => do
    let store ← readFile files input Store.shape.ofJson?
    let archive ← inSession (Archive.ofStore store)
    return deliver output (Archive.shape.toJson archive)
  | .catalog group json => do
    let lines := Listing.ofGroups (← groups group)
    return if json then deliver none (Listing.toJson lines) else ⟨Listing.table lines, none⟩

end Invocation

/-- The exit code of a command line that is not used as it should be. -/
def usageExit : UInt32 := 2

/-- The exit code of an invocation that fails. -/
def failureExit : UInt32 := 1

end ActivityArchive
