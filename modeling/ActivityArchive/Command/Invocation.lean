/-!
The words of a command line. Words before the subcommand and words after it are read by the same
rules: long options take a value after an equals sign or in the next word, short ones may be joined,
and behind a lone double dash every word is positional. What may come once must not come twice.
-/
namespace ActivityArchive

/-- An option of the command line by its names. -/
structure OptionRule where
  long : String
  short : Option Char
  takesValue : Bool
  repeats : Bool

/-- What the words of one level say. -/
structure Words where
  flags : List String
  values : List (String × String)
  positional : List String

namespace Words

def empty : Words := ⟨[], [], []⟩

def addFlag (w : Words) (r : OptionRule) : Option Words :=
  if !r.repeats && w.flags.contains r.long then none
  else some { w with flags := w.flags ++ [r.long] }

def addValue (w : Words) (r : OptionRule) (value : String) : Option Words :=
  if w.values.any (·.1 == r.long) then none
  else some { w with values := w.values ++ [(r.long, value)] }

def value? (w : Words) (long : String) : Option String :=
  (w.values.find? (·.1 == long)).map (·.2)

/-- Whether a word is an option or a cluster of them. -/
def isOption (word : List Char) : Bool :=
  match word with
  | '-' :: _ :: _ => true
  | _ => false

/-- The letters of a short cluster. The letter of an option with a value ends it: the value is the
rest of the word, or else the next word, which is given back as asked for. -/
def cluster (rules : List OptionRule) (w : Words) :
    List Char → Option (Words × Option OptionRule)
  | [] => some (w, none)
  | c :: cs => do
    let r ← rules.find? (·.short = some c)
    if r.takesValue then
      match cs with
      | [] => some (w, some r)
      | '=' :: v => (w.addValue r (String.ofList v)).map (·, none)
      | v => (w.addValue r (String.ofList v)).map (·, none)
    else cluster rules (← w.addFlag r) cs

/-- A long option without its dashes. -/
def longOption (rules : List OptionRule) (w : Words) (word : List Char) :
    Option (Words × Option OptionRule) := do
  let name := word.takeWhile (· ≠ '=')
  let r ← rules.find? (·.long = String.ofList name)
  match word.drop name.length, r.takesValue with
  | [], true => some (w, some r)
  | [], false => (w.addFlag r).map (·, none)
  | _ :: v, true => (w.addValue r (String.ofList v)).map (·, none)
  | _ :: _, false => none

/-- Reads words up to their end, or up to the first positional one where `stops`. -/
def read (rules : List OptionRule) (stops : Bool) (w : Words) (asked : Option OptionRule) :
    List String → Option (Words × List String)
  | [] => if asked.isSome then none else some (w, [])
  | word :: rest =>
    let cs := word.toList
    match asked with
    | some r =>
      if isOption cs then none
      else do read rules stops (← w.addValue r word) none rest
    | none =>
      if cs = ['-', '-'] then some ({ w with positional := w.positional ++ rest }, [])
      else if cs.take 2 = ['-', '-'] then do
        let (w, asked) ← longOption rules w (cs.drop 2)
        read rules stops w asked rest
      else if isOption cs then do
        let (w, asked) ← cluster rules w (cs.drop 1)
        read rules stops w asked rest
      else if stops then some (w, word :: rest)
      else read rules stops { w with positional := w.positional ++ [word] } none rest

end Words

/-- What is asked for. -/
inductive Invocation where
  | exportSamples (input output : String) (config : Option String)
  | importArchive (input : String) (output : Option String)
  | catalog (group : Option String) (json : Bool)

namespace Invocation

def verbose : OptionRule := ⟨"verbose", some 'v', false, true⟩

def quiet : OptionRule := ⟨"quiet", some 'q', false, false⟩

/-- Options of every level. They say how much is logged. -/
def common : List OptionRule := [verbose, quiet]

def output : OptionRule := ⟨"output", some 'o', true, false⟩

def config : OptionRule := ⟨"config", none, true, false⟩

def group : OptionRule := ⟨"group", none, true, false⟩

def json : OptionRule := ⟨"json", none, false, false⟩

/-- The words behind a subcommand. -/
def wordsOf (rules : List OptionRule) (words : List String) : Option Words :=
  (Words.read (common ++ rules) false .empty none words).map (·.1)

/-- A path is never empty. -/
def path? (s : String) : Option String := if s.isEmpty then none else some s

def optionalPath? : Option String → Option (Option String)
  | some s => (path? s).map some
  | none => some none

def single? : List String → Option String
  | [s] => path? s
  | _ => none

def ofSubcommand? (name : String) (words : List String) : Option Invocation :=
  if name = "export" then do
    let w ← wordsOf [output, config] words
    let target ← w.value? output.long
    return .exportSamples (← single? w.positional) (← path? target)
      (← optionalPath? (w.value? config.long))
  else if name = "import" then do
    let w ← wordsOf [output] words
    return .importArchive (← single? w.positional) (← optionalPath? (w.value? output.long))
  else if name = "catalog" then do
    let w ← wordsOf [group, json] words
    if w.positional.isEmpty then
      return .catalog (w.value? group.long) (w.flags.contains json.long)
    else none
  else none

/-- The invocation of a command line, nothing where it is not used as it should be. -/
def ofWords? (words : List String) : Option Invocation := do
  let (_, rest) ← Words.read common true .empty none words
  match rest with
  | name :: words => ofSubcommand? name words
  | [] => none

end Invocation

end ActivityArchive
