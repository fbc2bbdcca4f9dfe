import ActivityArchive.Instance.Registry

/-!
The instance domains in use, the instances whose numbers are fixed, and the labels made of numbers.
A label of a line on a CPU can be split again whatever the line is called, because the number behind
the last separator has no separator in it.
-/
namespace ActivityArchive.Domain

def perCpu : DomainId := .pack 60 0

def disk : DomainId := .pack 60 1

def loadAverage : DomainId := .pack 60 2

def interface : DomainId := .pack 60 3

def interrupt : DomainId := .pack 60 4

def filesystem : DomainId := .pack 60 5

def nfsRequest : DomainId := .pack 60 7

def serial : DomainId := .pack 60 35

def pressure : DomainId := .pack 60 37

def fcHost : DomainId := .pack 60 39

def perCpuInterrupt : DomainId := .pack 60 40

def fan : DomainId := .pack 34 0

def temperature : DomainId := .pack 34 1

def voltage : DomainId := .pack 34 2

def usb : DomainId := .pack 34 3

def battery : DomainId := .pack 34 4

/-- Load-average periods, numbered by their length in minutes. -/
def loadPeriods : List Entry := [(1, "1 minute"), (5, "5 minute"), (15, "15 minute")]

/-- Pressure windows, numbered by their length in seconds. -/
def pressureWindows : List Entry := [(10, "10 second"), (60, "1 minute"), (300, "5 minute")]

/-- Request kinds, numbered by their protocol opcode. -/
def nfsRequests : List Entry := [(4, "getattr"), (6, "read"), (8, "write"), (18, "access")]

def cpuLabel (cpu : Nat) : String := "cpu" ++ Text.decimal cpu

def separator : List Char := [':', ':', 'c', 'p', 'u']

/-- The label of an interrupt line as one CPU sees it. -/
def lineLabel (line : String) (cpu : Nat) : String :=
  String.ofList (line.toList ++ separator ++ Nat.toDigits 10 cpu)

/-- What stands before and behind the last separator. -/
def splitLast? : List Char → Option (List Char × List Char)
  | [] => none
  | c :: cs =>
    match splitLast? cs with
    | some (before, behind) => some (c :: before, behind)
    | none =>
      if separator.isPrefixOf (c :: cs) then some ([], (c :: cs).drop separator.length) else none

/-- The line and the CPU of a label. -/
def splitLabel? (label : String) : Option (String × Nat) := do
  let (line, cpu) ← splitLast? label.toList
  let cpu ← Text.natural? 10 UInt64.size cpu
  return (String.ofList line, cpu)

end ActivityArchive.Domain
