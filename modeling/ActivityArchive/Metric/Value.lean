import ActivityArchive.Decimal.Layout
import ActivityArchive.Decimal.Reader
import ActivityArchive.Text.Blank
import ActivityArchive.Text.Quoted

/-!
Metric values and their canonical text. Numbers are read after white space is trimmed, strings as
they are; each kind has one written form, which reads back to the same value.
-/
namespace ActivityArchive

/-- The declared type of a metric. -/
inductive Kind where
  | u32
  | u64
  | float
  | double
  | string
  deriving DecidableEq

namespace Kind

def all : List Kind := [.u32, .u64, .float, .double, .string]

def name : Kind → String
  | .u32 => "U32"
  | .u64 => "U64"
  | .float => "Float"
  | .double => "Double"
  | .string => "String"

end Kind

inductive Semantics where
  | counter
  | instant
  | discrete
  deriving DecidableEq

namespace Semantics

def all : List Semantics := [.counter, .instant, .discrete]

def name : Semantics → String
  | .counter => "Counter"
  | .instant => "Instant"
  | .discrete => "Discrete"

end Semantics

/-- Physical unit of a metric. -/
inductive MetricUnit where
  | none
  | count
  | bytes
  | kbytes
  | mbytes
  | msec
  | usec
  | sec
  | countPerSec
  | perUsec
  deriving DecidableEq

namespace MetricUnit

def all : List MetricUnit :=
  [.none, .count, .bytes, .kbytes, .mbytes, .msec, .usec, .sec, .countPerSec, .perUsec]

def name : MetricUnit → String
  | .none => "None"
  | .count => "Count"
  | .bytes => "Bytes"
  | .kbytes => "Kbytes"
  | .mbytes => "Mbytes"
  | .msec => "Msec"
  | .usec => "Usec"
  | .sec => "Sec"
  | .countPerSec => "CountPerSec"
  | .perUsec => "PerUsec"

/-- Exponents of space, time and count. -/
def dimensions : MetricUnit → Int × Int × Int
  | .none => (0, 0, 0)
  | .count => (0, 0, 1)
  | .bytes | .kbytes | .mbytes => (1, 0, 0)
  | .msec | .usec | .sec => (0, 1, 0)
  | .countPerSec => (0, -1, 1)
  | .perUsec => (0, -1, 0)

def label : MetricUnit → String
  | .none => ""
  | .count => "count"
  | .bytes => "byte"
  | .kbytes => "Kbyte"
  | .mbytes => "Mbyte"
  | .msec => "millisec"
  | .usec => "microsec"
  | .sec => "sec"
  | .countPerSec => "count / sec"
  | .perUsec => "/ microsec"

end MetricUnit

inductive Value where
  | u32 (n : UInt32)
  | u64 (n : UInt64)
  | float (x : Float32)
  | double (x : Float)
  | string (s : String)

inductive ValueError where
  | unreadable (kind : Kind) (text : String)
  deriving DecidableEq

def ValueError.message : ValueError → String
  | .unreadable kind text => "cannot parse " ++ Text.quoted text ++ " as " ++ kind.name

namespace Value

def kind : Value → Kind
  | .u32 _ => .u32
  | .u64 _ => .u64
  | .float _ => .float
  | .double _ => .double
  | .string _ => .string

def text : Value → String
  | .u32 n => Text.decimal n.toNat
  | .u64 n => Text.decimal n.toNat
  | .float x => Decimal.metricText.printSingle x
  | .double x => Decimal.metricText.printDouble x
  | .string s => s

def read? (kind : Kind) (text : String) : Option Value :=
  let cs := Text.trim text.toList
  match kind with
  | .u32 => (Text.natural? 10 UInt32.size cs).map fun n => .u32 n.toUInt32
  | .u64 => (Text.natural? 10 UInt64.size cs).map fun n => .u64 n.toUInt64
  | .float => (Decimal.readSingle? cs).map .float
  | .double => (Decimal.readDouble? cs).map .double
  | .string => some (.string text)

def read (kind : Kind) (text : String) : Except ValueError Value :=
  match read? kind text with
  | some v => .ok v
  | none => .error (.unreadable kind text)

/-- The whole part of a float that is finite and not negative; beyond 64 bits, the largest word. -/
def wholePart? (x : Float) : Option UInt64 :=
  if x.isFinite && 0 ≤ x then some x.toUInt64 else none

def word64? : Value → Option UInt64
  | .u32 n => some n.toUInt64
  | .u64 n => some n
  | .float x => wholePart? x.toFloat
  | .double x => wholePart? x
  | .string _ => none

def word32? (v : Value) : Option UInt32 :=
  match v.word64? with
  | some n => if n.toNat < UInt32.size then some n.toUInt32 else none
  | none => none

def real? : Value → Option Float
  | .u32 n => some n.toUInt64.toFloat
  | .u64 n => some n.toFloat
  | .float x => some x.toFloat
  | .double x => some x
  | .string _ => none

def string? : Value → Option String
  | .string s => some s
  | _ => none

/-- Hundredths, as a float: 152 is 1.52. -/
def ofHundredths (n : UInt64) : Value := .float (n.toFloat / 100).toFloat32

/-- The number of hundredths next to a float, zero for what is negative or not finite. -/
def hundredths (x : Float) : UInt64 :=
  let scaled := (x * 100).round
  if scaled.isFinite && 0 < scaled then scaled.toUInt64 else 0

end Value

end ActivityArchive
