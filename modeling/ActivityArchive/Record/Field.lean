import ActivityArchive.Json.Shape
import ActivityArchive.Metric.Value

/-!
Record types described by their fields. The description gives the JSON form of a record, and for a
record of counters also the metric values of its fields: to copy every field of a record over a
blank one gives the record again.
-/
namespace ActivityArchive

open Json

/-- A field that holds a word. -/
inductive Counter (R : Type) where
  | word32 (key : String) (get : R → UInt32) (set : UInt32 → R → R)
  | word64 (key : String) (get : R → UInt64) (set : UInt64 → R → R)

namespace Counter

variable {R : Type}

def key : Counter R → String
  | .word32 key _ _ => key
  | .word64 key _ _ => key

def kind : Counter R → Kind
  | .word32 .. => .u32
  | .word64 .. => .u64

def value : Counter R → R → Value
  | .word32 _ get _, r => .u32 (get r)
  | .word64 _ get _, r => .u64 (get r)

/-- Writes a value into the field, if it is a number that fits. -/
def assign? : Counter R → Value → Option (R → R)
  | .word32 _ _ set, v => v.word32?.map set
  | .word64 _ _ set, v => v.word64?.map set

/-- Takes over the field of another record. -/
def copy : Counter R → R → R → R
  | .word32 _ get set, source, r => set (get source) r
  | .word64 _ get set, source, r => set (get source) r

def member : Counter R → Member R
  | .word32 key get set => .plain key .anywhere .word32 get set
  | .word64 key get set => .plain key .anywhere .word64 get set

end Counter

/-- Three averages over growing windows, in hundredths. -/
structure Window where
  short : UInt64 := 0
  middle : UInt64 := 0
  long : UInt64 := 0
  deriving DecidableEq

/-- A window is an array of exactly three numbers. -/
def Window.codec : Codec Window where
  write w := .array (([w.short, w.middle, w.long]).map Codec.word64.write)
  read? j := match (Codec.list Codec.word64).read? j with
    | some [a, b, c] => some ⟨a, b, c⟩
    | _ => none

inductive Field (R : Type) where
  | counter (c : Counter R)
  | text (key : String) (get : R → String) (set : String → R → R)
  | real (key : String) (get : R → Float) (set : Float → R → R)
  | window (key : String) (get : R → Window) (set : Window → R → R)

def Field.member {R : Type} : Field R → Member R
  | .counter c => c.member
  | .text key get set => .plain key .anywhere .text get set
  | .real key get set => .plain key .anywhere .real get set
  | .window key get set => .plain key .anywhere Window.codec get set

/-- A type of records; the default record is the blank one. -/
class Record (R : Type) extends Inhabited R where
  fields : List (Field R)

/-- The JSON form of a record, in which every field may be missing. -/
def Record.shape (R : Type) [Record R] : Shape R :=
  ⟨default, (fields (R := R)).map Field.member⟩

def Record.codec (R : Type) [Record R] : Codec R := (Record.shape R).codec

end ActivityArchive
