import ActivityArchive.Record.Field

/-!
Records of devices: disks, serial lines, filesystems and fibre-channel hosts.
-/
namespace ActivityArchive.Record

/-- Requests, sectors of 512 bytes, and milliseconds of one block device. -/
structure Disk where
  major : UInt32 := 0
  minor : UInt32 := 0
  name : String := ""
  nrIos : UInt64 := 0
  rdSect : UInt64 := 0
  wrSect : UInt64 := 0
  dcSect : UInt64 := 0
  rdTicks : UInt32 := 0
  wrTicks : UInt32 := 0
  dcTicks : UInt32 := 0
  totTicks : UInt32 := 0
  rqTicks : UInt32 := 0

instance : Record Disk where
  default := {}
  fields :=
    [ .counter (.word32 "major" (·.major) (fun x r => { r with major := x })),
      .counter (.word32 "minor" (·.minor) (fun x r => { r with minor := x })),
      .text "name" (·.name) (fun x r => { r with name := x }),
      .counter (.word64 "nr_ios" (·.nrIos) (fun x r => { r with nrIos := x })),
      .counter (.word64 "rd_sect" (·.rdSect) (fun x r => { r with rdSect := x })),
      .counter (.word64 "wr_sect" (·.wrSect) (fun x r => { r with wrSect := x })),
      .counter (.word64 "dc_sect" (·.dcSect) (fun x r => { r with dcSect := x })),
      .counter (.word32 "rd_ticks" (·.rdTicks) (fun x r => { r with rdTicks := x })),
      .counter (.word32 "wr_ticks" (·.wrTicks) (fun x r => { r with wrTicks := x })),
      .counter (.word32 "dc_ticks" (·.dcTicks) (fun x r => { r with dcTicks := x })),
      .counter (.word32 "tot_ticks" (·.totTicks) (fun x r => { r with totTicks := x })),
      .counter (.word32 "rq_ticks" (·.rqTicks) (fun x r => { r with rqTicks := x })) ]

structure SerialLine where
  line : UInt32 := 0
  rx : UInt32 := 0
  tx : UInt32 := 0
  frame : UInt32 := 0
  parity : UInt32 := 0
  brk : UInt32 := 0
  overrun : UInt32 := 0

def SerialLine.counters : List (Counter SerialLine) :=
  [ .word32 "line" (·.line) (fun x r => { r with line := x }),
    .word32 "rx" (·.rx) (fun x r => { r with rx := x }),
    .word32 "tx" (·.tx) (fun x r => { r with tx := x }),
    .word32 "frame" (·.frame) (fun x r => { r with frame := x }),
    .word32 "parity" (·.parity) (fun x r => { r with parity := x }),
    .word32 "brk" (·.brk) (fun x r => { r with brk := x }),
    .word32 "overrun" (·.overrun) (fun x r => { r with overrun := x }) ]

instance : Record SerialLine where
  default := {}
  fields := SerialLine.counters.map .counter

/-- Sizes in bytes; `availBytes` is what users without privileges can take. -/
structure Filesystem where
  fsName : String := ""
  totalBytes : UInt64 := 0
  freeBytes : UInt64 := 0
  availBytes : UInt64 := 0
  files : UInt64 := 0
  freeFiles : UInt64 := 0

instance : Record Filesystem where
  default := {}
  fields :=
    [ .text "fs_name" (·.fsName) (fun x r => { r with fsName := x }),
      .counter (.word64 "total_bytes" (·.totalBytes) (fun x r => { r with totalBytes := x })),
      .counter (.word64 "free_bytes" (·.freeBytes) (fun x r => { r with freeBytes := x })),
      .counter (.word64 "avail_bytes" (·.availBytes) (fun x r => { r with availBytes := x })),
      .counter (.word64 "files" (·.files) (fun x r => { r with files := x })),
      .counter (.word64 "free_files" (·.freeFiles) (fun x r => { r with freeFiles := x })) ]

/-- Frames, and words of four bytes. -/
structure FcHost where
  name : String := ""
  rxFrames : UInt64 := 0
  txFrames : UInt64 := 0
  rxWords : UInt64 := 0
  txWords : UInt64 := 0

instance : Record FcHost where
  default := {}
  fields :=
    [ .text "name" (·.name) (fun x r => { r with name := x }),
      .counter (.word64 "rx_frames" (·.rxFrames) (fun x r => { r with rxFrames := x })),
      .counter (.word64 "tx_frames" (·.txFrames) (fun x r => { r with txFrames := x })),
      .counter (.word64 "rx_words" (·.rxWords) (fun x r => { r with rxWords := x })),
      .counter (.word64 "tx_words" (·.txWords) (fun x r => { r with txWords := x })) ]

end ActivityArchive.Record
