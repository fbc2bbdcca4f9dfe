import ActivityArchive.Record.Device
import ActivityArchive.Record.Network
import ActivityArchive.Record.Power
import ActivityArchive.Record.System

/-!
One family of values for all kinds of records: `Groups S M` holds an `S R` for each kind that a
sample has at most once and an `M R` for each kind that it lists. Samples, buffers and counts are
such families; `ofFun` builds one from what is the same for every kind.
-/
namespace ActivityArchive

open Record

/-- Kinds of records of which a sample has at most one. -/
inductive Single where
  | record
  | pcsw
  | swap
  | paging
  | io
  | memory
  | ktables
  | queue
  | huge
  | psiCpu
  | psiIo
  | psiMem
  | sock
  | ip
  | eip
  | icmp
  | eicmp
  | tcp
  | etcp
  | udp
  | sock6
  | ip6
  | eip6
  | icmp6
  | eicmp6
  | udp6
  | nfs
  | nfsd
  deriving DecidableEq

/-- Kinds of records of which a sample has a list. -/
inductive Multi where
  | cpu
  | softnet
  | cpufreq
  | disk
  | netDev
  | netEdev
  | serial
  | filesystem
  | fchost
  | fan
  | temp
  | voltage
  | bat
  | usb
  deriving DecidableEq

namespace Single

def all : List Single :=
  [.record, .pcsw, .swap, .paging, .io, .memory, .ktables, .queue, .huge, .psiCpu, .psiIo,
   .psiMem, .sock, .ip, .eip, .icmp, .eicmp, .tcp, .etcp, .udp, .sock6, .ip6, .eip6, .icmp6,
   .eicmp6, .udp6, .nfs, .nfsd]

@[reducible] def Rec : Single → Type
  | .record => Uptime
  | .pcsw => TaskSwitches
  | .swap => Swap
  | .paging => Paging
  | .io => BlockIo
  | .memory => Memory
  | .ktables => KernelTables
  | .queue => RunQueue
  | .huge => HugePages
  | .psiCpu => Pressure
  | .psiIo => Pressure
  | .psiMem => Pressure
  | .sock => Sockets
  | .ip => Ip
  | .eip => IpErrors
  | .icmp => Icmp
  | .eicmp => IcmpErrors
  | .tcp => Tcp
  | .etcp => TcpErrors
  | .udp => Udp
  | .sock6 => Sockets6
  | .ip6 => Ip6
  | .eip6 => Ip6Errors
  | .icmp6 => Icmp6
  | .eicmp6 => Icmp6Errors
  | .udp6 => Udp6
  | .nfs => NfsClient
  | .nfsd => NfsServer

def key : Single → String
  | .record => "record"
  | .pcsw => "pcsw"
  | .swap => "swap"
  | .paging => "paging"
  | .io => "io"
  | .memory => "memory"
  | .ktables => "ktables"
  | .queue => "queue"
  | .huge => "huge"
  | .psiCpu => "psi_cpu"
  | .psiIo => "psi_io"
  | .psiMem => "psi_mem"
  | .sock => "sock"
  | .ip => "ip"
  | .eip => "eip"
  | .icmp => "icmp"
  | .eicmp => "eicmp"
  | .tcp => "tcp"
  | .etcp => "etcp"
  | .udp => "udp"
  | .sock6 => "sock6"
  | .ip6 => "ip6"
  | .eip6 => "eip6"
  | .icmp6 => "icmp6"
  | .eicmp6 => "eicmp6"
  | .udp6 => "udp6"
  | .nfs => "nfs"
  | .nfsd => "nfsd"

instance recordOf : (k : Single) → Record k.Rec
  | .record => inferInstanceAs (Record Uptime)
  | .pcsw => inferInstanceAs (Record TaskSwitches)
  | .swap => inferInstanceAs (Record Swap)
  | .paging => inferInstanceAs (Record Paging)
  | .io => inferInstanceAs (Record BlockIo)
  | .memory => inferInstanceAs (Record Memory)
  | .ktables => inferInstanceAs (Record KernelTables)
  | .queue => inferInstanceAs (Record RunQueue)
  | .huge => inferInstanceAs (Record HugePages)
  | .psiCpu => inferInstanceAs (Record Pressure)
  | .psiIo => inferInstanceAs (Record Pressure)
  | .psiMem => inferInstanceAs (Record Pressure)
  | .sock => inferInstanceAs (Record Sockets)
  | .ip => inferInstanceAs (Record Ip)
  | .eip => inferInstanceAs (Record IpErrors)
  | .icmp => inferInstanceAs (Record Icmp)
  | .eicmp => inferInstanceAs (Record IcmpErrors)
  | .tcp => inferInstanceAs (Record Tcp)
  | .etcp => inferInstanceAs (Record TcpErrors)
  | .udp => inferInstanceAs (Record Udp)
  | .sock6 => inferInstanceAs (Record Sockets6)
  | .ip6 => inferInstanceAs (Record Ip6)
  | .eip6 => inferInstanceAs (Record Ip6Errors)
  | .icmp6 => inferInstanceAs (Record Icmp6)
  | .eicmp6 => inferInstanceAs (Record Icmp6Errors)
  | .udp6 => inferInstanceAs (Record Udp6)
  | .nfs => inferInstanceAs (Record NfsClient)
  | .nfsd => inferInstanceAs (Record NfsServer)

end Single

namespace Multi

def all : List Multi :=
  [.cpu, .softnet, .cpufreq, .disk, .netDev, .netEdev, .serial, .filesystem, .fchost, .fan,
   .temp, .voltage, .bat, .usb]

@[reducible] def Rec : Multi → Type
  | .cpu => CpuTimes
  | .softnet => Softnet
  | .cpufreq => CpuClock
  | .disk => Disk
  | .netDev => Interface
  | .netEdev => InterfaceErrors
  | .serial => SerialLine
  | .filesystem => Filesystem
  | .fchost => FcHost
  | .fan => Fan
  | .temp => Temperature
  | .voltage => Voltage
  | .bat => Battery
  | .usb => UsbDevice

def key : Multi → String
  | .cpu => "cpu"
  | .softnet => "softnet"
  | .cpufreq => "cpufreq"
  | .disk => "disk"
  | .netDev => "net_dev"
  | .netEdev => "net_edev"
  | .serial => "serial"
  | .filesystem => "filesystem"
  | .fchost => "fchost"
  | .fan => "fan"
  | .temp => "temp"
  | .voltage => "voltage"
  | .bat => "bat"
  | .usb => "usb"

instance recordOf : (k : Multi) → Record k.Rec
  | .cpu => inferInstanceAs (Record CpuTimes)
  | .softnet => inferInstanceAs (Record Softnet)
  | .cpufreq => inferInstanceAs (Record CpuClock)
  | .disk => inferInstanceAs (Record Disk)
  | .netDev => inferInstanceAs (Record Interface)
  | .netEdev => inferInstanceAs (Record InterfaceErrors)
  | .serial => inferInstanceAs (Record SerialLine)
  | .filesystem => inferInstanceAs (Record Filesystem)
  | .fchost => inferInstanceAs (Record FcHost)
  | .fan => inferInstanceAs (Record Fan)
  | .temp => inferInstanceAs (Record Temperature)
  | .voltage => inferInstanceAs (Record Voltage)
  | .bat => inferInstanceAs (Record Battery)
  | .usb => inferInstanceAs (Record UsbDevice)

end Multi

structure Groups (S M : Type → Type) where
  record : S Uptime
  pcsw : S TaskSwitches
  swap : S Swap
  paging : S Paging
  io : S BlockIo
  memory : S Memory
  ktables : S KernelTables
  queue : S RunQueue
  huge : S HugePages
  psiCpu : S Pressure
  psiIo : S Pressure
  psiMem : S Pressure
  sock : S Sockets
  ip : S Ip
  eip : S IpErrors
  icmp : S Icmp
  eicmp : S IcmpErrors
  tcp : S Tcp
  etcp : S TcpErrors
  udp : S Udp
  sock6 : S Sockets6
  ip6 : S Ip6
  eip6 : S Ip6Errors
  icmp6 : S Icmp6
  eicmp6 : S Icmp6Errors
  udp6 : S Udp6
  nfs : S NfsClient
  nfsd : S NfsServer
  cpu : M CpuTimes
  softnet : M Softnet
  cpufreq : M CpuClock
  disk : M Disk
  netDev : M Interface
  netEdev : M InterfaceErrors
  serial : M SerialLine
  filesystem : M Filesystem
  fchost : M FcHost
  fan : M Fan
  temp : M Temperature
  voltage : M Voltage
  bat : M Battery
  usb : M UsbDevice

namespace Groups

variable {S M : Type → Type}

def single (g : Groups S M) : (k : Single) → S k.Rec
  | .record => g.record
  | .pcsw => g.pcsw
  | .swap => g.swap
  | .paging => g.paging
  | .io => g.io
  | .memory => g.memory
  | .ktables => g.ktables
  | .queue => g.queue
  | .huge => g.huge
  | .psiCpu => g.psiCpu
  | .psiIo => g.psiIo
  | .psiMem => g.psiMem
  | .sock => g.sock
  | .ip => g.ip
  | .eip => g.eip
  | .icmp => g.icmp
  | .eicmp => g.eicmp
  | .tcp => g.tcp
  | .etcp => g.etcp
  | .udp => g.udp
  | .sock6 => g.sock6
  | .ip6 => g.ip6
  | .eip6 => g.eip6
  | .icmp6 => g.icmp6
  | .eicmp6 => g.eicmp6
  | .udp6 => g.udp6
  | .nfs => g.nfs
  | .nfsd => g.nfsd

def multi (g : Groups S M) : (k : Multi) → M k.Rec
  | .cpu => g.cpu
  | .softnet => g.softnet
  | .cpufreq => g.cpufreq
  | .disk => g.disk
  | .netDev => g.netDev
  | .netEdev => g.netEdev
  | .serial => g.serial
  | .filesystem => g.filesystem
  | .fchost => g.fchost
  | .fan => g.fan
  | .temp => g.temp
  | .voltage => g.voltage
  | .bat => g.bat
  | .usb => g.usb

def setSingle (g : Groups S M) : (k : Single) → S k.Rec → Groups S M
  | .record, x => { g with record := x }
  | .pcsw, x => { g with pcsw := x }
  | .swap, x => { g with swap := x }
  | .paging, x => { g with paging := x }
  | .io, x => { g with io := x }
  | .memory, x => { g with memory := x }
  | .ktables, x => { g with ktables := x }
  | .queue, x => { g with queue := x }
  | .huge, x => { g with huge := x }
  | .psiCpu, x => { g with psiCpu := x }
  | .psiIo, x => { g with psiIo := x }
  | .psiMem, x => { g with psiMem := x }
  | .sock, x => { g with sock := x }
  | .ip, x => { g with ip := x }
  | .eip, x => { g with eip := x }
  | .icmp, x => { g with icmp := x }
  | .eicmp, x => { g with eicmp := x }
  | .tcp, x => { g with tcp := x }
  | .etcp, x => { g with etcp := x }
  | .udp, x => { g with udp := x }
  | .sock6, x => { g with sock6 := x }
  | .ip6, x => { g with ip6 := x }
  | .eip6, x => { g with eip6 := x }
  | .icmp6, x => { g with icmp6 := x }
  | .eicmp6, x => { g with eicmp6 := x }
  | .udp6, x => { g with udp6 := x }
  | .nfs, x => { g with nfs := x }
  | .nfsd, x => { g with nfsd := x }

def setMulti (g : Groups S M) : (k : Multi) → M k.Rec → Groups S M
  | .cpu, x => { g with cpu := x }
  | .softnet, x => { g with softnet := x }
  | .cpufreq, x => { g with cpufreq := x }
  | .disk, x => { g with disk := x }
  | .netDev, x => { g with netDev := x }
  | .netEdev, x => { g with netEdev := x }
  | .serial, x => { g with serial := x }
  | .filesystem, x => { g with filesystem := x }
  | .fchost, x => { g with fchost := x }
  | .fan, x => { g with fan := x }
  | .temp, x => { g with temp := x }
  | .voltage, x => { g with voltage := x }
  | .bat, x => { g with bat := x }
  | .usb, x => { g with usb := x }

/-- The family that has, for each kind, the value of the two functions. -/
def ofFun (s : (k : Single) → S k.Rec) (m : (k : Multi) → M k.Rec) : Groups S M where
  record := s .record
  pcsw := s .pcsw
  swap := s .swap
  paging := s .paging
  io := s .io
  memory := s .memory
  ktables := s .ktables
  queue := s .queue
  huge := s .huge
  psiCpu := s .psiCpu
  psiIo := s .psiIo
  psiMem := s .psiMem
  sock := s .sock
  ip := s .ip
  eip := s .eip
  icmp := s .icmp
  eicmp := s .eicmp
  tcp := s .tcp
  etcp := s .etcp
  udp := s .udp
  sock6 := s .sock6
  ip6 := s .ip6
  eip6 := s .eip6
  icmp6 := s .icmp6
  eicmp6 := s .eicmp6
  udp6 := s .udp6
  nfs := s .nfs
  nfsd := s .nfsd
  cpu := m .cpu
  softnet := m .softnet
  cpufreq := m .cpufreq
  disk := m .disk
  netDev := m .netDev
  netEdev := m .netEdev
  serial := m .serial
  filesystem := m .filesystem
  fchost := m .fchost
  fan := m .fan
  temp := m .temp
  voltage := m .voltage
  bat := m .bat
  usb := m .usb

@[simp] theorem single_ofFun (s : (k : Single) → S k.Rec) (m : (k : Multi) → M k.Rec)
    (k : Single) : (ofFun s m).single k = s k := by cases k <;> rfl

@[simp] theorem multi_ofFun (s : (k : Single) → S k.Rec) (m : (k : Multi) → M k.Rec)
    (k : Multi) : (ofFun s m).multi k = m k := by cases k <;> rfl

@[simp] theorem single_setSingle (g : Groups S M) (k : Single) (x : S k.Rec) :
    (g.setSingle k x).single k = x := by cases k <;> rfl

@[simp] theorem multi_setMulti (g : Groups S M) (k : Multi) (x : M k.Rec) :
    (g.setMulti k x).multi k = x := by cases k <;> rfl

@[simp] theorem single_setMulti (g : Groups S M) (k : Single) (m : Multi) (x : M m.Rec) :
    (g.setMulti m x).single k = g.single k := by cases m <;> rfl

@[simp] theorem multi_setSingle (g : Groups S M) (k : Multi) (s : Single) (x : S s.Rec) :
    (g.setSingle s x).multi k = g.multi k := by cases s <;> rfl

theorem single_setSingle_ne (g : Groups S M) {k l : Single} (h : l ≠ k) (x : S k.Rec) :
    (g.setSingle k x).single l = g.single l := by
  cases k <;> cases l <;> first | rfl | exact absurd rfl h

theorem multi_setMulti_ne (g : Groups S M) {k l : Multi} (h : l ≠ k) (x : M k.Rec) :
    (g.setMulti k x).multi l = g.multi l := by
  cases k <;> cases l <;> first | rfl | exact absurd rfl h

theorem ext_kinds {g h : Groups S M} (hs : ∀ k, g.single k = h.single k)
    (hm : ∀ k, g.multi k = h.multi k) : g = h := by
  cases g
  cases h
  congr
  · exact hs .record
  · exact hs .pcsw
  · exact hs .swap
  · exact hs .paging
  · exact hs .io
  · exact hs .memory
  · exact hs .ktables
  · exact hs .queue
  · exact hs .huge
  · exact hs .psiCpu
  · exact hs .psiIo
  · exact hs .psiMem
  · exact hs .sock
  · exact hs .ip
  · exact hs .eip
  · exact hs .icmp
  · exact hs .eicmp
  · exact hs .tcp
  · exact hs .etcp
  · exact hs .udp
  · exact hs .sock6
  · exact hs .ip6
  · exact hs .eip6
  · exact hs .icmp6
  · exact hs .eicmp6
  · exact hs .udp6
  · exact hs .nfs
  · exact hs .nfsd
  · exact hm .cpu
  · exact hm .softnet
  · exact hm .cpufreq
  · exact hm .disk
  · exact hm .netDev
  · exact hm .netEdev
  · exact hm .serial
  · exact hm .filesystem
  · exact hm .fchost
  · exact hm .fan
  · exact hm .temp
  · exact hm .voltage
  · exact hm .bat
  · exact hm .usb

end Groups

end ActivityArchive
