import ActivityArchive.Catalog.Basic
import ActivityArchive.Catalog.Routes
import ActivityArchive.Group.Header
import ActivityArchive.Group.Interrupt
import ActivityArchive.Group.Keyed
import ActivityArchive.Group.Memory
import ActivityArchive.Group.NetworkCounters
import ActivityArchive.Group.Numbered
import ActivityArchive.Group.PerCpu
import ActivityArchive.Group.Sensor
import ActivityArchive.Group.SystemCounters

/-!
All statistic groups, in the order in which they are defined and exported.
-/
namespace ActivityArchive

inductive Group where
  | fileHeader
  | recordHeader
  | cpu
  | softnet
  | cpuClock
  | taskSwitches
  | interrupts
  | swap
  | paging
  | blockIo
  | memory
  | hugePages
  | kernelTables
  | runQueue
  | disks
  | interfaces
  | interfaceErrors
  | serialLines
  | filesystems
  | fcHosts
  | sockets
  | ip
  | ipErrors
  | icmp
  | icmpErrors
  | tcp
  | tcpErrors
  | udp
  | sockets6
  | ip6
  | ip6Errors
  | icmp6
  | icmp6Errors
  | udp6
  | nfsClient
  | nfsServer
  | fans
  | temperatures
  | voltages
  | usbDevices
  | batteries
  | cpuPressure
  | ioPressure
  | memoryPressure
  deriving DecidableEq

namespace Group

def all : List Group :=
  [.fileHeader, .recordHeader, .cpu, .softnet, .cpuClock, .taskSwitches, .interrupts, .swap,
   .paging, .blockIo, .memory, .hugePages, .kernelTables, .runQueue, .disks, .interfaces,
   .interfaceErrors, .serialLines, .filesystems, .fcHosts, .sockets, .ip, .ipErrors, .icmp,
   .icmpErrors, .tcp, .tcpErrors, .udp, .sockets6, .ip6, .ip6Errors, .icmp6, .icmp6Errors, .udp6,
   .nfsClient, .nfsServer, .fans, .temperatures, .voltages, .usbDevices, .batteries,
   .cpuPressure, .ioPressure, .memoryPressure]

def spec : Group → GroupSpec
  | .fileHeader => GroupSpec.host
  | .recordHeader => GroupSpec.uptime
  | .cpu => GroupSpec.cpu
  | .softnet => GroupSpec.softnet
  | .cpuClock => GroupSpec.cpuClock
  | .taskSwitches => GroupSpec.taskSwitches
  | .interrupts => GroupSpec.interrupts
  | .swap => GroupSpec.swap
  | .paging => GroupSpec.paging
  | .blockIo => GroupSpec.blockIo
  | .memory => GroupSpec.memory
  | .hugePages => GroupSpec.hugePages
  | .kernelTables => GroupSpec.kernelTables
  | .runQueue => GroupSpec.runQueue
  | .disks => GroupSpec.disks.spec
  | .interfaces => GroupSpec.interfaces.spec
  | .interfaceErrors => GroupSpec.interfaceErrors.spec
  | .serialLines => GroupSpec.serialLines.spec
  | .filesystems => GroupSpec.filesystems.spec
  | .fcHosts => GroupSpec.fcHosts.spec
  | .sockets => GroupSpec.sockets
  | .ip => GroupSpec.ip
  | .ipErrors => GroupSpec.ipErrors
  | .icmp => GroupSpec.icmp
  | .icmpErrors => GroupSpec.icmpErrors
  | .tcp => GroupSpec.tcp
  | .tcpErrors => GroupSpec.tcpErrors
  | .udp => GroupSpec.udp
  | .sockets6 => GroupSpec.sockets6
  | .ip6 => GroupSpec.ip6
  | .ip6Errors => GroupSpec.ip6Errors
  | .icmp6 => GroupSpec.icmp6
  | .icmp6Errors => GroupSpec.icmp6Errors
  | .udp6 => GroupSpec.udp6
  | .nfsClient => GroupSpec.nfsClient
  | .nfsServer => GroupSpec.nfsServer
  | .fans => GroupSpec.fans.spec
  | .temperatures => GroupSpec.temperatures.spec
  | .voltages => GroupSpec.voltages.spec
  | .usbDevices => GroupSpec.usbDevices.spec
  | .batteries => GroupSpec.batteries.spec
  | .cpuPressure => GroupSpec.cpuPressure
  | .ioPressure => GroupSpec.ioPressure
  | .memoryPressure => GroupSpec.memoryPressure

def name (g : Group) : String := g.spec.name

def metrics (g : Group) : List Descriptor := g.spec.metrics

def ofName? (name : String) : Option Group := all.find? (·.name = name)

/-- Position among all groups. -/
def index (g : Group) : Nat := all.idxOf g

/-- Headers are defined in every session, whatever the configuration. -/
def isHeader (g : Group) : Bool := g = .fileHeader || g = .recordHeader

def catalog (g : Group) : Catalog := .new g.name g.metrics

def routes : Except RouteError (Routes Group) :=
  Routes.build (all.map fun g => (g, g.name, g.metrics))

end Group
end ActivityArchive
