import ActivityArchive.Proofs.Group.MemoryRestoring

/-!
The kinds of records that are made of whole numbers, each with the group that restores it.
-/
namespace ActivityArchive

open Activities GroupSpec Record

namespace Single

/-- The kinds that a flat group writes. -/
def flat : List Single :=
  [.pcsw, .swap, .paging, .io, .ktables, .sock, .ip, .eip, .icmp, .eicmp, .tcp, .etcp, .udp, .sock6,
   .ip6, .eip6, .icmp6, .eicmp6, .udp6]

/-- The kinds that are restored as a whole. -/
def counted : List Single := flat ++ [.huge, .nfs, .nfsd]

/-- What a record must satisfy to be written without loss. -/
def Fits : (k : Single) → k.Rec → Prop
  | .huge, h => HugeFits h
  | _, _ => True

def group : Single → Group
  | .record => .recordHeader
  | .pcsw => .taskSwitches
  | .swap => .swap
  | .paging => .paging
  | .io => .blockIo
  | .memory => .memory
  | .ktables => .kernelTables
  | .queue => .runQueue
  | .huge => .hugePages
  | .psiCpu => .cpuPressure
  | .psiIo => .ioPressure
  | .psiMem => .memoryPressure
  | .sock => .sockets
  | .ip => .ip
  | .eip => .ipErrors
  | .icmp => .icmp
  | .eicmp => .icmpErrors
  | .tcp => .tcp
  | .etcp => .tcpErrors
  | .udp => .udp
  | .sock6 => .sockets6
  | .ip6 => .ip6
  | .eip6 => .ip6Errors
  | .icmp6 => .icmp6
  | .eicmp6 => .icmp6Errors
  | .udp6 => .udp6
  | .nfs => .nfsClient
  | .nfsd => .nfsServer

def counters : (k : Single) → List (Counter k.Rec)
  | .pcsw => TaskSwitches.counters
  | .swap => Swap.counters
  | .paging => Paging.counters
  | .io => BlockIo.counters
  | .ktables => KernelTables.counters
  | .sock => Sockets.counters
  | .ip => Ip.counters
  | .eip => IpErrors.counters
  | .icmp => Icmp.counters
  | .eicmp => IcmpErrors.counters
  | .tcp => Tcp.counters
  | .etcp => TcpErrors.counters
  | .udp => Udp.counters
  | .sock6 => Sockets6.counters
  | .ip6 => Ip6.counters
  | .eip6 => Ip6Errors.counters
  | .icmp6 => Icmp6.counters
  | .eicmp6 => Icmp6Errors.counters
  | .udp6 => Udp6.counters
  | _ => []

/-- The counters of a flat kind are all there is of its records. -/
theorem copy_counters {k : Single} (hk : k ∈ flat) (r : k.Rec) :
    (k.counters.map (·.copy r)).foldl (fun x f => f x) default = r := by
  simp only [flat, List.mem_cons, List.not_mem_nil, or_false] at hk
  rcases hk with rfl | rfl | rfl | rfl | rfl | rfl | rfl | rfl | rfl | rfl | rfl | rfl | rfl | rfl |
    rfl | rfl | rfl | rfl | rfl
  all_goals
    simp only [counters, TaskSwitches.counters, Swap.counters, Paging.counters, BlockIo.counters,
      KernelTables.counters, Sockets.counters, Ip.counters, IpErrors.counters, Icmp.counters,
      IcmpErrors.counters, Tcp.counters, TcpErrors.counters, Udp.counters, Sockets6.counters,
      Ip6.counters, Ip6Errors.counters, Icmp6.counters, Icmp6Errors.counters, Udp6.counters,
      List.map_cons, List.map_nil, List.foldl_cons, List.foldl_nil, Counter.copy]

theorem restores_flat_kind {k : Single} (hk : k ∈ flat) (defined : Nat → Bool) :
    Restores k.group k (fun _ r => singular 0 (k.counters.map (·.value r))) defined
      (fun _ => True) some := by
  have hcopy := copy_counters hk
  simp only [flat, List.mem_cons, List.not_mem_nil, or_false] at hk
  rcases hk with rfl | rfl | rfl | rfl | rfl | rfl | rfl | rfl | rfl | rfl | rfl | rfl | rfl | rfl |
    rfl | rfl | rfl | rfl | rfl
  all_goals exact restores_flat rfl rfl rfl (List.cons_ne_nil _ _) hcopy defined

theorem restores_counted {k : Single} (hk : k ∈ counted) :
    ∃ F, ∀ defined, Restores k.group k F defined k.Fits some := by
  rcases List.mem_append.mp hk with hk | hk
  · exact ⟨_, fun defined => (restores_flat_kind hk defined).imp fun _ _ => trivial⟩
  · simp only [List.mem_cons, List.not_mem_nil, or_false] at hk
    rcases hk with rfl | rfl | rfl
    · exact ⟨_, restores_hugePages⟩
    · exact ⟨_, restores_nfsClient⟩
    · exact ⟨_, restores_nfsServer⟩

end Single

end ActivityArchive
