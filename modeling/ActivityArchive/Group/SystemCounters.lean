import ActivityArchive.Group.Flat

/-!
Counters of the system as a whole: task switches, swapping, paging, block requests, kernel tables.
-/
namespace ActivityArchive.GroupSpec

open Record

def taskSwitches : GroupSpec :=
  flat "pcsw" .pcsw TaskSwitches.counters
    [ ⟨0, 13, "kernel.all.pswitch", .counter, .count⟩,
      ⟨0, 14, "kernel.all.sysfork", .counter, .count⟩ ]

def swap : GroupSpec :=
  flat "swap" .swap Swap.counters
    [ ⟨0, 8, "swap.pagesin", .counter, .count⟩,
      ⟨0, 9, "swap.pagesout", .counter, .count⟩ ]

def paging : GroupSpec :=
  flat "paging" .paging Paging.counters
    [ ⟨28, 6, "mem.vmstat.pgpgin", .counter, .kbytes⟩,
      ⟨28, 7, "mem.vmstat.pgpgout", .counter, .kbytes⟩,
      ⟨28, 16, "mem.vmstat.pgfault", .counter, .count⟩,
      ⟨28, 17, "mem.vmstat.pgmajfault", .counter, .count⟩,
      ⟨28, 13, "mem.vmstat.pgfree", .counter, .count⟩,
      ⟨28, 176, "mem.vmstat.pgscan_direct_total", .counter, .count⟩,
      ⟨28, 177, "mem.vmstat.pgscan_kswapd_total", .counter, .count⟩,
      ⟨28, 178, "mem.vmstat.pgsteal_total", .counter, .count⟩,
      ⟨28, 185, "mem.vmstat.pgdemote_total", .counter, .count⟩,
      ⟨28, 187, "mem.vmstat.pgpromote_success", .counter, .count⟩ ]

def blockIo : GroupSpec :=
  flat "io" .io BlockIo.counters
    [ ⟨0, 29, "disk.all.total", .counter, .count⟩,
      ⟨0, 24, "disk.all.read", .counter, .count⟩,
      ⟨0, 25, "disk.all.write", .counter, .count⟩,
      ⟨0, 96, "disk.all.discard", .counter, .count⟩,
      ⟨0, 41, "disk.all.read_bytes", .counter, .kbytes⟩,
      ⟨0, 42, "disk.all.write_bytes", .counter, .kbytes⟩,
      ⟨0, 98, "disk.all.discard_bytes", .counter, .kbytes⟩ ]

def kernelTables : GroupSpec :=
  flat "ktables" .ktables KernelTables.counters
    [ ⟨27, 5, "vfs.dentry.count", .instant, .none⟩,
      ⟨27, 0, "vfs.files.count", .instant, .none⟩,
      ⟨27, 3, "vfs.inodes.count", .instant, .none⟩,
      ⟨72, 3, "kernel.all.nptys", .instant, .none⟩ ]

end ActivityArchive.GroupSpec
