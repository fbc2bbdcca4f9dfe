import ActivityArchive.Group.Flat

/-!
Sockets in use and protocol counters, for both generations of the internet protocol.
-/
namespace ActivityArchive.GroupSpec

open Record

def sockets : GroupSpec :=
  flat "sock" .sock Sockets.counters
    [ ⟨11, 9, "network.sockstat.total", .instant, .none⟩,
      ⟨11, 0, "network.sockstat.tcp.inuse", .instant, .none⟩,
      ⟨11, 3, "network.sockstat.udp.inuse", .instant, .none⟩,
      ⟨11, 6, "network.sockstat.raw.inuse", .instant, .none⟩,
      ⟨11, 15, "network.sockstat.frag.inuse", .instant, .none⟩,
      ⟨11, 11, "network.sockstat.tcp.tw", .instant, .none⟩ ]

def sockets6 : GroupSpec :=
  flat "sock6" .sock6 Sockets6.counters
    [ ⟨73, 0, "network.sockstat.tcp6.inuse", .instant, .none⟩,
      ⟨73, 1, "network.sockstat.udp6.inuse", .instant, .none⟩,
      ⟨73, 3, "network.sockstat.raw6.inuse", .instant, .none⟩,
      ⟨73, 4, "network.sockstat.frag6.inuse", .instant, .none⟩ ]

def ip : GroupSpec :=
  flat "ip" .ip Ip.counters
    [ ⟨14, 2, "network.ip.inreceives", .counter, .count⟩,
      ⟨14, 5, "network.ip.forwdatagrams", .counter, .count⟩,
      ⟨14, 8, "network.ip.indelivers", .counter, .count⟩,
      ⟨14, 9, "network.ip.outrequests", .counter, .count⟩,
      ⟨14, 13, "network.ip.reasmreqds", .counter, .count⟩,
      ⟨14, 14, "network.ip.reasmoks", .counter, .count⟩,
      ⟨14, 16, "network.ip.fragoks", .counter, .count⟩,
      ⟨14, 18, "network.ip.fragcreates", .counter, .count⟩ ]

def ipErrors : GroupSpec :=
  flat "eip" .eip IpErrors.counters
    [ ⟨14, 3, "network.ip.inhdrerrors", .counter, .count⟩,
      ⟨14, 4, "network.ip.inaddrerrors", .counter, .count⟩,
      ⟨14, 6, "network.ip.inunknownprotos", .counter, .count⟩,
      ⟨14, 7, "network.ip.indiscards", .counter, .count⟩,
      ⟨14, 10, "network.ip.outdiscards", .counter, .count⟩,
      ⟨14, 11, "network.ip.outnoroutes", .counter, .count⟩,
      ⟨14, 15, "network.ip.reasmfails", .counter, .count⟩,
      ⟨14, 17, "network.ip.fragfails", .counter, .count⟩ ]

def icmp : GroupSpec :=
  flat "icmp" .icmp Icmp.counters
    [ ⟨14, 20, "network.icmp.inmsgs", .counter, .count⟩,
      ⟨14, 33, "network.icmp.outmsgs", .counter, .count⟩,
      ⟨14, 27, "network.icmp.inechos", .counter, .count⟩,
      ⟨14, 28, "network.icmp.inechoreps", .counter, .count⟩,
      ⟨14, 40, "network.icmp.outechos", .counter, .count⟩,
      ⟨14, 41, "network.icmp.outechoreps", .counter, .count⟩,
      ⟨14, 29, "network.icmp.intimestamps", .counter, .count⟩,
      ⟨14, 30, "network.icmp.intimestampreps", .counter, .count⟩,
      ⟨14, 42, "network.icmp.outtimestamps", .counter, .count⟩,
      ⟨14, 43, "network.icmp.outtimestampreps", .counter, .count⟩,
      ⟨14, 31, "network.icmp.inaddrmasks", .counter, .count⟩,
      ⟨14, 32, "network.icmp.inaddrmaskreps", .counter, .count⟩,
      ⟨14, 44, "network.icmp.outaddrmasks", .counter, .count⟩,
      ⟨14, 45, "network.icmp.outaddrmaskreps", .counter, .count⟩ ]

def icmpErrors : GroupSpec :=
  flat "eicmp" .eicmp IcmpErrors.counters
    [ ⟨14, 21, "network.icmp.inerrors", .counter, .count⟩,
      ⟨14, 34, "network.icmp.outerrors", .counter, .count⟩,
      ⟨14, 22, "network.icmp.indestunreachs", .counter, .count⟩,
      ⟨14, 35, "network.icmp.outdestunreachs", .counter, .count⟩,
      ⟨14, 23, "network.icmp.intimeexcds", .counter, .count⟩,
      ⟨14, 36, "network.icmp.outtimeexcds", .counter, .count⟩,
      ⟨14, 24, "network.icmp.inparmprobs", .counter, .count⟩,
      ⟨14, 37, "network.icmp.outparmprobs", .counter, .count⟩,
      ⟨14, 25, "network.icmp.insrcquenchs", .counter, .count⟩,
      ⟨14, 38, "network.icmp.outsrcquenchs", .counter, .count⟩,
      ⟨14, 26, "network.icmp.inredirects", .counter, .count⟩,
      ⟨14, 39, "network.icmp.outredirects", .counter, .count⟩ ]

def tcp : GroupSpec :=
  flat "tcp" .tcp Tcp.counters
    [ ⟨14, 54, "network.tcp.activeopens", .counter, .count⟩,
      ⟨14, 55, "network.tcp.passiveopens", .counter, .count⟩,
      ⟨14, 59, "network.tcp.insegs", .counter, .count⟩,
      ⟨14, 60, "network.tcp.outsegs", .counter, .count⟩ ]

def tcpErrors : GroupSpec :=
  flat "etcp" .etcp TcpErrors.counters
    [ ⟨14, 56, "network.tcp.attemptfails", .counter, .count⟩,
      ⟨14, 57, "network.tcp.estabresets", .counter, .count⟩,
      ⟨14, 61, "network.tcp.retranssegs", .counter, .count⟩,
      ⟨14, 62, "network.tcp.inerrs", .counter, .count⟩,
      ⟨14, 63, "network.tcp.outrsts", .counter, .count⟩ ]

def udp : GroupSpec :=
  flat "udp" .udp Udp.counters
    [ ⟨14, 70, "network.udp.indatagrams", .counter, .count⟩,
      ⟨14, 74, "network.udp.outdatagrams", .counter, .count⟩,
      ⟨14, 71, "network.udp.noports", .counter, .count⟩,
      ⟨14, 72, "network.udp.inerrors", .counter, .count⟩ ]

def ip6 : GroupSpec :=
  flat "ip6" .ip6 Ip6.counters
    [ ⟨58, 0, "network.ip6.inreceives", .counter, .count⟩,
      ⟨58, 9, "network.ip6.outforwdatagrams", .counter, .count⟩,
      ⟨58, 8, "network.ip6.indelivers", .counter, .count⟩,
      ⟨58, 10, "network.ip6.outrequests", .counter, .count⟩,
      ⟨58, 14, "network.ip6.reasmreqds", .counter, .count⟩,
      ⟨58, 15, "network.ip6.reasmoks", .counter, .count⟩,
      ⟨58, 20, "network.ip6.inmcastpkts", .counter, .count⟩,
      ⟨58, 21, "network.ip6.outmcastpkts", .counter, .count⟩,
      ⟨58, 17, "network.ip6.fragoks", .counter, .count⟩,
      ⟨58, 19, "network.ip6.fragcreates", .counter, .count⟩ ]

def ip6Errors : GroupSpec :=
  flat "eip6" .eip6 Ip6Errors.counters
    [ ⟨58, 1, "network.ip6.inhdrerrors", .counter, .count⟩,
      ⟨58, 4, "network.ip6.inaddrerrors", .counter, .count⟩,
      ⟨58, 5, "network.ip6.inunknownprotos", .counter, .count⟩,
      ⟨58, 2, "network.ip6.intoobigerrors", .counter, .count⟩,
      ⟨58, 7, "network.ip6.indiscards", .counter, .count⟩,
      ⟨58, 11, "network.ip6.outdiscards", .counter, .count⟩,
      ⟨58, 3, "network.ip6.innoroutes", .counter, .count⟩,
      ⟨58, 12, "network.ip6.outnoroutes", .counter, .count⟩,
      ⟨58, 16, "network.ip6.reasmfails", .counter, .count⟩,
      ⟨58, 18, "network.ip6.fragfails", .counter, .count⟩,
      ⟨58, 6, "network.ip6.intruncatedpkts", .counter, .count⟩ ]

def icmp6 : GroupSpec :=
  flat "icmp6" .icmp6 Icmp6.counters
    [ ⟨58, 32, "network.icmp6.inmsgs", .counter, .count⟩,
      ⟨58, 34, "network.icmp6.outmsgs", .counter, .count⟩,
      ⟨58, 41, "network.icmp6.inechos", .counter, .count⟩,
      ⟨58, 42, "network.icmp6.inechoreplies", .counter, .count⟩,
      ⟨58, 57, "network.icmp6.outechoreplies", .counter, .count⟩,
      ⟨58, 43, "network.icmp6.ingroupmembqueries", .counter, .count⟩,
      ⟨58, 44, "network.icmp6.ingroupmembresponses", .counter, .count⟩,
      ⟨58, 59, "network.icmp6.outgroupmembresponses", .counter, .count⟩,
      ⟨58, 45, "network.icmp6.ingroupmembreductions", .counter, .count⟩,
      ⟨58, 60, "network.icmp6.outgroupmembreductions", .counter, .count⟩,
      ⟨58, 46, "network.icmp6.inroutersolicits", .counter, .count⟩,
      ⟨58, 61, "network.icmp6.outroutersolicits", .counter, .count⟩,
      ⟨58, 47, "network.icmp6.inrouteradvertisements", .counter, .count⟩,
      ⟨58, 48, "network.icmp6.inneighborsolicits", .counter, .count⟩,
      ⟨58, 63, "network.icmp6.outneighborsolicits", .counter, .count⟩,
      ⟨58, 49, "network.icmp6.inneighboradvertisements", .counter, .count⟩,
      ⟨58, 64, "network.icmp6.outneighboradvertisements", .counter, .count⟩ ]

def icmp6Errors : GroupSpec :=
  flat "eicmp6" .eicmp6 Icmp6Errors.counters
    [ ⟨58, 33, "network.icmp6.inerrors", .counter, .count⟩,
      ⟨58, 37, "network.icmp6.indestunreachs", .counter, .count⟩,
      ⟨58, 52, "network.icmp6.outdestunreachs", .counter, .count⟩,
      ⟨58, 39, "network.icmp6.intimeexcds", .counter, .count⟩,
      ⟨58, 54, "network.icmp6.outtimeexcds", .counter, .count⟩,
      ⟨58, 40, "network.icmp6.inparmproblems", .counter, .count⟩,
      ⟨58, 55, "network.icmp6.outparmproblems", .counter, .count⟩,
      ⟨58, 50, "network.icmp6.inredirects", .counter, .count⟩,
      ⟨58, 65, "network.icmp6.outredirects", .counter, .count⟩,
      ⟨58, 38, "network.icmp6.inpkttoobigs", .counter, .count⟩,
      ⟨58, 53, "network.icmp6.outpkttoobigs", .counter, .count⟩ ]

def udp6 : GroupSpec :=
  flat "udp6" .udp6 Udp6.counters
    [ ⟨58, 67, "network.udp6.indatagrams", .counter, .count⟩,
      ⟨58, 70, "network.udp6.outdatagrams", .counter, .count⟩,
      ⟨58, 68, "network.udp6.noports", .counter, .count⟩,
      ⟨58, 69, "network.udp6.inerrors", .counter, .count⟩ ]

end ActivityArchive.GroupSpec
