import ActivityArchive.Record.Field

/-!
Network records: softnet queues, interfaces, sockets, protocol counters and NFS.
-/
namespace ActivityArchive.Record

/-- Softnet counters of one CPU. -/
structure Softnet where
  processed : UInt64 := 0
  dropped : UInt64 := 0
  timeSqueeze : UInt64 := 0
  receivedRps : UInt64 := 0
  flowLimit : UInt64 := 0
  backlogLen : UInt64 := 0
  deriving DecidableEq

def Softnet.counters : List (Counter Softnet) :=
  [ .word64 "processed" (·.processed) (fun x r => { r with processed := x }),
    .word64 "dropped" (·.dropped) (fun x r => { r with dropped := x }),
    .word64 "time_squeeze" (·.timeSqueeze) (fun x r => { r with timeSqueeze := x }),
    .word64 "received_rps" (·.receivedRps) (fun x r => { r with receivedRps := x }),
    .word64 "flow_limit" (·.flowLimit) (fun x r => { r with flowLimit := x }),
    .word64 "backlog_len" (·.backlogLen) (fun x r => { r with backlogLen := x }) ]

instance : Record Softnet where
  default := {}
  fields := Softnet.counters.map .counter

/-- Field by field, each sum within a word. -/
def Softnet.add (a b : Softnet) : Softnet where
  processed := a.processed + b.processed
  dropped := a.dropped + b.dropped
  timeSqueeze := a.timeSqueeze + b.timeSqueeze
  receivedRps := a.receivedRps + b.receivedRps
  flowLimit := a.flowLimit + b.flowLimit
  backlogLen := a.backlogLen + b.backlogLen

structure Interface where
  interface : String := ""
  rxPackets : UInt64 := 0
  txPackets : UInt64 := 0
  rxBytes : UInt64 := 0
  txBytes : UInt64 := 0
  rxCompressed : UInt64 := 0
  txCompressed : UInt64 := 0
  multicast : UInt64 := 0

instance : Record Interface where
  default := {}
  fields :=
    [ .text "interface" (·.interface) (fun x r => { r with interface := x }),
      .counter (.word64 "rx_packets" (·.rxPackets) (fun x r => { r with rxPackets := x })),
      .counter (.word64 "tx_packets" (·.txPackets) (fun x r => { r with txPackets := x })),
      .counter (.word64 "rx_bytes" (·.rxBytes) (fun x r => { r with rxBytes := x })),
      .counter (.word64 "tx_bytes" (·.txBytes) (fun x r => { r with txBytes := x })),
      .counter (.word64 "rx_compressed" (·.rxCompressed)
        (fun x r => { r with rxCompressed := x })),
      .counter (.word64 "tx_compressed" (·.txCompressed)
        (fun x r => { r with txCompressed := x })),
      .counter (.word64 "multicast" (·.multicast) (fun x r => { r with multicast := x })) ]

structure InterfaceErrors where
  interface : String := ""
  rxErrors : UInt64 := 0
  txErrors : UInt64 := 0
  collisions : UInt64 := 0
  rxDropped : UInt64 := 0
  txDropped : UInt64 := 0
  txCarrierErrors : UInt64 := 0
  rxFrameErrors : UInt64 := 0
  rxFifoErrors : UInt64 := 0
  txFifoErrors : UInt64 := 0

instance : Record InterfaceErrors where
  default := {}
  fields :=
    [ .text "interface" (·.interface) (fun x r => { r with interface := x }),
      .counter (.word64 "rx_errors" (·.rxErrors) (fun x r => { r with rxErrors := x })),
      .counter (.word64 "tx_errors" (·.txErrors) (fun x r => { r with txErrors := x })),
      .counter (.word64 "collisions" (·.collisions) (fun x r => { r with collisions := x })),
      .counter (.word64 "rx_dropped" (·.rxDropped) (fun x r => { r with rxDropped := x })),
      .counter (.word64 "tx_dropped" (·.txDropped) (fun x r => { r with txDropped := x })),
      .counter (.word64 "tx_carrier_errors" (·.txCarrierErrors)
        (fun x r => { r with txCarrierErrors := x })),
      .counter (.word64 "rx_frame_errors" (·.rxFrameErrors)
        (fun x r => { r with rxFrameErrors := x })),
      .counter (.word64 "rx_fifo_errors" (·.rxFifoErrors)
        (fun x r => { r with rxFifoErrors := x })),
      .counter (.word64 "tx_fifo_errors" (·.txFifoErrors)
        (fun x r => { r with txFifoErrors := x })) ]

structure Sockets where
  sockInuse : UInt32 := 0
  tcpInuse : UInt32 := 0
  udpInuse : UInt32 := 0
  rawInuse : UInt32 := 0
  fragInuse : UInt32 := 0
  tcpTw : UInt32 := 0

def Sockets.counters : List (Counter Sockets) :=
  [ .word32 "sock_inuse" (·.sockInuse) (fun x r => { r with sockInuse := x }),
    .word32 "tcp_inuse" (·.tcpInuse) (fun x r => { r with tcpInuse := x }),
    .word32 "udp_inuse" (·.udpInuse) (fun x r => { r with udpInuse := x }),
    .word32 "raw_inuse" (·.rawInuse) (fun x r => { r with rawInuse := x }),
    .word32 "frag_inuse" (·.fragInuse) (fun x r => { r with fragInuse := x }),
    .word32 "tcp_tw" (·.tcpTw) (fun x r => { r with tcpTw := x }) ]

instance : Record Sockets where
  default := {}
  fields := Sockets.counters.map .counter

structure Ip where
  inReceives : UInt64 := 0
  forwDatagrams : UInt64 := 0
  inDelivers : UInt64 := 0
  outRequests : UInt64 := 0
  reasmReqds : UInt64 := 0
  reasmOks : UInt64 := 0
  fragOks : UInt64 := 0
  fragCreates : UInt64 := 0

def Ip.counters : List (Counter Ip) :=
  [ .word64 "in_receives" (·.inReceives) (fun x r => { r with inReceives := x }),
    .word64 "forw_datagrams" (·.forwDatagrams) (fun x r => { r with forwDatagrams := x }),
    .word64 "in_delivers" (·.inDelivers) (fun x r => { r with inDelivers := x }),
    .word64 "out_requests" (·.outRequests) (fun x r => { r with outRequests := x }),
    .word64 "reasm_reqds" (·.reasmReqds) (fun x r => { r with reasmReqds := x }),
    .word64 "reasm_oks" (·.reasmOks) (fun x r => { r with reasmOks := x }),
    .word64 "frag_oks" (·.fragOks) (fun x r => { r with fragOks := x }),
    .word64 "frag_creates" (·.fragCreates) (fun x r => { r with fragCreates := x }) ]

instance : Record Ip where
  default := {}
  fields := Ip.counters.map .counter

structure IpErrors where
  inHdrErrors : UInt64 := 0
  inAddrErrors : UInt64 := 0
  inUnknownProtos : UInt64 := 0
  inDiscards : UInt64 := 0
  outDiscards : UInt64 := 0
  outNoRoutes : UInt64 := 0
  reasmFails : UInt64 := 0
  fragFails : UInt64 := 0

def IpErrors.counters : List (Counter IpErrors) :=
  [ .word64 "in_hdr_errors" (·.inHdrErrors) (fun x r => { r with inHdrErrors := x }),
    .word64 "in_addr_errors" (·.inAddrErrors) (fun x r => { r with inAddrErrors := x }),
    .word64 "in_unknown_protos" (·.inUnknownProtos) (fun x r => { r with inUnknownProtos := x }),
    .word64 "in_discards" (·.inDiscards) (fun x r => { r with inDiscards := x }),
    .word64 "out_discards" (·.outDiscards) (fun x r => { r with outDiscards := x }),
    .word64 "out_no_routes" (·.outNoRoutes) (fun x r => { r with outNoRoutes := x }),
    .word64 "reasm_fails" (·.reasmFails) (fun x r => { r with reasmFails := x }),
    .word64 "frag_fails" (·.fragFails) (fun x r => { r with fragFails := x }) ]

instance : Record IpErrors where
  default := {}
  fields := IpErrors.counters.map .counter

structure Icmp where
  inMsgs : UInt64 := 0
  outMsgs : UInt64 := 0
  inEchos : UInt64 := 0
  inEchoReps : UInt64 := 0
  outEchos : UInt64 := 0
  outEchoReps : UInt64 := 0
  inTimestamps : UInt64 := 0
  inTimestampReps : UInt64 := 0
  outTimestamps : UInt64 := 0
  outTimestampReps : UInt64 := 0
  inAddrMasks : UInt64 := 0
  inAddrMaskReps : UInt64 := 0
  outAddrMasks : UInt64 := 0
  outAddrMaskReps : UInt64 := 0

def Icmp.counters : List (Counter Icmp) :=
  [ .word64 "in_msgs" (·.inMsgs) (fun x r => { r with inMsgs := x }),
    .word64 "out_msgs" (·.outMsgs) (fun x r => { r with outMsgs := x }),
    .word64 "in_echos" (·.inEchos) (fun x r => { r with inEchos := x }),
    .word64 "in_echo_reps" (·.inEchoReps) (fun x r => { r with inEchoReps := x }),
    .word64 "out_echos" (·.outEchos) (fun x r => { r with outEchos := x }),
    .word64 "out_echo_reps" (·.outEchoReps) (fun x r => { r with outEchoReps := x }),
    .word64 "in_timestamps" (·.inTimestamps) (fun x r => { r with inTimestamps := x }),
    .word64 "in_timestamp_reps" (·.inTimestampReps) (fun x r => { r with inTimestampReps := x }),
    .word64 "out_timestamps" (·.outTimestamps) (fun x r => { r with outTimestamps := x }),
    .word64 "out_timestamp_reps" (·.outTimestampReps)
      (fun x r => { r with outTimestampReps := x }),
    .word64 "in_addr_masks" (·.inAddrMasks) (fun x r => { r with inAddrMasks := x }),
    .word64 "in_addr_mask_reps" (·.inAddrMaskReps) (fun x r => { r with inAddrMaskReps := x }),
    .word64 "out_addr_masks" (·.outAddrMasks) (fun x r => { r with outAddrMasks := x }),
    .word64 "out_addr_mask_reps" (·.outAddrMaskReps) (fun x r => { r with outAddrMaskReps := x }) ]

instance : Record Icmp where
  default := {}
  fields := Icmp.counters.map .counter

structure IcmpErrors where
  inErrors : UInt64 := 0
  outErrors : UInt64 := 0
  inDestUnreachs : UInt64 := 0
  outDestUnreachs : UInt64 := 0
  inTimeExcds : UInt64 := 0
  outTimeExcds : UInt64 := 0
  inParmProbs : UInt64 := 0
  outParmProbs : UInt64 := 0
  inSrcQuenchs : UInt64 := 0
  outSrcQuenchs : UInt64 := 0
  inRedirects : UInt64 := 0
  outRedirects : UInt64 := 0

def IcmpErrors.counters : List (Counter IcmpErrors) :=
  [ .word64 "in_errors" (·.inErrors) (fun x r => { r with inErrors := x }),
    .word64 "out_errors" (·.outErrors) (fun x r => { r with outErrors := x }),
    .word64 "in_dest_unreachs" (·.inDestUnreachs) (fun x r => { r with inDestUnreachs := x }),
    .word64 "out_dest_unreachs" (·.outDestUnreachs) (fun x r => { r with outDestUnreachs := x }),
    .word64 "in_time_excds" (·.inTimeExcds) (fun x r => { r with inTimeExcds := x }),
    .word64 "out_time_excds" (·.outTimeExcds) (fun x r => { r with outTimeExcds := x }),
    .word64 "in_parm_probs" (·.inParmProbs) (fun x r => { r with inParmProbs := x }),
    .word64 "out_parm_probs" (·.outParmProbs) (fun x r => { r with outParmProbs := x }),
    .word64 "in_src_quenchs" (·.inSrcQuenchs) (fun x r => { r with inSrcQuenchs := x }),
    .word64 "out_src_quenchs" (·.outSrcQuenchs) (fun x r => { r with outSrcQuenchs := x }),
    .word64 "in_redirects" (·.inRedirects) (fun x r => { r with inRedirects := x }),
    .word64 "out_redirects" (·.outRedirects) (fun x r => { r with outRedirects := x }) ]

instance : Record IcmpErrors where
  default := {}
  fields := IcmpErrors.counters.map .counter

structure Tcp where
  activeOpens : UInt64 := 0
  passiveOpens : UInt64 := 0
  inSegs : UInt64 := 0
  outSegs : UInt64 := 0

def Tcp.counters : List (Counter Tcp) :=
  [ .word64 "active_opens" (·.activeOpens) (fun x r => { r with activeOpens := x }),
    .word64 "passive_opens" (·.passiveOpens) (fun x r => { r with passiveOpens := x }),
    .word64 "in_segs" (·.inSegs) (fun x r => { r with inSegs := x }),
    .word64 "out_segs" (·.outSegs) (fun x r => { r with outSegs := x }) ]

instance : Record Tcp where
  default := {}
  fields := Tcp.counters.map .counter

structure TcpErrors where
  attemptFails : UInt64 := 0
  estabResets : UInt64 := 0
  retransSegs : UInt64 := 0
  inErrs : UInt64 := 0
  outRsts : UInt64 := 0

def TcpErrors.counters : List (Counter TcpErrors) :=
  [ .word64 "attempt_fails" (·.attemptFails) (fun x r => { r with attemptFails := x }),
    .word64 "estab_resets" (·.estabResets) (fun x r => { r with estabResets := x }),
    .word64 "retrans_segs" (·.retransSegs) (fun x r => { r with retransSegs := x }),
    .word64 "in_errs" (·.inErrs) (fun x r => { r with inErrs := x }),
    .word64 "out_rsts" (·.outRsts) (fun x r => { r with outRsts := x }) ]

instance : Record TcpErrors where
  default := {}
  fields := TcpErrors.counters.map .counter

structure Udp where
  inDatagrams : UInt64 := 0
  outDatagrams : UInt64 := 0
  noPorts : UInt64 := 0
  inErrors : UInt64 := 0

def Udp.counters : List (Counter Udp) :=
  [ .word64 "in_datagrams" (·.inDatagrams) (fun x r => { r with inDatagrams := x }),
    .word64 "out_datagrams" (·.outDatagrams) (fun x r => { r with outDatagrams := x }),
    .word64 "no_ports" (·.noPorts) (fun x r => { r with noPorts := x }),
    .word64 "in_errors" (·.inErrors) (fun x r => { r with inErrors := x }) ]

instance : Record Udp where
  default := {}
  fields := Udp.counters.map .counter

structure Sockets6 where
  tcp6Inuse : UInt32 := 0
  udp6Inuse : UInt32 := 0
  raw6Inuse : UInt32 := 0
  frag6Inuse : UInt32 := 0

def Sockets6.counters : List (Counter Sockets6) :=
  [ .word32 "tcp6_inuse" (·.tcp6Inuse) (fun x r => { r with tcp6Inuse := x }),
    .word32 "udp6_inuse" (·.udp6Inuse) (fun x r => { r with udp6Inuse := x }),
    .word32 "raw6_inuse" (·.raw6Inuse) (fun x r => { r with raw6Inuse := x }),
    .word32 "frag6_inuse" (·.frag6Inuse) (fun x r => { r with frag6Inuse := x }) ]

instance : Record Sockets6 where
  default := {}
  fields := Sockets6.counters.map .counter

structure Ip6 where
  inReceives : UInt64 := 0
  outForwDatagrams : UInt64 := 0
  inDelivers : UInt64 := 0
  outRequests : UInt64 := 0
  reasmReqds : UInt64 := 0
  reasmOks : UInt64 := 0
  inMcastPkts : UInt64 := 0
  outMcastPkts : UInt64 := 0
  fragOks : UInt64 := 0
  fragCreates : UInt64 := 0

def Ip6.counters : List (Counter Ip6) :=
  [ .word64 "in_receives" (·.inReceives) (fun x r => { r with inReceives := x }),
    .word64 "out_forw_datagrams" (·.outForwDatagrams)
      (fun x r => { r with outForwDatagrams := x }),
    .word64 "in_delivers" (·.inDelivers) (fun x r => { r with inDelivers := x }),
    .word64 "out_requests" (·.outRequests) (fun x r => { r with outRequests := x }),
    .word64 "reasm_reqds" (·.reasmReqds) (fun x r => { r with reasmReqds := x }),
    .word64 "reasm_oks" (·.reasmOks) (fun x r => { r with reasmOks := x }),
    .word64 "in_mcast_pkts" (·.inMcastPkts) (fun x r => { r with inMcastPkts := x }),
    .word64 "out_mcast_pkts" (·.outMcastPkts) (fun x r => { r with outMcastPkts := x }),
    .word64 "frag_oks" (·.fragOks) (fun x r => { r with fragOks := x }),
    .word64 "frag_creates" (·.fragCreates) (fun x r => { r with fragCreates := x }) ]

instance : Record Ip6 where
  default := {}
  fields := Ip6.counters.map .counter

structure Ip6Errors where
  inHdrErrors : UInt64 := 0
  inAddrErrors : UInt64 := 0
  inUnknownProtos : UInt64 := 0
  inTooBigErrors : UInt64 := 0
  inDiscards : UInt64 := 0
  outDiscards : UInt64 := 0
  inNoRoutes : UInt64 := 0
  outNoRoutes : UInt64 := 0
  reasmFails : UInt64 := 0
  fragFails : UInt64 := 0
  inTruncatedPkts : UInt64 := 0

def Ip6Errors.counters : List (Counter Ip6Errors) :=
  [ .word64 "in_hdr_errors" (·.inHdrErrors) (fun x r => { r with inHdrErrors := x }),
    .word64 "in_addr_errors" (·.inAddrErrors) (fun x r => { r with inAddrErrors := x }),
    .word64 "in_unknown_protos" (·.inUnknownProtos) (fun x r => { r with inUnknownProtos := x }),
    .word64 "in_too_big_errors" (·.inTooBigErrors) (fun x r => { r with inTooBigErrors := x }),
    .word64 "in_discards" (·.inDiscards) (fun x r => { r with inDiscards := x }),
    .word64 "out_discards" (·.outDiscards) (fun x r => { r with outDiscards := x }),
    .word64 "in_no_routes" (·.inNoRoutes) (fun x r => { r with inNoRoutes := x }),
    .word64 "out_no_routes" (·.outNoRoutes) (fun x r => { r with outNoRoutes := x }),
    .word64 "reasm_fails" (·.reasmFails) (fun x r => { r with reasmFails := x }),
    .word64 "frag_fails" (·.fragFails) (fun x r => { r with fragFails := x }),
    .word64 "in_truncated_pkts" (·.inTruncatedPkts) (fun x r => { r with inTruncatedPkts := x }) ]

instance : Record Ip6Errors where
  default := {}
  fields := Ip6Errors.counters.map .counter

structure Icmp6 where
  inMsgs : UInt64 := 0
  outMsgs : UInt64 := 0
  inEchos : UInt64 := 0
  inEchoReplies : UInt64 := 0
  outEchoReplies : UInt64 := 0
  inGroupMembQueries : UInt64 := 0
  inGroupMembResponses : UInt64 := 0
  outGroupMembResponses : UInt64 := 0
  inGroupMembReductions : UInt64 := 0
  outGroupMembReductions : UInt64 := 0
  inRouterSolicits : UInt64 := 0
  outRouterSolicits : UInt64 := 0
  inRouterAdvertisements : UInt64 := 0
  inNeighborSolicits : UInt64 := 0
  outNeighborSolicits : UInt64 := 0
  inNeighborAdvertisements : UInt64 := 0
  outNeighborAdvertisements : UInt64 := 0

def Icmp6.counters : List (Counter Icmp6) :=
  [ .word64 "in_msgs" (·.inMsgs) (fun x r => { r with inMsgs := x }),
    .word64 "out_msgs" (·.outMsgs) (fun x r => { r with outMsgs := x }),
    .word64 "in_echos" (·.inEchos) (fun x r => { r with inEchos := x }),
    .word64 "in_echo_replies" (·.inEchoReplies) (fun x r => { r with inEchoReplies := x }),
    .word64 "out_echo_replies" (·.outEchoReplies) (fun x r => { r with outEchoReplies := x }),
    .word64 "in_group_memb_queries" (·.inGroupMembQueries)
      (fun x r => { r with inGroupMembQueries := x }),
    .word64 "in_group_memb_responses" (·.inGroupMembResponses)
      (fun x r => { r with inGroupMembResponses := x }),
    .word64 "out_group_memb_responses" (·.outGroupMembResponses)
      (fun x r => { r with outGroupMembResponses := x }),
    .word64 "in_group_memb_reductions" (·.inGroupMembReductions)
      (fun x r => { r with inGroupMembReductions := x }),
    .word64 "out_group_memb_reductions" (·.outGroupMembReductions)
      (fun x r => { r with outGroupMembReductions := x }),
    .word64 "in_router_solicits" (·.inRouterSolicits)
      (fun x r => { r with inRouterSolicits := x }),
    .word64 "out_router_solicits" (·.outRouterSolicits)
      (fun x r => { r with outRouterSolicits := x }),
    .word64 "in_router_advertisements" (·.inRouterAdvertisements)
      (fun x r => { r with inRouterAdvertisements := x }),
    .word64 "in_neighbor_solicits" (·.inNeighborSolicits)
      (fun x r => { r with inNeighborSolicits := x }),
    .word64 "out_neighbor_solicits" (·.outNeighborSolicits)
      (fun x r => { r with outNeighborSolicits := x }),
    .word64 "in_neighbor_advertisements" (·.inNeighborAdvertisements)
      (fun x r => { r with inNeighborAdvertisements := x }),
    .word64 "out_neighbor_advertisements" (·.outNeighborAdvertisements)
      (fun x r => { r with outNeighborAdvertisements := x }) ]

instance : Record Icmp6 where
  default := {}
  fields := Icmp6.counters.map .counter

structure Icmp6Errors where
  inErrors : UInt64 := 0
  inDestUnreachs : UInt64 := 0
  outDestUnreachs : UInt64 := 0
  inTimeExcds : UInt64 := 0
  outTimeExcds : UInt64 := 0
  inParmProblems : UInt64 := 0
  outParmProblems : UInt64 := 0
  inRedirects : UInt64 := 0
  outRedirects : UInt64 := 0
  inPktTooBigs : UInt64 := 0
  outPktTooBigs : UInt64 := 0

def Icmp6Errors.counters : List (Counter Icmp6Errors) :=
  [ .word64 "in_errors" (·.inErrors) (fun x r => { r with inErrors := x }),
    .word64 "in_dest_unreachs" (·.inDestUnreachs) (fun x r => { r with inDestUnreachs := x }),
    .word64 "out_dest_unreachs" (·.outDestUnreachs) (fun x r => { r with outDestUnreachs := x }),
    .word64 "in_time_excds" (·.inTimeExcds) (fun x r => { r with inTimeExcds := x }),
    .word64 "out_time_excds" (·.outTimeExcds) (fun x r => { r with outTimeExcds := x }),
    .word64 "in_parm_problems" (·.inParmProblems) (fun x r => { r with inParmProblems := x }),
    .word64 "out_parm_problems" (·.outParmProblems) (fun x r => { r with outParmProblems := x }),
    .word64 "in_redirects" (·.inRedirects) (fun x r => { r with inRedirects := x }),
    .word64 "out_redirects" (·.outRedirects) (fun x r => { r with outRedirects := x }),
    .word64 "in_pkt_too_bigs" (·.inPktTooBigs) (fun x r => { r with inPktTooBigs := x }),
    .word64 "out_pkt_too_bigs" (·.outPktTooBigs) (fun x r => { r with outPktTooBigs := x }) ]

instance : Record Icmp6Errors where
  default := {}
  fields := Icmp6Errors.counters.map .counter

structure Udp6 where
  inDatagrams : UInt64 := 0
  outDatagrams : UInt64 := 0
  noPorts : UInt64 := 0
  inErrors : UInt64 := 0

def Udp6.counters : List (Counter Udp6) :=
  [ .word64 "in_datagrams" (·.inDatagrams) (fun x r => { r with inDatagrams := x }),
    .word64 "out_datagrams" (·.outDatagrams) (fun x r => { r with outDatagrams := x }),
    .word64 "no_ports" (·.noPorts) (fun x r => { r with noPorts := x }),
    .word64 "in_errors" (·.inErrors) (fun x r => { r with inErrors := x }) ]

instance : Record Udp6 where
  default := {}
  fields := Udp6.counters.map .counter

/-- Remote calls and requests of the NFS client. -/
structure NfsClient where
  rpccnt : UInt32 := 0
  rpcretrans : UInt32 := 0
  readcnt : UInt32 := 0
  writecnt : UInt32 := 0
  accesscnt : UInt32 := 0
  getattcnt : UInt32 := 0

def NfsClient.counters : List (Counter NfsClient) :=
  [ .word32 "rpccnt" (·.rpccnt) (fun x r => { r with rpccnt := x }),
    .word32 "rpcretrans" (·.rpcretrans) (fun x r => { r with rpcretrans := x }),
    .word32 "readcnt" (·.readcnt) (fun x r => { r with readcnt := x }),
    .word32 "writecnt" (·.writecnt) (fun x r => { r with writecnt := x }),
    .word32 "accesscnt" (·.accesscnt) (fun x r => { r with accesscnt := x }),
    .word32 "getattcnt" (·.getattcnt) (fun x r => { r with getattcnt := x }) ]

instance : Record NfsClient where
  default := {}
  fields := NfsClient.counters.map .counter

/-- Remote calls, packets and requests of the NFS server. -/
structure NfsServer where
  rpccnt : UInt64 := 0
  rpcbad : UInt64 := 0
  netcnt : UInt64 := 0
  netudpcnt : UInt64 := 0
  nettcpcnt : UInt64 := 0
  rchits : UInt64 := 0
  rcmisses : UInt64 := 0
  readcnt : UInt64 := 0
  writecnt : UInt64 := 0
  accesscnt : UInt64 := 0
  getattcnt : UInt64 := 0

def NfsServer.counters : List (Counter NfsServer) :=
  [ .word64 "rpccnt" (·.rpccnt) (fun x r => { r with rpccnt := x }),
    .word64 "rpcbad" (·.rpcbad) (fun x r => { r with rpcbad := x }),
    .word64 "netcnt" (·.netcnt) (fun x r => { r with netcnt := x }),
    .word64 "netudpcnt" (·.netudpcnt) (fun x r => { r with netudpcnt := x }),
    .word64 "nettcpcnt" (·.nettcpcnt) (fun x r => { r with nettcpcnt := x }),
    .word64 "rchits" (·.rchits) (fun x r => { r with rchits := x }),
    .word64 "rcmisses" (·.rcmisses) (fun x r => { r with rcmisses := x }),
    .word64 "readcnt" (·.readcnt) (fun x r => { r with readcnt := x }),
    .word64 "writecnt" (·.writecnt) (fun x r => { r with writecnt := x }),
    .word64 "accesscnt" (·.accesscnt) (fun x r => { r with accesscnt := x }),
    .word64 "getattcnt" (·.getattcnt) (fun x r => { r with getattcnt := x }) ]

instance : Record NfsServer where
  default := {}
  fields := NfsServer.counters.map .counter

end ActivityArchive.Record
