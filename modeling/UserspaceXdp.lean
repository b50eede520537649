import UserspaceXdp.Foundation.LinearProbing
import UserspaceXdp.InlineMap.Refinement
import UserspaceXdp.InlineMap.Deletion
import UserspaceXdp.AfXdp.Xdpsock
import UserspaceXdp.AfXdp.SocketRings
import UserspaceXdp.AfXdp.Invariant
import UserspaceXdp.AfXdp.Conservation
import UserspaceXdp.AfXdp.Verdicts
import UserspaceXdp.Dpdk.L2fwd
import UserspaceXdp.Dpdk.Ownership
import UserspaceXdp.Runtime.Helpers
import UserspaceXdp.Drivers.Transmission
import UserspaceXdp.Foundation.PrefixTable
import UserspaceXdp.Maps.LpmTrie
import UserspaceXdp.Maps.LpmTrieContents
import UserspaceXdp.Maps.LpmMap
import UserspaceXdp.Foundation.Recency
import UserspaceXdp.Maps.LruCache
import UserspaceXdp.Maps.LruRecency
import UserspaceXdp.Maps.LruMap
import UserspaceXdp.Maps.LruPointers
import UserspaceXdp.Foundation.Interference
import UserspaceXdp.Maps.DevMap
import UserspaceXdp.Maps.Isolation
import UserspaceXdp.Foundation.OnesComplement
import UserspaceXdp.Checksum.Csum
import UserspaceXdp.Checksum.CsumDiff
import UserspaceXdp.Checksum.Incremental
import UserspaceXdp.AfXdp.SharedUmem
import UserspaceXdp.InlineMap.AotHelpers
import UserspaceXdp.Foundation.BoundedMap
import UserspaceXdp.Programs.Packet
import UserspaceXdp.Programs.XdpMaps
import UserspaceXdp.Programs.XdpLb
import UserspaceXdp.Foundation.Lockstep
import UserspaceXdp.InlineMap.LiveValues
import UserspaceXdp.Programs.XdpFirewall
import UserspaceXdp.Drivers.TailAdjustment
import UserspaceXdp.Foundation.Runs
import UserspaceXdp.Runtime.PacketWindow
import UserspaceXdp.Checksum.Header
import UserspaceXdp.Drivers.Noninterference
import UserspaceXdp.Programs.XdpFw
import UserspaceXdp.Programs.XdpAdjustTail
import UserspaceXdp.Programs.XdpLbForwarding
import UserspaceXdp.Programs.XdpTxIptunnel
import UserspaceXdp.AfXdp.SocketIndependence
import UserspaceXdp.Maps.LpmTrieSearch
import UserspaceXdp.Checksum.Alignment
import UserspaceXdp.Programs.XdpCsum
import UserspaceXdp.Runtime.EntryProgram
import UserspaceXdp.Programs.BpfStrncmp
import UserspaceXdp.Programs.XdpTcpclassify
import UserspaceXdp.Programs.Xdping
import UserspaceXdp.Foundation.Agreement
import UserspaceXdp.Foundation.FixedWindow
import UserspaceXdp.Katran.Structs
import UserspaceXdp.Katran.Replies
import UserspaceXdp.Katran.Parsing
import UserspaceXdp.Katran.Encap
import UserspaceXdp.Katran.Balancer
import UserspaceXdp.Katran.Effects
import UserspaceXdp.Katran.CpuRuns
import UserspaceXdp.Katran.Forwarding
import UserspaceXdp.Katran.Flows
import UserspaceXdp.Katran.Entries
import UserspaceXdp.Katran.Affinity
import UserspaceXdp.Maps.LruRetention
import UserspaceXdp.Katran.ConnectionTable
import UserspaceXdp.Katran.Quic
import UserspaceXdp.Katran.Locality
import UserspaceXdp.Foundation.Mixing
import UserspaceXdp.Foundation.XxHash
import UserspaceXdp.Programs.XdpHashSum
import UserspaceXdp.Programs.StandardAcl
import UserspaceXdp.Dpdk.Setup
import UserspaceXdp.Foundation.KeyWalk
import UserspaceXdp.Maps.DevWalk
