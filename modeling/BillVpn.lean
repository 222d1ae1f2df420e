import BillVpn.Go.Basic
import BillVpn.Go.Bits
import BillVpn.Go.Block
import BillVpn.Go.Buffers
import BillVpn.Go.Bufio
import BillVpn.Go.Case
import BillVpn.Go.Conn
import BillVpn.Go.Crew
import BillVpn.Go.Dialogue
import BillVpn.Go.Frames
import BillVpn.Go.Hoare
import BillVpn.Go.HostPort
import BillVpn.Go.HostPortText
import BillVpn.Go.Json
import BillVpn.Go.Map
import BillVpn.Go.Netip
import BillVpn.Go.NetipText
import BillVpn.Go.Ordered
import BillVpn.Go.Regexp
import BillVpn.Go.Rotation
import BillVpn.Go.Run
import BillVpn.Go.Spelling
import BillVpn.Go.Trie
import BillVpn.Go.TwoRuns
import BillVpn.Go.Utf8
import BillVpn.Go.Window
import BillVpn.Android.Moshi
import BillVpn.Android.Profile
import BillVpn.Android.RoundTrip
import BillVpn.Android.SubscriptionRuns
import BillVpn.Android.Subscriptions
import BillVpn.Config.Decode
import BillVpn.Config.DohHost
import BillVpn.Config.DohWrite
import BillVpn.Config.Executable
import BillVpn.Config.GfwList
import BillVpn.Config.GfwRouting
import BillVpn.Config.History
import BillVpn.Config.Load
import BillVpn.Config.Matchers
import BillVpn.Config.Merge
import BillVpn.Config.Order
import BillVpn.Config.Pattern
import BillVpn.Config.PatternLanguage
import BillVpn.Config.Pool
import BillVpn.Config.PoolList
import BillVpn.Config.PoolRuns
import BillVpn.Config.PoolScan
import BillVpn.Config.Settings
import BillVpn.Config.TTLRules
import BillVpn.Desync.FakeTTL
import BillVpn.Desync.Noise
import BillVpn.Desync.Probe
import BillVpn.Desync.Rules
import BillVpn.Dns.Answer
import BillVpn.Dns.Lifetime
import BillVpn.Dns.Reply
import BillVpn.Dns.Resolve
import BillVpn.Dns.Rewrite
import BillVpn.FakeIP.Exhaustion
import BillVpn.FakeIP.Runs
import BillVpn.FakeIP.Store
import BillVpn.Front.Blocked
import BillVpn.Front.DnsTcp
import BillVpn.Front.FrontEnds
import BillVpn.Front.HijackFlow
import BillVpn.Front.PacketCopy
import BillVpn.Front.QueuedPacketConn
import BillVpn.Front.SharedBuffers
import BillVpn.Front.SocksAssociate
import BillVpn.Front.SocksHandshake
import BillVpn.Front.SocksUdp
import BillVpn.Front.UdpFlow
import BillVpn.Policy.Plan
import BillVpn.Policy.Policy
import BillVpn.Policy.Redirect
import BillVpn.Routing.CaseFold
import BillVpn.Routing.FakeDial
import BillVpn.Routing.Fallback
import BillVpn.Routing.Net
import BillVpn.Routing.Recorded
import BillVpn.Routing.RecordedRuns
import BillVpn.Routing.Spelling
import BillVpn.Routing.Transparent
import BillVpn.Routing.Unmatched
import BillVpn.Service.GoCore
import BillVpn.Service.RuntimeLog
import BillVpn.Service.Safety
import BillVpn.Service.Vpn
import BillVpn.Tls.CallSites
import BillVpn.Tls.ClientHello
import BillVpn.Tls.Delivery
import BillVpn.Tls.Fragment
import BillVpn.Tls.HelloSafety
import BillVpn.Tls.Lossy
import BillVpn.Tls.NameSplit
import BillVpn.Tls.PolicyConn
import BillVpn.Tls.Records
import BillVpn.Tls.Refragment
import BillVpn.Tls.Serialize
import BillVpn.Tunnel.HttpPaths
import BillVpn.Tunnel.Relay
import BillVpn.Tunnel.Segments
import BillVpn.Tunnel.Tunnel
import BillVpn.Tunnel.Twins
