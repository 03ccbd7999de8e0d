import Rvpn.Server.Unauthenticated
import Rvpn.Server.CookieLimiter
import Rvpn.Server.Admission
import Rvpn.Server.Mac1
import Rvpn.Server.Envelope
import Rvpn.Server.Metering
import Rvpn.Client.Daemon
import Rvpn.Client.ResponseFilter
import Rvpn.Server.AntiSpoofing
import Rvpn.Protocol.Agreement
import Rvpn.Routing.LongestPrefix
import Rvpn.Routing.Forwarding
import Rvpn.System.Nonces
import Rvpn.Server.ForgedFinish
import Rvpn.Server.Policing
import Rvpn.Server.DnsReload
import Rvpn.Server.PendingCap
import Rvpn.System.Rekeying
import Rvpn.Transport.Scheduling
import Rvpn.Transport.Sizing
import Rvpn.Android.Jni
import Rvpn.Android.Network
import Rvpn.Protocol.Canonical
import Rvpn.Protocol.WireFormat
import Rvpn.System.Retries
import Rvpn.Net.ResolvConf
import Rvpn.Server.Firewall
import Rvpn.Server.Calendar
import Rvpn.Ipc.Socket
import Rvpn.Builder.Enrollment
