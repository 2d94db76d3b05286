import DnsProxy.Wire
import DnsProxy.CacheKey
import DnsProxy.Config
import DnsProxy.Responses
import DnsProxy.Filter
import DnsProxy.Dispatch
import DnsProxy.Dns64
import DnsProxy.Cache
import DnsProxy.Pipeline
import DnsProxy.System
import DnsProxy.TcpFraming
import DnsProxy.TcpListener
import DnsProxy.TcpListenerRuns
import DnsProxy.TcpStreams
import DnsProxy.TcpClose
import DnsProxy.UdpListener
import DnsProxy.UdpListenerRuns
import DnsProxy.ListenerSetup
import DnsProxy.Dns64Discovery
