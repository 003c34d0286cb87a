import Decnet.Datalink.DdcmpEndToEnd
import Decnet.Nsp.Acknowledging
import Decnet.Nsp.Isolation
import Decnet.Nsp.OtherData
import Decnet.Nsp.RemoteTable
import Decnet.Nsp.Delivery
import Decnet.Routing.Parallel
import Decnet.Routing.Indexing
import Decnet.Routing.Accounting
import Decnet.Routing.LanHello
import Decnet.Routing.LoopFree
import Decnet.Node.Timers
import Decnet.Routing.InStep
import Decnet.Common.Wheel
import Decnet.Datalink.DdcmpWindow
import Decnet.Datalink.LastRequest
import Decnet.Datalink.Multinet
import Decnet.Node.Names
import Decnet.Node.Expiries
import Decnet.Routing.LanListen
import Decnet.Nsp.Parting
import Decnet.Dap.FalUsers
import Decnet.Dap.Blocks
import Decnet.Dap.FileSpecs
import Decnet.Mop.Requests
import Decnet.Mop.Loop
import Decnet.Session.Process
import Decnet.Session.TerminalGate
import Decnet.Common.HttpClient
import Decnet.Datalink.Telnet
import Decnet.Session.ConnectMessage
import Decnet.Common.Config
import Decnet.Events.Received
import Decnet.Events.Calendar
