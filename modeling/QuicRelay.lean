import QuicRelay.Handler
import QuicRelay.Router.RoundRobin
import QuicRelay.Router.Fairness
import QuicRelay.Router.Static
import QuicRelay.Router.Dynamic
import QuicRelay.Router.Concurrent
import QuicRelay.Forwarder.Connect
import QuicRelay.Forwarder.Session
import QuicRelay.Forwarder.Trace
import QuicRelay.Forwarder.Pump
import QuicRelay.Forwarder.Packet
import QuicRelay.Forwarder.System
import QuicRelay.Forwarder.Runs
import QuicRelay.Forwarder.CloseOnce
import QuicRelay.Forwarder.AfterClose
import QuicRelay.Chain
import QuicRelay.RateLimit
