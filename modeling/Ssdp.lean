import Ssdp.Message.Printer
import Ssdp.Message.Parser
import Ssdp.Message.MaxAge
import Ssdp.Message.NotificationSubType
import Ssdp.Message.Search
import Ssdp.Time.Instant
import Ssdp.Net.Address.Printer
import Ssdp.Net.Address.Parser
import Ssdp.Net.Interface
import Ssdp.Router
import Ssdp.Cache
import Ssdp.ControlPoint.Run
import Ssdp.Transport.Receive
import Ssdp.Transport.Loopback
import Ssdp.Proofs.Transport.Build
import Ssdp.Proofs.Cache.Conservation
import Ssdp.Proofs.Cache.Refinement
import Ssdp.Proofs.Cache.Sweep
import Ssdp.Proofs.Locator.Reaction
import Ssdp.Proofs.Locator.Ledger
import Ssdp.Proofs.ControlPoint.Effect
import Ssdp.Proofs.ControlPoint.Agenda
import Ssdp.Proofs.ControlPoint.Ledger
import Ssdp.Proofs.ControlPoint.Wiring
import Ssdp.Proofs.ControlPoint.Quiet
import Ssdp.Proofs.ControlPoint.Disposal
import Ssdp.Proofs.Message.Grammar
import Ssdp.Proofs.Message.RoundTrip
import Ssdp.Proofs.Message.Canonical
import Ssdp.Proofs.ControlPoint.Registration
import Ssdp.Proofs.ControlPoint.Dispatch
import Ssdp.Proofs.ControlPoint.Roster
import Ssdp.Proofs.ControlPoint.Isolation
import Ssdp.Proofs.Locator.Balance
import Ssdp.Proofs.Locator.Belief
import Ssdp.Proofs.ControlPoint.Threads
import Ssdp.Proofs.ControlPoint.Balance
import Ssdp.Proofs.ControlPoint.Settled
import Ssdp.Proofs.Device
import Ssdp.Proofs.Device.Expiry
import Ssdp.Proofs.ControlPoint.Legitimacy
import Ssdp.Proofs.ControlPoint.Tenancy
import Ssdp.Proofs.ControlPoint.Census
import Ssdp.Proofs.Message.Announcement
import Ssdp.Proofs.Locator.Registry
import Ssdp.Proofs.ControlPoint.Shelter
import Ssdp.Proofs.ControlPoint.Hearing
import Ssdp.Proofs.ControlPoint.Sameness
import Ssdp.Proofs.Locator.Meaning
import Ssdp.Proofs.ControlPoint.Handling
import Ssdp.Proofs.ControlPoint.Searching
import Ssdp.Proofs.Transport.Reception
import Ssdp.Proofs.Transport.Multicast
import Ssdp.Proofs.Message.AgeLimit
import Ssdp.Proofs.ControlPoint.LineEnds
import Ssdp.Proofs.ControlPoint.Outage
import Ssdp.Proofs.Locator.Filter
import Ssdp.Proofs.ControlPoint.Routing
import Ssdp.Proofs.ControlPoint.Composure
import Ssdp.Proofs.ControlPoint.Deafness
import Ssdp.Proofs.Locator.Search
