import TrustStore.Base.Fallible
import TrustStore.Base.AllOrNothing
import TrustStore.Base.Transition
import TrustStore.Base.Timeline
import TrustStore.Base.Regex
import TrustStore.Base.Istream
import TrustStore.Core.Request
import TrustStore.Core.Agent
import TrustStore.Core.Store
import TrustStore.Core.Clients
import TrustStore.Core.Ledger
import TrustStore.Sqlite.Library
import TrustStore.Sqlite.Statement
import TrustStore.Sqlite.Query
import TrustStore.Sqlite.Encoding
import TrustStore.Sqlite.Cursor
import TrustStore.Sqlite.Store
import TrustStore.Sqlite.Leftovers
import TrustStore.Sqlite.Lookup
import TrustStore.Sqlite.Filters
import TrustStore.Sqlite.RoundTrip
import TrustStore.Sqlite.EndOfResults
import TrustStore.Sqlite.Erasing
import TrustStore.Sqlite.Recovery
import TrustStore.Sqlite.Unfailing
import TrustStore.Sqlite.Refinement
import TrustStore.Sqlite.Opening
import TrustStore.Agents.Cached
import TrustStore.Agents.Steps
import TrustStore.Agents.Agreement
import TrustStore.Agents.Helper
import TrustStore.Agents.Decorators
import TrustStore.Agents.Versions
import TrustStore.Cache.World
import TrustStore.Cache.Isolation
import TrustStore.Cache.Race
import TrustStore.Cache.Provenance
import TrustStore.Mir.Agent
import TrustStore.Mir.Stopped
import TrustStore.Mir.Ancestors
import TrustStore.Mir.Descriptors
import TrustStore.Mir.DesktopEntries
import TrustStore.Daemon.Skeleton
import TrustStore.Daemon.PrivilegeEscalation
import TrustStore.Daemon.WhiteList
import TrustStore.Preseed.Configuration
import TrustStore.Preseed.Grammar
import TrustStore.Remote.Posix
import TrustStore.Remote.Ordering
import TrustStore.Remote.Registry
import TrustStore.Remote.Loops
import TrustStore.Remote.Spoofing
import TrustStore.Remote.EndOfStream
import TrustStore.Dbus.Codec
import TrustStore.Dbus.Sequence
import TrustStore.Dbus.Expose
import TrustStore.Dbus.Replies
import TrustStore.Dbus.Resolve
import TrustStore.Dbus.Failures
import TrustStore.Dbus.Simulation
import TrustStore.Dbus.RemoteLedger
import TrustStore.Dbus.DefaultStore
import TrustStore.Dbus.Agent
import TrustStore.Dbus.AgentRegistry
import TrustStore.Dbus.KeptAlive
import TrustStore.Dbus.Registration
import TrustStore.Remote.Dbus
import TrustStore.Remote.Reregistration
import TrustStore.Daemon.Options
import TrustStore.Daemon.Decisions
import TrustStore.Daemon.Settled
import TrustStore.Daemon.LastWord
import TrustStore.Daemon.Rows
import TrustStore.Daemon.Preseeded
import TrustStore.Daemon.Concurrent
import TrustStore.Daemon.MultiUser
import TrustStore.Daemon.Sockets
import TrustStore.Daemon.Shell
import TrustStore.Daemon.Startup
