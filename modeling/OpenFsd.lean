import OpenFsd.Db.Backends
import OpenFsd.Db.DefaultConfig
import OpenFsd.Db.Repository
import OpenFsd.Fsd.Acceptance
import OpenFsd.Fsd.AddPackets
import OpenFsd.Fsd.Admission
import OpenFsd.Fsd.Alterations
import OpenFsd.Fsd.AuthScheme
import OpenFsd.Fsd.Authority
import OpenFsd.Fsd.Bounds
import OpenFsd.Fsd.Broadcast
import OpenFsd.Fsd.Callsigns
import OpenFsd.Fsd.Client
import OpenFsd.Fsd.Connections
import OpenFsd.Fsd.Deliveries
import OpenFsd.Fsd.EventLoop
import OpenFsd.Fsd.Exits
import OpenFsd.Fsd.Fields
import OpenFsd.Fsd.FlightPlans
import OpenFsd.Fsd.Gates
import OpenFsd.Fsd.Geography
import OpenFsd.Fsd.Handler
import OpenFsd.Fsd.HttpService
import OpenFsd.Fsd.Jwt
import OpenFsd.Fsd.JwtHeaders
import OpenFsd.Fsd.Login
import OpenFsd.Fsd.LoginLines
import OpenFsd.Fsd.LoginPhase
import OpenFsd.Fsd.Metar
import OpenFsd.Fsd.MetarQueue
import OpenFsd.Fsd.Narrowing
import OpenFsd.Fsd.Office
import OpenFsd.Fsd.OnlineUsers
import OpenFsd.Fsd.Outgoing
import OpenFsd.Fsd.Packet
import OpenFsd.Fsd.Passwords
import OpenFsd.Fsd.Pieces
import OpenFsd.Fsd.Positions
import OpenFsd.Fsd.PostOffice
import OpenFsd.Fsd.Presence
import OpenFsd.Fsd.Records
import OpenFsd.Fsd.Registry
import OpenFsd.Fsd.Routing
import OpenFsd.Fsd.SendFast
import OpenFsd.Fsd.SenderWorker
import OpenFsd.Fsd.ServerRun
import OpenFsd.Fsd.Session
import OpenFsd.Fsd.Signals
import OpenFsd.Fsd.Silence
import OpenFsd.Fsd.SingleLine
import OpenFsd.Fsd.Speaker
import OpenFsd.Fsd.System
import OpenFsd.Fsd.TextMessages
import OpenFsd.Fsd.Traffic
import OpenFsd.Fsd.Turn
import OpenFsd.Fsd.Util
import OpenFsd.Fsd.VatsimAuth
import OpenFsd.Fsd.Visibility
import OpenFsd.Fsd.Wedge
import OpenFsd.Go.Bytes
import OpenFsd.Go.Decimal
import OpenFsd.Go.Exact
import OpenFsd.Go.Float
import OpenFsd.Go.Json
import OpenFsd.Go.JsonText
import OpenFsd.Go.JsonWriter
import OpenFsd.Go.Lines
import OpenFsd.Go.Saturation
import OpenFsd.Go.Scanner
import OpenFsd.Go.Strconv
import OpenFsd.Library.Access
import OpenFsd.Library.Automaton
import OpenFsd.Library.Buffer
import OpenFsd.Library.Delimited
import OpenFsd.Library.History
import OpenFsd.Library.Interleaving
import OpenFsd.Library.Machine
import OpenFsd.Library.Sphere
import OpenFsd.Library.Transition
import OpenFsd.Library.Traversal
import OpenFsd.Library.WorkQueue
import OpenFsd.Platform
import OpenFsd.Symbolic
import OpenFsd.Web.ApiText
import OpenFsd.Web.Auth
import OpenFsd.Web.Browser
import OpenFsd.Web.Config
import OpenFsd.Web.ConfigUpdate
import OpenFsd.Web.Datafeed
import OpenFsd.Web.Deployment
import OpenFsd.Web.Documents
import OpenFsd.Web.Escalation
import OpenFsd.Web.FeedCache
import OpenFsd.Web.FeedCounts
import OpenFsd.Web.FsdConn
import OpenFsd.Web.Impersonation
import OpenFsd.Web.Issuance
import OpenFsd.Web.Lifetime
import OpenFsd.Web.Response
import OpenFsd.Web.Revocation
import OpenFsd.Web.SecretKey
import OpenFsd.Web.Server
import OpenFsd.Web.Startup
import OpenFsd.Web.Steps
import OpenFsd.Web.Success
import OpenFsd.Web.User
import OpenFsd.Web.UserUpdate
