import AccessGate.Access
import AccessGate.Backends
import AccessGate.Bytes.Hex
import AccessGate.Directory.Relational
import AccessGate.Fault.Parts
import AccessGate.Http.Server
import AccessGate.Logging
import AccessGate.RateLimit.Shared
import AccessGate.Settings.Load
import AccessGate.Telemetry
import AccessGate.Proofs.RateLimit.Budget
import AccessGate.Proofs.RateLimit.SlidingWindow
import AccessGate.Proofs.RateLimit.Isolation
import AccessGate.Proofs.Cache.Memory
import AccessGate.Proofs.Resolver.Invalidation
import AccessGate.Proofs.Resolver.ColdAndWarm
import AccessGate.Proofs.Cache.Trace
import AccessGate.Proofs.Cache.Agreement
import AccessGate.Proofs.ApiKeys
import AccessGate.Proofs.Http.Isolation
import AccessGate.Proofs.Resolver.AllOrNothing
import AccessGate.Proofs.Resolver.UnreliableCache
import AccessGate.Proofs.Resolver.Matching
import AccessGate.Proofs.Token.Verification
import AccessGate.Proofs.RateLimit.Interference
import AccessGate.Proofs.ApiKeys.Lifecycle
import AccessGate.Proofs.RateLimit.Agreement
import AccessGate.Proofs.RateLimit.Announcements
import AccessGate.Proofs.RateLimit.FailOpen
import AccessGate.Proofs.Text.Steady
import AccessGate.Proofs.Resolver.Pairs
import AccessGate.Proofs.Token.Kinds
import AccessGate.Proofs.Bytes.Sextets
import AccessGate.Proofs.Secret.Grammar
import AccessGate.Proofs.Token.KeyDocument
import AccessGate.Proofs.Http.Credentials
import AccessGate.Proofs.Http.Secrecy
import AccessGate.Proofs.Cache.Indexes
import AccessGate.Proofs.RateLimit.Retention
import AccessGate.Proofs.Json.Length
import AccessGate.Proofs.Settings.Load
import AccessGate.Proofs.Settings.Lists
