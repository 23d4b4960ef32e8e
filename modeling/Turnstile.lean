import Turnstile.Json.Writer
import Turnstile.Json.Reader
import Turnstile.Json.Access
import Turnstile.Store.Any
import Turnstile.Limiter.Interleaved
import Turnstile.Guard.Basic
import Turnstile.Log.Record
import Turnstile.Log.Template
import Turnstile.Validation.Reading
import Turnstile.Settings.Startup
import Turnstile.Access
import Turnstile.Http.RequestId
import Turnstile.Http.Message
import Turnstile.Http.Url
import Turnstile.Http.Route
import Turnstile.Http.Refusal
import Turnstile.Service.Storage
import Turnstile.Service.Description
import Turnstile.Service.Exchange
import Turnstile.Proofs.Number.Nearest
import Turnstile.Proofs.Time.Ceiling
import Turnstile.Proofs.Policy.Lifetime
import Turnstile.Proofs.Policy.Resolution
import Turnstile.Proofs.Store.Memory
import Turnstile.Proofs.Limiter.Outcome
import Turnstile.Proofs.Limiter.Overlap
import Turnstile.Proofs.Store.Fate
import Turnstile.Proofs.Store.Ownership
import Turnstile.Proofs.Limiter.Visit
import Turnstile.Proofs.Limiter.Denial
import Turnstile.Proofs.Limiter.Calm
import Turnstile.Proofs.Limiter.Refinement
import Turnstile.Proofs.Store.Keeping
import Turnstile.Proofs.Limiter.Safety
import Turnstile.Proofs.Store.Server
import Turnstile.Proofs.Limiter.Backends
import Turnstile.Proofs.Action
import Turnstile.Proofs.Policy.Keys
import Turnstile.Proofs.Limiter.Solitary
import Turnstile.Proofs.Quota.Call
import Turnstile.Proofs.Quota.Isolation
import Turnstile.Proofs.Quota.Book
import Turnstile.Proofs.Quota.Standing
import Turnstile.Proofs.Guard.Charging
import Turnstile.Proofs.Access
import Turnstile.Proofs.Service.Endpoints
import Turnstile.Proofs.Service.Exchanges
import Turnstile.Proofs.Service.Budgets
import Turnstile.Proofs.Http.Route
import Turnstile.Proofs.Service.Operators
import Turnstile.Proofs.Text.Pieces
import Turnstile.Proofs.Service.Gate
import Turnstile.Proofs.Log.Fields
import Turnstile.Proofs.Service.Tokens
import Turnstile.Proofs.Number.Order
import Turnstile.Proofs.Limiter.Attempts
import Turnstile.Proofs.Limiter.Permissive
import Turnstile.Proofs.Store.Mildness
import Turnstile.Proofs.Limiter.Tolerance
import Turnstile.Proofs.Guard.Trying
import Turnstile.Proofs.Service.Trials
import Turnstile.Proofs.Service.Looks
import Turnstile.Proofs.Service.Outages
import Turnstile.Proofs.Log.Scrubbing
import Turnstile.Proofs.Json.Writing
import Turnstile.Proofs.Store.Reports
import Turnstile.Proofs.Service.Conduct
import Turnstile.Proofs.Service.Envelopes
import Turnstile.Proofs.Service.Correlation
import Turnstile.Proofs.Time.Beyond
import Turnstile.Proofs.Limiter.Working
import Turnstile.Proofs.Guard.Composition
import Turnstile.Proofs.Service.Enforcement
import Turnstile.Proofs.Store.Parity
import Turnstile.Proofs.Limiter.Rollback
import Turnstile.Proofs.Limiter.Steady
import Turnstile.Proofs.Store.Capacity
import Turnstile.Proofs.Limiter.Capacity
import Turnstile.Proofs.Guard.Deeds
import Turnstile.Proofs.Guard.Waiting
import Turnstile.Proofs.Json.Members
import Turnstile.Proofs.Log.Digests
import Turnstile.Proofs.Log.Passes
import Turnstile.Proofs.Http.RequestId
import Turnstile.Proofs.Service.Identifiers
import Turnstile.Proofs.Caller
import Turnstile.Proofs.Guard.Checks
import Turnstile.Proofs.Service.Addresses
import Turnstile.Proofs.Text.Case
import Turnstile.Proofs.Quota.Spelling
import Turnstile.Proofs.Service.Spelling
import Turnstile.Proofs.Guard.WholeSeconds
import Turnstile.Proofs.Service.ResetTimes
import Turnstile.Proofs.Time.Dates
import Turnstile.Proofs.Time.Texts
import Turnstile.Proofs.Json.Wide
import Turnstile.Proofs.Http.Refusal
import Turnstile.Proofs.Net.Url
import Turnstile.Proofs.Http.Address
