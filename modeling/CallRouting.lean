import CallRouting.Decimal.Reading
import CallRouting.Directory.Settings
import CallRouting.Settings.Toml
import CallRouting.Simulation
import CallRouting.Url
import CallRouting.Proofs.Candidates
import CallRouting.Proofs.Waits
import CallRouting.Proofs.Accounts
import CallRouting.Proofs.CacheSession
import CallRouting.Proofs.Endings
import CallRouting.Proofs.Failover
import CallRouting.Proofs.Outcome
import CallRouting.Proofs.ServiceStates
import CallRouting.Proofs.TaskTraces
import CallRouting.Proofs.Answers
import CallRouting.Proofs.LoadLine
import CallRouting.Proofs.SharedLoads
import CallRouting.Proofs.SingleFlight
import CallRouting.Proofs.ReadOrder
import CallRouting.Proofs.Invalidation
import CallRouting.Proofs.Filtering
import CallRouting.Proofs.Averages
import CallRouting.Proofs.Separation
import CallRouting.Proofs.LeftCalls
import CallRouting.Proofs.Telling
import CallRouting.Proofs.Sampling
import CallRouting.Proofs.Fairness
import CallRouting.Proofs.LeastBusy
import CallRouting.Proofs.CheckedChoices
import CallRouting.Proofs.CommonCandidates
import CallRouting.Proofs.Purges
import CallRouting.Proofs.Doubling
import CallRouting.Proofs.Declarations
import CallRouting.Proofs.Snapshots
import CallRouting.Proofs.Departures
import CallRouting.Proofs.Addresses
import CallRouting.Proofs.Records
import CallRouting.Proofs.Grammar
import CallRouting.Proofs.RoundTrips
import CallRouting.Proofs.RetryTurns
import CallRouting.Proofs.RetrySpread
import CallRouting.Proofs.LookupSteps
import CallRouting.Proofs.CacheUsers
import CallRouting.Proofs.CacheMoves
import CallRouting.Proofs.ListsAtHand
import CallRouting.Proofs.Gets
import CallRouting.Proofs.Freshness
import CallRouting.Proofs.RequestUrls
import CallRouting.Proofs.Authorities
import CallRouting.Proofs.Rewriting
import CallRouting.Proofs.Switching
import CallRouting.Proofs.Wrapping
