import Balance.Call.Request
import Balance.Client.Execute
import Balance.Main
import Balance.Metrics
import Balance.Proofs.Balancer.Affinity
import Balance.Proofs.Balancer.Availability
import Balance.Proofs.Balancer.Canaries
import Balance.Proofs.Balancer.Events
import Balance.Proofs.Balancer.Exclusion
import Balance.Proofs.Balancer.Expansion
import Balance.Proofs.Balancer.Fairness
import Balance.Proofs.Balancer.Handout
import Balance.Proofs.Balancer.Ledger
import Balance.Proofs.Balancer.Offers
import Balance.Proofs.Balancer.Rotation
import Balance.Proofs.Call.Causes
import Balance.Proofs.Client.Availability
import Balance.Proofs.Client.Budgets
import Balance.Proofs.Client.Events
import Balance.Proofs.Client.Gauge
import Balance.Proofs.Client.Laziness
import Balance.Proofs.Client.Probation
import Balance.Proofs.Client.Remaining
import Balance.Proofs.Client.Rotation
import Balance.Proofs.Client.Service
import Balance.Proofs.ClientHash
import Balance.Proofs.Config.Problems
import Balance.Proofs.Metrics
import Balance.Proofs.Pool.Failures
import Balance.Proofs.Pool.Guarded
import Balance.Proofs.Pool.Ledger
import Balance.Proofs.Simulation
