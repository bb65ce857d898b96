import KeyRoute.Config.File
import KeyRoute.Config.FileTree
import KeyRoute.Simulation.Bench
import KeyRoute.Simulation.Session
import KeyRoute.Proofs.Delivery
import KeyRoute.Proofs.Steps
import KeyRoute.Proofs.History
import KeyRoute.Proofs.Crowds
import KeyRoute.Proofs.Lifetimes
import KeyRoute.Proofs.Accounts
import KeyRoute.Proofs.Overlap
import KeyRoute.Proofs.Fleets
import KeyRoute.Proofs.Schedules
import KeyRoute.Proofs.Sequential
import KeyRoute.Proofs.Listening
import KeyRoute.Router.Site
import KeyRoute.Proofs.Settling
import KeyRoute.Proofs.Discretion
import KeyRoute.Proofs.Making
import KeyRoute.Proofs.Failures
import KeyRoute.Proofs.Provenance
import KeyRoute.Proofs.Latecomers
import KeyRoute.Proofs.Isolation
import KeyRoute.Proofs.Batches
import KeyRoute.Proofs.Callbacks
import KeyRoute.Proofs.Commuting
import KeyRoute.Proofs.Stopping
import KeyRoute.Proofs.Entries
import KeyRoute.Proofs.RoundTrip
import KeyRoute.Proofs.Spellings
import KeyRoute.Proofs.Auditing
import KeyRoute.Proofs.Keys
import KeyRoute.Proofs.Loading
import KeyRoute.Proofs.Views
