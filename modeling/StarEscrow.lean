import StarEscrow.Lib.Lts
import StarEscrow.Lib.Checked
import StarEscrow.Lib.Sep41
import StarEscrow.Escrow.Types
import StarEscrow.Escrow.Env
import StarEscrow.Escrow.Contract
import StarEscrow.Escrow.OpSpecs
import StarEscrow.Escrow.Run
import StarEscrow.Escrow.Change
import StarEscrow.Escrow.Record
import StarEscrow.Escrow.Books
import StarEscrow.Escrow.Creation
import StarEscrow.Escrow.Payout
import StarEscrow.Lib.Pot
import StarEscrow.Escrow.Conservation
import StarEscrow.Escrow.Lifecycle
import StarEscrow.Escrow.History
import StarEscrow.Escrow.Authority
import StarEscrow.Escrow.Refund
import StarEscrow.Escrow.Yield
import StarEscrow.Escrow.Recurring
import StarEscrow.Factory.Contract
import StarEscrow.Lib.Register
import StarEscrow.Factory.Run
import StarEscrow.Factory.Registry
import StarEscrow.Factory.Solvency
import StarEscrow.Deal
import StarEscrow.Factory.Settlement
import StarEscrow.Escrow.Pause
import StarEscrow.Escrow.Terms
import StarEscrow.Lib.Positions
import StarEscrow.Reputation.Contract
import StarEscrow.Reputation.Counts
import StarEscrow.Escrow.Fee
import StarEscrow.Lib.Rounding
import StarEscrow.Escrow.Splitting
import StarEscrow.Lib.Times
import StarEscrow.Escrow.Releases
import StarEscrow.Escrow.Deadline
import StarEscrow.Lib.Reorder
import StarEscrow.Escrow.Commute
import StarEscrow.Escrow.Ttl
import StarEscrow.Reputation.Score
import StarEscrow.Lib.Window
import StarEscrow.Escrow.RateLimit
import StarEscrow.Escrow.Allowlist
import StarEscrow.Cli.EnvFile
import StarEscrow.Escrow.Effects
import StarEscrow.Escrow.Failures
import StarEscrow.Escrow.Journal
import StarEscrow.Lib.Journal
import StarEscrow.Factory.Journal
import StarEscrow.Reputation.Journal
import StarEscrow.Escrow.Custody
import StarEscrow.Lib.Parallel
import StarEscrow.Ledger
import StarEscrow.Escrow.Announced
import StarEscrow.Escrow.Completion
import StarEscrow.Escrow.Workload
import StarEscrow.Factory.WindDown
import StarEscrow.Escrow.Retry
import StarEscrow.Cli.EnvStore
import StarEscrow.Cli.Deploy
import StarEscrow.Escrow.Errors
import StarEscrow.Lib.Mealy
import StarEscrow.Bundle.Work
import StarEscrow.Bundle.Factory
import StarEscrow.Bundle.Escrow
import StarEscrow.Lib.Relational
import StarEscrow.Escrow.Uniform
import StarEscrow.Escrow.Interference
import StarEscrow.Escrow.Enabled
import StarEscrow.Factory.Interleaving
import StarEscrow.Factory.Book
