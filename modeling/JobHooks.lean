import JobHooks.Daemon.Script
import JobHooks.Main
import JobHooks.Proofs.Order
import JobHooks.Proofs.Schedule
import JobHooks.Proofs.Machine
import JobHooks.Proofs.Retry
import JobHooks.Proofs.Stop
import JobHooks.Proofs.Interleaving
import JobHooks.Proofs.Wire.Requests
import JobHooks.Proofs.Calls
import JobHooks.Proofs.Totals
import JobHooks.Proofs.Pacing
import JobHooks.Proofs.Client.LifeCycle
import JobHooks.Proofs.Client.Elapsed
import JobHooks.Proofs.Transport.Delivery
import JobHooks.Proofs.Config.Validity
import JobHooks.Proofs.Transport.TimeLimits
import JobHooks.Proofs.Transport.Causes
import JobHooks.Proofs.Config.Fields
import JobHooks.Proofs.Config.Layers
import JobHooks.Proofs.Cli.Session
import JobHooks.Proofs.Cli.Report
import JobHooks.Proofs.Cli.Command
import JobHooks.Proofs.Wire.Concatenation
import JobHooks.Proofs.Wire.Truncation
import JobHooks.Proofs.Wire.Nesting
import JobHooks.Proofs.Config.Variables
import JobHooks.Proofs.Config.KnownKeys
import JobHooks.Proofs.Config.Endpoints
import JobHooks.Proofs.Cli.Override
import JobHooks.Proofs.Rounds
import JobHooks.Proofs.Rehearsal
import JobHooks.Proofs.OwnEntries
import JobHooks.Proofs.Log
import JobHooks.Proofs.Connection
import JobHooks.Proofs.Transport.Received
import JobHooks.Proofs.Cli.Times
import JobHooks.Proofs.Queue.Operations
import JobHooks.Proofs.Queue.Pipe
