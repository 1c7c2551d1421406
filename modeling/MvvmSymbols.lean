import MvvmSymbols.Config.Load
import MvvmSymbols.Config.Schema
import MvvmSymbols.Logging.Subscriber
import MvvmSymbols.Pass
import MvvmSymbols.Proofs.Config.RoundTrip
import MvvmSymbols.Proofs.Disabling
import MvvmSymbols.Proofs.Lookup
import MvvmSymbols.Proofs.Requirements
import MvvmSymbols.Universe.Snapshot
import MvvmSymbols.Proofs.Interning
import MvvmSymbols.Proofs.Places
import MvvmSymbols.Proofs.Handles
import MvvmSymbols.Proofs.Compilations
import MvvmSymbols.Proofs.Recount
import MvvmSymbols.Proofs.Visibility
import MvvmSymbols.Proofs.Growth
import MvvmSymbols.Proofs.Capabilities
import MvvmSymbols.Proofs.Reports
import MvvmSymbols.Proofs.Isolation
import MvvmSymbols.Proofs.Outcomes
import MvvmSymbols.Proofs.Repairs
import MvvmSymbols.Proofs.Filters
import MvvmSymbols.Proofs.Document.Content
import MvvmSymbols.Proofs.Views
import MvvmSymbols.Proofs.Walks
import MvvmSymbols.Proofs.Config.Decoding
import MvvmSymbols.Proofs.Config.Settings
import MvvmSymbols.Proofs.Schemas
import MvvmSymbols.Proofs.Config.Schema
import MvvmSymbols.Proofs.Cuts
