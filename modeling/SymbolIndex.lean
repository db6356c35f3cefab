import SymbolIndex.Main
import SymbolIndex.SearchBox
import SymbolIndex.Proofs.Search
import SymbolIndex.Proofs.Session.Rescan
import SymbolIndex.Proofs.History
import SymbolIndex.Proofs.SearchBox
import SymbolIndex.Proofs.Session.History
import SymbolIndex.Proofs.Session.Latest
import SymbolIndex.Proofs.Session.Loads
import SymbolIndex.Proofs.Session.LifeCycle
import SymbolIndex.Proofs.Session.Repetition
import SymbolIndex.Proofs.Match.Grouping
import SymbolIndex.Proofs.Isolation
import SymbolIndex.Proofs.Store.Rewrite
import SymbolIndex.Proofs.Store.Overwrite
import SymbolIndex.Proofs.Store.Rebuild
import SymbolIndex.Proofs.Store.Failure
import SymbolIndex.Proofs.Refusals
import SymbolIndex.Proofs.Build.Strictness
import SymbolIndex.Proofs.Build.Reimport
import SymbolIndex.Proofs.CommandLine.Import
import SymbolIndex.Proofs.Partition.Order
import SymbolIndex.Proofs.Key.Append
import SymbolIndex.Proofs.CommandLine.Display
import SymbolIndex.Proofs.CommandLine.Change
import SymbolIndex.Proofs.Match.Selection
import SymbolIndex.Proofs.Build.InputOrder
import SymbolIndex.Proofs.Record.Described
import SymbolIndex.Proofs.Manifest.Agreement
import SymbolIndex.Proofs.Settings.Loading
import SymbolIndex.Proofs.Terminal.Listing
import SymbolIndex.Proofs.Terminal.Pretty
import SymbolIndex.Proofs.SearchData.Substitution
