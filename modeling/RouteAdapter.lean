import RouteAdapter.Descriptor.Printer
import RouteAdapter.Main
import RouteAdapter.Proofs.Binding.Typing
import RouteAdapter.Proofs.Emission.FailSlow
import RouteAdapter.Proofs.Emission.Narrowing
import RouteAdapter.Proofs.Format.Truncation
import RouteAdapter.Proofs.Machine.Safety
import RouteAdapter.Value.Text
import RouteAdapter.Proofs.Value.Supported
import RouteAdapter.Proofs.Binding.Conversions
import RouteAdapter.Proofs.Machine.Routes
import RouteAdapter.Proofs.Binding.Arity
import RouteAdapter.Proofs.Binding.Symbols
import RouteAdapter.Proofs.Lowering.Balance
import RouteAdapter.Proofs.Cli.Agreement
import RouteAdapter.Proofs.Ty.Grammar
import RouteAdapter.Proofs.Binding.Signature
import RouteAdapter.Proofs.Lowering.FirstUses
import RouteAdapter.Proofs.Machine.Refusal
import RouteAdapter.Proofs.Value.Wrapping
import RouteAdapter.Proofs.Value.Integer
import RouteAdapter.Proofs.Context.Header
import RouteAdapter.Proofs.Listing
import RouteAdapter.Proofs.Module.Interning
import RouteAdapter.Proofs.Machine.Growth
