import HeaderBind.Binding.Library
import HeaderBind.Clang.Reading
import HeaderBind.CommandLine.Command
import HeaderBind.Main
import HeaderBind.Ruby
import HeaderBind.Proofs.Outcome
import HeaderBind.Proofs.TypeName.Settled
import HeaderBind.Proofs.CType.Shape
import HeaderBind.Proofs.CType.Route
import HeaderBind.Proofs.CType.Spine
import HeaderBind.Proofs.Declaration.Assembled
import HeaderBind.Proofs.Declaration.Found
import HeaderBind.Proofs.Declaration.Again
import HeaderBind.Proofs.Clang.Members
import HeaderBind.Proofs.Clang.Shown
import HeaderBind.Proofs.Clang.Visits
import HeaderBind.Proofs.Clang.Reads
import HeaderBind.Proofs.Run.Follows
import HeaderBind.Proofs.Run.Steady
import HeaderBind.Proofs.Run.Seen
import HeaderBind.Proofs.Need.Reach
import HeaderBind.Proofs.Need.InPlace
import HeaderBind.Proofs.Need.Collection
import HeaderBind.Proofs.Need.Recorded
import HeaderBind.Proofs.Need.Cycle
import HeaderBind.Proofs.Need.Grounded
import HeaderBind.Proofs.Need.Arrival
import HeaderBind.Proofs.Need.Termination
import HeaderBind.Proofs.Need.Bindable
import HeaderBind.Proofs.Need.Attribution
import HeaderBind.Proofs.Ffi.TypedefName
import HeaderBind.Proofs.Binding.Kept
import HeaderBind.Proofs.Binding.Stages
import HeaderBind.Proofs.Binding.Order
import HeaderBind.Proofs.Binding.Record
import HeaderBind.Proofs.Binding.Closed
import HeaderBind.Proofs.Binding.Total
import HeaderBind.Proofs.Binding.Placed
import HeaderBind.Proofs.Binding.Once
import HeaderBind.Proofs.Binding.Alike
import HeaderBind.Proofs.Binding.Follows
import HeaderBind.Proofs.Binding.Skips
import HeaderBind.Proofs.Binding.Skipped
import HeaderBind.Proofs.Binding.Selected
import HeaderBind.Proofs.Binding.Permuted
import HeaderBind.Proofs.Binding.Described
import HeaderBind.Proofs.TypeName.Decided
import HeaderBind.Proofs.Binding.Listed
import HeaderBind.Proofs.Binding.Repeated
import HeaderBind.Proofs.Clang.Visit
import HeaderBind.Proofs.Clang.Records
import HeaderBind.Proofs.Clang.Filed
import HeaderBind.Proofs.Binding.Unknown
import HeaderBind.Proofs.Clang.Undeclared
import HeaderBind.Proofs.Typedef.Followed
import HeaderBind.Proofs.Binding.Sorted
import HeaderBind.Proofs.Identifier.Case
import HeaderBind.Proofs.Numeral.Reading
import HeaderBind.Proofs.Identifier.Numbered
import HeaderBind.Proofs.TypeName.Origin
import HeaderBind.Proofs.Binding.Constants
import HeaderBind.Proofs.Text.Line
import HeaderBind.Proofs.Ruby.Lines
import HeaderBind.Proofs.Ruby.Shown
import HeaderBind.Proofs.Ruby.Definitions
import HeaderBind.Proofs.Ruby.Modules
import HeaderBind.Proofs.Ruby.Told
import HeaderBind.Proofs.CType.Once
import HeaderBind.Proofs.Ffi.Agreement
import HeaderBind.Proofs.Clang.Depth
import HeaderBind.Proofs.Declaration.Registered
import HeaderBind.Proofs.Clang.Registered
import HeaderBind.Proofs.Clang.Completed
import HeaderBind.Proofs.Clang.Stored
import HeaderBind.Proofs.Identifier.Segments
import HeaderBind.Proofs.Identifier.Cuts
import HeaderBind.Proofs.Ruby.Constant
import HeaderBind.Proofs.Ffi.Builtin
import HeaderBind.Proofs.Numeral.Phrase
import HeaderBind.Proofs.TypeName.Numbered
import HeaderBind.Proofs.Identifier.Substitution
import HeaderBind.Proofs.Ruby.EnumSymbol
