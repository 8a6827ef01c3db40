import EnumHeader.Main
import EnumHeader.Proofs.Command.Agreement
import EnumHeader.Proofs.Command.Resolution
import EnumHeader.Proofs.Command.Starting
import EnumHeader.Proofs.Config.RoundTrip
import EnumHeader.Proofs.Cpp.BitField
import EnumHeader.Proofs.Cpp.Constant.Value
import EnumHeader.Proofs.Cpp.Conversion
import EnumHeader.Proofs.Cpp.Guard
import EnumHeader.Proofs.Cpp.Indentation
import EnumHeader.Proofs.Cpp.Preprocessing.Namespaces
import EnumHeader.Proofs.Cpp.Quotation
import EnumHeader.Proofs.Cpp.Scope
import EnumHeader.Proofs.Cpp.WideStorage
import EnumHeader.Proofs.Declaration.Numbering
import EnumHeader.Proofs.Declaration.Resolved
import EnumHeader.Proofs.Header.Description
import EnumHeader.Proofs.Header.Failure
import EnumHeader.Proofs.Header.Formatting
import EnumHeader.Proofs.Header.LineEnding
import EnumHeader.Proofs.Header.Nesting
import EnumHeader.Proofs.Model.TransmissionWidth
import EnumHeader.Proofs.Text.Notation
import EnumHeader.Proofs.Validation.Truth
import EnumHeader.Proofs.ValueSet.Block
import EnumHeader.Proofs.ValueSet.Run
import EnumHeader.Proofs.Config.WellFormed
import EnumHeader.Proofs.Model.Extremes
import EnumHeader.Proofs.Model.SameValues
import EnumHeader.Proofs.Machine.Default
import EnumHeader.Proofs.Machine.Model
