import OpenApiTypes.CommandLine.Memory
import OpenApiTypes.Main
import OpenApiTypes.Proofs.CommandLine.Storing
import OpenApiTypes.Proofs.Generation.Templates
import OpenApiTypes.Proofs.Model.Aliases
import OpenApiTypes.Proofs.Model.Inspection
import OpenApiTypes.Proofs.Naming.Claiming
import OpenApiTypes.Proofs.Normalize.Dialects
import OpenApiTypes.Proofs.Normalize.Reordering
import OpenApiTypes.Proofs.Normalize.Stack
import OpenApiTypes.Proofs.Normalize.Warnings
import OpenApiTypes.Proofs.Normalize.WellFormed
import OpenApiTypes.Proofs.Output.Builtin
import OpenApiTypes.Proofs.Output.Identifiers
import OpenApiTypes.Proofs.Output.Imports
import OpenApiTypes.Proofs.Pointer.RoundTrip
import OpenApiTypes.Proofs.Pointer.Signs
import OpenApiTypes.Proofs.Reference.Chain
import OpenApiTypes.Proofs.Spec.RoundTrip
import OpenApiTypes.Proofs.Transformers.Apart
import OpenApiTypes.Proofs.Transformers.Capture
import OpenApiTypes.Proofs.Transformers.Coverage
import OpenApiTypes.Proofs.TypeScript.Precedence
import OpenApiTypes.Proofs.TypeScript.Unambiguous
import OpenApiTypes.Proofs.Types.Index
import OpenApiTypes.Proofs.Types.Responses
import OpenApiTypes.Proofs.Types.SharedNames
