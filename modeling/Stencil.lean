import Stencil.Imported
import Stencil.Main
import Stencil.Summary
import Stencil.Template.Depth
import Stencil.Proofs.Lineage
import Stencil.Proofs.Parts
import Stencil.Proofs.Steps
import Stencil.Proofs.Discipline
import Stencil.Proofs.Simulation
import Stencil.Proofs.Policy
import Stencil.Proofs.Replay
import Stencil.Proofs.Journal
import Stencil.Proofs.Unmentioned
import Stencil.Proofs.ByteOrder
import Stencil.Proofs.Registration
import Stencil.Proofs.RegistrationOrder
import Stencil.Proofs.Rewriting
import Stencil.Proofs.Inlining
import Stencil.Proofs.Writing
import Stencil.Proofs.BuiltinOutput
import Stencil.Proofs.Escaping
import Stencil.Proofs.TagStructure
import Stencil.Proofs.FirstFailure
import Stencil.Proofs.HostCalls
import Stencil.Proofs.Importing
import Stencil.Proofs.Composition
import Stencil.Proofs.Repetition
import Stencil.Proofs.ReadingBack
import Stencil.Proofs.Termination
import Stencil.Proofs.Fallback
import Stencil.Proofs.Scanning
import Stencil.Proofs.AttributeReading
import Stencil.Proofs.Documents
import Stencil.Proofs.ListReading
import Stencil.Proofs.Leaves
import Stencil.Proofs.Rounding
import Stencil.Proofs.ShortestDigits
import Stencil.Proofs.DoubleOrder
import Stencil.Proofs.NumeralValue
import Stencil.Proofs.DoubleText
