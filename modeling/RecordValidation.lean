import RecordValidation.Probe
import RecordValidation.Session
import RecordValidation.Proofs.Agenda
import RecordValidation.Proofs.Extents
import RecordValidation.Proofs.Level
import RecordValidation.Proofs.Reading
import RecordValidation.Proofs.Grammar
import RecordValidation.Proofs.Compilation
import RecordValidation.Proofs.Guard
import RecordValidation.Proofs.Soundness
import RecordValidation.Proofs.Refusal
import RecordValidation.Proofs.Independence
import RecordValidation.Proofs.Relabelling
import RecordValidation.Proofs.Position
import RecordValidation.Proofs.Naming
import RecordValidation.Proofs.History
import RecordValidation.Proofs.Provenance
import RecordValidation.Proofs.OwnRecords
import RecordValidation.Proofs.Calls
import RecordValidation.Proofs.BindingTime
import RecordValidation.Proofs.RuleNames
import RecordValidation.Proofs.Codes
import RecordValidation.Proofs.Printing
import RecordValidation.Proofs.Pointers
import RecordValidation.Proofs.Influence
import RecordValidation.Proofs.Depth
import RecordValidation.Proofs.TokenOrder
import RecordValidation.Proofs.Weaker
import RecordValidation.Proofs.MoreRules
import RecordValidation.Proofs.Leniency
import RecordValidation.Proofs.Layers
import RecordValidation.Proofs.Epoch
import RecordValidation.Proofs.Blank
import RecordValidation.Proofs.Nesting
import RecordValidation.Proofs.Elements
import RecordValidation.Proofs.Repetition
import RecordValidation.Proofs.Age
import RecordValidation.Proofs.Literals
import RecordValidation.Proofs.Integers
import RecordValidation.Proofs.Unwrapping
import RecordValidation.Proofs.Disagreement
import RecordValidation.Proofs.FirstFlaw
import RecordValidation.Proofs.ElementIndex
import RecordValidation.Proofs.TypeNames
import RecordValidation.Proofs.Discipline
