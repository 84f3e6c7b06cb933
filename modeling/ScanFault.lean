import ScanFault.Fault.WellFormed
import ScanFault.Offset.Access
import ScanFault.Proofs.Offset.Cuts
import ScanFault.Proofs.Offset.Bytes
import ScanFault.Proofs.Offset.Characters
import ScanFault.Proofs.Offset.Locality
import ScanFault.Session.Step
import ScanFault.Proofs.Session.Steps
import ScanFault.Proofs.Session.Sound
import ScanFault.Proofs.Fault.Rendering
import ScanFault.Proofs.Session.Rendering
import ScanFault.Proofs.Text.Numerals
import ScanFault.Proofs.Text.Quoted
import ScanFault.Proofs.Fault.Literal
import ScanFault.Proofs.Fault.Marking
import ScanFault.Proofs.Session.Frame
import ScanFault.Proofs.Session.Observation
import ScanFault.Proofs.Session.Lineage
import ScanFault.Proofs.Session.Duplicates
import ScanFault.Proofs.Fault.Placing
import ScanFault.Proofs.Fault.Scanning
import ScanFault.Proofs.Session.Predicates
import ScanFault.Proofs.Session.Equality
import ScanFault.Proofs.Session.Amending
import ScanFault.Proofs.Violation.Message
import ScanFault.Proofs.Fault.Deriving
import ScanFault.Proofs.Fault.Containing
import ScanFault.Proofs.Fault.Ambiguity
import ScanFault.Proofs.Violation.Request
import ScanFault.Proofs.Identifier.Comparing
import ScanFault.Proofs.Identifier.Language
import ScanFault.Proofs.Text.Printable
import ScanFault.Proofs.Item.Printing
import ScanFault.Proofs.Fault.Describing
import ScanFault.Proofs.Session.Reporting
