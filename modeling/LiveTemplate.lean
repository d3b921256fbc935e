import LiveTemplate.Display.Broadcast
import LiveTemplate.Main
import LiveTemplate.Proofs.Calendar.RoundTrip
import LiveTemplate.Proofs.Calendar.Synonyms
import LiveTemplate.Proofs.Command.Building
import LiveTemplate.Proofs.Command.Precedence
import LiveTemplate.Proofs.Directive.Concatenation
import LiveTemplate.Proofs.Directive.Expression
import LiveTemplate.Proofs.Display.Stutter
import LiveTemplate.Proofs.Program.Rearrangement
import LiveTemplate.Proofs.Program.Throttling
import LiveTemplate.Proofs.Refresh.Completion
import LiveTemplate.Proofs.Refresh.Exactness
import LiveTemplate.Proofs.Refresh.Ledger
import LiveTemplate.Proofs.Refresh.Pacing
import LiveTemplate.Proofs.Refresh.Publishing
import LiveTemplate.Proofs.Refresh.Running
import LiveTemplate.Proofs.Refresh.Separation
import LiveTemplate.Proofs.Refresh.Shutdown
import LiveTemplate.Proofs.Refresh.Transparency
import LiveTemplate.Proofs.Calendar.Fraction
import LiveTemplate.Proofs.Calendar.Cursor
import LiveTemplate.Proofs.Program.Loading
import LiveTemplate.Proofs.Program.StartUp
import LiveTemplate.Proofs.Program.TemplateFile
