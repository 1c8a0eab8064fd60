import Componentry.Generation.Run
import Componentry.Proofs.Generation.Loading
import Componentry.Proofs.Markup.Scanning
import Componentry.Proofs.Text.Digits
import Componentry.Proofs.Text.Lines
import Componentry.Proofs.Text.Span
import Componentry.Proofs.Text.Trim

/-!
Decimal references with more digits than are read as a number: what such a reference does to the parsing
of a text, to its page and to the run.
-/
namespace Componentry.Markup
open Componentry.Text

variable {digits : Text}

end Componentry.Markup

namespace Componentry.Document
open Componentry.Markup Componentry.Text

variable {digits : Text}

end Componentry.Document

namespace Componentry.Generation
open Componentry.Component Componentry.Document Componentry.Files Componentry.Text

end Componentry.Generation
