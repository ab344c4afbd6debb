import Diagnostics.Main
import Diagnostics.Json.Forms
import Diagnostics.Memo
import Diagnostics.Session.Description
import Diagnostics.Proofs.Generalize.ErrorClass
import Diagnostics.Proofs.Generalize.OwnOutput
import Diagnostics.Proofs.Session.Invocation
import Diagnostics.Proofs.Generalize.Constraints
import Diagnostics.Proofs.Generalize.Universe
import Diagnostics.Proofs.Generalize.Canonical
import Diagnostics.Proofs.Memo
import Diagnostics.Proofs.Session.LearnedTimeout
import Diagnostics.Proofs.Session.Cleanup
import Diagnostics.Proofs.Session.Concurrent
import Diagnostics.Proofs.Launch.Policy
import Diagnostics.Proofs.Pattern.Scanner
import Diagnostics.Proofs.Session.TimeoutDetection
import Diagnostics.Proofs.Session.Recompilation
import Diagnostics.Proofs.Text.CanonicalForm
import Diagnostics.Proofs.Pattern.Extraction
import Diagnostics.Proofs.Path.Byproducts
