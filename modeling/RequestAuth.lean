import RequestAuth.Main
import RequestAuth.Authenticator
import RequestAuth.Config.Load
import RequestAuth.Token.Machine
import RequestAuth.Proofs.Machine.Invalidation
import RequestAuth.Proofs.Machine.Agreement
import RequestAuth.Proofs.Machine.WholeCall
import RequestAuth.Proofs.Operation
import RequestAuth.Proofs.Decoration
import RequestAuth.Proofs.Answer
import RequestAuth.Proofs.Trim
import RequestAuth.Proofs.Scheme.Isolation
import RequestAuth.Proofs.Scheme.Spelling
import RequestAuth.Proofs.Base64
import RequestAuth.Proofs.Precedence
import RequestAuth.Proofs.Json
import RequestAuth.Proofs.Loading
import RequestAuth.Proofs.Numeral
import RequestAuth.Proofs.Body
import RequestAuth.Proofs.Header
import RequestAuth.Proofs.Stamping
import RequestAuth.Proofs.Reorder
import RequestAuth.Proofs.Failure
import RequestAuth.Proofs.Ahead
import RequestAuth.Proofs.Lacking
import RequestAuth.Proofs.Insertion
import RequestAuth.Proofs.Form
import RequestAuth.Proofs.Fields
import RequestAuth.Proofs.Url
import RequestAuth.Proofs.Origin
import RequestAuth.Proofs.Query
import RequestAuth.Proofs.Conjunction
import RequestAuth.Proofs.Sequence
import RequestAuth.Proofs.Base
import RequestAuth.Proofs.Requirement.Resolution
import RequestAuth.Proofs.Requirement.Matching
import RequestAuth.Proofs.Specificity
import RequestAuth.Proofs.Tokenless
import RequestAuth.Proofs.Grant
import RequestAuth.Proofs.Refusal
import RequestAuth.Proofs.Frame
import RequestAuth.Proofs.Absent
import RequestAuth.Proofs.Trace
import RequestAuth.Proofs.Window
import RequestAuth.Proofs.Machine.Renewal
import RequestAuth.Proofs.Machine.FailedFetch
