import IntervalExpr.Expression.Pattern
import IntervalExpr.Subinterval.Description
import IntervalExpr.Subinterval.Refusal
import IntervalExpr.Proofs.NormalForm
import IntervalExpr.Proofs.Normalize
import IntervalExpr.Proofs.Minimality
import IntervalExpr.Proofs.Totality
import IntervalExpr.Proofs.FixedPoints
import IntervalExpr.Proofs.Items
import IntervalExpr.Proofs.Reading
import IntervalExpr.Proofs.Language
import IntervalExpr.Proofs.Range
import IntervalExpr.Proofs.Rejection
import IntervalExpr.Proofs.Splitting
import IntervalExpr.Proofs.Composition
import IntervalExpr.Proofs.Emptiness
import IntervalExpr.Proofs.Denotation
import IntervalExpr.Proofs.Viability
import IntervalExpr.Proofs.Failures
import IntervalExpr.Proofs.Concatenation
import IntervalExpr.Proofs.Canonical
import IntervalExpr.Proofs.RoundTrip
import IntervalExpr.Proofs.Seams
import IntervalExpr.Proofs.Readable
import IntervalExpr.Proofs.Delimiters
import IntervalExpr.Proofs.Codec
import IntervalExpr.Proofs.Endpoints
import IntervalExpr.Proofs.Sameness
import IntervalExpr.Proofs.Extremes
import IntervalExpr.Proofs.Quotation
import IntervalExpr.Proofs.Messages
import IntervalExpr.Proofs.Extensions
import IntervalExpr.Proofs.Lexing
import IntervalExpr.Proofs.Reuse
import IntervalExpr.Proofs.Transcript
