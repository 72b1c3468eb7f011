import TextBoundary.Matcher.Search
import TextBoundary.Proofs.Canonical
import TextBoundary.Proofs.Checked.Matchers
import TextBoundary.Proofs.Construction
import TextBoundary.Proofs.Decomposition
import TextBoundary.Proofs.Flags
import TextBoundary.Proofs.Grapheme.Tokens
import TextBoundary.Proofs.Intervals
import TextBoundary.Proofs.Locality
import TextBoundary.Proofs.Pattern.Rendering
import TextBoundary.Proofs.Priority
import TextBoundary.Proofs.RunLimit
import TextBoundary.Proofs.Searching
import TextBoundary.Proofs.Word.Alphanumeric
import TextBoundary.Proofs.Word.Transparency
import TextBoundary.Segmenter
