import Syllabus.Main
import Syllabus.Run
import Syllabus.Proofs.Build.Ignored
import Syllabus.Proofs.Build.Located
import Syllabus.Proofs.Build.Lossless
import Syllabus.Proofs.Build.Order
import Syllabus.Proofs.Build.Reach
import Syllabus.Proofs.Build.Slugs
import Syllabus.Proofs.Document.Lines
import Syllabus.Proofs.Document.Recorded
import Syllabus.Proofs.Document.Rejection
import Syllabus.Proofs.Document.Values
import Syllabus.Proofs.Document.WellFormed
import Syllabus.Proofs.Encoding
import Syllabus.Proofs.Expansion.Account
import Syllabus.Proofs.Expansion.Places
import Syllabus.Proofs.Expansion.TierGate
import Syllabus.Proofs.FieldLines
import Syllabus.Proofs.Frontmatter
import Syllabus.Proofs.Heading
import Syllabus.Proofs.Identities
import Syllabus.Proofs.Sections
import Syllabus.Proofs.Uuid
import Syllabus.Proofs.Excerpt.Anchors
import Syllabus.Proofs.Excerpt.Article
import Syllabus.Proofs.Excerpt.Bundle
import Syllabus.Proofs.Document.Progression
import Syllabus.Proofs.Splitting
import Syllabus.Proofs.Index.Resolution
import Syllabus.Proofs.WikiLink.Printing
import Syllabus.Proofs.WikiLink.Traversal
import Syllabus.Proofs.Excerpt.Safety
import Syllabus.Proofs.Excerpt.Failures
import Syllabus.Proofs.Excerpt.Spelling
import Syllabus.Proofs.Expansion.Segments
import Syllabus.Proofs.Expansion.Stateful
import Syllabus.Proofs.Excerpt.Consecutive
import Syllabus.Proofs.Fences
import Syllabus.Proofs.Heading.Closing
import Syllabus.Proofs.FieldCheck
import Syllabus.Proofs.Frontmatter.Block
import Syllabus.Proofs.Index.Suggested
import Syllabus.Proofs.Document.Linked
import Syllabus.Proofs.Excerpt.Collapsed
import Syllabus.Proofs.FieldBlock
import Syllabus.Proofs.Slug
import Syllabus.Proofs.Excerpt.Blocks
import Syllabus.Proofs.WikiLink.Bytes
