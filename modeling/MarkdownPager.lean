import MarkdownPager.Color.Mix
import MarkdownPager.Color.Named
import MarkdownPager.Main
import MarkdownPager.Pager.Pager
import MarkdownPager.Proofs.Fingerprint
import MarkdownPager.Proofs.History
import MarkdownPager.Proofs.Invalidation
import MarkdownPager.Proofs.Stream
import MarkdownPager.Proofs.Decisions
import MarkdownPager.Proofs.Consistency
import MarkdownPager.Proofs.Commit
import MarkdownPager.Proofs.Updates
import MarkdownPager.Proofs.Session
import MarkdownPager.Proofs.Boundary
import MarkdownPager.Proofs.Lines
import MarkdownPager.Proofs.Highlight
import MarkdownPager.Proofs.Languages
import MarkdownPager.Proofs.Forest
import MarkdownPager.Proofs.Nesting
import MarkdownPager.Proofs.Spans
import MarkdownPager.Proofs.Markup
import MarkdownPager.Proofs.Shape
import MarkdownPager.Proofs.Unreadable
import MarkdownPager.Pager.Event
import MarkdownPager.Proofs.Ranking
import MarkdownPager.Proofs.Paging
import MarkdownPager.Proofs.Links
import MarkdownPager.Proofs.Appearance
import MarkdownPager.Proofs.Alike
import MarkdownPager.Proofs.Bookkeeping
import MarkdownPager.Proofs.SafeBoundary
import MarkdownPager.Proofs.Positional
import MarkdownPager.Proofs.Replay
import MarkdownPager.Proofs.Rows
import MarkdownPager.Proofs.Cycling
import MarkdownPager.Proofs.Reuse
import MarkdownPager.Proofs.Shown
import MarkdownPager.Proofs.CodeBlocks
import MarkdownPager.Proofs.LineFeeds
import MarkdownPager.Proofs.Appending
import MarkdownPager.Proofs.Walk
import MarkdownPager.Proofs.Flattening
import MarkdownPager.Proofs.Wrapping
import MarkdownPager.Proofs.Pieces
import MarkdownPager.Proofs.HexDigits
import MarkdownPager.Proofs.Colors
import MarkdownPager.Proofs.Lists
import MarkdownPager.Proofs.RegistryHistory
