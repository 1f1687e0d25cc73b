import ChatScribe.Charset.Reading
import ChatScribe.CommandLine
import ChatScribe.Css.Match
import ChatScribe.Disk.Basic
import ChatScribe.Document.Basic
import ChatScribe.Document.FileName
import ChatScribe.Document.Title
import ChatScribe.Html.Rules
import ChatScribe.Journal
import ChatScribe.Json.Reader
import ChatScribe.Main
import ChatScribe.Markdown.Convert
import ChatScribe.Markdown.Heading
import ChatScribe.Page.Transcript
import ChatScribe.Proofs.Change.Convert
import ChatScribe.Proofs.Change.Found
import ChatScribe.Proofs.Change.LensLink
import ChatScribe.Proofs.Change.Searches
import ChatScribe.Proofs.Change.Within
import ChatScribe.Proofs.Charset.Ascii
import ChatScribe.Proofs.Charset.Mark
import ChatScribe.Proofs.Charset.Utf16
import ChatScribe.Proofs.Code.Alike
import ChatScribe.Proofs.Code.Mark
import ChatScribe.Proofs.Code.Marked
import ChatScribe.Proofs.Code.Numbered
import ChatScribe.Proofs.Code.Places
import ChatScribe.Proofs.Code.Renumbered
import ChatScribe.Proofs.Code.Restore
import ChatScribe.Proofs.Code.Threads
import ChatScribe.Proofs.Disk.Directory
import ChatScribe.Proofs.Disk.Site
import ChatScribe.Proofs.Document.Blocks
import ChatScribe.Proofs.Document.Headings
import ChatScribe.Proofs.Document.Sections
import ChatScribe.Proofs.Document.TitleLine
import ChatScribe.Proofs.Fence.Balance
import ChatScribe.Proofs.Fence.Bytes
import ChatScribe.Proofs.Fence.LineRanges
import ChatScribe.Proofs.Fence.Lines
import ChatScribe.Proofs.Fence.Marks
import ChatScribe.Proofs.Fence.Prose
import ChatScribe.Proofs.Fence.Ranges
import ChatScribe.Proofs.Fence.Spans
import ChatScribe.Proofs.FileName
import ChatScribe.Proofs.Heading
import ChatScribe.Proofs.Heading.Demoted
import ChatScribe.Proofs.Heading.Levels
import ChatScribe.Proofs.Hidden.Convert
import ChatScribe.Proofs.Hidden.Replaced
import ChatScribe.Proofs.Host.Traced
import ChatScribe.Proofs.Html.Listing
import ChatScribe.Proofs.Ink.Basic
import ChatScribe.Proofs.Ink.Constructs
import ChatScribe.Proofs.Ink.Kept
import ChatScribe.Proofs.Ink.Walk
import ChatScribe.Proofs.Json.Numbers
import ChatScribe.Proofs.Json.Strings
import ChatScribe.Proofs.Json.Values
import ChatScribe.Proofs.Json.Writer
import ChatScribe.Proofs.Page.CodeBlocks
import ChatScribe.Proofs.Page.Title
import ChatScribe.Proofs.Page.Turns
import ChatScribe.Proofs.Response
import ChatScribe.Proofs.Run.Course
import ChatScribe.Proofs.Run.Traced
import ChatScribe.Proofs.Saving.Directory
import ChatScribe.Proofs.Saving.Interleaved
import ChatScribe.Proofs.Saving.NameLimit
import ChatScribe.Proofs.Saving.Names
import ChatScribe.Proofs.Saving.Traced
import ChatScribe.Proofs.Session.Protocol
import ChatScribe.Proofs.Session.View
import ChatScribe.Proofs.Spacing
import ChatScribe.Proofs.Spacing.Idempotence
import ChatScribe.Proofs.Spacing.Rescan
import ChatScribe.Proofs.Spacing.Respaced
import ChatScribe.Proofs.Spacing.Trimmed
import ChatScribe.Proofs.Text.Continued
import ChatScribe.Proofs.Text.Digits
import ChatScribe.Proofs.Text.Ends
import ChatScribe.Proofs.Text.LineEnds
import ChatScribe.Proofs.Text.Lines
import ChatScribe.Proofs.Text.Prefix
import ChatScribe.Proofs.Text.Utf8
import ChatScribe.Proofs.Title
import ChatScribe.Proofs.Url.Share
import ChatScribe.Proofs.Walk.Alike
import ChatScribe.Proofs.Walk.Alone
import ChatScribe.Proofs.Walk.Display
import ChatScribe.Proofs.Walk.Outline
import ChatScribe.Proofs.Walk.Quote
import ChatScribe.Proofs.Walk.Rules
import ChatScribe.Proofs.Walk.Table
import ChatScribe.Proofs.Walk.Threads
import ChatScribe.Response
import ChatScribe.Run
import ChatScribe.Sandbox
import ChatScribe.Session
import ChatScribe.Settings.Basic
import ChatScribe.Url.Share
