import LinkIndex.Assoc
import LinkIndex.CommandLine
import LinkIndex.CommandLine.Arguments
import LinkIndex.CommandLine.Help
import LinkIndex.CommandLine.Log
import LinkIndex.CommandLine.Snapshot
import LinkIndex.CommandLine.Suggestion
import LinkIndex.Corpus.Discovery
import LinkIndex.Corpus.Reading
import LinkIndex.Corpus.Scan
import LinkIndex.Disk
import LinkIndex.Document
import LinkIndex.Extract.Links
import LinkIndex.Extract.Options
import LinkIndex.Frontmatter
import LinkIndex.Html.CharRef
import LinkIndex.Html.Entities
import LinkIndex.Html.Event
import LinkIndex.Html.Fragment
import LinkIndex.Html.StartTag
import LinkIndex.Html.Target
import LinkIndex.Json.Basic
import LinkIndex.Json.Printer
import LinkIndex.Json.Reader
import LinkIndex.Main
import LinkIndex.Markdown
import LinkIndex.Markdown.Block
import LinkIndex.Markdown.Block.Reader
import LinkIndex.Markdown.Inline.Emphasis
import LinkIndex.Markdown.Inline.Link
import LinkIndex.Markdown.Inline.Span
import LinkIndex.Markdown.Inline.Tree
import LinkIndex.Markdown.Line
import LinkIndex.Markdown.Markup
import LinkIndex.Markdown.Reference
import LinkIndex.Number.Binary64
import LinkIndex.Number.Shortest
import LinkIndex.Path
import LinkIndex.Proofs.Assoc
import LinkIndex.Proofs.Corpus.Failures
import LinkIndex.Proofs.Document.Collision
import LinkIndex.Proofs.Document.Recording
import LinkIndex.Proofs.Document.Run
import LinkIndex.Proofs.Extract.Anchors
import LinkIndex.Proofs.Extract.Urls
import LinkIndex.Proofs.Order
import LinkIndex.Proofs.Store.History
import LinkIndex.Proofs.Store.Overlay
import LinkIndex.Proofs.Tree.Edit
import LinkIndex.Proofs.Tree.Grammar
import LinkIndex.Proofs.Tree.Preorder
import LinkIndex.Report
import LinkIndex.Report.Emoji
import LinkIndex.Report.Emoji.AtoF
import LinkIndex.Report.Emoji.GtoN
import LinkIndex.Report.Emoji.OtoZ
import LinkIndex.Report.Examples
import LinkIndex.Report.Format
import LinkIndex.Report.Markup
import LinkIndex.Report.Markup.Style
import LinkIndex.Report.Table
import LinkIndex.Report.Wrap
import LinkIndex.Settings
import LinkIndex.Settings.ConfigFile
import LinkIndex.Settings.Environment
import LinkIndex.Settings.Issue
import LinkIndex.Settings.Setting
import LinkIndex.Settings.Switch
import LinkIndex.Slug.Document
import LinkIndex.Slug.Heading
import LinkIndex.Store
import LinkIndex.Store.Load
import LinkIndex.Text.Blank
import LinkIndex.Text.Fold
import LinkIndex.Text.Letters
import LinkIndex.Text.Lowercase
import LinkIndex.Text.Order
import LinkIndex.Text.Printable
import LinkIndex.Text.Punctuation
import LinkIndex.Text.Quoted
import LinkIndex.Text.Ranges
import LinkIndex.Text.Utf8
import LinkIndex.Text.Width
import LinkIndex.Toml.Error
import LinkIndex.Toml.Reader
import LinkIndex.Toml.Scalar
import LinkIndex.Tree.Basic
import LinkIndex.Tree.Definitions
import LinkIndex.Tree.OfJson
import LinkIndex.Url
import LinkIndex.Url.Host
import LinkIndex.Yaml.Construct
import LinkIndex.Yaml.Cursor
import LinkIndex.Yaml.Error
import LinkIndex.Yaml.Node
import LinkIndex.Yaml.Number
import LinkIndex.Yaml.Scalar.Block
import LinkIndex.Yaml.Scalar.Plain
import LinkIndex.Yaml.Scalar.Quoted
import LinkIndex.Yaml.Time
import LinkIndex.Yaml.Token
import LinkIndex.Yaml.Token.Lexer
import LinkIndex.Yaml.Token.Name
import LinkIndex.Yaml.Value
import LinkIndex.Proofs.Corpus.Documents
import LinkIndex.Proofs.Corpus.Accounting
import LinkIndex.Proofs.Corpus.Rescan
import LinkIndex.Proofs.Extract.References
import LinkIndex.Proofs.Settings.Sources
import LinkIndex.Proofs.Settings.Priority
import LinkIndex.Proofs.Json.RoundTrip
import LinkIndex.Proofs.Store.Encoding
import LinkIndex.Proofs.CommandLine.JsonOutput
import LinkIndex.Proofs.Text.Lines
import LinkIndex.Proofs.Frontmatter.Split
import LinkIndex.Proofs.Slug.Path
import LinkIndex.Proofs.Corpus.Sidecars
import LinkIndex.Proofs.Markdown.Spans
import LinkIndex.Proofs.Markdown.References
import LinkIndex.Proofs.Document.Numbering
import LinkIndex.Proofs.Extract.Attributes
import LinkIndex.Proofs.Corpus.Removal
import LinkIndex.Proofs.Corpus.Isolation
import LinkIndex.Proofs.Report.Emoji
import LinkIndex.Proofs.Report.Markup
import LinkIndex.Proofs.Report.Wrap
import LinkIndex.Proofs.Report.Screen
import LinkIndex.Proofs.Slug.Slugger
import LinkIndex.Proofs.Slug.Outside
import LinkIndex.Proofs.Corpus.Search
import LinkIndex.Proofs.Settings.Nearest
import LinkIndex.Proofs.CommandLine.WorkingDirectory
import LinkIndex.Proofs.Corpus.Refusal
import LinkIndex.Proofs.Url.Authority
import LinkIndex.Proofs.Corpus.Neighbours
import LinkIndex.Proofs.Markdown.Escapes
import LinkIndex.Proofs.Slug.Frontmatter
import LinkIndex.Proofs.Tree.Outline
import LinkIndex.Proofs.Url.Scheme
import LinkIndex.Proofs.Html.Targets
import LinkIndex.Proofs.Slug.Anchor
import LinkIndex.Proofs.Document.Frame
import LinkIndex.Proofs.Extract.Containers
import LinkIndex.Proofs.Frontmatter.LineEndings
import LinkIndex.Proofs.Loop
import LinkIndex.Proofs.Tree.Walk
import LinkIndex.Proofs.Settings.Climb
import LinkIndex.Proofs.Slug.Search
