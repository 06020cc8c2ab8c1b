import StaticSite.Change
import StaticSite.CommandLine.Arguments
import StaticSite.CommandLine.Grammar
import StaticSite.CommandLine.Run
import StaticSite.CommandLine.Scaffold
import StaticSite.Compose
import StaticSite.Config.Basic
import StaticSite.Config.Environment
import StaticSite.Config.Load
import StaticSite.Config.Reader
import StaticSite.Decimal.Shortest
import StaticSite.Decimal.Written
import StaticSite.Fetch
import StaticSite.FileTree.Access
import StaticSite.FileTree.Basic
import StaticSite.FileTree.Fault
import StaticSite.Format
import StaticSite.Json.Compact
import StaticSite.Json.Indented
import StaticSite.Json.Reader
import StaticSite.Json.Value
import StaticSite.Layout.Argument
import StaticSite.Layout.Basic
import StaticSite.Layout.Expression
import StaticSite.Layout.Filter
import StaticSite.Layout.ListFilter
import StaticSite.Layout.Moment
import StaticSite.Layout.Operation
import StaticSite.Layout.Reader
import StaticSite.Layout.Render
import StaticSite.Layout.Scope
import StaticSite.Layout.TextFilter
import StaticSite.Location
import StaticSite.Main
import StaticSite.Markdown.Block
import StaticSite.Markdown.BlockStart
import StaticSite.Markdown.Container
import StaticSite.Markdown.Document
import StaticSite.Markdown.Emphasis
import StaticSite.Markdown.Entity
import StaticSite.Markdown.Html
import StaticSite.Markdown.Inline
import StaticSite.Markdown.Leaf
import StaticSite.Markdown.Line
import StaticSite.Markdown.Link
import StaticSite.Markdown.Phrase
import StaticSite.Markdown.Table
import StaticSite.Markdown.Tag
import StaticSite.Marker.Basic
import StaticSite.Marker.RenderMarker
import StaticSite.Marker.Token
import StaticSite.Metadata
import StaticSite.PageContext
import StaticSite.Path.Basic
import StaticSite.Path.Normal
import StaticSite.Path.Site
import StaticSite.Preview.Address
import StaticSite.Preview.LiveReload
import StaticSite.Preview.Rebuild
import StaticSite.Preview.Start
import StaticSite.Renderer
import StaticSite.Session
import StaticSite.Site.Builder
import StaticSite.Site.Content
import StaticSite.Site.Error
import StaticSite.Site.Formats
import StaticSite.Text.Blank
import StaticSite.Text.Case
import StaticSite.Text.CaseTable
import StaticSite.Text.Punctuation
import StaticSite.Text.Slice
import StaticSite.Text.Slug
import StaticSite.Text.Table
import StaticSite.Tidy
import StaticSite.Url.Basic
import StaticSite.Url.Host
import StaticSite.Url.Percent
import StaticSite.Url.Punycode
import StaticSite.Url.Reader
import StaticSite.Watch
import StaticSite.Yaml.Cursor
import StaticSite.Yaml.Datum
import StaticSite.Yaml.Node
import StaticSite.Yaml.Scalar
import StaticSite.Yaml.Token
import StaticSite.Proofs.Marker.Grammar
import StaticSite.Proofs.Marker.Partition
import StaticSite.Proofs.Compose.Expansion
import StaticSite.Proofs.Compose.Run
import StaticSite.Proofs.Compose.Refinement
import StaticSite.Proofs.Compose.Termination
import StaticSite.Proofs.Compose.Idempotence
import StaticSite.Proofs.Text.Split
import StaticSite.Proofs.Site.Consistency
import StaticSite.Proofs.Site.History
import StaticSite.Proofs.Site.Mirror
import StaticSite.Proofs.Site.Safety
import StaticSite.Proofs.CommandLine.Clean
import StaticSite.Proofs.Render.Filling
import StaticSite.Proofs.Site.ChildTemplate
import StaticSite.Proofs.Preview.Rebuild
import StaticSite.Proofs.Site.Grouping
import StaticSite.Proofs.Site.Hidden
import StaticSite.Proofs.Site.Rework
import StaticSite.Proofs.Site.Clash
import StaticSite.Proofs.Site.Deletion
import StaticSite.Proofs.Site.Moved
import StaticSite.Proofs.Marker.Reading
import StaticSite.Proofs.Marker.Tiling
import StaticSite.Proofs.Preview.Watching
import StaticSite.Proofs.Preview.Reload
import StaticSite.Proofs.Tidy.Idempotence
import StaticSite.Proofs.Tidy.Preformatted
import StaticSite.Proofs.Marker.Position
import StaticSite.Proofs.Compose.Entry
import StaticSite.Proofs.Compose.Cycle
import StaticSite.Proofs.Change.Order
import StaticSite.Proofs.Site.Obstacle
import StaticSite.Proofs.Render.Skeleton
import StaticSite.Proofs.Site.Address
import StaticSite.Proofs.Location.Rooted
import StaticSite.Proofs.Site.Classification
import StaticSite.Proofs.Preview.LiveReload
import StaticSite.Proofs.PageContext
import StaticSite.Proofs.Fetch
import StaticSite.Proofs.Location.Scheme
import StaticSite.Proofs.Location.Spelling
import StaticSite.Proofs.Render.Marker
import StaticSite.Proofs.Offset.Validity
