import Mdx.Compile.Batch
import Mdx.Compile.Bundler
import Mdx.Html.Render
import Mdx.Proofs.Json.Depth
import Mdx.Remote
import Mdx.Proofs.Wire.RoundTrip
import Mdx.Proofs.Module.Reader
import Mdx.Proofs.Module.ReadBack
import Mdx.Proofs.Tree
import Mdx.Proofs.Module.Structure
import Mdx.Proofs.Html.Scanner
import Mdx.Proofs.Html.Forest
import Mdx.Proofs.Html.Rendering
import Mdx.Proofs.Content
import Mdx.Proofs.Convert.Content
import Mdx.Proofs.Remote.History
import Mdx.Proofs.Html.Calls
import Mdx.Proofs.Html.Outcome
import Mdx.Proofs.Modes
import Mdx.Proofs.Convert.Phrasing
import Mdx.Proofs.Html.Warnings
import Mdx.Proofs.Pass.Normal
import Mdx.Proofs.Convert.Tags
import Mdx.Proofs.Html.Plain
import Mdx.Proofs.Pass.Registration
import Mdx.Proofs.Convert.References
import Mdx.Proofs.Html.Markup
import Mdx.Proofs.Convert.Footnotes
import Mdx.Proofs.Convert.Elements
import Mdx.Proofs.Convert.Jsx
import Mdx.Proofs.Convert.Anchors
import Mdx.Proofs.Module.Literal
import Mdx.Proofs.Module.Scan
import Mdx.Proofs.Module.Grammar
import Mdx.Proofs.Module.Bindings
import Mdx.Proofs.Html.Styles
import Mdx.Proofs.Pass.CodeMeta
import Mdx.Proofs.Text.Percent
import Mdx.Proofs.Convert.Numbering
import Mdx.Proofs.Order
import Mdx.Proofs.Html.Scopes
import Mdx.Proofs.Compile.Batch
import Mdx.Proofs.Module.Layout
import Mdx.Proofs.Module.DefaultExport
import Mdx.Proofs.Compile.Cache
import Mdx.Proofs.Compile.Bundler
