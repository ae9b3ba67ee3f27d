import ElementCode.Code
import ElementCode.Command
import ElementCode.Command.Options
import ElementCode.Config
import ElementCode.Config.File
import ElementCode.Decimal.Nearest
import ElementCode.Decimal.Shortest
import ElementCode.Document
import ElementCode.Document.Data
import ElementCode.Document.Elements
import ElementCode.FileTree
import ElementCode.Literal
import ElementCode.Main
import ElementCode.Markdown
import ElementCode.Markdown.Autolink
import ElementCode.Markdown.Blocks
import ElementCode.Markdown.Definition
import ElementCode.Markdown.Emphasis
import ElementCode.Markdown.Entity
import ElementCode.Markdown.EntityTable
import ElementCode.Markdown.Footnotes
import ElementCode.Markdown.HtmlTag
import ElementCode.Markdown.Inlines
import ElementCode.Markdown.Leaf
import ElementCode.Markdown.Line
import ElementCode.Markdown.Link
import ElementCode.Markdown.Math
import ElementCode.Markdown.Note
import ElementCode.Markdown.Source
import ElementCode.Markup.Document
import ElementCode.Markup.Html
import ElementCode.Markup.Token
import ElementCode.Path
import ElementCode.Preview
import ElementCode.Text.Base64
import ElementCode.Text.Blank
import ElementCode.Text.CaseFold
import ElementCode.Text.Cased
import ElementCode.Text.Digit
import ElementCode.Text.Hex
import ElementCode.Text.LowerCase
import ElementCode.Text.Newline
import ElementCode.Text.Points
import ElementCode.Text.Printable
import ElementCode.Text.Punctuation
import ElementCode.Text.Ranges
import ElementCode.Text.Utf8
import ElementCode.Url.Parts
import ElementCode.Url.Percent
import ElementCode.Url.Punycode
import ElementCode.Value
import ElementCode.Value.Display
import ElementCode.Value.SlotOrder
import ElementCode.Yaml
import ElementCode.Yaml.Build
import ElementCode.Yaml.Content
import ElementCode.Yaml.Merge
import ElementCode.Yaml.Node
import ElementCode.Yaml.Number
import ElementCode.Yaml.Place
import ElementCode.Yaml.Scalar
import ElementCode.Yaml.Tag
import ElementCode.Yaml.Timestamp
import ElementCode.Yaml.Token
import ElementCode.Yaml.Writer
import ElementCode.Proofs.LiteralForms
import ElementCode.Proofs.Pieces
import ElementCode.Proofs.Unambiguous
import ElementCode.Proofs.Mapping
import ElementCode.Proofs.VisibleContent
import ElementCode.Proofs.Containment
import ElementCode.Proofs.WellNested
import ElementCode.Proofs.FirstRejection
import ElementCode.Proofs.BuiltDocuments
import ElementCode.Proofs.Artifacts
import ElementCode.Proofs.Writing
import ElementCode.Proofs.Runs
import ElementCode.Proofs.Indentation
import ElementCode.Proofs.Grammar
import ElementCode.Proofs.ReadingOrder
import ElementCode.Proofs.TwinTrees
import ElementCode.Proofs.ConfigInfluence
import ElementCode.Proofs.Concatenation
import ElementCode.Proofs.LiteralMeaning
import ElementCode.Proofs.ModeWords
import ElementCode.Proofs.ConfigMapping
import ElementCode.Proofs.ConfigRoots
import ElementCode.Proofs.OutputNames
import ElementCode.Proofs.DataForm
import ElementCode.Proofs.LoopProgress
