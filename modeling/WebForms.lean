import WebForms.Code.Access
import WebForms.Code.Insertion
import WebForms.Code.Language
import WebForms.Code.Members
import WebForms.Code.PageClass
import WebForms.Code.Snippet
import WebForms.Completion.AttributeName
import WebForms.Completion.AttributeValue
import WebForms.Completion.ChildElement
import WebForms.Completion.DirectiveItem
import WebForms.Completion.Item
import WebForms.Completion.Opener
import WebForms.Completion.Target
import WebForms.Document
import WebForms.Domain.CombiningClass
import WebForms.Domain.Composition
import WebForms.Domain.Direction
import WebForms.Domain.Joining
import WebForms.Domain.Mapping
import WebForms.Domain.Name
import WebForms.Domain.Punycode
import WebForms.Domain.Repertoire
import WebForms.Files.Disk
import WebForms.Files.Path
import WebForms.Json.Canonical
import WebForms.Json.Decimal
import WebForms.Json.Reader
import WebForms.Json.Record
import WebForms.Json.Shape
import WebForms.Json.Value
import WebForms.Main
import WebForms.Markup.AttributeSet
import WebForms.Markup.Event
import WebForms.Markup.Node
import WebForms.Markup.PlainContent
import WebForms.Markup.Scanner.State
import WebForms.Markup.Scanner.Step
import WebForms.Markup.TagName
import WebForms.Markup.Tree
import WebForms.Outline
import WebForms.Page.CodeBehind
import WebForms.Page.Directive
import WebForms.Page.Facts
import WebForms.Page.Registrations
import WebForms.Page.Toolbox
import WebForms.Server.Arguments
import WebForms.Server.Documents
import WebForms.Server.Message
import WebForms.Server.Protocol.Basic
import WebForms.Server.Protocol.Capabilities
import WebForms.Server.Protocol.Method
import WebForms.Server.Protocol.Questions
import WebForms.Server.Protocol.Service
import WebForms.Server.Rpc
import WebForms.Server.Session
import WebForms.Settings
import WebForms.Text.Case
import WebForms.Text.CharClass
import WebForms.Text.Fold
import WebForms.Text.Hex
import WebForms.Text.Letters
import WebForms.Text.Lines
import WebForms.Text.Numerals
import WebForms.Text.Offset
import WebForms.Text.Percent
import WebForms.Text.Position
import WebForms.Text.Quoted
import WebForms.Text.Split
import WebForms.Text.Table
import WebForms.Text.Utf8
import WebForms.Types.Bundled
import WebForms.Types.Bundled.BasicControls
import WebForms.Types.Bundled.Foundation
import WebForms.Types.Bundled.ListControls
import WebForms.Types.Bundled.Shapes
import WebForms.Types.Catalog
import WebForms.Types.Control
import WebForms.Types.Definition
import WebForms.Types.Format
import WebForms.Types.Index
import WebForms.Types.IndexFiles
import WebForms.Types.NamedColor
import WebForms.Uri
import WebForms.Uri.Fault
import WebForms.Uri.Host
import WebForms.Uri.Ipv4
import WebForms.Uri.Ipv6
import WebForms.Uri.Path
import WebForms.Workbench
import WebForms.Proofs.Scanner.Skeleton
import WebForms.Proofs.Scanner.Consistency
import WebForms.Proofs.Scanner.Turns
import WebForms.Proofs.Scanner.Runs
import WebForms.Proofs.Scanner.Starts
import WebForms.Proofs.Tree.Frames
import WebForms.Proofs.Scanner.OpenElements
import WebForms.Proofs.Scanner.EventOrder
import WebForms.Proofs.Document.Edits
import WebForms.Proofs.Server.DocumentHistory
import WebForms.Proofs.Text.Places
import WebForms.Proofs.Tree.Positions
import WebForms.Proofs.Scanner.Readings
import WebForms.Proofs.Scanner.Sources
import WebForms.Proofs.Scanner.Values
import WebForms.Proofs.Scanner.StartTags
import WebForms.Proofs.Text.LetterCase
import WebForms.Proofs.Text.DistinctNames
import WebForms.Proofs.Scanner.LetterCase
import WebForms.Proofs.Text.LineBreaks
import WebForms.Proofs.Document.Offsets
import WebForms.Proofs.Types.Entries
import WebForms.Proofs.Types.CatalogHistory
import WebForms.Proofs.Scanner.ClosingTags
import WebForms.Proofs.Scanner.BlockOpenings
import WebForms.Proofs.Scanner.EnclosingTag
import WebForms.Proofs.Tree.Preorder
import WebForms.Proofs.Completion.AttributeNames
import WebForms.Proofs.Completion.AttributeLists
import WebForms.Proofs.Scanner.OutsideBlocks
import WebForms.Proofs.Scanner.BlockTexts
import WebForms.Proofs.Tree.Leaves
import WebForms.Proofs.Completion.Snippets
import WebForms.Proofs.Completion.ControlNames
import WebForms.Proofs.Completion.HiddenMembers
import WebForms.Proofs.Completion.PropertySplit
import WebForms.Proofs.Completion.LetterCase
import WebForms.Proofs.Page.FreshNames
import WebForms.Proofs.Completion.EventHandlers
import WebForms.Proofs.Json.RoundTrip
import WebForms.Proofs.Types.FormatRoundTrip
import WebForms.Proofs.Scanner.RawText
import WebForms.Proofs.Text.Trimming
import WebForms.Proofs.Scanner.RawTextSearch
import WebForms.Proofs.Scanner.RawTextEnd
import WebForms.Proofs.Tree.Content
import WebForms.Proofs.Text.Slices
import WebForms.Proofs.Scanner.Slices
import WebForms.Proofs.Code.Parentheses
import WebForms.Proofs.Code.Slices
import WebForms.Proofs.Code.InsertionSlices
import WebForms.Proofs.Document.Slices
import WebForms.Proofs.Text.Addresses
import WebForms.Proofs.Document.Insertions
import WebForms.Proofs.Code.Braces
import WebForms.Proofs.Code.ClassBodies
import WebForms.Proofs.Code.NestedClasses
import WebForms.Proofs.Code.AccessChains
import WebForms.Proofs.Code.WholeChains
import WebForms.Proofs.Code.CallArguments
import WebForms.Proofs.Completion.Slices
import WebForms.Proofs.Scanner.Transparency
import WebForms.Proofs.Tree.BlockSources
import WebForms.Proofs.Tree.Outline
import WebForms.Proofs.Tree.Rows
import WebForms.Proofs.Tree.Closings
import WebForms.Proofs.Types.Merging
import WebForms.Proofs.Types.Inheritance
import WebForms.Proofs.Types.NearestMembers
import WebForms.Proofs.Code.VisibleMembers
import WebForms.Proofs.Code.MemberTypes
import WebForms.Proofs.Code.UnfinishedArguments
import WebForms.Proofs.Scanner.UnquotedValues
import WebForms.Proofs.Markup.AttributeSets
import WebForms.Proofs.Page.Fields
import WebForms.Proofs.Tree.OrderedEvents
import WebForms.Proofs.Json.Members
import WebForms.Proofs.Server.AcceptedHandlers
