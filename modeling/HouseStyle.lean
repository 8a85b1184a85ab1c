import HouseStyle.Json.Reader
import HouseStyle.Package.FileTree
import HouseStyle.Package.Format
import HouseStyle.Main
import HouseStyle.Proofs.Style.Declaration
import HouseStyle.Proofs.Style.Lineage
import HouseStyle.Proofs.Package.Stages
import HouseStyle.Proofs.Style.Ancestry
import HouseStyle.Proofs.Package.Detection
import HouseStyle.Proofs.Profile.Renaming
import HouseStyle.Proofs.Profile.Reordering
import HouseStyle.Proofs.Measure.LineSpacing
import HouseStyle.Proofs.Number.Decimal
import HouseStyle.Proofs.Word.Spacing
import HouseStyle.Proofs.Word.Values
import HouseStyle.Proofs.Word.Writing
import HouseStyle.Proofs.Json.Scanning
import HouseStyle.Proofs.Json.Layouts
import HouseStyle.Proofs.Json.RoundTrip
import HouseStyle.Proofs.Json.Fields
import HouseStyle.Proofs.Profile.Members
import HouseStyle.Proofs.Profile.Rendering
import HouseStyle.Proofs.Word.WrittenStyles
import HouseStyle.Proofs.Word.WrittenTables
import HouseStyle.Proofs.Word.BodyChildren
import HouseStyle.Proofs.Style.Bases
import HouseStyle.Proofs.Word.ForeignMarkup
import HouseStyle.Proofs.Package.Colors
import HouseStyle.Proofs.Profile.Reports
import HouseStyle.Proofs.Style.Additions
import HouseStyle.Proofs.Profile.Editing
import HouseStyle.Proofs.Package.TablesUnread
import HouseStyle.Proofs.Profile.FontKeys
import HouseStyle.Proofs.Profile.FontLookups
import HouseStyle.Proofs.Profile.TargetFonts
import HouseStyle.Proofs.Profile.Listing
import HouseStyle.Proofs.Word.ShownNames
import HouseStyle.Proofs.Text.Characters
import HouseStyle.Proofs.Number.Spelling
import HouseStyle.Proofs.Measure.Spelling
import HouseStyle.Proofs.Word.NumberWords
import HouseStyle.Proofs.Style.Separation
import HouseStyle.Proofs.Word.PageSides
import HouseStyle.Proofs.Word.RunText
import HouseStyle.Proofs.Number.Quotients
import HouseStyle.Proofs.Number.ShortDecimals
import HouseStyle.Proofs.Measure.Centimetres
import HouseStyle.Proofs.Table.Grounds
import HouseStyle.Proofs.Color.Spelling
