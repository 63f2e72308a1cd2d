import Folio.Bisection
import Folio.Bytes
import Folio.CMap.OneByte
import Folio.CMap.ToUnicode
import Folio.Color
import Folio.Color.Buckets
import Folio.Color.Profile
import Folio.Color.Spaces
import Folio.Date
import Folio.Dictionary.Annot
import Folio.Dictionary.Catalog
import Folio.Dictionary.Color
import Folio.Dictionary.Font
import Folio.Dictionary.Graphics
import Folio.Dictionary.GraphicsState
import Folio.Dictionary.Outline
import Folio.Dictionary.Page
import Folio.Dictionary.Stream
import Folio.Dictionary.Structure
import Folio.Digest.Md5
import Folio.Document
import Folio.Document.Closing
import Folio.Document.Color
import Folio.Document.File
import Folio.Document.Font
import Folio.Document.Graphics
import Folio.Document.Image
import Folio.Document.Item
import Folio.Document.Lowering
import Folio.Document.Operation
import Folio.Document.Outline
import Folio.Document.Output
import Folio.Document.Page
import Folio.Document.Tables
import Folio.Error
import Folio.Font.Face
import Folio.Font.Metrics
import Folio.Font.Slots
import Folio.Font.Standard
import Folio.Font.Tag
import Folio.Font.TrueType
import Folio.Font.TrueType.CharMap
import Folio.Font.TrueType.Subset
import Folio.Font.TrueType.Tables
import Folio.Font.TrueType.Variation
import Folio.Font.TrueType.Variation.Advance
import Folio.Font.TrueType.Variation.Outline
import Folio.Geometry
import Folio.Id
import Folio.Image.Bilevel
import Folio.Image.Jpeg
import Folio.Image.Pixmap
import Folio.Image.Png
import Folio.Image.Png.Chunk
import Folio.Image.Png.Header
import Folio.Image.Png.Rows
import Folio.Image.Pnm
import Folio.Image.Raster
import Folio.Image.Source
import Folio.Inflate
import Folio.Layout
import Folio.Options
import Folio.Options.Notation
import Folio.Options.Reader
import Folio.Path
import Folio.Proofs.Atomic
import Folio.Proofs.Bisection
import Folio.Proofs.BitPacking
import Folio.Proofs.Build
import Folio.Proofs.Changes
import Folio.Proofs.Closing
import Folio.Proofs.CodeRuns
import Folio.Proofs.Completion
import Folio.Proofs.CompressedFile
import Folio.Proofs.Contents
import Folio.Proofs.CrossReference
import Folio.Proofs.DictionaryRoles
import Folio.Proofs.Digits
import Folio.Proofs.Effects
import Folio.Proofs.EmbeddedFiles
import Folio.Proofs.FileLayout
import Folio.Proofs.FileNames
import Folio.Proofs.Filling
import Folio.Proofs.Finished
import Folio.Proofs.FinishedFont
import Folio.Proofs.FlatTrees
import Folio.Proofs.FontAgreement
import Folio.Proofs.FontRun
import Folio.Proofs.Fonts
import Folio.Proofs.GlyphRequests
import Folio.Proofs.Glyphs
import Folio.Proofs.Identifiers
import Folio.Proofs.Identity
import Folio.Proofs.JpegSegments
import Folio.Proofs.Links
import Folio.Proofs.Lowered
import Folio.Proofs.Margin
import Folio.Proofs.ObjectCalls
import Folio.Proofs.OutlineForest
import Folio.Proofs.OutlineTree
import Folio.Proofs.PageAdmission
import Folio.Proofs.PagePlacement
import Folio.Proofs.ParentTree
import Folio.Proofs.Placement
import Folio.Proofs.ProfileBuckets
import Folio.Proofs.Profiles
import Folio.Proofs.Reading.CMap
import Folio.Proofs.Reading.DateText
import Folio.Proofs.Reading.Delimiting
import Folio.Proofs.Reading.Lexer
import Folio.Proofs.Reading.Numeral
import Folio.Proofs.Reading.Object
import Folio.Proofs.Reading.ObjectPlace
import Folio.Proofs.Reading.OneByte
import Folio.Proofs.Reading.PreservedText
import Folio.Proofs.Reading.RoundTrip
import Folio.Proofs.Reading.Spelling
import Folio.Proofs.Reading.StreamObject
import Folio.Proofs.Reading.TextCodes
import Folio.Proofs.Reading.TextString
import Folio.Proofs.Reading.ToUnicode
import Folio.Proofs.Reading.Written
import Folio.Proofs.RecordTables
import Folio.Proofs.ReferenceIntegrity
import Folio.Proofs.Referring
import Folio.Proofs.Registry
import Folio.Proofs.Resolved
import Folio.Proofs.Roles
import Folio.Proofs.SampleCounts
import Folio.Proofs.SharedObjects
import Folio.Proofs.SharedRecords
import Folio.Proofs.SlotHistory
import Folio.Proofs.SlotTables
import Folio.Proofs.Slots
import Folio.Proofs.Sorted
import Folio.Proofs.SplicedEntries
import Folio.Proofs.Store
import Folio.Proofs.StreamExtraction
import Folio.Proofs.StreamHeads
import Folio.Proofs.StreamSources
import Folio.Proofs.StructureTree
import Folio.Proofs.SubsetTags
import Folio.Proofs.Truncation
import Folio.Proofs.Unrefused
import Folio.Proofs.Utf16
import Folio.Proofs.Writing
import Folio.Proofs.XrefReading
import Folio.Proofs.XrefSlots
import Folio.Registry
import Folio.Single
import Folio.Single.Shortest
import Folio.Sink
import Folio.Sorted
import Folio.Store
import Folio.StructureType
import Folio.Text.DocEncoding
import Folio.Text.Lossy
import Folio.Text.Printable
import Folio.Text.Quoted
import Folio.Text.TextString
import Folio.Text.Utf16
import Folio.Tree
import Folio.Value
import Folio.Writer
import Folio.Xref
