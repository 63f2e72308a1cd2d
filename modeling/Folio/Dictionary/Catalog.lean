import Folio.Date
import Folio.Dictionary.Annot

/-!
The dictionaries at the root of a document: information, output intent, catalog and trailer.
-/

namespace Folio

structure Info where
  title : Option Bytes
  author : Option Bytes
  subject : Option Bytes
  keywords : Option Bytes
  creator : Option Bytes
  producer : Option Bytes
  creationDate : Option DateTime
  modificationDate : Option DateTime
deriving DecidableEq, Repr

def Info.value (info : Info) : Value :=
  .dict (Entry.optional "Title" (info.title.map .str) ++
    Entry.optional "Author" (info.author.map .str) ++
    Entry.optional "Subject" (info.subject.map .str) ++
    Entry.optional "Keywords" (info.keywords.map .str) ++
    Entry.optional "Creator" (info.creator.map .str) ++
    Entry.optional "Producer" (info.producer.map .str) ++
    Entry.optional "CreationDate" (info.creationDate.map DateTime.value) ++
    Entry.optional "ModDate" (info.modificationDate.map DateTime.value))

inductive OutputIntentSubtype where
  | pdfX
  | pdfA1
  | pdfE1
deriving DecidableEq, Repr

def OutputIntentSubtype.name : OutputIntentSubtype → String
  | .pdfX => "GTS_PDFX"
  | .pdfA1 => "GTS_PDFA1"
  | .pdfE1 => "ISO_PDFE1"

namespace Dictionary

structure OutputIntent where
  subtype : OutputIntentSubtype
  condition : Option Bytes
  identifier : Bytes
  registry : Option Bytes
  profile : Option Ref
deriving DecidableEq, Repr

def OutputIntent.value (intent : OutputIntent) : Value :=
  .dict ([.kind "OutputIntent", .field "S" (.name intent.subtype.name)] ++
    Entry.optional "OutputCondition" (intent.condition.map .str) ++
    [.field "OutputConditionIdentifier" (.str intent.identifier)] ++
    Entry.optional "RegistryName" (intent.registry.map .str) ++
    Entry.optional "DestOutputProfile" (intent.profile.map .ref))

def names (embeddedFiles : Option Ref) : Value :=
  .dict (Entry.optional "EmbeddedFiles" (embeddedFiles.map .ref))

structure Catalog where
  pages : Ref
  outline : Option Ref
  structTreeRoot : Option Ref
  /-- The name tree of embedded files, where the document has name trees at all. -/
  names : Option (Option Ref)
  fields : Option (List Ref)
  outputIntents : List Ref
  language : Option Bytes
deriving DecidableEq, Repr

/-- A document with an outline opens it, and one with a structure tree counts as tagged. -/
def Catalog.value (catalog : Catalog) : Value :=
  .dict ([.kind "Catalog", .field "Pages" (.ref catalog.pages)] ++
    (match catalog.outline with
      | none => []
      | some outline =>
          [.field "Outlines" (.ref outline), .field "PageMode" (.name "UseOutlines")]) ++
    (match catalog.structTreeRoot with
      | none => []
      | some root =>
          [.field "StructTreeRoot" (.ref root),
            .field "MarkInfo" (.dict [.field "Marked" (.bool true)])]) ++
    Entry.optional "Names" (catalog.names.map Dictionary.names) ++
    Entry.optional "AcroForm" (catalog.fields.map acroForm) ++
    Entry.unlessEmpty "OutputIntents" (catalog.outputIntents.map .ref) ++
    Entry.optional "Lang" (catalog.language.map .str))

structure Trailer where
  size : Nat
  info : Option Ref
  root : Ref
  permanent : Bytes
  changing : Bytes
deriving DecidableEq, Repr

def Trailer.value (trailer : Trailer) : Value :=
  .dict ([.field "Size" (.nat trailer.size)] ++
    Entry.optional "Info" (trailer.info.map .ref) ++
    [.field "Root" (.ref trailer.root),
      .field "ID" (.arr [.digest trailer.permanent, .digest trailer.changing])])

end Dictionary

end Folio
