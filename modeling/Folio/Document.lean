import Folio.Color.Spaces
import Folio.Digest.Md5
import Folio.Document.Item
import Folio.Font.Standard
import Folio.Options

/-!
A document in the making. A step of the work may fail; what it left of the document is part of its
result either way.
-/

namespace Folio

structure Document where
  options : DocumentOptions
  info : Info
  store : Store
  colors : ColorSpaces
  fonts : Registry .font FontItem
  builtinFonts : Registry .builtinFont (StandardFont × Ref)
  /-- The encoding that all font subsets share, once there is one. -/
  encoding : Option Ref
  images : Registry .image Ref
  forms : Registry .formXObject Ref
  widgets : Registry .formWidget CheckboxItem
  widgetPlaces : Placement .formWidget
  annotations : Registry .annot AnnotationItem
  annotationPlaces : Placement .annot
  structureItems : Registry .structureItem StructureItem
  structurePlaces : Placement .structureItem
  graphicsStates : Registry .graphicsState Ref
  functions : Registry .function Ref
  shadings : Registry .shading Ref
  patterns : Registry .pattern Ref
  files : Registry .embeddedFile EmbeddedFile
  pages : Registry .page PageItem
  outline : Registry .outline OutlineItem
  outputIntent : Option OutputIntent
  /-- The transparency group that all pages share, once there is one. -/
  pageGroup : Option Ref
  /-- The key that the next page with marked content gets. -/
  nextStructParent : Nat

/-- The information that follows from options; the dates are for the caller to set. -/
def DocumentOptions.info (options : DocumentOptions) : Info where
  title := options.title.map textString
  author := options.author.map textString
  subject := options.subject.map textString
  keywords := options.keywords.map textString
  creator := options.creator.map textString
  producer := options.producer.map textString
  creationDate := none
  modificationDate := none

namespace Document

/-- A document without contents that converts colours and recognizes profiles by given means. -/
def withColors (options : DocumentOptions) (converter : Color → DeviceSpace → Color)
    (fingerprint : Bytes → Bytes) : Document where
  options := options
  info := options.info
  store := .empty
  colors := .empty options.outputSpace converter fingerprint options.compress
  fonts := .empty
  builtinFonts := .empty
  encoding := none
  images := .empty
  forms := .empty
  widgets := .empty
  widgetPlaces := .empty
  annotations := .empty
  annotationPlaces := .empty
  structureItems := .empty
  structurePlaces := .empty
  graphicsStates := .empty
  functions := .empty
  shadings := .empty
  patterns := .empty
  files := .empty
  pages := .empty
  outline := .empty
  outputIntent := none
  pageGroup := none
  nextStructParent := 0

def withConverter (options : DocumentOptions) (converter : Color → DeviceSpace → Color) :
    Document :=
  withColors options converter Md5.digest

def withOptions (options : DocumentOptions) : Document :=
  withConverter options Color.convertDevice

end Document

abbrev Build := EStateM Error Document

namespace Build

def ofExcept {α : Type} : Except Error α → Build α
  | .ok value => return value
  | .error error => throw error

def allocate (record : Record) : Build Ref :=
  modifyGet fun doc =>
    let (target, store) := doc.store.allocate record
    (target, { doc with store })

def reserve : Build Ref :=
  allocate .reserved

def fill (target : Ref) (record : Record) : Build Unit :=
  modify fun doc => { doc with store := (doc.store.fill target record).2 }

def object (value : Value) : Build Ref :=
  allocate (.object value)

def stream (entries : List Entry) (data : Bytes) : Build Ref := do
  allocate (.stream (← get).options.compress entries data)

/-- The white space that separates tokens on one line or several. -/
def isBlank (byte : UInt8) : Bool :=
  [0x09, 0x0A, 0x0C, 0x0D, 0x20].contains byte

/-- A resource dictionary in its own words; one that says nothing is empty. -/
def resources (bytes : Bytes) : Build Ref :=
  object (if bytes.all isBlank then .dict [] else .verbatim bytes)

end Build

end Folio
