import Folio.Dictionary.Structure
import Folio.Document.File
import Folio.Document.Outline
import Folio.Tree

/-!
The objects that a document needs as a whole: page tree, outline, structure tree, names, output
intent, information and catalog. They come after all others.
-/

namespace Folio

namespace Document

/-- The items of the marked content of each page, by the key of the page. -/
def parentTree (doc : Document) : Except Error (NumberTree (List Ref)) :=
  doc.pages.toList.foldlM (fun tree (_, page) =>
    match page.structParents with
    | none => .ok tree
    | some key => do return (tree.insert key (← page.marked.mapM doc.structureItemRef)).2) .empty

def topStructureItems (doc : Document) : List Ref :=
  (doc.structureItems.toList.filter fun (_, item) => item.parent.isNone).map
    fun (_, item) => item.object

def closeStructure : Build (Option Ref) := do
  let doc ← get
  if doc.structureItems.isEmpty && !doc.options.tagged then return none
  let root ← Build.reserve
  let tree ← Build.ofExcept doc.parentTree
  let treeRef ← Build.object (tree.value Value.refs)
  let entry : Dictionary.StructTreeRoot := ⟨doc.topStructureItems, treeRef, tree.nextKey⟩
  Build.fill root (.object entry.value)
  return some root

/-- The name that a file is listed under: a name that was used before gets a count. -/
def fileKey (earlier : List String) (name : String) : String :=
  match earlier.count name with
  | 0 => name
  | count + 1 => name ++ " (" ++ toString (count + 1) ++ ")"

/-- Lists files by name, where `earlier` are the names of files before them. -/
def listFiles (tree : NameTree Ref) (earlier : List String) : List EmbeddedFile → NameTree Ref
  | [] => tree
  | file :: rest =>
      listFiles (tree.insert (textString (fileKey earlier file.name)) file.filespec).2
        (file.name :: earlier) rest

def fileTree (doc : Document) : NameTree Ref :=
  listFiles .empty [] (doc.files.toList.map Prod.snd)

/-- The object that lists the embedded files, if there are any. -/
def closeNames : Build (Option Ref) := do
  let doc ← get
  if doc.files.isEmpty then return none
  return some (← Build.object (doc.fileTree.value Value.ref))

def intentProfile (doc : Document) (intent : OutputIntent) : Except Error (Option Ref) :=
  match intent.profile with
  | none => .ok none
  | some profile => (doc.colors.profileStream profile).map some

def closeOutputIntent : Build (List Ref) := do
  let doc ← get
  match doc.outputIntent with
  | none => return []
  | some intent =>
      let profile ← Build.ofExcept (doc.intentProfile intent)
      let entry : Dictionary.OutputIntent :=
        ⟨intent.subtype, intent.condition.map textString, textString intent.identifier, none,
          profile⟩
      return [← Build.object entry.value]

def placedFields (doc : Document) : List Ref :=
  (doc.widgets.toList.filter fun (id, _) => (doc.widgetPlaces.pageOf? id).isSome).map
    fun (_, item) => item.object

/-- The objects that others refer to once the document is complete. -/
structure Roots where
  pages : Ref
  structure? : Option Ref
  info : Ref
  catalog : Ref
deriving DecidableEq, Repr

def close : Build Roots := do
  let pages ← Build.reserve
  let outline ← closeOutline
  let structure? ← closeStructure
  let names ← closeNames
  let outputIntents ← closeOutputIntent
  let info ← Build.object (← get).info.value
  let doc ← get
  let catalog : Dictionary.Catalog := {
    pages := pages
    outline := outline
    structTreeRoot := structure?
    names := names.map some
    fields := if doc.placedFields.isEmpty then none else some doc.placedFields
    outputIntents := outputIntents
    language := doc.options.language.map textString }
  let catalogRef ← Build.object catalog.value
  let kids := doc.pages.toList.map fun (_, page) => page.object
  Build.fill pages (.object (Dictionary.pages kids))
  return ⟨pages, structure?, info, catalogRef⟩

end Document

end Folio
