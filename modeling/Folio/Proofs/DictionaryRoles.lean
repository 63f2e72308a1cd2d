import Folio.Document.Image
import Folio.Proofs.Roles

/-!
The references of each kind of object with the roles that they call for, and what role the object
itself may fill.
-/

namespace Folio

namespace Dictionary

open Value (links family entry?)
open Role (at? table)

variable {holds : Role → Ref → Prop}

@[simp] theorem leads_names {path : List Name} {tree : Option Ref} :
    Leads holds ((names tree).linksFrom path) ↔
      ∀ target ∈ tree, ∃ role,
        at? (path ++ [Name.ofString "EmbeddedFiles"]) = some role ∧ holds role target := by
  simp [names]

theorem Catalog.leads_iff (catalog : Catalog) : Leads holds catalog.value.links ↔
    holds .pageTree catalog.pages ∧
      (∀ outline ∈ catalog.outline, holds (.typed "Outlines") outline) ∧
      (∀ root ∈ catalog.structTreeRoot, holds (.typed "StructTreeRoot") root) ∧
      (∀ names ∈ catalog.names, ∀ tree ∈ names, holds .fileTree tree) ∧
      (∀ fields ∈ catalog.fields, ∀ field ∈ fields, holds .widget field) ∧
      ∀ intent ∈ catalog.outputIntents, holds (.typed "OutputIntent") intent := by
  cases outline : catalog.outline <;> cases root : catalog.structTreeRoot <;>
    simp [links, family, Catalog.value, entry?, outline, root, acroForm, at?, table]

theorem OutputIntent.leads_iff (intent : OutputIntent) : Leads holds intent.value.links ↔
    ∀ profile ∈ intent.profile, holds .profile profile := by
  simp [links, family, OutputIntent.value, entry?, at?, table]

theorem leads_pages_iff (kids : List Ref) : Leads holds (pages kids).links ↔
    ∀ kid ∈ kids, holds (.typed "Page") kid := by
  simp [links, family, pages, entry?, at?, table]

theorem Page.leads_iff (page : Page) : Leads holds page.value.links ↔
    holds .pageTree page.parent ∧ holds .resources page.resources ∧
      holds .stream page.contents ∧ holds (.typed "Group") page.group ∧
      ∀ target ∈ page.annotations, holds (.typed "Annot") target := by
  simp [links, family, Page.value, entry?, at?, table]

def AnnotationBody.Leads (holds : Role → Ref → Prop) : AnnotationBody → Prop
  | .fileAttachment file _ _ => holds (.typed "Filespec") file
  | .checkbox _ on off _ => holds .form on ∧ holds .form off
  | _ => True

theorem Annot.leads_iff (annot : Annot) : Folio.Leads holds annot.value.links ↔
    annot.body.Leads holds ∧ ∀ page ∈ annot.page, holds (.typed "Page") page := by
  cases body : annot.body <;>
    simp [body, AnnotationBody.Leads, links, family, Annot.value, AnnotationBody.entries, entry?,
      at?, table, and_assoc]

theorem Filespec.leads_iff (spec : Filespec) : Leads holds spec.value.links ↔
    holds .embeddedFile spec.file := by
  simp [links, family, Filespec.value, entry?, at?, table]

theorem StructTreeRoot.leads_iff (root : StructTreeRoot) : Leads holds root.value.links ↔
    (∀ kid ∈ root.kids, holds (.typed "StructElem") kid) ∧ holds .parentTree root.parentTree := by
  simp [links, family, StructTreeRoot.value, entry?, at?, table]

def StructKid.Leads (holds : Role → Ref → Prop) : StructKid → Prop
  | .element target => holds (.typed "StructElem") target
  | .content _ => True

@[simp] theorem leads_kids {path : List Name} {kids : List StructKid} :
    Leads holds (Value.linksFromAll path (kids.map StructKid.value)) ↔
      ∀ kid ∈ kids, Leads holds (kid.value.linksFrom path) := by
  induction kids with
  | nil => simp
  | cons kid rest ih => simp [ih]

theorem StructElement.leads_iff (element : StructElement) : Leads holds element.value.links ↔
    holds .structureParent element.parent ∧
      (∀ page ∈ element.page, holds (.typed "Page") page) ∧
      ∀ kid ∈ element.kids, kid.Leads holds := by
  have kid (kid : StructKid) :
      Leads holds (kid.value.linksFrom ["StructElem", "K"]) ↔ kid.Leads holds := by
    cases kid <;> simp [StructKid.value, StructKid.Leads, at?, table]
  simp [links, family, StructElement.value, entry?, kid, at?, table]

theorem Outline.leads_iff (outline : Outline) : Leads holds outline.value.links ↔
    holds .outlineItem outline.first ∧ holds .outlineItem outline.last := by
  simp [links, family, Outline.value, entry?, at?, table]

theorem OutlineItem.leads_iff (item : OutlineItem) : Leads holds item.value.links ↔
    holds .outlineParent item.parent ∧ (∀ target ∈ item.prev, holds .outlineItem target) ∧
      (∀ target ∈ item.next, holds .outlineItem target) ∧
      (∀ target ∈ item.first, holds .outlineItem target) ∧
      (∀ target ∈ item.last, holds .outlineItem target) ∧ holds (.typed "Page") item.page := by
  simp [links, family, OutlineItem.value, destination, entry?, List.findSome?_append, at?, table]

theorem Type0Font.leads_iff (font : Type0Font) : Leads holds font.value.links ↔
    holds .encoding font.encoding ∧ holds .cidFont font.descendant ∧
      holds .stream font.toUnicode := by
  simp [links, family, Type0Font.value, entry?, at?, table]

theorem CidFont.leads_iff (font : CidFont) : Leads holds font.value.links ↔
    holds (.typed "FontDescriptor") font.descriptor := by
  simp [links, family, CidFont.value, entry?, at?, table]

theorem FontDescriptor.leads_iff (font : FontDescriptor) : Leads holds font.value.links ↔
    ∀ program ∈ font.program, holds .fontProgram program := by
  simp [links, family, FontDescriptor.value, entry?, at?, table]

theorem ImageHead.leads_iff (image : ImageHead) : Leads holds (Value.dict image.entries).links ↔
    (∀ target, image.space = .ref target → holds .colorSpace target) ∧
      ∀ mask ∈ image.softMask, holds .image mask := by
  cases space : image.space <;>
    simp [links, family, ImageHead.entries, ColorSpace.value, entry?, space, at?, table]

theorem leads_grayImage (width height bits : Nat) :
    Leads holds (Value.dict (ImageHead.entries ⟨width, height, .gray, bits, none⟩)).links :=
  (ImageHead.leads_iff _).mpr ⟨fun _ => nofun, fun _ => nofun⟩

theorem Form.leads_iff (form : Form) : Leads holds (Value.dict form.entries).links ↔
    ∀ target ∈ form.resources, holds .resources target := by
  simp [links, family, Form.entries, entry?, at?, table]

theorem TilingPattern.leads_iff (pattern : TilingPattern) :
    Leads holds (Value.dict pattern.entries).links ↔ holds .resources pattern.resources := by
  simp [links, family, TilingPattern.entries, entry?, at?, table]

theorem leads_shadingPattern_iff (shading : Ref) (matrix : Matrix) :
    Leads holds (shadingPattern shading matrix).links ↔ holds .shading shading := by
  simp [links, family, shadingPattern, entry?, at?, table]

theorem Shading.leads_iff (shading : Shading) : Leads holds shading.value.links ↔
    (∀ target, shading.space = .ref target → holds .colorSpace target) ∧
      holds .function shading.function := by
  cases space : shading.space <;>
    simp [links, family, Shading.value, ColorSpace.value, entry?, space, at?, table]

def Function.Leads (holds : Role → Ref → Prop) : Function → Prop
  | .exponential .. => True
  | .stitching _ functions _ _ => ∀ target ∈ functions, holds .function target

theorem Function.leads_iff (function : Function) :
    Folio.Leads holds function.value.links ↔ function.Leads holds := by
  cases function <;> simp [links, family, Function.value, Function.Leads, entry?, at?, table]

theorem leads_iccBased_iff (stream : Ref) :
    Leads holds (ColorSpaceFamily.iccBased stream).value.links ↔ holds .profile stream := by
  simp [links, family, ColorSpaceFamily.value, at?, table]

theorem leads_lab (params : LabParams) : Leads holds (ColorSpaceFamily.lab params).value.links := by
  simp [links, family, ColorSpaceFamily.value]

theorem leads_separation_iff (name : Name) (space : DeviceSpace) (tint : Ref) :
    Leads holds (ColorSpaceFamily.separation name space.colorSpace tint).value.links ↔
      holds .function tint := by
  simp [links, family, ColorSpaceFamily.value, at?, table]

theorem leads_fileTree_iff (tree : NameTree Ref) : Leads holds (tree.value Value.ref).links ↔
    ∀ target ∈ tree.pairs.map Prod.snd, holds (.typed "Filespec") target := by
  have pairs (pairs : List (Bytes × Ref)) :
      Value.linksFromAll ["Names"] (pairs.flatMap fun pair => [.str pair.1, .ref pair.2]) =
        (pairs.map Prod.snd).map (Link.mk ["Names"]) := by
    induction pairs with
    | nil => rfl
    | cons pair rest ih => simp [ih]
  simp [links, family, NameTree.value, entry?, pairs, at?, table, -List.map_map]

theorem leads_parentTree_iff (tree : NumberTree (List Ref)) :
    Leads holds (tree.value Value.refs).links ↔
      ∀ pair ∈ tree.pairs, ∀ target ∈ pair.2, holds (.typed "StructElem") target := by
  have pairs (pairs : List (Nat × List Ref)) :
      Value.linksFromAll ["Nums"] (pairs.flatMap fun pair => [.nat pair.1, .refs pair.2]) =
        pairs.flatMap fun pair => pair.2.map (Link.mk ["Nums"]) := by
    induction pairs with
    | nil => rfl
    | cons pair rest ih => simp [ih]
  simp [links, family, NumberTree.value, entry?, pairs, at?, table]

theorem leads_empty : Leads holds (Value.dict []).links :=
  leads_nil

theorem leads_jpeg (info : JpegInfo) :
    Leads holds (Value.dict (Document.jpegEntries info)).links := by
  simp [links, family, Document.jpegEntries, ImageHead.entries, Entry.optional, entry?]

theorem leads_imageMask (width height : Nat) :
    Leads holds (Value.dict (StreamHead.imageMask width height).entries).links := by
  simp [links, family, StreamHead.entries, entry?]

theorem leads_profile (components : Nat) (space : DeviceSpace) :
    Leads holds
      (Value.dict (StreamHead.colorProfile components (some space.colorSpace)).entries).links := by
  simp [links, family, StreamHead.entries, entry?, Entry.optional]

theorem leads_embeddedFile (size : Nat) (subtype : Option Name) :
    Leads holds (Value.dict (StreamHead.embeddedFile size subtype).entries).links := by
  simp [links, family, StreamHead.entries, entry?]

theorem leads_fontProgram (size : Nat) :
    Leads holds (Value.dict (StreamHead.fontProgram size).entries).links := by
  simp [links, family, StreamHead.entries, entry?]

theorem leads_encoding (name : Name) (info : CidSystemInfo) :
    Leads holds (Value.dict (StreamHead.cmap name info).entries).links := by
  simp [links, family, StreamHead.entries, entry?]

theorem leads_type1Font (baseFont : Name) : Leads holds (type1Font baseFont).links := by
  simp [links, family, type1Font, entry?]

theorem leads_graphicsState (state : GraphicsState) : Leads holds state.value.links := by
  simp [links, family, GraphicsState.value, entry?]

theorem leads_transparencyGroup (space : DeviceSpace) :
    Leads holds (transparencyGroup space.colorSpace).links := by
  simp [links, family, transparencyGroup, entry?]

theorem leads_info (info : Info) : Leads holds info.value.links := by
  simp [links, family, Info.value, entry?, List.findSome?_append]

theorem Form.fits (form : Form) (data : Bytes) :
    Role.form.Fits (.stream (.dict form.entries) data) := by
  simp [Form.entries, entry?]

theorem ImageHead.fits (image : ImageHead) (data : Bytes) :
    Role.image.Fits (.stream (.dict image.entries) data) := by
  simp [ImageHead.entries, entry?]

theorem fits_profile (components : Nat) (alternate : Option ColorSpace) (data : Bytes) :
    Role.profile.Fits (.stream (.dict (StreamHead.colorProfile components alternate).entries)
      data) := by
  simp [StreamHead.entries, entry?]

theorem fits_embeddedFile (size : Nat) (subtype : Option Name) (data : Bytes) :
    Role.embeddedFile.Fits (.stream (.dict (StreamHead.embeddedFile size subtype).entries)
      data) := by
  simp [StreamHead.entries, entry?]

theorem fits_encoding (name : Name) (info : CidSystemInfo) (data : Bytes) :
    Role.encoding.Fits (.stream (.dict (StreamHead.cmap name info).entries) data) := by
  simp [StreamHead.entries, entry?]

theorem fits_fontProgram (size : Nat) (data : Bytes) :
    Role.fontProgram.Fits (.stream (.dict (StreamHead.fontProgram size).entries) data) := by
  simp [StreamHead.entries, entry?]

theorem ColorSpaceFamily.fits (space : ColorSpaceFamily) :
    Role.colorSpace.Fits (.value space.value) := by
  cases space <;> simp [ColorSpaceFamily.value]

theorem Function.fits (function : Function) : Role.function.Fits (.value function.value) := by
  cases function <;> simp [Function.value, entry?]

theorem Shading.fits (shading : Shading) : Role.shading.Fits (.value shading.value) := by
  simp [Shading.value, entry?]

theorem fits_transparencyGroup (space : ColorSpace) :
    (Role.typed "Group").Fits (.value (transparencyGroup space)) := by
  simp [transparencyGroup, entry?]

theorem Filespec.fits (spec : Filespec) : (Role.typed "Filespec").Fits (.value spec.value) := by
  simp [Filespec.value, entry?]

theorem fits_widget (annot : Annot) {name : Bytes} {on off : Ref} {checked : Bool}
    (field : annot.body = .checkbox name on off checked) :
    Role.widget.Fits (.value annot.value) := by
  simp [Annot.value, AnnotationBody.entries, field, entry?]

open Body (Unlayered unlayered_dict_iff)

theorem Catalog.fits (catalog : Catalog) : (Role.typed "Catalog").Fits (.value catalog.value) ∧
    Unlayered (.value catalog.value) := by
  cases outline : catalog.outline <;> cases root : catalog.structTreeRoot <;>
    simp [unlayered_dict_iff, Catalog.value, outline, root, entry?, List.findSome?_append]

theorem OutputIntent.fits (intent : OutputIntent) :
    (Role.typed "OutputIntent").Fits (.value intent.value) ∧ Unlayered (.value intent.value) := by
  simp [unlayered_dict_iff, OutputIntent.value, entry?, List.findSome?_append]

theorem fits_pages (kids : List Ref) :
    Role.pageTree.Fits (.value (pages kids)) ∧ Unlayered (.value (pages kids)) := by
  simp [unlayered_dict_iff, pages, entry?]

theorem Page.fits (page : Page) : (Role.typed "Page").Fits (.value page.value) ∧
    Unlayered (.value page.value) := by
  simp [unlayered_dict_iff, Page.value, PageBoxes.entries, entry?, List.findSome?_append]

theorem Annot.fits (annot : Annot) : (Role.typed "Annot").Fits (.value annot.value) ∧
    Unlayered (.value annot.value) := by
  cases body : annot.body <;>
    simp [unlayered_dict_iff, Annot.value, AnnotationBody.entries, body, entry?,
      List.findSome?_append]

theorem StructTreeRoot.fits (root : StructTreeRoot) :
    (Role.typed "StructTreeRoot").Fits (.value root.value) ∧ Unlayered (.value root.value) := by
  simp [unlayered_dict_iff, StructTreeRoot.value, entry?]

theorem StructElement.fits (element : StructElement) :
    (Role.typed "StructElem").Fits (.value element.value) ∧ Unlayered (.value element.value) := by
  simp [unlayered_dict_iff, StructElement.value, entry?, List.findSome?_append]

theorem Outline.fits (outline : Outline) :
    (Role.typed "Outlines").Fits (.value outline.value) ∧ Unlayered (.value outline.value) := by
  simp [unlayered_dict_iff, Outline.value, entry?]

theorem OutlineItem.fits (item : OutlineItem) :
    Role.outlineItem.Fits (.value item.value) ∧ Unlayered (.value item.value) := by
  simp [unlayered_dict_iff, OutlineItem.value, entry?, List.findSome?_append]

theorem Type0Font.fits (font : Type0Font) :
    (Role.typed "Font").Fits (.value font.value) ∧ Unlayered (.value font.value) := by
  simp [unlayered_dict_iff, Type0Font.value, entry?]

theorem CidFont.fits (font : CidFont) :
    Role.cidFont.Fits (.value font.value) ∧ Unlayered (.value font.value) := by
  simp [unlayered_dict_iff, CidFont.value, entry?]

theorem FontDescriptor.fits (font : FontDescriptor) :
    (Role.typed "FontDescriptor").Fits (.value font.value) ∧ Unlayered (.value font.value) := by
  simp [unlayered_dict_iff, FontDescriptor.value, entry?]

theorem fits_fileTree (tree : NameTree Ref) :
    Role.fileTree.Fits (.value (tree.value Value.ref)) ∧
      Unlayered (.value (tree.value Value.ref)) := by
  simp [unlayered_dict_iff, NameTree.value, entry?]

theorem fits_parentTree (tree : NumberTree (List Ref)) :
    Role.parentTree.Fits (.value (tree.value Value.refs)) ∧
      Unlayered (.value (tree.value Value.refs)) := by
  simp [unlayered_dict_iff, NumberTree.value, entry?]

theorem unlayered_info (info : Info) : Unlayered (.value info.value) := by
  simp [unlayered_dict_iff, Info.value, entry?, List.findSome?_append]

end Dictionary

end Folio
