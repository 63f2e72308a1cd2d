import Folio.Proofs.Links

/-!
What the place of a reference calls for: a role for each path, and the objects that fit a role.
-/

namespace Folio

namespace Body

@[simp] def entry? (key : Name) : Body → Option Value
  | .value held => held.entry? key
  | .stream head _ => head.entry? key

@[simp] def IsStream : Body → Prop
  | .stream .. => True
  | .value _ => False

@[simp] def IsDictionary : Body → Prop
  | .value (.dict _) => True
  | _ => False

@[simp] def family? : Body → Option Name
  | .value (.arr (.name family :: _)) => some family
  | _ => none

@[simp] def links : Body → List Link
  | .value held => held.links
  | .stream head _ => head.links

end Body

inductive Role where
  | typed (kind : String)
  | pageTree
  | widget
  | cidFont
  | stream
  | encoding
  | fontProgram
  | profile
  | embeddedFile
  | image
  | form
  | resources
  | colorSpace
  | function
  | shading
  | pattern
  | parentTree
  | fileTree
  | structureParent
  | outlineItem
  | outlineParent
  | info
deriving DecidableEq

namespace Role

@[simp] def Fits : Role → Body → Prop
  | .typed kind, body => body.IsDictionary ∧ body.entry? "Type" = some (.name kind)
  | .pageTree, body => body.IsDictionary ∧ body.entry? "Type" = some (.name "Pages")
  | .widget, body => body.IsDictionary ∧ body.entry? "Subtype" = some (.name "Widget")
  | .cidFont, body => body.IsDictionary ∧ body.entry? "Subtype" = some (.name "CIDFontType2")
  | .stream, body => body.IsStream
  | .encoding, body => body.IsStream ∧ body.entry? "Type" = some (.name "CMap")
  | .fontProgram, body => body.IsStream ∧ (body.entry? "Length1").isSome
  | .profile, body => body.IsStream ∧ (body.entry? "N").isSome
  | .embeddedFile, body => body.IsStream ∧ body.entry? "Type" = some (.name "EmbeddedFile")
  | .image, body => body.IsStream ∧ body.entry? "Subtype" = some (.name "Image")
  | .form, body => body.IsStream ∧ body.entry? "Subtype" = some (.name "Form")
  | .resources, body => body = .value (.dict []) ∨ ∃ bytes, body = .value (.verbatim bytes)
  | .colorSpace, body => body.family? = some "ICCBased" ∨ body.family? = some "Lab" ∨
      body.family? = some "Separation"
  | .function, body => body.IsDictionary ∧ (body.entry? "FunctionType").isSome
  | .shading, body => body.IsDictionary ∧ (body.entry? "ShadingType").isSome
  | .pattern, body => body.entry? "Type" = some (.name "Pattern")
  | .parentTree, body => body.IsDictionary ∧ (body.entry? "Nums").isSome
  | .fileTree, body => body.IsDictionary ∧ (body.entry? "Names").isSome
  | .structureParent, body => body.IsDictionary ∧
      (body.entry? "Type" = some (.name "StructElem") ∨
        body.entry? "Type" = some (.name "StructTreeRoot"))
  | .outlineItem, body => body.IsDictionary ∧ (body.entry? "Dest").isSome
  | .outlineParent, body => body.IsDictionary ∧
      ((body.entry? "Dest").isSome ∨ body.entry? "Type" = some (.name "Outlines"))
  | .info, body => ∃ info : Info, body = .value info.value

/-- The role that each path calls for, from the family of the object that holds the reference. -/
def table : List (List String × Role) := [
  (["Root"], .typed "Catalog"),
  (["Info"], .info),
  (["Catalog", "Pages"], .pageTree),
  (["Catalog", "Outlines"], .typed "Outlines"),
  (["Catalog", "StructTreeRoot"], .typed "StructTreeRoot"),
  (["Catalog", "Names", "EmbeddedFiles"], .fileTree),
  (["Catalog", "AcroForm", "Fields"], .widget),
  (["Catalog", "OutputIntents"], .typed "OutputIntent"),
  (["OutputIntent", "DestOutputProfile"], .profile),
  (["Pages", "Kids"], .typed "Page"),
  (["Page", "Parent"], .pageTree),
  (["Page", "Resources"], .resources),
  (["Page", "Contents"], .stream),
  (["Page", "Group"], .typed "Group"),
  (["Page", "Annots"], .typed "Annot"),
  (["Annot", "P"], .typed "Page"),
  (["Annot", "FS"], .typed "Filespec"),
  (["Annot", "AP", "N", "Yes"], .form),
  (["Annot", "AP", "N", "Off"], .form),
  (["Names"], .typed "Filespec"),
  (["Filespec", "EF", "F"], .embeddedFile),
  (["Filespec", "EF", "UF"], .embeddedFile),
  (["StructTreeRoot", "K"], .typed "StructElem"),
  (["StructTreeRoot", "ParentTree"], .parentTree),
  (["Nums"], .typed "StructElem"),
  (["StructElem", "P"], .structureParent),
  (["StructElem", "Pg"], .typed "Page"),
  (["StructElem", "K"], .typed "StructElem"),
  (["Outlines", "First"], .outlineItem),
  (["Outlines", "Last"], .outlineItem),
  (["Parent"], .outlineParent),
  (["Prev"], .outlineItem),
  (["Next"], .outlineItem),
  (["First"], .outlineItem),
  (["Last"], .outlineItem),
  (["Dest"], .typed "Page"),
  (["Font", "Encoding"], .encoding),
  (["Font", "DescendantFonts"], .cidFont),
  (["Font", "ToUnicode"], .stream),
  (["Font", "FontDescriptor"], .typed "FontDescriptor"),
  (["FontDescriptor", "FontFile2"], .fontProgram),
  (["XObject", "ColorSpace"], .colorSpace),
  (["XObject", "SMask"], .image),
  (["XObject", "Resources"], .resources),
  (["Pattern", "Resources"], .resources),
  (["Pattern", "Shading"], .shading),
  (["ColorSpace"], .colorSpace),
  (["Function"], .function),
  (["Functions"], .function),
  (["ICCBased"], .profile),
  (["Separation"], .function)]

def at? (path : List Name) : Option Role :=
  (table.find? fun row => row.1.map Name.ofString = path).map Prod.snd

def layered : List Role :=
  [.function, .shading, .pattern, .colorSpace]

end Role

def Body.Unlayered (body : Body) : Prop :=
  ∀ role ∈ Role.layered, ¬role.Fits body

theorem Body.unlayered_dict_iff {entries : List Entry} :
    Unlayered (.value (.dict entries)) ↔
      Value.entry? (.dict entries) "FunctionType" = none ∧
        Value.entry? (.dict entries) "ShadingType" = none ∧
          Value.entry? (.dict entries) "Type" ≠ some (.name "Pattern") := by
  simp [Unlayered, Role.layered]

/-- What a stream is does not change when entries are put after those that it has. -/
theorem Role.Fits.append {role : Role} {entries : List Entry} {data : Bytes}
    (fits : role.Fits (.stream (.dict entries) data)) (more : List Entry) (other : Bytes) :
    role.Fits (.stream (.dict (entries ++ more)) other) := by
  have kept {key : Name} {value : Value} (held : Value.entry? (.dict entries) key = some value) :
      Value.entry? (.dict (entries ++ more)) key = some value := by
    simp only [Value.entry?] at held
    simp [Value.entry?, List.findSome?_append, held]
  have present {key : Name} (held : (Value.entry? (.dict entries) key).isSome) :
      (Value.entry? (.dict (entries ++ more)) key).isSome := by
    obtain ⟨value, held⟩ := Option.isSome_iff_exists.mp held
    rw [kept held]
    rfl
  cases role with
  | stream => trivial
  | encoding => exact ⟨trivial, kept fits.2⟩
  | embeddedFile => exact ⟨trivial, kept fits.2⟩
  | image => exact ⟨trivial, kept fits.2⟩
  | form => exact ⟨trivial, kept fits.2⟩
  | fontProgram => exact ⟨trivial, present fits.2⟩
  | profile => exact ⟨trivial, present fits.2⟩
  | pattern => exact kept fits
  | _ => simp at fits

def Leads (holds : Role → Ref → Prop) (links : List Link) : Prop :=
  ∀ link ∈ links, ∃ role, Role.at? link.path = some role ∧ holds role link.target

section Leads

variable {holds : Role → Ref → Prop}

@[simp] theorem leads_nil : Leads holds [] :=
  fun _ member => absurd member List.not_mem_nil

@[simp] theorem leads_cons {link : Link} {links : List Link} :
    Leads holds (link :: links) ↔
      (∃ role, Role.at? link.path = some role ∧ holds role link.target) ∧ Leads holds links :=
  List.forall_mem_cons

@[simp] theorem leads_append {first second : List Link} :
    Leads holds (first ++ second) ↔ Leads holds first ∧ Leads holds second :=
  List.forall_mem_append

@[simp] theorem leads_flatMap {α : Type} {list : List α} {links : α → List Link} :
    Leads holds (list.flatMap links) ↔ ∀ value ∈ list, Leads holds (links value) := by
  simp only [Leads, List.mem_flatMap]
  exact ⟨fun all value member link inside => all link ⟨value, member, inside⟩,
    fun all link ⟨value, member, inside⟩ => all value member link inside⟩

@[simp] theorem leads_map {path : List Name} {targets : List Ref} :
    Leads holds (targets.map (Link.mk path)) ↔
      ∀ target ∈ targets, ∃ role, Role.at? path = some role ∧ holds role target :=
  List.forall_mem_map

theorem Leads.mono {wider : Role → Ref → Prop} {links : List Link} (leads : Leads holds links)
    (implies : ∀ {role target}, holds role target → wider role target) : Leads wider links := by
  intro link member
  obtain ⟨role, called, held⟩ := leads link member
  exact ⟨role, called, implies held⟩

end Leads

end Folio
