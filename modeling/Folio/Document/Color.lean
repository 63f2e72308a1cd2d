import Folio.Document

/-!
Colour spaces of a document, and the conditions of printing that it is meant for.
-/

namespace Folio

namespace Document

def loadProfile (bytes : Bytes) : Build (Id .iccColorSpace) := do
  let doc ← get
  let (id, colors, store) ← Build.ofExcept (doc.colors.loadProfile doc.store bytes)
  set { doc with colors, store }
  return id

def addLab (params : Dictionary.LabParams) : Build (Id .labColorSpace) :=
  modifyGet fun doc =>
    let (id, colors, store) := doc.colors.addLab doc.store params
    (id, { doc with colors, store })

/-- Adds a colorant with the colour that stands in for it. -/
def addSeparation (name : String) (fallback : Color) : Build (Id .separation) :=
  modifyGet fun doc =>
    let (id, colors, store) := doc.colors.addSeparation doc.store name fallback
    (id, { doc with colors, store })

def setOutputIntent (intent : OutputIntent) : Build Unit := do
  let doc ← get
  if let some profile := intent.profile then
    let _ ← Build.ofExcept (doc.colors.profileRef profile)
  set { doc with outputIntent := some intent }

def profileRef (doc : Document) (id : Id .iccColorSpace) : Except Error Ref :=
  doc.colors.profileRef id

def labRef (doc : Document) (id : Id .labColorSpace) : Except Error Ref :=
  doc.colors.labRef id

def separationRef (doc : Document) (id : Id .separation) : Except Error Ref :=
  doc.colors.separationRef id

end Document

end Folio
