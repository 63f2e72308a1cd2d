import Folio.Single.Shortest
import Folio.Text.TextString

/-!
The objects of a document file: atoms, arrays, dictionaries and streams.
-/

namespace Folio

/-- The number and the generation of an indirect object. -/
structure Ref where
  number : Nat
  generation : UInt16
deriving DecidableEq, Repr, Inhabited

/-- The reference to an object that was never revised. -/
def Ref.first (number : Nat) : Ref :=
  ⟨number, 0⟩

/-- A name object, such as `/Type`, without its slash. -/
structure Name where
  bytes : Bytes
deriving DecidableEq, Repr, Inhabited

def Name.ofString (text : String) : Name :=
  ⟨utf8 text⟩

instance : Coe String Name := ⟨Name.ofString⟩

mutual

inductive Value where
  | null
  | bool (value : Bool)
  | int (value : Int)
  | real (value : Single)
  | str (bytes : Bytes)
  | name (name : Name)
  | ref (target : Ref)
  | digest (bytes : Bytes)
  | arr (items : List Value)
  | dict (entries : List Entry)
  /-- Bytes that already are the text of an object. -/
  | verbatim (bytes : Bytes)

inductive Entry where
  | field (key : Name) (value : Value)
  /-- A key with an array, which may follow the key without a blank. -/
  | items (key : Name) (values : List Value)
  | raw (bytes : Bytes)

end

instance : Inhabited Value := ⟨.null⟩

namespace Value

def nat (number : Nat) : Value :=
  .int number

def reals (numbers : List Single) : Value :=
  .arr (numbers.map .real)

def refs (targets : List Ref) : Value :=
  .arr (targets.map .ref)

/-- A text that is shown to the reader of the document. -/
def text (text : String) : Value :=
  .str (textString text)

end Value

namespace Entry

def optional (key : Name) : Option Value → List Entry
  | none => []
  | some value => [.field key value]

def unlessEmpty (key : Name) : List Value → List Entry
  | [] => []
  | values => [.items key values]

def kind (name : Name) : Entry :=
  .field "Type" (.name name)

end Entry

/-- What stands between the lines that open and close an indirect object. -/
inductive Body where
  | value (value : Value)
  | stream (head : Value) (data : Bytes)

end Folio
