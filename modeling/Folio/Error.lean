import Folio.Id
import Folio.Text.Lossy
import Folio.Text.Quoted

/-!
What can go wrong while a document is built, read into or written, and the wording of each cause.
-/

namespace Folio

/-- Why the header of a colour profile cannot be used. -/
inductive ProfileError where
  | tooShort (size : Nat)
  | badSignature
  | unsupportedSpace (signature : Bytes)
deriving DecidableEq, Repr

/-- How image samples contradict what they are used for. -/
inductive ImageFault where
  /-- There are more samples than a machine word can count. -/
  | tooManySamples
  | samples (expected found : Nat)
  | alphaSamples (expected found : Nat)
  | bilevelRows (expected found : Nat)
  | notBilevel
deriving DecidableEq, Repr

inductive LoadError where
  | unreadable
  | font
  | subset (reason : String)
  | image
  | invalidImage (fault : ImageFault)
  | profile (error : ProfileError)
deriving DecidableEq, Repr

inductive Error where
  /-- A resource, usually named by its path, could not be loaded. -/
  | load (what : String) (cause : LoadError)
  | unknownResource (kind : Kind) (id : Nat)
  | alreadyUsed (kind : Kind) (id page : Nat)
  | unknownParent (kind : Kind) (id : Nat)
  | glyphNotFound (font point : Nat)
  /-- The destination took no more bytes, or a file could not be read. -/
  | io
  | options
deriving DecidableEq, Repr

def hexPoint (point : Nat) : String :=
  String.ofList (((Nat.toDigits 16 point).map Char.toUpper).leftpad 4 '0')

namespace ProfileError

def message : ProfileError → String
  | .tooShort size => "Profile too short (" ++ toString size ++ " bytes)"
  | .badSignature => "Missing profile file signature"
  | .unsupportedSpace signature =>
      "Unsupported data color space " ++ quoted (Utf8.decodeLossy signature)

end ProfileError

namespace ImageFault

def message : ImageFault → String
  | .tooManySamples => "too many samples"
  | .samples expected found =>
      "expected " ++ toString expected ++ " samples, got " ++ toString found
  | .alphaSamples expected found =>
      "expected " ++ toString expected ++ " alpha samples, got " ++ toString found
  | .bilevelRows expected found =>
      "expected " ++ toString expected ++ " bytes of 1-bit rows, got " ++ toString found
  | .notBilevel => "a mask needs one bit per pixel"

end ImageFault

namespace LoadError

def message : LoadError → String
  | .unreadable => "Failed IO"
  | .font => "Malformed font file"
  | .subset reason => "Font subsetting failed: " ++ reason
  | .image => "Malformed image"
  | .invalidImage fault => "Invalid image data: " ++ fault.message
  | .profile error => "Malformed ICC profile: " ++ error.message

end LoadError

namespace Error

def message : Error → String
  | .load what _ => "Failed to load " ++ what
  | .unknownResource kind id => "Unknown " ++ kind.name ++ " #" ++ toString id
  | .alreadyUsed kind id page =>
      kind.name ++ " #" ++ toString id ++ " is already used on page #" ++ toString page
  | .unknownParent kind id => "Unknown parent " ++ kind.name ++ " #" ++ toString id
  | .glyphNotFound font point =>
      "Font #" ++ toString font ++ " has no glyph for U+" ++ hexPoint point
  | .io => "IO Error"
  | .options => "Deserialize Error"

end Error

end Folio
