import Folio.Digest.Md5
import Folio.Value

/-!
Tags of font subsets: six letters, drawn from a digest of font and subset, before the font name.
-/

namespace Folio

namespace SubsetTag

def letter (byte : UInt8) : UInt8 :=
  0x41 + byte % 26

def tag (font subset : Nat) : Bytes :=
  ((Md5.digest (littleEndian 4 font ++ littleEndian 8 subset)).take 6).map letter

def baseFont (font subset : Nat) (name : String) : Name :=
  ⟨tag font subset ++ 0x2B :: utf8 name⟩

end SubsetTag

end Folio
