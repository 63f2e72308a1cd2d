/-!
The parts of a path to a file.
-/

namespace Folio

namespace Path

def nameChars (path : String) : List Char :=
  (path.toList.reverse.takeWhile (· != '/')).reverse

def fileName (path : String) : String :=
  String.ofList (nameChars path)

/-- The file name up to its last dot; a dot at the very front does not count. -/
def stem (path : String) : String :=
  let chars := nameChars path
  let kept := (chars.reverse.dropWhile (· != '.')).tail.reverse
  String.ofList (if kept.isEmpty || chars = ['.', '.'] then chars else kept)

end Path

end Folio
