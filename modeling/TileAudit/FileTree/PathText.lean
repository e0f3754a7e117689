/-!
# Path texts

Paths as they are written: joining two of them, and the parts of one. A path keeps its text;
only joining adds a slash where one is needed.
-/

namespace TileAudit
namespace PathText

def isAbsolute (path : String) : Bool :=
  path.toList.head? = some '/'

def endsInSlash (path : String) : Bool :=
  path.toList.getLast? = some '/'

/-- A path and a path within it. A slash comes between unless the left side is empty or ends in
one. An absolute right side stands for itself. -/
def join (left right : String) : String :=
  if isAbsolute right then right
  else if left.isEmpty || endsInSlash left then left ++ right
  else left ++ "/" ++ right

def pieces : List Char → List (List Char)
  | [] => [[]]
  | c :: rest =>
      if c = '/' then [] :: pieces rest
      else
        match pieces rest with
        | [] => [[c]]
        | piece :: more => (c :: piece) :: more

def names (path : String) : List String :=
  ((pieces path.toList).filter fun piece => !piece.isEmpty).map String.ofList

/-- A path that says that it names a directory. -/
def wantsDirectory (path : String) : Bool :=
  endsInSlash path || (names path).getLast? = some "."

def fileName? (path : String) : Option String :=
  match ((names path).filter fun name => name ≠ ".").getLast? with
  | some ".." => none
  | last => last

/-- The part of a file name after its last point, if something stands before the point. -/
def extension? (path : String) : Option String := do
  let name ← fileName? path
  let reversed := name.toList.reverse
  let suffix := reversed.takeWhile (· ≠ '.')
  match reversed.dropWhile (· ≠ '.') with
  | _ :: _ :: _ => some (String.ofList suffix.reverse)
  | _ => none

end PathText
end TileAudit
