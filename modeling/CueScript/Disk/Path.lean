import CueScript.Text.Lower

set_option autoImplicit false

namespace CueScript

namespace Path

inductive Component where
  | root
  | here
  | up
  | name (s : String)
deriving DecidableEq, Repr

def isAbsolute (path : String) : Bool :=
  path.toList.head? == some '/'

/-- A path inside a directory; an absolute path stands for itself. -/
def join (dir path : String) : String :=
  if isAbsolute path || dir.isEmpty then path
  else if dir.toList.getLast? == some '/' then dir ++ path
  else dir ++ "/" ++ path

def normalize (path : String) : String :=
  String.ofList (path.toList.map fun c => if c = '\\' then '/' else c)

def split : List Char → List (List Char)
  | [] => [[]]
  | c :: rest =>
    if c = '/' then [] :: split rest
    else match split rest with
      | [] => [[c]]
      | part :: parts => (c :: part) :: parts

def parts (path : String) : List String :=
  ((split path.toList).filter (!·.isEmpty)).map String.ofList

def Component.ofPart (part : String) : Component :=
  if part = ".." then .up else .name part

/-- The components of a path. Repeated separators count once, and a `.` only at the start of a relative path. -/
def components (path : String) : List Component :=
  let rest := ((parts path).filter (· ≠ ".")).map Component.ofPart
  if isAbsolute path then .root :: rest
  else if (parts path).head? == some "." then .here :: rest
  else rest

def Component.text : Component → String
  | .root => "/"
  | .here => "."
  | .up => ".."
  | .name s => s

def ofComponents (components : List Component) : String :=
  components.foldl (fun path c => join path c.text) ""

def head (path : String) : String :=
  if isAbsolute path then "/" else if (split path.toList).head? == some ['.'] then "." else ""

def isIdle (part : List Char) : Bool :=
  part.isEmpty || part == ['.']

def glue (parts : List (List Char)) : List Char :=
  List.intercalate ['/'] parts

/-- The path without its last name or `..`, as it is written but for what names nothing at its end. -/
def parent? (path : String) : Option String :=
  let before := head path
  let parts := (split (path.toList.drop before.length)).reverse.dropWhile isIdle
  match parts with
  | [] => if before = "." then some "" else none
  | _ :: rest => some (before ++ String.ofList (glue (rest.dropWhile isIdle).reverse))

end Path

end CueScript
