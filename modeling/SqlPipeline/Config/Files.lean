import SqlPipeline.Text.Encoding
import SqlPipeline.Text.Search
import SqlPipeline.Value.Display

/-!
# Trees of files

A file tree holds the contents of files under their absolute paths; a directory is there when
something lies in it, and the root of the tree always is. A path leads somewhere only if every step
on the way is taken from a directory, so `a.yaml/..` leads nowhere, and neither does the empty path.
When a path leads somewhere, its plain form leads to the same place. A path may be given in bytes; it
leads where its text does, but it cannot be put together with a path that is a text.
-/

namespace SqlPipeline

/-- The contents of a file. -/
inductive Content where
  | text (text : String)
  | bytes (bytes : List UInt8)

namespace Content

/-- A text with every line break as a line feed. -/
def unifyBreaks : List Char → List Char
  | [] => []
  | '\r' :: '\n' :: rest => '\n' :: unifyBreaks rest
  | '\r' :: rest => '\n' :: unifyBreaks rest
  | c :: rest => c :: unifyBreaks rest

/-- The text of a file. -/
def read (content : Content) : Except Text.DecodeError String :=
  let unified (text : String) : String := String.ofList (unifyBreaks text.toList)
  match content with
  | .text written => .ok (unified written)
  | .bytes written => (Text.decode written).map unified

end Content

/-- Files under their absolute paths, and the directory that holds them. -/
structure FileTree where
  root : List String
  files : List (List String × Content)

namespace Path

/-- The names in a path. -/
def names (path : String) : List String :=
  (Text.splitOn '/' path.toList).map String.ofList

/-- Whether a path begins at the top. -/
def isAbsolute (path : String) : Bool :=
  path.toList.head? == some '/'

/-- The path with the given names. -/
def ofNames (names : List String) : String :=
  "/" ++ "/".intercalate names

/-- The way after one more name: an empty name and a point stay, two points step back. -/
def enter (way : List String) (name : String) : List String :=
  if name = "" ∨ name = "." then way else if name = ".." then way.dropLast else way ++ [name]

/-- The names of a path after going through them from the top, without looking at any files. -/
def plainNames (path : String) : List String :=
  (names path).foldl enter []

/-- The plain form of an absolute path: without empty names and without steps back. -/
def plain (path : String) : String := ofNames (plainNames path)

/-- The directory of a plain path. -/
def directory (path : String) : String := ofNames (plainNames path).dropLast

/-- A path as seen from a directory: an absolute path stands for itself. -/
def within (directory path : String) : String :=
  if isAbsolute path then path
  else if directory.toList.getLast? == some '/' then directory ++ path
  else directory ++ "/" ++ path

end Path

/-- A path as it is given: as a text, or in the bytes of one. -/
structure Route where
  path : String
  inBytes : Bool := false
  deriving DecidableEq, Repr

instance : Coe String Route where
  coe path := { path := path }

namespace Route

/-- The bytes of a path. -/
def content (route : Route) : List UInt8 := route.path.toUTF8.data.toList

/-- The plain form of a path. -/
def plain (route : Route) : Route := { route with path := Path.plain route.path }

/-- The directory of a plain path. -/
def directory (route : Route) : Route := { route with path := Path.directory route.path }

/-- A path as a value. -/
def toValue (route : Route) : Value :=
  if route.inBytes then .bytes route.content else .str route.path

/-- A path as it reads in messages. -/
def display (route : Route) : String := route.toValue.display

end Route

namespace FileTree

/-- What a path leads to. -/
inductive Place where
  | directory
  | file (content : Content)

/-- Whether names lead to a directory. -/
def isDirectory (tree : FileTree) (names : List String) : Bool :=
  names.isPrefixOf tree.root ||
    tree.files.any fun (path, _) => names.isPrefixOf path && names.length < path.length

/-- What names lead to. -/
def place? (tree : FileTree) (names : List String) : Option Place :=
  match tree.files.find? fun entry => entry.1 == names with
  | some (_, content) => some (.file content)
  | none => if tree.isDirectory names then some .directory else none

/-- The names reached by going step by step, each step from a directory. -/
def walk (tree : FileTree) : List String → List String → Option (List String)
  | way, [] => if (tree.place? way).isSome then some way else none
  | way, name :: names =>
    if !tree.isDirectory way then none
    else if name = "" ∨ name = "." then walk tree way names
    else if name = ".." then walk tree way.dropLast names
    else walk tree (way ++ [name]) names

/-- Whether a path leads somewhere. -/
def leads (tree : FileTree) (route : Route) : Bool :=
  route.path ≠ "" && (tree.walk [] (Path.names route.path)).isSome

/-- What a path leads to, by its plain form. -/
def look? (tree : FileTree) (route : Route) : Option Place :=
  tree.place? (Path.plainNames route.path)

end FileTree

end SqlPipeline
