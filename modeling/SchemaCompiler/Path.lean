import SchemaCompiler.Dialect
import SchemaCompiler.Text.Lines

/-!
# Paths

A path is a text whose pieces are separated by slashes. Empty pieces and single dots say nothing,
except for a dot at the start of a relative path. Paths are compared piece by piece, so that what
lies in a directory stays together.
-/

namespace SchemaCompiler.Path

/-- The pieces between the slashes of a list of characters. -/
def splitSlashes : List Char → List (List Char)
  | [] => [[]]
  | c :: rest =>
    match splitSlashes rest with
    | [] => [[c]]
    | piece :: pieces => if c == '/' then [] :: piece :: pieces else (c :: piece) :: pieces

/-- The pieces of a path that are not empty. -/
def pieces (path : String) : List String :=
  ((splitSlashes path.toList).filter (fun piece => !piece.isEmpty)).map String.ofList

/-- Whether a path starts at the root. -/
def isAbsolute (path : String) : Bool :=
  Text.startsWith path "/"

/-- Whether a path says that it leads to a directory. -/
def endsInSlash (path : String) : Bool :=
  Text.endsWith path "/"

/-- The path of a file in a directory. An absolute file stands for itself. -/
def join (directory file : String) : String :=
  if isAbsolute file then file
  else if directory.isEmpty || endsInSlash directory then directory ++ file
  else directory ++ "/" ++ file

/-- A part of a path that says something. -/
inductive Component where
  /-- The root. -/
  | root
  /-- The working directory, at the start of a relative path. -/
  | here
  /-- The directory above. -/
  | above
  /-- An entry of a directory. -/
  | name (s : String)
deriving DecidableEq, Repr

/-- The component of a piece; a single dot has none. -/
def component? (piece : String) : Option Component :=
  if piece == "." then none
  else if piece == ".." then some .above
  else some (.name piece)

/-- The components of a path. -/
def components (path : String) : List Component :=
  let start : List Component :=
    if isAbsolute path then [.root]
    else if (pieces path).head? == some "." then [.here]
    else []
  start ++ (pieces path).filterMap component?

/-- The piece of a component. -/
def Component.piece : Component → String
  | root => ""
  | here => "."
  | above => ".."
  | name s => s

/-- The path with the given components. -/
def ofComponents : List Component → String
  | [.root] => "/"
  | cs => "/".intercalate (cs.map Component.piece)

/-- The path without its last component. The root has none to lose, nor has the empty path. -/
def parent? (path : String) : Option String :=
  match (components path).getLast? with
  | none | some .root => none
  | some _ => some (ofComponents (components path).dropLast)

/-- A path with all those that it lies in, from the inside out. -/
def ancestorsFrom : Nat → String → List String
  | 0, path => [path]
  | fuel + 1, path =>
    match parent? path with
    | none => [path]
    | some above => path :: ancestorsFrom fuel above

/-- A path with all those that it lies in, from the inside out. -/
def ancestors (path : String) : List String :=
  ancestorsFrom (components path).length path

/-- The last component, if it is a name. -/
def fileName? (path : String) : Option String :=
  match (components path).getLast? with
  | some (.name s) => some s
  | _ => none

/-- What follows the last dot of the file name, unless nothing stands before that dot. -/
def extension? (path : String) : Option String :=
  match fileName? path with
  | none => none
  | some name =>
    let backwards := name.toList.reverse
    let ending := backwards.takeWhile (· != '.')
    match backwards.drop ending.length with
    | _dot :: _ :: _ => some (String.ofList ending.reverse)
    | _ => none

/-- Drops slashes and single dots from the end of a path, whose characters come last first. -/
def dropIdle : List Char → List Char
  | '/' :: rest => dropIdle rest
  | '.' :: '/' :: rest => dropIdle rest
  | cs => cs

/-- A path with an extension added to its file name. What follows the file name is dropped. -/
def addExtension? (extension path : String) : Option String :=
  (fileName? path).map (fun _ =>
    String.ofList (dropIdle path.toList.reverse).reverse ++ "." ++ extension)

/-- The dialect of a file, told by its extension. -/
def dialect? (path : String) : Option Dialect :=
  match extension? path with
  | some "xml" => some .tree
  | some "yml" => some .flat
  | some "yaml" => some .flat
  | _ => none

/-! ### Order -/

/-- The rank of a kind of component. -/
def Component.rank : Component → Nat
  | root => 0
  | here => 1
  | above => 2
  | name _ => 3

/-- The order of components: by kind, names by their characters. -/
def Component.order : Component → Component → Ordering
  | name a, name b => compare a b
  | a, b => compare a.rank b.rank

/-- The order of lists of components. -/
def orderComponents : List Component → List Component → Ordering
  | [], [] => .eq
  | [], _ :: _ => .lt
  | _ :: _, [] => .gt
  | a :: as, b :: bs => (a.order b).then (orderComponents as bs)

/-- Whether a path comes before another or beside it. -/
def precedes (a b : String) : Bool :=
  (orderComponents (components a) (components b)).isLE

end SchemaCompiler.Path
