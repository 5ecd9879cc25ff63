import SchemaCompiler.Settings.Value
import SchemaCompiler.Text.CaseMap
import SchemaCompiler.Text.Lines

/-!
# Layers of settings

Settings come in layers, of which later ones win, name by name: tables are merged and all else is
replaced. Names do not depend on case. The outermost names of a layer may be paths: names that are
joined by dots, and numbers in brackets that choose an item of a list.

Environment variables are a layer: those that start with a given word and two underscores. Two
underscores in the rest of the name lead into a table. A value that looks like a truth value or a
number is one.
-/

namespace SchemaCompiler.Settings

/-- Replaces the value under a name, or adds it. -/
def put (name : String) (v : Setting) : List (String × Setting) → List (String × Setting)
  | [] => [(name, v)]
  | p :: rest => if p.1 == name then (name, v) :: rest else p :: put name v rest

mutual

/-- Sets a value under a name of a table. A table is merged into the one that is there, and what is
no table becomes one if it is given an entry. -/
def set (v : Setting) (name : String) (root : Setting) : Setting :=
  let key := Text.toLowercase name
  let pairs := match root with
    | .table pairs => pairs
    | _ => []
  match v with
  | .table incoming =>
    .table (put key (setAll incoming ((pairs.lookup key).getD (.table []))) pairs)
  | v => .table (put key v pairs)

/-- Sets all values of a table. -/
def setAll : List (String × Setting) → Setting → Setting
  | [], root => root
  | (name, v) :: rest, root => setAll rest (set v name root)

end

/-! ### Paths -/

/-- One step of a path. -/
inductive Step where
  /-- To the value under a name of a table. -/
  | name (s : String)
  /-- To an item of a list. Numbers below zero count from its end. -/
  | index (i : Int)
deriving DecidableEq, Repr

/-- The position that a number chooses in a list of some length. -/
def position (i : Int) (length : Nat) : Nat :=
  if i < 0 then length - i.natAbs else i.natAbs

/-- A list that reaches to a position at least, with no values at its end if need be. -/
def reachTo (n : Nat) (items : List Setting) : List Setting :=
  items ++ List.replicate (n + 1 - items.length) .null

/-- Sets a value at the end of a path. What is no table on the way becomes one if the path goes on
with a name, and what is no list becomes one if it goes on with a number. -/
def setAt (v : Setting) : List Step → Setting → Setting
  | [], _ => v
  | [.name s], root => set v s root
  | .name s :: path, root =>
    let key := Text.toLowercase s
    let pairs := match root with
      | .table pairs => pairs
      | _ => []
    .table (put key (setAt v path ((pairs.lookup key).getD .null)) pairs)
  | .index i :: path, root =>
    let items := match root with
      | .list items => items
      | _ => []
    let n := position i items.length
    .list ((reachTo n items).set n (setAt v path (items.getD n .null)))

/-- The characters of a name in a path. -/
def isNameChar (c : Char) : Bool :=
  c.isAlphanum || c == ' ' || c == '_' || c == '-'

/-- The characters that may surround the number of an index. -/
def isGapChar (c : Char) : Bool :=
  c == ' ' || c == '\t'

/-- The greatest and smallest whole numbers of settings. -/
def wholeRange : Int × Int :=
  (-(Int.pow 2 63), Int.pow 2 63 - 1)

/-- The name at the start of some characters, and the characters after it. -/
def nameStep? (cs : List Char) : Option (Step × List Char) :=
  let word := cs.takeWhile isNameChar
  if word.isEmpty then none else some (.name (String.ofList word), cs.drop word.length)

/-- The index that some characters start with from after its bracket, and the characters after
it. -/
def indexStep? (cs : List Char) : Option (Step × List Char) :=
  let start := cs.dropWhile isGapChar
  let number := start.takeWhile (fun c => c != ']' && !isGapChar c)
  match number.head?, (start.drop number.length).dropWhile isGapChar with
  | some first, ']' :: rest =>
    if first == '+' then none
    else
      (Decimal.integerBetween? wholeRange.1 wholeRange.2 (String.ofList number)).map
        (fun i => (.index i, rest))
  | _, _ => none

/-- The steps after the first one, up to the end of the characters. -/
def furtherSteps? : Nat → List Char → Option (List Step)
  | _, [] => some []
  | 0, _ => none
  | fuel + 1, mark :: rest =>
    let step? := if mark == '.' then nameStep? rest
      else if mark == '[' then indexStep? rest
      else none
    match step? with
    | none => none
    | some (step, rest) => (furtherSteps? fuel rest).map (step :: ·)

/-- The path that an outermost name stands for; the name itself if it is no path. -/
def steps (name : String) : List Step :=
  let path? : Option (List Step) := do
    let (first, rest) ← nameStep? name.toList
    (furtherSteps? rest.length rest).map (first :: ·)
  path?.getD [.name name]

/-- Lays a layer over settings. -/
def layOver (layer : List (String × Setting)) (base : Setting) : Setting :=
  layer.foldl (fun root p => setAt p.2 (steps p.1) root) base

/-! ### Environment variables -/

/-- The value of a variable. -/
def variableValue (s : String) : Setting :=
  let lower := Text.toLowercase s
  if lower == "true" then .bool true
  else if lower == "false" then .bool false
  else
    match Decimal.integerBetween? wholeRange.1 wholeRange.2 s with
    | some n => .int n
    | none =>
      match Decimal.Binary64.ofText? s with
      | some x => .float x
      | none => .text s

/-- The layer of environment variables that start with a word. -/
def ofVariables (word : String) (environment : List (String × String)) : List (String × Setting) :=
  let start := Text.toLowercase word ++ "__"
  environment.filterMap (fun p =>
    let name := Text.toLowercase p.1
    if Text.startsWith name start then
      let rest := String.ofList (name.toList.drop start.length)
      some (Text.replaceAll "__" "." rest, variableValue p.2)
    else none)

end SchemaCompiler.Settings
