import SchemaCompiler.Settings.Value

/-!
# Tables under construction

A table may be opened by a header, by a header of a table inside it, by a dotted key, or it may
stand in braces. How it was opened decides what may be added to it later: nothing may be defined
twice, a table in braces is complete, and a table of one sort is not extended by the means of
another.
-/

namespace SchemaCompiler.Toml

/-- How a table was opened. -/
inductive Origin where
  /-- By a header of its own, or it is the outermost table. -/
  | header
  /-- By the header of a table inside it. -/
  | outer
  /-- By a dotted key. -/
  | dotted
deriving DecidableEq, Repr

/-- What stands under a name while a document is read. -/
inductive Item where
  /-- A value. -/
  | value (v : Setting)
  /-- A table. -/
  | table (origin : Origin) (entries : List (String × Item))
  /-- A list of tables, each opened by a header; the latest comes first. -/
  | tables (latestFirst : List (List (String × Item)))
deriving Inhabited

/-- The entries of a table. -/
abbrev Entries := List (String × Item)

namespace Item

mutual

/-- The value that an item stands for. -/
def setting : Item → Setting
  | .value v => v
  | .table _ entries => .table (settings entries)
  | .tables latestFirst => .list (settingsEach latestFirst).reverse

/-- The values that entries stand for. -/
def settings : List (String × Item) → List (String × Setting)
  | [] => []
  | (name, item) :: rest => (name, item.setting) :: settings rest

/-- The tables that lists of entries stand for. -/
def settingsEach : List (List (String × Item)) → List Setting
  | [] => []
  | entries :: rest => .table (settings entries) :: settingsEach rest

end

end Item

namespace Entries

/-- Replaces the item under a name, or adds it at the end. -/
def put (name : String) (item : Item) : Entries → Entries
  | [] => [(name, item)]
  | p :: rest => if p.1 == name then (name, item) :: rest else p :: put name item rest

/-- Changes the table at the end of a path of names; missing tables are opened on the way. Lists of
tables are entered at their latest table. The change is told how the table was opened. -/
def alterAt (change : Origin → Entries → Option Entries) (opens : Origin) :
    List String → Origin → Entries → Option Entries
  | [], origin, entries => change origin entries
  | name :: path, _, entries =>
    match entries.lookup name with
    | none =>
      (alterAt change opens path opens []).map
        (fun inner => put name (.table opens inner) entries)
    | some (.value _) => none
    | some (.table origin inner) =>
      if opens == .dotted && origin == .header then none
      else
        (alterAt change opens path origin inner).map
          (fun inner => put name (.table origin inner) entries)
    | some (.tables []) => none
    | some (.tables (latest :: earlier)) =>
      (alterAt change opens path .header latest).map
        (fun inner => put name (.tables (inner :: earlier)) entries)

/-- Adds a value under a name that is still free. -/
def addNew (name : String) (v : Setting) (entries : Entries) : Option Entries :=
  if (entries.lookup name).isSome then none else some (entries ++ [(name, .value v)])

/-- Adds a value under a key. The tables of a dotted key are its own: it does not extend tables that
were opened by headers. -/
def addValue (key : List String) (v : Setting) (entries : Entries) : Option Entries :=
  match key.getLast? with
  | none => none
  | some name =>
    let path := key.dropLast
    alterAt (fun origin inner =>
        if !path.isEmpty && origin != .dotted then none else addNew name v inner)
      .dotted path .header entries

/-- Opens a table by a header. It must not have been opened before, except by the header of a table
inside it; then it moves behind the entries beside it. -/
def openTable (key : List String) (entries : Entries) : Option Entries :=
  match key.getLast? with
  | none => none
  | some name =>
    alterAt (fun _ inner =>
        match inner.lookup name with
        | none => some (inner ++ [(name, .table .header [])])
        | some (.table .outer content) =>
          some (inner.filter (·.1 != name) ++ [(name, .table .header content)])
        | some _ => none)
      .outer key.dropLast .header entries

/-- Opens a further table of a list of tables by a header. -/
def openListed (key : List String) (entries : Entries) : Option Entries :=
  match key.getLast? with
  | none => none
  | some name =>
    alterAt (fun _ inner =>
        match inner.lookup name with
        | none => some (inner ++ [(name, .tables [[]])])
        | some (.tables latestFirst) => some (put name (.tables ([] :: latestFirst)) inner)
        | some _ => none)
      .outer key.dropLast .header entries

/-- Adds a value under a key of the table that a header opened. -/
def addUnder (header : List String) (key : List String) (v : Setting) (entries : Entries) :
    Option Entries :=
  alterAt (fun _ inner => addValue key v inner) .outer header .header entries

end Entries

end SchemaCompiler.Toml
