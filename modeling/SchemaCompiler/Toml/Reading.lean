import SchemaCompiler.Toml.Moment
import SchemaCompiler.Toml.Number
import SchemaCompiler.Toml.Table

/-!
# Settings from TOML

A document is read line by line: a header opens a table, a pair adds a value to the table that was
opened last, and other lines hold at most a comment. `Toml.read?` gives the table that a text stands
for, or nothing if the text is no good.
-/

namespace SchemaCompiler.Toml

/-! ### Values -/

/-- A truth value. -/
def truth? : List Char → Read Setting
  | 't' :: 'r' :: 'u' :: 'e' :: rest => some (.bool true, rest)
  | 'f' :: 'a' :: 'l' :: 's' :: 'e' :: rest => some (.bool false, rest)
  | _ => none

/-- A value that is no collection. -/
def scalar? (cs : List Char) : Read Setting :=
  match cs with
  | '"' :: _ | '\x27' :: _ => (text? cs).map (fun p => (.text p.1, p.2))
  | 't' :: _ | 'f' :: _ => truth? cs
  | _ =>
    match moment? .written cs with
    | some (m, rest) => some (.moment m, rest)
    | none => (fraction? cs).or (whole? cs)

mutual

/-- A value. Collections may be opened down to some depth only. -/
def value? : Nat → Nat → List Char → Read Setting
  | 0, _, _ => none
  | fuel + 1, depth, cs =>
    match cs with
    | '[' :: rest =>
      if depth == 0 then none
      else (items? fuel (depth - 1) rest).map (fun p => (.list p.1, p.2))
    | '\x7b' :: rest =>
      if depth == 0 then none
      else
        match skipBlanks rest with
        | '\x7d' :: rest => some (.table [], rest)
        | rest =>
          (pairs? fuel (depth - 1) [] rest).map (fun p => (.table (Item.settings p.1), p.2))
    | _ => scalar? cs

/-- The items of a list up to its end. A comma may follow the last one. -/
def items? : Nat → Nat → List Char → Read (List Setting)
  | 0, _, _ => none
  | fuel + 1, depth, cs =>
    match skipLines (cs.length + 1) cs with
    | ']' :: rest => some ([], rest)
    | cs =>
      match value? fuel depth cs with
      | none => none
      | some (v, rest) =>
        match skipLines (rest.length + 1) rest with
        | ']' :: rest => some ([v], rest)
        | ',' :: rest => (items? fuel depth rest).map (fun p => (v :: p.1, p.2))
        | _ => none

/-- The pairs of a table in braces up to its end. -/
def pairs? : Nat → Nat → Entries → List Char → Read Entries
  | 0, _, _, _ => none
  | fuel + 1, depth, entries, cs =>
    match key? cs with
    | some (key, '=' :: rest) =>
      match value? fuel depth (skipBlanks rest) with
      | none => none
      | some (v, rest) =>
        match entries.addValue key v, skipBlanks rest with
        | some entries, '\x7d' :: rest => some (entries, rest)
        | some entries, ',' :: rest => pairs? fuel depth entries rest
        | _, _ => none
    | _ => none

end

/-! ### Documents -/

/-- A document that is being read. -/
structure Draft where
  /-- What it holds so far. -/
  entries : Entries := []
  /-- The path of the table that was opened last. -/
  header : List String := []

/-- The rest of a line after its content: blanks, perhaps a comment, and the end of the line. -/
def lineEnd? (cs : List Char) : Option (List Char) :=
  match skipComment (skipBlanks cs) with
  | [] => some []
  | rest => lineBreak? rest

/-- A header from after its opening brackets. -/
def header? (closing : List Char) (cs : List Char) : Read (List String) :=
  match key? cs with
  | none => none
  | some (key, rest) =>
    if closing.isPrefixOf rest then some (key, rest.drop closing.length) else none

/-- One line. -/
def line? (d : Draft) (cs : List Char) : Option (Draft × List Char) :=
  match skipBlanks cs with
  | [] => some (d, [])
  | '[' :: '[' :: rest =>
    match header? [']', ']'] rest with
    | none => none
    | some (key, rest) => do
      let entries ← d.entries.openListed key
      let rest ← lineEnd? rest
      some ({ entries, header := key }, rest)
  | '[' :: rest =>
    match header? [']'] rest with
    | none => none
    | some (key, rest) => do
      let entries ← d.entries.openTable key
      let rest ← lineEnd? rest
      some ({ entries, header := key }, rest)
  | c :: rest =>
    match lineEnd? (c :: rest) with
    | some rest => some (d, rest)
    | none =>
      match key? (c :: rest) with
      | some (key, '=' :: rest) => do
        let (v, rest) ← value? (rest.length + 1) maxDepth (skipBlanks rest)
        let entries ← d.entries.addUnder d.header key v
        let rest ← lineEnd? rest
        some ({ d with entries }, rest)
      | _ => none

/-- All lines from some place on. -/
def lines? : Nat → Draft → List Char → Option Draft
  | _, d, [] => some d
  | 0, _, _ => none
  | fuel + 1, d, cs =>
    match line? d cs with
    | none => none
    | some (d, rest) => lines? fuel d rest

/-- The table that a text stands for. A byte order mark at its start is passed over. -/
def read? (s : String) : Option Setting :=
  let cs := match s.toList with
    | '\uFEFF' :: rest => rest
    | cs => cs
  (lines? (cs.length + 1) {} cs).map (fun d => .table (Item.settings d.entries))

end SchemaCompiler.Toml
