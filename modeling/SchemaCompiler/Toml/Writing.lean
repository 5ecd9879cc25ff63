import SchemaCompiler.Settings.Value

/-!
# Settings as TOML

The pretty form of settings: pairs first, then each table under its header after an empty line. A
list of two or more items has one item on a line. A text stands between the plainest quotes that can
hold it: one line with escapes if it needs none, one line without escapes, several lines, and
escapes only where nothing else will do.
-/

namespace SchemaCompiler.Toml

/-- Whether a character can only be written as an escape. -/
def needsEscape (c : Char) : Bool :=
  (c.toNat < 0x20 || c.toNat == 0x7f) && c != '\t' && c != '\n'

/-- The length of the longest run of a character. -/
def longestRun (quote : Char) : List Char → Nat → Nat → Nat
  | [], run, longest => max run longest
  | c :: rest, run, longest =>
    if c == quote then longestRun quote rest (run + 1) longest
    else longestRun quote rest 0 (max run longest)

/-- The four ways to quote a text. -/
inductive Quotes where
  /-- One line, with escapes. -/
  | basic
  /-- One line, without escapes. -/
  | literal
  /-- Several lines, with escapes. -/
  | longBasic
  /-- Several lines, without escapes. -/
  | longLiteral
deriving DecidableEq, Repr

/-- The quotes for a text. -/
def quotesFor (cs : List Char) : Quotes :=
  let control := cs.any needsEscape
  let backslash := cs.contains '\\'
  let newline := cs.contains '\n'
  let doubles := longestRun '"' cs 0 0
  let singles := longestRun '\x27' cs 0 0
  if !control && !backslash && doubles == 0 && !newline then .basic
  else if !control && singles == 0 && !newline then .literal
  else if !control && !backslash && doubles ≤ 2 then .longBasic
  else if !control && singles ≤ 2 then .longLiteral
  else if newline then .longBasic
  else .basic

/-- The digits of a number in base sixteen, at least four. -/
def fourDigits (n : Nat) : List Char :=
  let digits := (Nat.toDigits 16 n).map Char.toUpper
  List.replicate (4 - digits.length) '0' ++ digits

/-- A character between quotes with escapes. -/
def escapeChar (long : Bool) (c : Char) : List Char :=
  if c == '\x08' then ['\\', 'b']
  else if c == '\t' then ['\\', 't']
  else if c == '\n' then (if long then ['\n'] else ['\\', 'n'])
  else if c == '\x0c' then ['\\', 'f']
  else if c == '\r' then ['\\', 'r']
  else if c == '\\' then ['\\', '\\']
  else if needsEscape c then '\\' :: 'u' :: fourDigits c.toNat
  else [c]

/-- The characters of a text between quotes with escapes. On several lines two quotes in a row may
stand as they are. -/
def escapeFrom (long : Bool) (quotes : Nat) : List Char → List Char
  | [] => []
  | c :: rest =>
    if c == '"' then
      if (if long then 2 else 0) < quotes + 1 then '\\' :: '"' :: escapeFrom long 0 rest
      else '"' :: escapeFrom long (quotes + 1) rest
    else escapeChar long c ++ escapeFrom long 0 rest

/-- A text in its quotes. -/
def quoted (s : String) : List Char :=
  let cs := s.toList
  let opening := if cs.contains '\n' then ['\n'] else []
  let double := ['"', '"', '"']
  let single := ['\x27', '\x27', '\x27']
  match quotesFor cs with
  | .basic => '"' :: escapeFrom false 0 cs ++ ['"']
  | .literal => '\x27' :: cs ++ ['\x27']
  | .longBasic => double ++ opening ++ escapeFrom true 0 cs ++ double
  | .longLiteral => single ++ opening ++ cs ++ single

/-- A list, given the texts of its items. -/
def shownList (items : List (List Char)) : List Char :=
  match items with
  | [] => ['[', ']']
  | [item] => '[' :: item ++ [']']
  | _ => '[' :: items.flatMap (fun item => "\n    ".toList ++ item ++ [',']) ++ ['\n', ']']

/-- A value on the right of an equals sign; tables are not written there. -/
def shownValue : Setting → List Char
  | .text s => quoted s
  | .list items =>
    shownList (items.map (fun item =>
      match item with
      | .text s => quoted s
      | v => (v.shown?.getD "").toList))
  | v => (v.shown?.getD "").toList

/-- The line of a pair. -/
def pairLine (p : String × Setting) : List Char :=
  p.1.toList ++ " = ".toList ++ shownValue p.2 ++ ['\n']

/-- Whether a value is a table. -/
def isTable : Setting → Bool
  | .table _ => true
  | _ => false

/-- A table under its header. -/
def tableText (p : String × Setting) : List Char :=
  match p.2 with
  | .table pairs => "\n[".toList ++ p.1.toList ++ "]\n".toList ++ pairs.flatMap pairLine
  | _ => []

/-- The text of settings whose tables hold no tables themselves and whose names need no quotes. -/
def write (pairs : List (String × Setting)) : String :=
  String.ofList
    ((pairs.filter (fun p => !isTable p.2)).flatMap pairLine ++
      (pairs.filter (fun p => isTable p.2)).flatMap tableText)

end SchemaCompiler.Toml
