/-!
# Lines, pieces and replacement

Cutting a text into lines, at a first occurrence, or around every occurrence of a pattern. All of
it is defined on lists of characters, where each function recurses on the list it consumes.
-/

namespace SchemaCompiler.Text

/-- Splits a list of characters at every line feed; the pieces hold none. -/
def splitLines : List Char → List (List Char)
  | [] => [[]]
  | c :: rest =>
    match splitLines rest with
    | [] => [[c]]
    | line :: lines => if c == '\n' then [] :: line :: lines else (c :: line) :: lines

/-- Drops one carriage return at the end of a line. -/
def dropReturn (cs : List Char) : List Char :=
  match cs.reverse with
  | '\r' :: rest => rest.reverse
  | _ => cs

/-- The lines of a text. A line ends at a line feed, together with a carriage return right before
it, and a text that ends in a line feed has no further empty line. -/
def lines (s : String) : List String :=
  let pieces := splitLines s.toList
  let last := pieces.getLast?.getD []
  let ended := pieces.dropLast.map dropReturn
  ((if last.isEmpty then ended else ended ++ [last])).map String.ofList

/-- What stands before and after the first occurrence of a pattern. -/
def cutChars (pattern : List Char) : List Char → Option (List Char × List Char)
  | [] => if pattern.isEmpty then some ([], []) else none
  | c :: rest =>
    if pattern.isPrefixOf (c :: rest) then some ([], (c :: rest).drop pattern.length)
    else (cutChars pattern rest).map (fun p => (c :: p.1, p.2))

/-- What stands before and after the first occurrence of a pattern in a text. -/
def cut (pattern : String) (s : String) : Option (String × String) :=
  (cutChars pattern.toList s.toList).map (fun p => (String.ofList p.1, String.ofList p.2))

/-- Replaces every occurrence of a pattern from the left, after passing over `skip` characters. -/
def replaceFrom (pattern replacement : List Char) : Nat → List Char → List Char
  | _, [] => []
  | skip + 1, _ :: rest => replaceFrom pattern replacement skip rest
  | 0, c :: rest =>
    if pattern.isPrefixOf (c :: rest) then
      replacement ++ replaceFrom pattern replacement (pattern.length - 1) rest
    else c :: replaceFrom pattern replacement 0 rest

/-- Replaces every occurrence of a pattern. The empty pattern occurs before each character and at
the end. -/
def replaceAll (pattern replacement : String) (s : String) : String :=
  if pattern.isEmpty then
    String.ofList (replacement.toList ++ s.toList.flatMap (fun c => c :: replacement.toList))
  else String.ofList (replaceFrom pattern.toList replacement.toList 0 s.toList)

/-- Whether a text starts with another one. -/
def startsWith (s start : String) : Bool :=
  start.toList.isPrefixOf s.toList

/-- Whether a text ends with another one. -/
def endsWith (s ending : String) : Bool :=
  ending.toList.isSuffixOf s.toList

end SchemaCompiler.Text
