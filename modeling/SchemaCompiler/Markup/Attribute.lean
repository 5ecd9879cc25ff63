import SchemaCompiler.Markup.Escape

/-!
# Attributes of a tag

Attributes follow the name of a tag: a name up to an equals sign or blank, the equals sign, and a
value between quotes of either kind. Blanks may stand around the equals sign, and none is needed
between attributes. No name may occur twice.
-/

namespace SchemaCompiler.Markup

/-- The blanks between the parts of a tag. -/
def isSpace (c : Char) : Bool :=
  c == ' ' || c == '\t' || c == '\n' || c == '\r'

/-- What follows the equals sign of an attribute, if there is one. -/
def afterEquals? (cs : List Char) : Option (List Char) :=
  match cs.dropWhile isSpace with
  | '=' :: rest => some rest
  | _ => none

/-- The value of an attribute and what follows it, from after the equals sign. -/
def quotedValue? (cs : List Char) : Option (List Char × List Char) :=
  match cs.dropWhile isSpace with
  | quote :: rest =>
    if quote == '"' || quote == '\x27' then
      match rest.dropWhile (· != quote) with
      | _ :: after => some (rest.takeWhile (· != quote), after)
      | [] => none
    else none
  | [] => none

/-- Reads attributes until nothing but blanks is left. `seen` holds the names so far, and `fuel`
bounds their number. -/
def attributesFrom (seen : List String) : Nat → List Char → Option (List (String × String))
  | 0, _ => none
  | fuel + 1, cs =>
    match cs.dropWhile isSpace with
    | [] => some []
    | first :: rest =>
      let name := String.ofList (first :: rest.takeWhile (fun c => c != '=' && !isSpace c))
      match afterEquals? (rest.dropWhile (fun c => c != '=' && !isSpace c)) with
      | none => none
      | some afterName =>
        if seen.contains name then none
        else
          match quotedValue? afterName with
          | none => none
          | some (raw, after) =>
            match unescape? raw with
            | none => none
            | some value => (attributesFrom (name :: seen) fuel after).map ((name, value) :: ·)

/-- The attributes that stand after the name of a tag; nothing if they are no good. -/
def attributes? (cs : List Char) : Option (List (String × String)) :=
  attributesFrom [] (cs.length + 1) cs

end SchemaCompiler.Markup
