/-!
# Similarity of names

How well a short pattern matches a longer choice, for suggestions of names that a schema may have
meant. The characters of the pattern must occur in the choice in order. A match scores more at the
start of a word, after a match, and for equal letter case; skipped characters cost a little.

The score is computed over two rows of cells, which stand for the pattern character before and the
current one. The rows are kept from one comparison to the next, and a cell that a comparison does
not reach still counts with what an earlier one left in it. A series of comparisons therefore
threads the cells through.
-/

namespace SchemaCompiler.Similarity

/-- The score that stands for no match. -/
def noMatch : Int := -32768

/-- One cell of the matrix. -/
structure Cell where
  /-- The best score with the pattern character matched at this place. -/
  matched : Int
  /-- The best score with this place skipped. -/
  skipped : Int
  /-- The bonus that a match right after this place earns. -/
  bonus : Int

/-- A cell that nothing has reached. -/
def Cell.blank : Cell := ⟨noMatch, noMatch, 0⟩

/-- What kind of place a character makes in a name. -/
inductive CharClass where
  /-- No character: the place before the first one. -/
  | edge
  /-- A separator that always starts a word. -/
  | hard
  /-- Punctuation that mostly starts a word. -/
  | soft
  /-- A decimal digit. -/
  | digit
  /-- A capital Latin letter. -/
  | upper
  /-- Anything else. -/
  | other
deriving DecidableEq

/-- The class of a character. -/
def CharClass.of (c : Char) : CharClass :=
  let n := c.toNat
  if n == 0 then .edge
  else if " /\\|()[]\x7b\x7d".toList.contains c then .hard
  else if (0x21 ≤ n && n ≤ 0x27) || (0x2a ≤ n && n ≤ 0x2e) || (0x3a ≤ n && n ≤ 0x40) ||
      (0x5e ≤ n && n ≤ 0x60) || n == 0x7e then .soft
  else if c.isDigit then .digit
  else if c.isUpper then .upper
  else .other

/-- The bonus of a match at a character, given the one before it. -/
def placeBonus (before here : Char) : Int :=
  match CharClass.of before with
  | .edge | .hard => 8
  | .soft => 7
  | .digit | .other => if CharClass.of here = .upper then 6 else 0
  | .upper => 0

/-- The bonus of every place of a choice, with the first place counting double. The place at index
zero stands before the first character. -/
def placeBonuses (choice : List Char) : Array Int :=
  let befores := '\x00' :: choice
  let bonuses := (befores.zip choice).map (fun p => placeBonus p.1 p.2)
  match bonuses with
  | [] => #[0]
  | b :: rest => (0 :: 2 * b :: rest).toArray

/-- Whether two characters match: exactly if the pattern holds a capital, else up to case. -/
def sameLetter (exact : Bool) (a b : Char) : Bool :=
  if exact then a == b else a.toLower == b.toLower

/-- The first places at which the characters of a pattern occur in order; nothing if they do not
all occur. -/
def firstPlaces (exact : Bool) : Nat → List Char → List Char → Option (List Nat)
  | _, _, [] => some []
  | _, [], _ :: _ => none
  | i, c :: choice, p :: pattern =>
    if sameLetter exact c p then (firstPlaces exact (i + 1) choice pattern).map (i :: ·)
    else firstPlaces exact (i + 1) choice (p :: pattern)

/-- The two rows for a choice of `columns - 1` characters: kept cells where there are any, blank
ones otherwise, the first row started afresh. -/
def resize (cells : Array Cell) (columns start : Nat) : Array Cell :=
  let kept := (List.range (2 * columns)).map fun i =>
    if i < columns then ⟨noMatch, -1, 0⟩
    else if i == columns + start then Cell.blank
    else cells.getD i Cell.blank
  kept.toArray

/-- Fills one cell: the place `j` of the choice against one pattern character. -/
def fillCell (exact : Bool) (choice : Array Char) (bonuses : Array Int) (columns row before : Nat)
    (p : Char) (cells : Array Cell) (j : Nat) : Array Cell :=
  let here := cells.getD (row * columns + j + 1) Cell.blank
  let left := cells.getD (row * columns + j) Cell.blank
  let above := cells.getD (before * columns + j) Cell.blank
  let c := choice.getD j '\x00'
  let skipped := max (left.matched - 4) (left.skipped - 1)
  let bonus := bonuses.getD (j + 1) 0
  if sameLetter exact c p then
    let inRow := max (max left.bonus bonus) 4
    let score := if exact || c == p then 16 else 14
    let best := max (above.matched + inRow) (above.skipped + bonus) + score
    (cells.setIfInBounds (row * columns + j) { left with bonus := inRow }).setIfInBounds
      (row * columns + j + 1) ⟨best, skipped, here.bonus⟩
  else cells.setIfInBounds (row * columns + j + 1) ⟨noMatch, skipped, 0⟩

/-- Scores a pattern against a choice, and returns the cells for the next comparison. -/
def score (cells : Array Cell) (choice pattern : List Char) : Option Int × Array Cell :=
  let exact := pattern.any Char.isUpper
  match firstPlaces exact 0 choice pattern with
  | none => (none, cells)
  | some firsts =>
    let columns := choice.length + 1
    let bonuses := placeBonuses choice
    let places := choice.toArray
    let filled := (pattern.zip firsts).zipIdx.foldl
      (fun cells entry =>
        let p := entry.1.1
        let start := entry.1.2
        let row := (entry.2 + 1) % 2
        (List.range' start (choice.length - start)).foldl
          (fillCell exact places bonuses columns row (entry.2 % 2) p) cells)
      (resize cells columns (firsts.headD 0))
    let row := pattern.length % 2
    let last := firsts.getLastD 0
    let scores := (List.range' last (columns - last)).map
      (fun j => (filled.getD (row * columns + j) Cell.blank).matched)
    (scores.max?, filled)

/-- The larger of two scores, where no score is less than any. -/
def better : Option Int → Option Int → Option Int
  | some a, some b => some (max a b)
  | some a, none => some a
  | none, b => b

/-- The state of a search for the closest name: the kept cells and the best name so far. -/
structure Search where
  /-- The cells that the comparisons have left. -/
  cells : Array Cell
  /-- The best score so far and the name that has it. -/
  best : Option (Int × String)

/-- Compares one candidate with the name in both directions. A later candidate with an equal score
replaces an earlier one. -/
def Search.consider (name : List Char) (s : Search) (candidate : String) : Search :=
  let (forward, cells) := score s.cells candidate.toList name
  let (backward, cells) := score cells name candidate.toList
  match better forward backward, s.best with
  | none, best => ⟨cells, best⟩
  | some a, none => ⟨cells, some (a, candidate)⟩
  | some a, some (b, held) => ⟨cells, some (if b ≤ a then (a, candidate) else (b, held))⟩

/-- The candidate closest to a name, if any matches it at all. -/
def closest (candidates : List String) (name : String) : Option String :=
  if name.isEmpty then none
  else ((candidates.foldl (Search.consider name.toList) ⟨#[], none⟩).best).map Prod.snd

end SchemaCompiler.Similarity
