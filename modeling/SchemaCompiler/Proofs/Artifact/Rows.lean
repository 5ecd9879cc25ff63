import SchemaCompiler.Proofs.Artifact.Blocks
import SchemaCompiler.Proofs.Text.Lines

/-!
# Items and the lines of a text

An artifact is read as a list of items, but what is handed out is a text. The two say the same as
long as no item breaks its line: the lines of the text that are not empty are the texts of the
items, each behind the blanks of its level (`SchemaCompiler.Item.shownLines_render`). Gaps show
nothing, so whether one is due does not matter here.

If an item holds a line feed, its line falls apart and nothing is left of this.
-/

namespace SchemaCompiler

namespace Text

/-- The lines of a text that are not empty. -/
def shownLines (s : String) : List String :=
  ((splitLines s.toList).filter (fun line => !line.isEmpty)).map String.ofList

/-- The lines between the first that starts with certain words and the next that is as given. -/
def linesBetween (start ending : String) (lines : List String) : List String :=
  ((lines.dropWhile (fun line => !startsWith line start)).drop 1).takeWhile (· != ending)

/-- None of the lines starts with certain words. -/
def Silent (start : String) (lines : List String) : Prop :=
  ∀ line ∈ lines, startsWith line start = false

theorem Silent.filter {start : String} {lines : List String} (h : Silent start lines) :
    lines.filter (startsWith · start) = [] := by
  refine List.filter_eq_nil_iff.mpr fun line hline => ?_
  rw [h line hline]
  exact Bool.false_ne_true

@[simp] theorem silent_nil (start : String) : Silent start [] :=
  fun _ h => absurd h List.not_mem_nil

@[simp] theorem silent_cons {start line : String} {lines : List String} :
    Silent start (line :: lines) ↔ startsWith line start = false ∧ Silent start lines :=
  List.forall_mem_cons

@[simp] theorem silent_append {start : String} {lines others : List String} :
    Silent start (lines ++ others) ↔ Silent start lines ∧ Silent start others :=
  List.forall_mem_append

theorem feed_notMem_of_mem_shownLines {s line : String} (h : line ∈ shownLines s) :
    '\n' ∉ line.toList := by
  obtain ⟨piece, hpiece, rfl⟩ := List.mem_map.mp h
  rw [String.toList_ofList]
  exact feed_notMem_of_mem_splitLines (List.mem_filter.mp hpiece).1

/-- A text is cut at a line feed. -/
theorem shownLines_append_feed (first rest : List Char) :
    shownLines (String.ofList (first ++ '\n' :: rest)) =
      shownLines (String.ofList first) ++ shownLines (String.ofList rest) := by
  simp only [shownLines, String.toList_ofList, splitLines_append_feed, List.filter_append,
    List.map_append]

theorem shownLines_of_notMem {s : String} (h : '\n' ∉ s.toList) (hne : s ≠ "") :
    shownLines s = [s] := by
  have hshown : s.toList.isEmpty = false := by simpa using hne
  rw [shownLines, splitLines_of_notMem h, List.filter_cons_of_pos (by rw [hshown]; rfl),
    List.filter_nil, List.map_singleton, String.ofList_toList]

/-- A line that starts otherwise is passed over. -/
theorem linesBetween_cons {start line : String} (h : startsWith line start = false)
    (ending : String) (rest : List String) :
    linesBetween start ending (line :: rest) = linesBetween start ending rest := by
  rw [linesBetween, List.dropWhile_cons_of_pos (by rw [h]; rfl), linesBetween]

theorem linesBetween_append {start : String} {lines : List String} (h : Silent start lines)
    (ending : String) (rest : List String) :
    linesBetween start ending (lines ++ rest) = linesBetween start ending rest := by
  induction lines with
  | nil => rfl
  | cons line lines ih =>
    obtain ⟨hline, hlines⟩ := silent_cons.mp h
    rw [List.cons_append, linesBetween_cons hline, ih hlines]

/-- **The lines behind the first one are found**, up to the one that ends them. -/
theorem linesBetween_found {start ending first : String} (hfirst : startsWith first start = true)
    {lines : List String} (h : ∀ line ∈ lines, line ≠ ending) (rest : List String) :
    linesBetween start ending (first :: (lines ++ ending :: rest)) = lines := by
  rw [linesBetween, List.dropWhile_cons_of_neg (by rw [hfirst]; decide), List.drop_one,
    List.tail_cons, List.takeWhile_append_of_pos fun line hline => bne_iff_ne.mpr (h line hline),
    List.takeWhile_cons_of_neg (by simp), List.append_nil]

/-- Lines that end with a comma, except for the last. -/
def commaLines : List String → List String
  | [] => []
  | [line] => [line]
  | line :: rest => (line ++ ",") :: commaLines rest

theorem mem_commaLines {line : String} {lines : List String} (h : line ∈ lines) :
    line ∈ commaLines lines ∨ line ++ "," ∈ commaLines lines := by
  induction lines using commaLines.induct with
  | case1 => cases h
  | case2 only => exact Or.inl h
  | case3 first rest hrest ih =>
    rw [commaLines]
    · rcases List.mem_cons.mp h with rfl | hin
      · exact Or.inr List.mem_cons_self
      · exact (ih hin).imp (List.mem_cons_of_mem _) (List.mem_cons_of_mem _)
    · exact hrest

/-- Texts with a comma and a line feed between each two are shown as lines with commas. -/
theorem shownLines_intercalate {lines : List String}
    (h : ∀ line ∈ lines, line ≠ "" ∧ '\n' ∉ line.toList) :
    shownLines (",\n".intercalate lines) = commaLines lines := by
  induction lines using commaLines.induct with
  | case1 => rfl
  | case2 only =>
    obtain ⟨hne, hfeed⟩ := h only List.mem_cons_self
    rw [String.intercalate_singleton, shownLines_of_notMem hfeed hne, commaLines]
  | case3 first rest hrest ih =>
    obtain ⟨⟨hne, hfeed⟩, hlater⟩ := List.forall_mem_cons.mp h
    have hcomma : '\n' ∉ (first ++ ",").toList := by simp [hfeed]
    have hcut : ",\n".intercalate (first :: rest) =
        String.ofList ((first ++ ",").toList ++ '\n' :: (",\n".intercalate rest).toList) := by
      rw [String.intercalate_cons_of_ne_nil hrest]
      simp [← String.toList_inj]
    rw [hcut, shownLines_append_feed, String.ofList_toList, String.ofList_toList,
      shownLines_of_notMem hcomma (by simp), ih hlater, commaLines]
    · rfl
    · exact hrest

end Text

namespace Item

/-- A text behind the blanks of its level. -/
def indented (level : Nat) (text : String) : String :=
  String.ofList (List.replicate (4 * level) ' ') ++ text

@[simp] theorem indented_zero (text : String) : indented 0 text = text := by
  simp [indented]

@[simp] theorem indented_one (text : String) : indented 1 text = "    " ++ text :=
  rfl

@[simp] theorem indented_two (text : String) : indented 2 text = "        " ++ text :=
  rfl

@[simp] theorem indented_three (text : String) : indented 3 text = "            " ++ text :=
  rfl

/-- The rows that items are laid out to, inside a number of blocks. -/
def rows (level : Nat) : List Item → List String
  | [] => []
  | .line text :: rest => indented level text :: rows level rest
  | .gap :: rest => rows level rest
  | .opening text :: rest => indented level text :: rows (level + 1) rest
  | .closing text :: rest => indented (level - 1) text :: rows (level - 1) rest

/-- An item that is a gap or fills one line. -/
def OneRow (item : Item) : Prop :=
  item = .gap ∨ item.text ≠ "" ∧ '\n' ∉ item.text.toList

end Item

/-! ### Pages -/

namespace Page

/-- The blanks that a line of the given text starts with. -/
def indent (level : Nat) (text : String) : List Char :=
  if text.isEmpty then [] else List.replicate (4 * level) ' '

theorem line_reversed (p : Page) (text : String) :
    (p.line text).reversed = '\n' :: (text.toList.reverse ++ (indent p.level text ++ p.reversed)) :=
  rfl

/-- A line stands behind what the page shows so far. -/
theorem line_shown (p : Page) (text : String) (rest : List Char) :
    (p.line text).reversed.reverse ++ rest =
      p.reversed.reverse ++ ((indent p.level text).reverse ++ text.toList ++ '\n' :: rest) := by
  simp [line_reversed]

/-- Whether a gap is due, by the last two characters of a page. -/
def gapDue (recent : List Char) : Bool :=
  !recent.isEmpty && recent != ['\n', '\n'] && recent != ['\n', '\x7b']

theorem gap_eq (p : Page) :
    p.gap =
      if gapDue (p.reversed.take 2) then { p with reversed := '\n' :: p.reversed } else p := by
  obtain ⟨cs, level⟩ := p
  rw [gap]
  split
  · rename_i hnil
    cases hnil
    rfl
  · rename_i htwo
    cases htwo
    rfl
  · rename_i hopen
    cases hopen
    rfl
  · rename_i hnil htwo hopen
    have hdue : gapDue (cs.take 2) = true := by
      rcases cs with _ | ⟨c, _ | ⟨d, cs⟩⟩
      · exact absurd rfl hnil
      · simp [gapDue]
      · simp only [gapDue, List.take_succ_cons, List.take_zero, Bool.and_eq_true, bne_iff_ne]
        refine ⟨⟨rfl, ?_⟩, ?_⟩
        · rintro ⟨⟩
          exact htwo cs rfl
        · rintro ⟨⟩
          exact hopen cs rfl
    rw [if_pos hdue]

/-- The lines that a page shows, without the empty ones. -/
def shown (p : Page) : List String :=
  Text.shownLines (String.ofList p.reversed.reverse)

/-- The last line of a page is ended. -/
def Ended (p : Page) : Prop :=
  ∀ c ∈ p.reversed.head?, c = '\n'

section

variable {p : Page}

/-- What is added to whole lines is shown behind them. -/
theorem Ended.shownLines_append (h : p.Ended) (rest : List Char) :
    Text.shownLines (String.ofList (p.reversed.reverse ++ rest)) =
      p.shown ++ Text.shownLines (String.ofList rest) := by
  obtain ⟨cs, level⟩ := p
  cases cs with
  | nil => rfl
  | cons c cs =>
    obtain rfl : c = '\n' := h c rfl
    rw [shown, List.reverse_cons, List.append_assoc, List.singleton_append,
      Text.shownLines_append_feed, Text.shownLines_append_feed]
    simp [Text.shownLines, Text.splitLines]

/-- **A line adds a row.** -/
theorem Ended.shown_line (h : p.Ended) {text : String} (hne : text ≠ "")
    (hfeed : '\n' ∉ text.toList) :
    (p.line text).shown = p.shown ++ [Item.indented p.level text] := by
  have hindent : (indent p.level text).reverse ++ text.toList =
      (Item.indented p.level text).toList := by
    rw [indent, if_neg (by simpa using hne), List.reverse_replicate, Item.indented,
      String.toList_append, String.toList_ofList]
  have hrow : '\n' ∉ (Item.indented p.level text).toList := by
    simp [Item.indented, hfeed]
  have hline := line_shown p text []
  rw [List.append_nil, hindent] at hline
  have hempty : Text.shownLines (String.ofList []) = [] := rfl
  rw [shown, hline, h.shownLines_append, Text.shownLines_append_feed, hempty, List.append_nil,
    String.ofList_toList, Text.shownLines_of_notMem hrow (by simp [Item.indented, hne])]

/-- A gap shows nothing. -/
theorem Ended.shown_gap (h : p.Ended) : p.gap.shown = p.shown := by
  rw [gap_eq]
  split
  · have hfeed := h.shownLines_append ['\n']
    rw [shown, List.reverse_cons, hfeed]
    exact List.append_nil _
  · rfl

theorem ended_line (p : Page) (text : String) : (p.line text).Ended :=
  fun _ hc => (Option.some.inj hc).symm

theorem Ended.gap (h : p.Ended) : p.gap.Ended := by
  rw [gap_eq]
  split
  · exact fun _ hc => (Option.some.inj hc).symm
  · exact h

theorem level_gap (p : Page) : p.gap.level = p.level := by
  rw [gap_eq]
  split <;> rfl

/-- **Items add their rows**, one behind the other. -/
theorem Ended.shown_foldl (h : p.Ended) {items : List Item} (hitems : ∀ i ∈ items, i.OneRow) :
    (items.foldl Page.put p).shown = p.shown ++ Item.rows p.level items := by
  induction items generalizing p with
  | nil => exact (List.append_nil _).symm
  | cons item items ih =>
    obtain ⟨hitem, hrest⟩ := List.forall_mem_cons.mp hitems
    rw [List.foldl_cons]
    cases item with
    | gap => rw [put, ih h.gap hrest, h.shown_gap, level_gap, Item.rows]
    | line text =>
      obtain ⟨hne, hfeed⟩ := hitem.resolve_left nofun
      have hline : (p.line text).shown = p.shown ++ [Item.indented p.level text] :=
        h.shown_line hne hfeed
      rw [put, ih (ended_line p text) hrest, hline, List.append_assoc]
      rfl
    | opening text =>
      obtain ⟨hne, hfeed⟩ := hitem.resolve_left nofun
      have hline : (p.line text).shown = p.shown ++ [Item.indented p.level text] :=
        h.shown_line hne hfeed
      have hopen : ({ p.line text with level := p.level + 1 } : Page).shown = (p.line text).shown :=
        rfl
      rw [put, ih (p := { p.line text with level := p.level + 1 }) (ended_line p text) hrest, hopen,
        hline, List.append_assoc]
      rfl
    | closing text =>
      obtain ⟨hne, hfeed⟩ := hitem.resolve_left nofun
      -- the level goes down before the line is written
      have houter : ({ p with level := p.level - 1 } : Page).Ended := h
      have hline : (({ p with level := p.level - 1 } : Page).line text).shown =
          p.shown ++ [Item.indented (p.level - 1) text] := houter.shown_line hne hfeed
      rw [put, ih (ended_line _ text) hrest, hline, List.append_assoc]
      rfl

end

end Page

namespace Item

/-! ### Rows of lists -/

/-- All items fill one line or are gaps. -/
def OneRows (items : List Item) : Prop :=
  ∀ i ∈ items, i.OneRow

@[simp] theorem oneRows_nil : OneRows [] :=
  fun _ h => absurd h List.not_mem_nil

@[simp] theorem oneRows_cons {item : Item} {items : List Item} :
    OneRows (item :: items) ↔ item.OneRow ∧ OneRows items :=
  List.forall_mem_cons

@[simp] theorem oneRows_append {items others : List Item} :
    OneRows (items ++ others) ↔ OneRows items ∧ OneRows others :=
  List.forall_mem_append

@[simp] theorem oneRow_gap : OneRow .gap :=
  Or.inl rfl

@[simp] theorem oneRow_line {text : String} :
    OneRow (.line text) ↔ text ≠ "" ∧ '\n' ∉ text.toList := by
  simp [OneRow, Item.text]

@[simp] theorem oneRow_opening {text : String} :
    OneRow (.opening text) ↔ text ≠ "" ∧ '\n' ∉ text.toList := by
  simp [OneRow, Item.text]

@[simp] theorem oneRow_closing {text : String} :
    OneRow (.closing text) ↔ text ≠ "" ∧ '\n' ∉ text.toList := by
  simp [OneRow, Item.text]

theorem oneRows_of_isComment {items : List Item} (h : ∀ i ∈ items, i.IsComment) :
    OneRows items := by
  intro item hitem
  obtain ⟨text, rfl, hfeed⟩ := h item hitem
  rw [oneRow_line]
  simp [hfeed]

@[simp] theorem oneRows_doc (comment : Option String) : OneRows (doc comment) :=
  oneRows_of_isComment fun _ hi => isComment_of_mem_doc hi

@[simp] theorem oneRows_block {first last : String} {body : List Item} :
    OneRows (block first body last) ↔
      OneRow (.opening first) ∧ OneRows body ∧ OneRow (.closing last) := by
  simp only [block, oneRows_cons, oneRows_append, oneRows_nil, and_true]

theorem oneRows_map {α : Type} {item : α → Item} {xs : List α} (h : ∀ x ∈ xs, (item x).OneRow) :
    OneRows (xs.map item) := by
  intro i hi
  obtain ⟨x, hx, rfl⟩ := List.mem_map.mp hi
  exact h x hx

theorem oneRows_flatMap {α : Type} {f : α → List Item} {xs : List α}
    (h : ∀ x ∈ xs, OneRows (f x)) : OneRows (xs.flatMap f) := by
  intro i hi
  obtain ⟨x, hx, hmem⟩ := List.mem_flatMap.mp hi
  exact h x hx i hmem

/-- Items that leave the level as it was, so that what follows is laid out as if they were not
there. -/
def Level (items : List Item) : Prop :=
  ∀ level rest, rows level (items ++ rest) = rows level items ++ rows level rest

theorem AllLines.level {items : List Item} (h : AllLines items) : Level items := by
  induction items with
  | nil => exact fun _ _ => rfl
  | cons item items ih =>
    obtain ⟨text, rfl⟩ := h _ List.mem_cons_self
    intro level rest
    rw [List.cons_append, rows, rows, ih fun i hi => h i (List.mem_cons_of_mem _ hi),
      List.cons_append]

theorem Level.append {items others : List Item} (h : Level items) (h' : Level others) :
    Level (items ++ others) := by
  intro level rest
  rw [List.append_assoc, h, h', h, List.append_assoc]

/-- **A block is a row, what stands inside one level deeper, and a row.** -/
theorem rows_block {body : List Item} (h : Level body) (level : Nat) (first last : String)
    (rest : List Item) :
    rows level (block first body last ++ rest) =
      indented level first ::
        (rows (level + 1) body ++ indented level last :: rows level rest) := by
  rw [block, List.cons_append, rows, List.append_assoc, List.singleton_append, h, rows,
    Nat.add_sub_cancel]

theorem level_block {body : List Item} (h : Level body) (first last : String) :
    Level (block first body last) := by
  intro level rest
  have hblock := rows_block h level first last []
  rw [List.append_nil, rows] at hblock
  rw [rows_block h, hblock, List.cons_append, List.append_assoc, List.singleton_append]

/-- The rows of lines are their texts, indented. -/
theorem AllLines.rows_eq {items : List Item} (h : AllLines items) (level : Nat) :
    rows level items = items.map (fun i => indented level i.text) := by
  induction items with
  | nil => rfl
  | cons item items ih =>
    obtain ⟨text, rfl⟩ := h _ List.mem_cons_self
    rw [rows, ih fun i hi => h i (List.mem_cons_of_mem _ hi)]
    rfl

/-- **Among rows, lines are told apart as among items**: by how they start. -/
theorem AllLines.filter_rows {items : List Item} (h : AllLines items) (level : Nat)
    (start : String) :
    (rows level items).filter (Text.startsWith · (indented level start)) =
      rows level (items.filter (·.startsWith start)) := by
  induction items with
  | nil => rfl
  | cons item items ih =>
    obtain ⟨text, rfl⟩ := h _ List.mem_cons_self
    have hstart : Text.startsWith (indented level text) (indented level start) =
        Text.startsWith text start := by
      rw [Bool.eq_iff_iff, Text.startsWith_eq_isPrefixOf, Text.startsWith_eq_isPrefixOf,
        List.isPrefixOf_iff_prefix, List.isPrefixOf_iff_prefix, indented, indented,
        String.toList_append, String.toList_append, List.prefix_append_right_inj]
    have hrest := ih fun i hi => h i (List.mem_cons_of_mem _ hi)
    rw [rows, List.filter_cons, List.filter_cons, startsWith_line, hstart, hrest]
    split
    · rw [rows]
    · rfl

/-- None of the rows of lines starts with certain words if none of the lines does. -/
theorem AllLines.silent_rows {items : List Item} (h : AllLines items) {level : Nat}
    {start : String} (hstart : ∀ i ∈ items, Text.startsWith (indented level i.text) start = false) :
    Text.Silent start (rows level items) := by
  rw [h.rows_eq]
  intro row hrow
  obtain ⟨i, hi, rfl⟩ := List.mem_map.mp hrow
  exact hstart i hi

/-- A line is left out among rows as among items. -/
theorem AllLines.filter_rows_ne {items : List Item} (h : AllLines items) (level : Nat)
    (text : String) :
    (rows level items).filter (· != indented level text) =
      rows level (items.filter (· != .line text)) := by
  induction items with
  | nil => rfl
  | cons item items ih =>
    obtain ⟨other, rfl⟩ := h _ List.mem_cons_self
    have hsame : (indented level other != indented level text) =
        (Item.line other != .line text) := by
      rw [Bool.eq_iff_iff, bne_iff_ne, bne_iff_ne]
      simp [indented]
    have hrest := ih fun i hi => h i (List.mem_cons_of_mem _ hi)
    rw [rows, List.filter_cons, List.filter_cons, hsame, hrest]
    split
    · rw [rows]
    · rfl

theorem rows_map_line {α : Type} (text : α → String) (level : Nat) (xs : List α) :
    rows level (xs.map (fun x => .line (text x))) = xs.map (fun x => indented level (text x)) := by
  induction xs with
  | nil => rfl
  | cons x xs ih => rw [List.map_cons, rows, ih, List.map_cons]

/-- **The lines of a text are the rows of its items**, empty lines apart, if every item fills one
line. -/
theorem shownLines_render {items : List Item} (h : OneRows items) :
    Text.shownLines (render items) = rows 0 items :=
  Page.Ended.shown_foldl (p := {}) nofun h

end Item

end SchemaCompiler
