import SchemaCompiler.Artifact.Layout
import SchemaCompiler.Proofs.Text.Lines
import SchemaCompiler.Proofs.Text.Trim

/-!
# Blocks of generated code

To say what an artifact holds, it has to be read back. An artifact is read by looking for a block
that opens with certain words and taking what stands inside it (`SchemaCompiler.Item.blockBody`).
Names are arbitrary texts, so only fixed words at the start of a line are ever looked at.

Reading goes through an artifact from its start. What comes before the block is passed over
(`blockBody_append`), an enclosing block is entered (`blockBody_into`), and the block itself ends
where it was closed (`blockBody_block`), because the blocks inside it are *balanced*: going through
them leaves as many blocks open as before (`SchemaCompiler.Item.Balanced`). What can stand inside a
block without being taken for another one is `SchemaCompiler.Item.Apart`.
-/

namespace SchemaCompiler.Item

/-- The text of an item. -/
def text : Item → String
  | .line text => text
  | .gap => ""
  | .opening text => text
  | .closing text => text

/-- Whether the text of an item starts with certain words. -/
def startsWith : Item → String → Bool
  | .line text, start => Text.startsWith text start
  | .opening text, start => Text.startsWith text start
  | .closing text, start => Text.startsWith text start
  | .gap, _ => false

@[simp] theorem startsWith_line (text start : String) :
    (Item.line text).startsWith start = Text.startsWith text start :=
  rfl

@[simp] theorem startsWith_opening (text start : String) :
    (Item.opening text).startsWith start = Text.startsWith text start :=
  rfl

@[simp] theorem startsWith_closing (text start : String) :
    (Item.closing text).startsWith start = Text.startsWith text start :=
  rfl

@[simp] theorem startsWith_gap (start : String) : Item.gap.startsWith start = false :=
  rfl

/-- The items up to the end of the block that is open, inside of which `depth` blocks are open. -/
def upToEnd (depth : Nat) : List Item → List Item
  | [] => []
  | .closing text :: rest =>
    match depth with
    | 0 => []
    | depth + 1 => .closing text :: upToEnd depth rest
  | .opening text :: rest => .opening text :: upToEnd (depth + 1) rest
  | .line text :: rest => .line text :: upToEnd depth rest
  | .gap :: rest => .gap :: upToEnd depth rest

/-- What stands inside the first block that opens with certain words. -/
def blockBody (start : String) : List Item → List Item
  | [] => []
  | .opening text :: rest =>
    if Text.startsWith text start then upToEnd 0 rest else blockBody start rest
  | .closing _ :: rest => blockBody start rest
  | .line _ :: rest => blockBody start rest
  | .gap :: rest => blockBody start rest

/-- Items in which every block that opens closes again. -/
def Balanced (items : List Item) : Prop :=
  ∀ depth rest, upToEnd depth (items ++ rest) = items ++ upToEnd depth rest

/-- None of the items opens a block with certain words. -/
def Skips (start : String) (items : List Item) : Prop :=
  ∀ text, .opening text ∈ items → Text.startsWith text start = false

/-- Items that are lines, and so have no blocks. -/
def AllLines (items : List Item) : Prop :=
  ∀ item ∈ items, ∃ text, item = .line text

/-! ### Finding a block -/

/-- A block ends where it is closed, if the blocks inside it are closed too. -/
theorem upToEnd_append {body : List Item} (h : Balanced body) (last : String) (rest : List Item) :
    upToEnd 0 (body ++ .closing last :: rest) = body := by
  rw [h, upToEnd, List.append_nil]

/-- **The block that is looked for is found**, and all of what stands inside it. -/
theorem blockBody_block {start first last : String} {body : List Item}
    (hfirst : Text.startsWith first start = true) (hbody : Balanced body) (rest : List Item) :
    blockBody start (block first body last ++ rest) = body := by
  simp only [block, List.cons_append, List.append_assoc, List.nil_append, blockBody, hfirst,
    if_true, upToEnd_append hbody]

/-- **Other blocks are passed over.** -/
theorem blockBody_append {start : String} {items : List Item} (h : Skips start items)
    (rest : List Item) : blockBody start (items ++ rest) = blockBody start rest := by
  induction items with
  | nil => rfl
  | cons item items ih =>
    have hrest : Skips start items := fun text ht => h text (List.mem_cons_of_mem _ ht)
    cases item with
    | opening text =>
      rw [List.cons_append, blockBody, h text List.mem_cons_self, if_neg Bool.false_ne_true,
        ih hrest]
    | closing text => rw [List.cons_append, blockBody, ih hrest]
    | line text => rw [List.cons_append, blockBody, ih hrest]
    | gap => rw [List.cons_append, blockBody, ih hrest]

/-- Other blocks are passed over together with the gap behind them. -/
theorem blockBody_append_gap {start : String} {items : List Item} (h : Skips start items)
    (rest : List Item) : blockBody start (items ++ ([.gap] ++ rest)) = blockBody start rest := by
  rw [blockBody_append h, List.singleton_append, blockBody]

/-- A block that is not the one looked for is looked into. -/
theorem blockBody_into {start first : String} (hfirst : Text.startsWith first start = false)
    (body : List Item) (last : String) :
    blockBody start (block first body last) = blockBody start (body ++ [.closing last]) := by
  rw [block, blockBody, hfirst, if_neg Bool.false_ne_true]

theorem blockBody_into_append {start first : String} (hfirst : Text.startsWith first start = false)
    (body : List Item) (last : String) (rest : List Item) :
    blockBody start (block first body last ++ rest) =
      blockBody start (body ++ ([.closing last] ++ rest)) := by
  rw [block, List.cons_append, blockBody, hfirst, if_neg Bool.false_ne_true, List.append_assoc]

/-! ### Items without the block -/

theorem Skips.append {start : String} {items others : List Item} (h : Skips start items)
    (h' : Skips start others) : Skips start (items ++ others) := by
  intro text ht
  rcases List.mem_append.mp ht with hin | hin
  · exact h text hin
  · exact h' text hin

theorem AllLines.skips {items : List Item} (h : AllLines items) (start : String) :
    Skips start items := by
  intro text ht
  obtain ⟨_, hline⟩ := h _ ht
  cases hline

theorem skips_block {start first last : String} {body : List Item}
    (hfirst : Text.startsWith first start = false) (hbody : Skips start body) :
    Skips start (block first body last) := by
  intro text ht
  rcases List.mem_cons.mp ht with heq | hin
  · cases heq
    exact hfirst
  · rcases List.mem_append.mp hin with hbelow | hlast
    · exact hbody text hbelow
    · cases List.mem_singleton.mp hlast

/-! ### Balanced items -/

theorem Balanced.append {items others : List Item} (h : Balanced items) (h' : Balanced others) :
    Balanced (items ++ others) := by
  intro depth rest
  rw [List.append_assoc, h, h', List.append_assoc]

theorem AllLines.balanced {items : List Item} (h : AllLines items) : Balanced items := by
  induction items with
  | nil => exact fun _ _ => rfl
  | cons item items ih =>
    obtain ⟨text, rfl⟩ := h _ List.mem_cons_self
    intro depth rest
    rw [List.cons_append, upToEnd, ih fun i hi => h i (List.mem_cons_of_mem _ hi), List.cons_append]

theorem balanced_block {first last : String} {body : List Item} (h : Balanced body) :
    Balanced (block first body last) := by
  intro depth rest
  simp only [block, List.cons_append, List.append_assoc, List.nil_append, upToEnd]
  rw [h, upToEnd]

/-! ### Lines -/

theorem AllLines.append {items others : List Item} (h : AllLines items) (h' : AllLines others) :
    AllLines (items ++ others) := by
  intro item hitem
  rcases List.mem_append.mp hitem with hin | hin
  · exact h item hin
  · exact h' item hin

theorem allLines_singleton (text : String) : AllLines [.line text] := by
  intro item hitem
  exact ⟨text, List.mem_singleton.mp hitem⟩

theorem allLines_if (b : Bool) (text : String) : AllLines (if b then [.line text] else []) := by
  cases b
  · exact fun item hitem => absurd hitem List.not_mem_nil
  · exact allLines_singleton text

theorem allLines_map {α : Type} (text : α → String) (xs : List α) :
    AllLines (xs.map (fun x => .line (text x))) := by
  intro item hitem
  obtain ⟨x, -, rfl⟩ := List.mem_map.mp hitem
  exact ⟨_, rfl⟩

theorem allLines_flatMap {α : Type} {f : α → List Item} (h : ∀ x, AllLines (f x)) (xs : List α) :
    AllLines (xs.flatMap f) := by
  intro item hitem
  obtain ⟨x, -, hin⟩ := List.mem_flatMap.mp hitem
  exact h x item hin

/-- An item that is one line, and a comment. -/
def IsComment (item : Item) : Prop :=
  ∃ text, item = .line ("//" ++ text) ∧ '\n' ∉ text.toList

/-- A documentation comment is made of comments. -/
theorem isComment_of_mem_doc {comment : Option String} {item : Item} (h : item ∈ doc comment) :
    item.IsComment := by
  cases comment with
  | none => cases h
  | some comment =>
    obtain ⟨line, hline, rfl⟩ := List.mem_map.mp h
    have hfeed : '\n' ∉ (Text.trimStart (Text.trimEnd line)).toList :=
      fun hin => Text.feed_notMem_of_mem_lines hline
        ((Text.trimStart_trimEnd_sublist line).subset hin)
    rw [docLine]
    split
    · exact ⟨"/", rfl, by decide⟩
    · refine ⟨"/ " ++ Text.trimStart (Text.trimEnd line), ?_, by simp [hfeed]⟩
      rw [← String.append_assoc]
      rfl

theorem allLines_of_isComment {items : List Item} (h : ∀ i ∈ items, i.IsComment) :
    AllLines items := by
  intro item hitem
  obtain ⟨text, rfl, -⟩ := h item hitem
  exact ⟨_, rfl⟩

theorem allLines_doc (comment : Option String) : AllLines (doc comment) :=
  allLines_of_isComment fun _ hi => isComment_of_mem_doc hi

/-- **Lines are told apart from the comments before them** by how they start. -/
theorem filter_flatMap_append {α : Type} {start : String} {comments : α → List Item}
    {item : α → Item} (hcomments : ∀ x, ∀ i ∈ comments x, i.startsWith start = false)
    (hitem : ∀ x, (item x).startsWith start = true) (xs : List α) :
    (xs.flatMap (fun x => comments x ++ [item x])).filter (·.startsWith start) = xs.map item := by
  induction xs with
  | nil => rfl
  | cons x xs ih =>
    have hx : (comments x).filter (·.startsWith start) = [] :=
      List.filter_eq_nil_iff.mpr fun i hi => by simp [hcomments x i hi]
    have hkept : [item x].filter (·.startsWith start) = [item x] := by
      simp [hitem x]
    rw [List.flatMap_cons, List.filter_append, List.filter_append, hx, List.nil_append, hkept, ih,
      List.singleton_append, List.map_cons]

/-! ### Items inside a block -/

/-- Items that close what they open, and open no block with certain words. -/
structure Apart (start : String) (items : List Item) : Prop where
  /-- No block opens with the words. -/
  skips : Skips start items
  /-- Every block that opens closes again. -/
  balanced : Balanced items

section

variable {start : String}

theorem apart_lines {items : List Item} (h : AllLines items) : Apart start items :=
  ⟨h.skips start, h.balanced⟩

theorem apart_line (text : String) : Apart start [.line text] :=
  apart_lines (allLines_singleton text)

theorem Apart.cons_line {items : List Item} (h : Apart start items) (text : String) :
    Apart start (.line text :: items) := by
  have hline : Apart start [.line text] := apart_line text
  exact ⟨hline.skips.append h.skips, hline.balanced.append h.balanced⟩

theorem apart_nil : Apart start [] :=
  apart_lines fun _ h => absurd h List.not_mem_nil

theorem apart_gap : Apart start [.gap] where
  skips text ht := by cases List.mem_singleton.mp ht
  balanced _ _ := rfl

theorem Apart.append {items others : List Item} (h : Apart start items) (h' : Apart start others) :
    Apart start (items ++ others) :=
  ⟨h.skips.append h'.skips, h.balanced.append h'.balanced⟩

theorem apart_block {first last : String} {body : List Item}
    (hfirst : Text.startsWith first start = false) (hbody : Apart start body) :
    Apart start (block first body last) :=
  ⟨skips_block hfirst hbody.skips, balanced_block hbody.balanced⟩

theorem apart_flatMap {α : Type} {f : α → List Item} (h : ∀ x, Apart start (f x)) (xs : List α) :
    Apart start (xs.flatMap f) := by
  induction xs with
  | nil => exact apart_nil
  | cons x xs ih => exact (h x).append ih

end

end SchemaCompiler.Item
