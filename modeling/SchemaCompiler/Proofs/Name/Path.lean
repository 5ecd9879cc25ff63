import SchemaCompiler.Proofs.Name.Characters
import SchemaCompiler.Text.Lines

/-!
# Reading paths back

Generated code refers to a type by its path, a text in which the names of modules and the name of
the type are joined by colons. A path is read back by cutting it at them
(`SchemaCompiler.Name.segmentsOf`), and since no identifier has a colon that gives back the names
(`segmentsOf_intercalate`). So two paths that are the same text lead to the same type.

A path often stands inside a longer text: between fixed words (`SchemaCompiler.Text.between?`), or
as what a container type holds (`SchemaCompiler.Name.innermost`).
-/

namespace SchemaCompiler

namespace Text

/-- What stands between two fixed texts, if the whole starts and ends with them. -/
def between? (start ending s : String) : Option String :=
  if startsWith s start && endsWith (String.ofList (s.toList.drop start.toList.length)) ending then
    some (String.ofList ((s.toList.drop start.toList.length).take
      (s.toList.length - start.toList.length - ending.toList.length)))
  else none

theorem between?_append (start ending s : String) :
    between? start ending (start ++ s ++ ending) = some s := by
  simp [between?, startsWith, endsWith, String.toList_append, List.isPrefixOf_iff_prefix,
    List.isSuffixOf_iff_suffix]

theorem between?_of_startsWith {start s : String} (h : startsWith s start = false)
    (ending : String) : between? start ending s = none := by
  rw [between?, h, Bool.false_and, if_neg Bool.false_ne_true]

end Text

namespace Name

/-! ### Segments -/

/-- The pieces of a path between double colons. -/
def splitColons : List Char → List (List Char)
  | [] => [[]]
  | ':' :: ':' :: rest => [] :: splitColons rest
  | c :: rest =>
    match splitColons rest with
    | [] => [[c]]
    | first :: others => (c :: first) :: others

/-- The names of which a path is made. -/
def segmentsOf (path : String) : List String :=
  (splitColons path.toList).map String.ofList

theorem splitColons_cons {c : Char} (hc : c ≠ ':') {rest first : List Char}
    {others : List (List Char)} (h : splitColons rest = first :: others) :
    splitColons (c :: rest) = (c :: first) :: others := by
  rw [splitColons, h]
  exact fun _ hcolon _ => hc hcolon

theorem splitColons_append {part : List Char} (hpart : ':' ∉ part) (rest : List Char) :
    splitColons (part ++ ':' :: ':' :: rest) = part :: splitColons rest := by
  induction part with
  | nil => rw [List.nil_append, splitColons]
  | cons c part ih =>
    obtain ⟨hc, hrest⟩ := not_or.mp (mt List.mem_cons.mpr hpart)
    exact splitColons_cons (Ne.symm hc) (ih hrest)

theorem splitColons_of_not_mem {part : List Char} (hpart : ':' ∉ part) :
    splitColons part = [part] := by
  induction part with
  | nil => rw [splitColons]
  | cons c part ih =>
    obtain ⟨hc, hrest⟩ := not_or.mp (mt List.mem_cons.mpr hpart)
    exact splitColons_cons (Ne.symm hc) (ih hrest)

theorem splitColons_intercalate {first : List Char} {others : List (List Char)}
    (h : ∀ part ∈ first :: others, ':' ∉ part) :
    splitColons ([':', ':'].intercalate (first :: others)) = first :: others := by
  induction others generalizing first with
  | nil =>
    rw [List.intercalate_singleton]
    exact splitColons_of_not_mem (h first List.mem_cons_self)
  | cons second others ih =>
    rw [List.intercalate_cons_cons, List.append_assoc, List.cons_append, List.singleton_append,
      splitColons_append (h first List.mem_cons_self),
      ih fun part hpart => h part (List.mem_cons_of_mem _ hpart)]

/-- A text all of whose characters can stand in an identifier. -/
def IsIdent (s : String) : Prop :=
  ∀ c ∈ s.toList, isIdentChar c = true

theorem isIdent_snakeCase (name : String) : IsIdent (snakeCase name) :=
  isIdentChar_of_mem_snakeCase name

theorem isIdent_memberIdent (name : String) : IsIdent (memberIdent name) :=
  isIdentChar_of_mem_memberIdent name

theorem isIdent_typeIdent (name : String) : IsIdent (typeIdent name) :=
  isIdentChar_of_mem_typeIdent name

/-- A mark of generated code stands in no identifier. -/
theorem IsIdent.not_mem {s : String} (h : IsIdent s) {mark : Char}
    (hmark : isIdentChar mark = false) : mark ∉ s.toList := by
  intro hmem
  rw [h mark hmem] at hmark
  cases hmark

/-- **A path of identifiers is read back.** -/
theorem segmentsOf_intercalate {first : String} {others : List String}
    (h : ∀ s ∈ first :: others, IsIdent s) :
    segmentsOf ("::".intercalate (first :: others)) = first :: others := by
  have hparts : ∀ part ∈ first.toList :: others.map String.toList, ':' ∉ part := by
    intro part hpart
    rw [← List.map_cons] at hpart
    obtain ⟨s, hs, rfl⟩ := List.mem_map.mp hpart
    exact (h s hs).not_mem rfl
  have hcolons : ("::" : String).toList = [':', ':'] := rfl
  rw [segmentsOf, String.toList_intercalate, List.map_cons, hcolons,
    splitColons_intercalate hparts, List.map_cons, List.map_map]
  simp [Function.comp_def]

/-- A name in front of a path is its first segment. -/
theorem segmentsOf_append {name : String} (h : IsIdent name) (path : String) :
    segmentsOf (name ++ "::" ++ path) = name :: segmentsOf path := by
  have hchars : (name ++ "::" ++ path).toList = name.toList ++ ':' :: ':' :: path.toList := by
    simp [String.toList_append]
  rw [segmentsOf, hchars, splitColons_append (h.not_mem rfl), List.map_cons, String.ofList_toList,
    segmentsOf]

theorem segmentsOf_of_isIdent {name : String} (h : IsIdent name) : segmentsOf name = [name] := by
  rw [segmentsOf, splitColons_of_not_mem (h.not_mem rfl), List.map_singleton, String.ofList_toList]

/-! ### Types -/

/-- What the container types of a type hold in the end: closing brackets are taken away, and what
is left is the text behind the last opening bracket or blank. -/
def innermost (type : String) : String :=
  String.ofList ((type.toList.reverse.dropWhile (· == '>')).takeWhile
    (fun c => c != '<' && c != ' ')).reverse

/-- Whether a character can stand in the path of a type. -/
def isPathChar (c : Char) : Bool :=
  isIdentChar c || c == ':'

theorem IsIdent.isPathChar {s : String} (h : IsIdent s) : ∀ c ∈ s.toList, isPathChar c = true := by
  intro c hc
  rw [Name.isPathChar, h c hc, Bool.true_or]

/-- **What stands in brackets is read back**: behind an opening bracket or a blank, or with nothing
before it, and with only closing brackets behind it. -/
theorem innermost_append (before path after : String)
    (hbefore : before = "" ∨ ∃ s, before = s ++ "<" ∨ before = s ++ " ")
    (hpath : ∀ c ∈ path.toList, isPathChar c = true)
    (hafter : after.toList.all (· == '>') = true) :
    innermost (before ++ path ++ after) = path := by
  have hchars : (before ++ path ++ after).toList.reverse =
      after.toList.reverse ++ (path.toList.reverse ++ before.toList.reverse) := by
    simp [String.toList_append]
  have hpathMarks : ∀ c ∈ path.toList, c ≠ '<' ∧ c ≠ ' ' ∧ c ≠ '>' := by
    intro c hc
    have hchar := hpath c hc
    refine ⟨?_, ?_, ?_⟩ <;> rintro rfl <;> exact absurd hchar (by decide)
  have hmark : before.toList.reverse = [] ∨
      ∃ c cs, before.toList.reverse = c :: cs ∧ (c = '<' ∨ c = ' ') := by
    rcases hbefore with rfl | ⟨s, rfl | rfl⟩
    · exact Or.inl rfl
    · exact Or.inr ⟨'<', s.toList.reverse, by simp [String.toList_append], Or.inl rfl⟩
    · exact Or.inr ⟨' ', s.toList.reverse, by simp [String.toList_append], Or.inr rfl⟩
  -- no more than the closing brackets is taken away
  have hdrop : (path.toList.reverse ++ before.toList.reverse).dropWhile (· == '>') =
      path.toList.reverse ++ before.toList.reverse := by
    cases hlast : path.toList.reverse with
    | nil =>
      rcases hmark with hnone | ⟨c, cs, hcons, rfl | rfl⟩
      · rw [hnone]
        rfl
      · rw [hcons]
        rfl
      · rw [hcons]
        rfl
    | cons c cs =>
      have hc : c ∈ path.toList := List.mem_reverse.mp (hlast ▸ List.mem_cons_self)
      rw [List.cons_append, List.dropWhile_cons_of_neg]
      exact fun heq => (hpathMarks c hc).2.2 (beq_iff_eq.mp heq)
  -- and what is left is kept up to where the path starts
  have htake : before.toList.reverse.takeWhile (fun c => c != '<' && c != ' ') = [] := by
    rcases hmark with hnone | ⟨c, cs, hcons, rfl | rfl⟩
    · rw [hnone]
      rfl
    · rw [hcons]
      rfl
    · rw [hcons]
      rfl
  rw [innermost, hchars, List.dropWhile_append_of_pos, hdrop, List.takeWhile_append_of_pos, htake,
    List.append_nil, List.reverse_reverse, String.ofList_toList]
  · intro c hc
    obtain ⟨hbracket, hblank, -⟩ := hpathMarks c (List.mem_reverse.mp hc)
    simp [hbracket, hblank]
  · exact fun c hc => List.all_eq_true.mp hafter c (List.mem_reverse.mp hc)

end Name

end SchemaCompiler
