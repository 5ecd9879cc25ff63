import SchemaCompiler.Text.Lines

/-!
# Lines and first occurrences

A text is cut into lines at its line feeds, and a line is cut at the first place where a pattern
occurs in it. Of the cutting into lines only one thing is needed: a line feed separates what stands
before it from what follows (`SchemaCompiler.Text.splitLines_append_feed`), so that a line can be
taken off the front of a text (`SchemaCompiler.Text.lines_append_feed`) and no line holds a line
feed (`SchemaCompiler.Text.feed_notMem_of_mem_lines`).

A pattern is found exactly where it occurs (`SchemaCompiler.Text.cutChars_eq_none_iff`), and it is
found at a place if its first character does not stand before that place
(`SchemaCompiler.Text.cutChars_append`).

What a text starts with is left to the simplifier: where both texts begin with given words, it
compares these character by character.
-/

namespace SchemaCompiler.Text

/-! ### Starts -/

attribute [simp] List.isPrefixOf_cons₂

@[simp] theorem startsWith_eq_isPrefixOf (s start : String) :
    startsWith s start = start.toList.isPrefixOf s.toList :=
  rfl

/-! ### Lines -/

/-- The pieces between line feeds are those that the library finds. -/
theorem splitLines_eq_splitOn (cs : List Char) : splitLines cs = cs.splitOn '\n' := by
  induction cs with
  | nil => rfl
  | cons c cs ih =>
    obtain ⟨piece, pieces, hcons⟩ :=
      List.exists_cons_of_ne_nil (List.splitOn_ne_nil '\n' cs)
    rw [splitLines, ih, hcons, List.splitOn, List.splitOnP_cons_eq_if_modifyHead, ← List.splitOn,
      hcons]
    rfl

theorem splitLines_ne_nil (cs : List Char) : splitLines cs ≠ [] := by
  rw [splitLines_eq_splitOn]
  exact List.splitOn_ne_nil '\n' cs

/-- **A line feed separates what stands before it from what follows.** -/
theorem splitLines_append_feed (cs rest : List Char) :
    splitLines (cs ++ '\n' :: rest) = splitLines cs ++ splitLines rest := by
  rw [splitLines_eq_splitOn, splitLines_eq_splitOn, splitLines_eq_splitOn,
    List.splitOn_append_cons_self]

theorem splitLines_of_notMem {cs : List Char} (h : '\n' ∉ cs) : splitLines cs = [cs] := by
  have hsplit := List.splitOn_intercalate '\n' (List.forall_mem_singleton.mpr h)
    (List.cons_ne_nil cs [])
  rwa [List.intercalate_singleton, ← splitLines_eq_splitOn] at hsplit

theorem dropReturn_of_getLast? {cs : List Char} (h : cs.getLast? ≠ some '\r') :
    dropReturn cs = cs := by
  rw [dropReturn]
  split
  · rename_i rest hreverse
    rw [← List.head?_reverse, hreverse] at h
    exact absurd rfl h
  · rfl

/-- **The first line of a text** ends at the first line feed. -/
theorem lines_append_feed {first : String} (h : '\n' ∉ first.toList) (rest : String) :
    lines (first ++ "\n" ++ rest) =
      String.ofList (dropReturn first.toList) :: lines rest := by
  have hchars : (first ++ "\n" ++ rest).toList = first.toList ++ '\n' :: rest.toList := by
    simp [String.toList_append]
  obtain ⟨piece, pieces, hcons⟩ := List.exists_cons_of_ne_nil (splitLines_ne_nil rest.toList)
  rw [lines, lines, hchars, splitLines_append_feed, splitLines_of_notMem h, hcons,
    List.singleton_append, List.getLast?_cons_cons, List.dropLast_cons_cons, List.map_cons]
  split <;> rfl

/-- The pieces between line feeds hold none. -/
theorem feed_notMem_of_mem_splitLines {cs piece : List Char} (h : piece ∈ splitLines cs) :
    '\n' ∉ piece := by
  induction cs generalizing piece with
  | nil =>
    rw [List.mem_singleton.mp h]
    exact List.not_mem_nil
  | cons c cs ih =>
    obtain ⟨line, lines, hcons⟩ := List.exists_cons_of_ne_nil (splitLines_ne_nil cs)
    simp only [splitLines, hcons] at h ih
    split at h
    · rcases List.mem_cons.mp h with rfl | hin
      · exact List.not_mem_nil
      · exact ih hin
    · rename_i hc
      rcases List.mem_cons.mp h with rfl | hin
      · have hfeed : '\n' ∉ line := ih List.mem_cons_self
        have hne : c ≠ '\n' := fun heq => hc (beq_iff_eq.mpr heq)
        exact fun hin => (List.mem_cons.mp hin).elim (fun heq => hne heq.symm) hfeed
      · exact ih (List.mem_cons_of_mem _ hin)

theorem dropReturn_subset (cs : List Char) : dropReturn cs ⊆ cs := by
  rw [dropReturn]
  split
  · rename_i rest hreverse
    intro c hc
    rw [← List.mem_reverse, hreverse]
    exact List.mem_cons_of_mem _ (List.mem_reverse.mp hc)
  · exact List.Subset.refl cs

/-- **A line holds no line feed.** -/
theorem feed_notMem_of_mem_lines {s line : String} (h : line ∈ lines s) : '\n' ∉ line.toList := by
  obtain ⟨piece, hpiece, rfl⟩ := List.mem_map.mp h
  rw [String.toList_ofList]
  have hended : ∀ cs ∈ (splitLines s.toList).dropLast.map dropReturn, '\n' ∉ cs := by
    intro cs hcs
    obtain ⟨whole, hwhole, rfl⟩ := List.mem_map.mp hcs
    exact fun hfeed => feed_notMem_of_mem_splitLines (List.dropLast_subset _ hwhole)
      (dropReturn_subset whole hfeed)
  split at hpiece
  · exact hended piece hpiece
  · rcases List.mem_append.mp hpiece with hin | hlast
    · exact hended piece hin
    · rw [List.mem_singleton.mp hlast, List.getLast?_eq_some_getLast (splitLines_ne_nil s.toList)]
      exact feed_notMem_of_mem_splitLines (List.getLast_mem _)

/-! ### First occurrences -/

/-- **What is found stands there.** -/
theorem eq_of_cutChars {pattern cs before after : List Char}
    (h : cutChars pattern cs = some (before, after)) : cs = before ++ pattern ++ after := by
  induction cs generalizing before with
  | nil =>
    rw [cutChars] at h
    split at h
    · rename_i hempty
      cases h
      rw [List.isEmpty_iff.mp hempty]
      rfl
    · cases h
  | cons c cs ih =>
    rw [cutChars] at h
    split at h
    · rename_i hstart
      obtain ⟨rest, hrest⟩ := List.isPrefixOf_iff_prefix.mp hstart
      cases h
      rw [← hrest, List.drop_left, List.nil_append]
    · obtain ⟨⟨front, behind⟩, hcut, heq⟩ := Option.map_eq_some_iff.mp h
      cases heq
      rw [ih hcut, List.cons_append, List.cons_append]

/-- **Nothing is found exactly where the pattern does not occur.** -/
theorem cutChars_eq_none_iff {pattern cs : List Char} :
    cutChars pattern cs = none ↔ ¬pattern <:+: cs := by
  induction cs with
  | nil =>
    rw [cutChars, List.infix_nil, ← List.isEmpty_iff]
    split <;> simp_all
  | cons c cs ih =>
    rw [cutChars, List.infix_cons_iff, not_or, ← List.isPrefixOf_iff_prefix, ← ih]
    split
    · rename_i hstart
      simp [hstart]
    · rename_i hstart
      rw [Option.map_eq_none_iff, and_iff_right hstart]

/-- **A pattern is found** where its first character does not stand before it. -/
theorem cutChars_append {first : Char} {before : List Char} (h : first ∉ before)
    (others rest : List Char) :
    cutChars (first :: others) (before ++ (first :: others ++ rest)) = some (before, rest) := by
  induction before with
  | nil =>
    have hstart : (first :: others).isPrefixOf (first :: others ++ rest) = true :=
      List.isPrefixOf_iff_prefix.mpr (List.prefix_append _ _)
    rw [List.nil_append, List.cons_append, cutChars, ← List.cons_append, if_pos hstart,
      List.drop_left]
  | cons c before ih =>
    obtain ⟨hc, hbefore⟩ := not_or.mp (mt List.mem_cons.mpr h)
    have hstart : (first :: others).isPrefixOf (c :: (before ++ (first :: others ++ rest))) =
        false := by
      rw [List.isPrefixOf, beq_false_of_ne hc, Bool.false_and]
    rw [List.cons_append, cutChars, hstart, if_neg Bool.false_ne_true, ih hbefore]
    rfl

end SchemaCompiler.Text
