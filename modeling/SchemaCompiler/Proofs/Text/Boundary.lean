import SchemaCompiler.Proofs.Text.Cut

/-!
# Cutting a text by its bytes

`SchemaCompiler.Text.truncate` goes through a text from its start, one character after another, and
`SchemaCompiler.Text.cutBack?` goes back over its bytes. On the way back three things could go
wrong: it could pass the start, the offset could lie behind the end, and the bytes before it could
be those of no text. None of them happens, and both give the same text (`cutBack?_eq_some`).

The reason is that bytes tell where characters start: the first byte of a character never continues
one, and the others always do (`exists_utf8EncodeChar_eq`). So an offset lies between two characters
exactly if the text splits there (`isBoundary_encodeChars_iff`), and of the splits that fit, the
last one is where `truncate` cuts (`isPrefix_takeBytes`).
-/

namespace SchemaCompiler.Text

/-! ### Going back -/

/-- Going back ends at the last boundary that is not too far. -/
theorem lastBoundary?_eq_some {bytes : List UInt8} {offset n : Nat} (hn : n ≤ offset)
    (hboundary : isBoundary bytes n = true)
    (hlast : ∀ m, n < m → m ≤ offset → isBoundary bytes m = false) :
    lastBoundary? bytes offset = some n := by
  induction offset with
  | zero =>
    obtain rfl : n = 0 := Nat.le_zero.mp hn
    rw [lastBoundary?, if_pos hboundary]
  | succ offset ih =>
    by_cases heq : n = offset + 1
    · rw [lastBoundary?, ← heq, if_pos hboundary]
    · have hpast : isBoundary bytes (offset + 1) = false := hlast _ (by omega) le_rfl
      rw [lastBoundary?, hpast, if_neg Bool.false_ne_true]
      exact ih (by omega) fun m hnm hm => hlast m hnm (by omega)

/-! ### Boundaries of encoded texts -/

/-- **The bytes of a character**: the first one starts it, and the others continue it. -/
theorem exists_utf8EncodeChar_eq (c : Char) :
    ∃ first rest, String.utf8EncodeChar c = first :: rest ∧ isContinuation first = false ∧
      ∀ b ∈ rest, isContinuation b = true := by
  have hfirst : ∀ n < 256, n < 0x80 ∨ 0xbf < n → isContinuation (UInt8.ofNat n) = false := by
    intro n hn hrange
    rw [Bool.eq_false_iff, Ne, isContinuation_iff, toNat_ofNat_of_lt hn]
    omega
  have hvalid := toNat_valid c
  generalize hv : c.val.toNat = v at hvalid
  simp only [String.utf8EncodeChar, hv]
  split_ifs with hone htwo hthree
  · exact ⟨_, _, rfl, hfirst _ (by omega) (by omega), List.forall_mem_nil _⟩
  · exact ⟨_, _, rfl, hfirst _ (by omega) (by omega),
      List.forall_mem_singleton.mpr (isContinuation_ofNat v)⟩
  · refine ⟨_, _, rfl, hfirst _ (by omega) (by omega), List.forall_mem_cons.mpr ?_⟩
    exact ⟨isContinuation_ofNat (v / 64), List.forall_mem_singleton.mpr (isContinuation_ofNat v)⟩
  · refine ⟨_, _, rfl, hfirst _ (by omega) (by omega), List.forall_mem_cons.mpr ?_⟩
    refine ⟨isContinuation_ofNat (v / 4096), List.forall_mem_cons.mpr ?_⟩
    exact ⟨isContinuation_ofNat (v / 64), List.forall_mem_singleton.mpr (isContinuation_ofNat v)⟩

theorem encodeChars_cons (c : Char) (cs : List Char) :
    encodeChars (c :: cs) = String.utf8EncodeChar c ++ encodeChars cs := rfl

theorem length_encodeChars (cs : List Char) : (encodeChars cs).length = byteLength cs := by
  induction cs with
  | nil => rfl
  | cons c cs ih =>
    rw [encodeChars_cons, List.length_append, String.length_utf8EncodeChar, ih, byteLength_cons]

/-- At the start of a text, its first byte says that there is a boundary. -/
theorem isBoundary_encodeChars (cs : List Char) (offset : Nat) :
    isBoundary (encodeChars cs) offset =
      ((encodeChars cs)[offset]?).elim (offset == (encodeChars cs).length)
        (fun b => !isContinuation b) := by
  rw [isBoundary]
  cases offset with
  | succ offset => rfl
  | zero =>
    cases cs with
    | nil => rfl
    | cons c cs =>
      obtain ⟨first, rest, hbytes, hfirst, -⟩ := exists_utf8EncodeChar_eq c
      rw [encodeChars_cons, hbytes, List.cons_append, List.getElem?_cons_zero, Option.elim_some,
        hfirst]
      rfl

/-- There is no boundary inside a character. -/
theorem isBoundary_of_lt_utf8Size {c : Char} {offset : Nat} (hpos : 0 < offset)
    (hlt : offset < c.utf8Size) (cs : List Char) :
    isBoundary (encodeChars (c :: cs)) offset = false := by
  obtain ⟨first, rest, hbytes, -, hrest⟩ := exists_utf8EncodeChar_eq c
  have hlength : rest.length + 1 = c.utf8Size := by
    rw [← String.length_utf8EncodeChar c, hbytes, List.length_cons]
  obtain ⟨place, rfl⟩ := Nat.exists_eq_add_of_lt hpos
  have hplace : place < rest.length := by omega
  rw [isBoundary_encodeChars, encodeChars_cons, hbytes, List.cons_append, Nat.zero_add,
    List.getElem?_cons_succ, List.getElem?_append_left hplace, List.getElem?_eq_getElem hplace,
    Option.elim_some, hrest _ (List.getElem_mem hplace), Bool.not_true]

/-- Behind a character, boundaries are those of the rest. -/
theorem isBoundary_utf8Size_add (c : Char) (cs : List Char) (offset : Nat) :
    isBoundary (encodeChars (c :: cs)) (c.utf8Size + offset) =
      isBoundary (encodeChars cs) offset := by
  have hlength := String.length_utf8EncodeChar c
  have hend : (c.utf8Size + offset == c.utf8Size + (encodeChars cs).length) =
      (offset == (encodeChars cs).length) := by
    simp
  rw [isBoundary_encodeChars, isBoundary_encodeChars, encodeChars_cons,
    List.getElem?_append_right (by omega), List.length_append, hlength, Nat.add_sub_cancel_left,
    hend]

/-- **Boundaries are where a text splits.** -/
theorem isBoundary_encodeChars_iff {cs : List Char} {offset : Nat} :
    isBoundary (encodeChars cs) offset = true ↔
      ∃ kept rest, cs = kept ++ rest ∧ byteLength kept = offset := by
  constructor
  · intro h
    induction cs generalizing offset with
    | nil =>
      have hzero : offset = 0 := by simpa [isBoundary, encodeChars] using h
      exact ⟨[], [], rfl, hzero.symm⟩
    | cons c cs ih =>
      rcases Nat.eq_zero_or_pos offset with rfl | hpos
      · exact ⟨[], c :: cs, rfl, rfl⟩
      · rcases Nat.lt_or_ge offset c.utf8Size with hlt | hge
        · rw [isBoundary_of_lt_utf8Size hpos hlt] at h
          cases h
        · obtain ⟨behind, rfl⟩ := Nat.exists_eq_add_of_le hge
          rw [isBoundary_utf8Size_add] at h
          obtain ⟨kept, rest, rfl, rfl⟩ := ih h
          exact ⟨c :: kept, rest, rfl, rfl⟩
  · rintro ⟨kept, rest, rfl, rfl⟩
    induction kept with
    | nil => rfl
    | cons c kept ih => rw [List.cons_append, byteLength_cons, isBoundary_utf8Size_add, ih]

/-! ### The longest start that fits -/

/-- **Every start of a text that fits is kept.** -/
theorem isPrefix_takeBytes {capacity : Nat} {kept cs : List Char} (h : kept <+: cs)
    (hfits : byteLength kept ≤ capacity) : kept <+: takeBytes capacity cs := by
  induction cs generalizing capacity kept with
  | nil => exact h
  | cons c cs ih =>
    cases kept with
    | nil => exact List.nil_prefix
    | cons d kept =>
      obtain ⟨rfl, hkept⟩ := List.cons_prefix_cons.mp h
      rw [byteLength_cons] at hfits
      rw [takeBytes, if_pos (by omega)]
      exact List.cons_prefix_cons.mpr ⟨rfl, ih hkept (by omega)⟩

/-- Where a text splits, the part before the offset is a text. -/
theorem before?_byteLength {s : String} {kept rest : List Char} (h : s.toList = kept ++ rest) :
    before? s (byteLength kept) = some (String.ofList kept) := by
  have hboundary : isBoundary (encode s) (byteLength kept) = true :=
    isBoundary_encodeChars_iff.mpr ⟨kept, rest, h, rfl⟩
  have htake : (encode s).take (byteLength kept) = encode (String.ofList kept) := by
    rw [encode, encode, h, encodeChars, List.flatMap_append, String.toList_ofList]
    exact List.take_left' (length_encodeChars kept)
  rw [before?, if_pos hboundary, htake, decode?_encode]

/-- **Going back finds where a text is cut**, and nothing goes wrong on the way. -/
theorem cutBack?_eq_some (capacity : Nat) (s : String) :
    cutBack? capacity s = some (truncate capacity s) := by
  rw [cutBack?, truncate]
  split
  · next hfits =>
    rw [encode, length_encodeChars] at hfits
    rw [takeBytes_of_fits hfits, String.ofList_toList]
  · obtain ⟨rest, hs, hcut⟩ := takeBytes_eq_iff.mp (Eq.refl (takeBytes capacity s.toList))
    have hboundary : isBoundary (encode s) (byteLength (takeBytes capacity s.toList)) = true :=
      isBoundary_encodeChars_iff.mpr ⟨_, rest, hs, rfl⟩
    have hlast : ∀ m, byteLength (takeBytes capacity s.toList) < m → m ≤ capacity →
        isBoundary (encode s) m = false := by
      intro m hm hfits
      rw [Bool.eq_false_iff]
      intro hbetween
      obtain ⟨kept, behind, hkept, rfl⟩ := isBoundary_encodeChars_iff.mp hbetween
      have hsub := (isPrefix_takeBytes ⟨behind, hkept.symm⟩ hfits).sublist
      exact absurd (byteLength_le_of_sublist hsub) (Nat.not_le.mpr hm)
    rw [lastBoundary?_eq_some hcut.fits hboundary hlast, Option.bind_some, before?_byteLength hs]

/-- **Cutting keeps the longest start of a text that fits.** For every text and every capacity,
going back from the capacity finds a boundary of the text, and what stands before it is the text
that is kept. That is a start of the text and fits, every other start that fits is a start of it,
and it is not cut again. -/
theorem truncate_longest (capacity : Nat) (s : String) :
    cutBack? capacity s = some (truncate capacity s) ∧
      (truncate capacity s).toList <+: s.toList ∧
      (encode (truncate capacity s)).length ≤ capacity ∧
      (∀ t : String, t.toList <+: s.toList → (encode t).length ≤ capacity →
        t.toList <+: (truncate capacity s).toList) ∧
      truncate capacity (truncate capacity s) = truncate capacity s := by
  refine ⟨cutBack?_eq_some capacity s, ?_, length_encode_truncate capacity s, ?_,
    truncate_truncate capacity s⟩
  · rw [toList_truncate]
    exact takeBytes_isPrefix capacity s.toList
  · intro t ht hfits
    rw [encode, length_encodeChars] at hfits
    rw [toList_truncate]
    exact isPrefix_takeBytes ht hfits

/-- Characters of two, three and four bytes are not split, wherever the capacity falls. Where it is
smaller than the first character, nothing is kept. -/
theorem truncate_longest_mixed :
    truncate 4 "aé→𝄞" = "aé" ∧ truncate 9 "aé→𝄞" = "aé→" ∧ cutBack? 1 "→" = some "" ∧
      "a".toList <+: (truncate 4 "aé→𝄞").toList := by
  obtain ⟨-, -, -, hlongest, -⟩ := truncate_longest 4 "aé→𝄞"
  exact ⟨by decide, by decide, (truncate_longest 1 "→").1.trans (by decide),
    hlongest "a" (by decide) (by decide)⟩

end SchemaCompiler.Text
