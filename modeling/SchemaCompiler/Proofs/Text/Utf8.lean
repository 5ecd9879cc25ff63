import Mathlib.Tactic.SplitIfs
import SchemaCompiler.Text.Utf8

/-!
# Text as bytes, and back

The bytes of a text show that text again: `SchemaCompiler.Text.decodeLossy_encode`. The decoder goes
by the first byte, so there is one lemma for each length of a character, stated on the bytes alone;
that the bytes of a character satisfy the limits is arithmetic on its code point, and the only place
where the gap of the surrogates is needed.

Cutting a text to a number of bytes leaves at most that many
(`SchemaCompiler.Text.length_encode_truncate`), and is stable
(`SchemaCompiler.Text.truncate_truncate`): what fits is not cut again.
-/

namespace SchemaCompiler.Text

/-! ### One character of the decoder -/

/-- Comparison of bytes is comparison of numbers. -/
theorem isContinuation_iff (b : UInt8) :
    isContinuation b = true ↔ 0x80 ≤ b.toNat ∧ b.toNat ≤ 0xbf := by
  simp [isContinuation, UInt8.le_iff_toNat_le]

theorem decodePieces_one {b : UInt8} (h : b.toNat < 0x80) (rest : List UInt8) :
    decodePieces (b :: rest) = some (Char.ofNat b.toNat) :: decodePieces rest := by
  have h0 : b < 0x80 := UInt8.lt_iff_toNat_lt.mpr h
  rw [decodePieces.eq_def]
  simp only [if_pos h0]

theorem decodePieces_two {b0 b1 : UInt8} (h0 : 0xc2 ≤ b0.toNat) (h0' : b0.toNat < 0xe0)
    (h1 : isContinuation b1 = true) (rest : List UInt8) :
    decodePieces (b0 :: b1 :: rest) =
      some (Char.ofNat (b0.toNat % 32 * 64 + payload b1)) :: decodePieces rest := by
  have hlow : ¬b0 < 0x80 := by
    rw [UInt8.lt_iff_toNat_lt]
    simp only [UInt8.reduceToNat]
    omega
  have hstart : ¬b0 < 0xc2 := by
    rw [UInt8.lt_iff_toNat_lt]
    simp only [UInt8.reduceToNat]
    omega
  have htwo : b0 < 0xe0 := UInt8.lt_iff_toNat_lt.mpr h0'
  rw [decodePieces.eq_def]
  simp only [if_neg hlow, if_neg hstart, if_pos htwo, if_pos h1]

theorem decodePieces_three {b0 b1 b2 : UInt8} (h0 : 0xe0 ≤ b0.toNat) (h0' : b0.toNat < 0xf0)
    (h1 : mayFollow b0 b1 = true) (h2 : isContinuation b2 = true) (rest : List UInt8) :
    decodePieces (b0 :: b1 :: b2 :: rest) =
      some (Char.ofNat ((b0.toNat % 16 * 64 + payload b1) * 64 + payload b2)) ::
        decodePieces rest := by
  have hge : ∀ n : UInt8, n.toNat ≤ 0xe0 → ¬b0 < n := by
    intro n hn
    rw [UInt8.lt_iff_toNat_lt]
    omega
  have hend : ¬0xf4 < b0 := by
    rw [UInt8.lt_iff_toNat_lt]
    simp only [UInt8.reduceToNat]
    omega
  have hthree : b0 < 0xf0 := UInt8.lt_iff_toNat_lt.mpr h0'
  rw [decodePieces.eq_def]
  simp only [if_neg (hge 0x80 (by decide)), if_neg (hge 0xc2 (by decide)),
    if_neg (hge 0xe0 (by decide)), if_neg hend, h1, h2, Bool.not_true, Bool.false_eq_true,
    if_false, if_pos hthree]

theorem decodePieces_four {b0 b1 b2 b3 : UInt8} (h0 : 0xf0 ≤ b0.toNat) (h0' : b0.toNat ≤ 0xf4)
    (h1 : mayFollow b0 b1 = true) (h2 : isContinuation b2 = true) (h3 : isContinuation b3 = true)
    (rest : List UInt8) :
    decodePieces (b0 :: b1 :: b2 :: b3 :: rest) =
      some (Char.ofNat
        (((b0.toNat % 8 * 64 + payload b1) * 64 + payload b2) * 64 + payload b3)) ::
        decodePieces rest := by
  have hge : ∀ n : UInt8, n.toNat ≤ 0xf0 → ¬b0 < n := by
    intro n hn
    rw [UInt8.lt_iff_toNat_lt]
    omega
  have hend : ¬0xf4 < b0 := by
    rw [UInt8.lt_iff_toNat_lt]
    simp only [UInt8.reduceToNat]
    omega
  rw [decodePieces.eq_def]
  simp only [if_neg (hge 0x80 (by decide)), if_neg (hge 0xc2 (by decide)),
    if_neg (hge 0xe0 (by decide)), if_neg hend, h1, h2, h3, Bool.not_true, Bool.false_eq_true,
    if_false, if_neg (hge 0xf0 (by decide))]

/-! ### The bytes of a character -/

/-- Code points are numbers below `0x110000` outside the surrogates. -/
theorem toNat_valid (c : Char) :
    c.val.toNat < 0xd800 ∨ (0xdfff < c.val.toNat ∧ c.val.toNat < 0x110000) :=
  c.valid

theorem toNat_ofNat_of_lt {n : Nat} (h : n < 256) : (UInt8.ofNat n).toNat = n := by
  simp [Nat.mod_eq_of_lt h]

/-- A byte made of six bits and the continuation mark continues a character. -/
theorem isContinuation_ofNat (n : Nat) : isContinuation (UInt8.ofNat (n % 64 + 0x80)) = true := by
  rw [isContinuation_iff, toNat_ofNat_of_lt (by omega)]
  omega

/-- Such a byte carries the six bits. -/
theorem payload_ofNat (n : Nat) : payload (UInt8.ofNat (n % 64 + 0x80)) = n % 64 := by
  rw [payload, toNat_ofNat_of_lt (by omega)]
  omega

/-- The second byte may follow the first if the limits of the first leave room for it. -/
theorem mayFollow_of_limits {b0 b1 : UInt8} (h1 : 0x80 ≤ b1.toNat ∧ b1.toNat ≤ 0xbf)
    (he0 : b0.toNat = 0xe0 → 0xa0 ≤ b1.toNat) (hed : b0.toNat = 0xed → b1.toNat ≤ 0x9f)
    (hf0 : b0.toNat = 0xf0 → 0x90 ≤ b1.toNat) (hf4 : b0.toNat = 0xf4 → b1.toNat ≤ 0x8f) :
    mayFollow b0 b1 = true := by
  simp only [mayFollow, beq_iff_eq, ← UInt8.toNat_inj, UInt8.le_iff_toNat_le, UInt8.reduceToNat]
  split_ifs with h2 h3 h4 h5
  · simpa using ⟨he0 h2, h1.2⟩
  · simpa using ⟨h1.1, hed h3⟩
  · simpa using ⟨hf0 h4, h1.2⟩
  · simpa using ⟨h1.1, hf4 h5⟩
  · exact (isContinuation_iff b1).mpr h1

/-- **The bytes of a character are read as that character.** -/
theorem decodePieces_utf8EncodeChar (c : Char) (rest : List UInt8) :
    decodePieces (String.utf8EncodeChar c ++ rest) = some c :: decodePieces rest := by
  have hvalid := toNat_valid c
  have hchar : Char.ofNat c.val.toNat = c := Char.ofNat_toNat c
  generalize hv : c.val.toNat = v at hvalid hchar
  simp only [String.utf8EncodeChar, hv]
  -- the four lengths, from the shortest
  split_ifs with hone htwo hthree
  · have hb : (UInt8.ofNat v).toNat = v := toNat_ofNat_of_lt (by omega)
    rw [List.cons_append, List.nil_append, decodePieces_one (by omega), hb, hchar]
  · have hb : (UInt8.ofNat (v / 64 % 0x20 + 0xc0)).toNat = v / 64 + 0xc0 := by
      rw [toNat_ofNat_of_lt (by omega)]
      omega
    have hsum : (v / 64 + 0xc0) % 32 * 64 + v % 64 = v := by omega
    simp only [List.cons_append, List.nil_append]
    rw [decodePieces_two (by omega) (by omega) (isContinuation_ofNat v), payload_ofNat, hb, hsum,
      hchar]
  · have hb : (UInt8.ofNat (v / 4096 % 0x10 + 0xe0)).toNat = v / 4096 + 0xe0 := by
      rw [toNat_ofNat_of_lt (by omega)]
      omega
    have hb1 : (UInt8.ofNat (v / 64 % 0x40 + 0x80)).toNat = v / 64 % 64 + 0x80 :=
      toNat_ofNat_of_lt (by omega)
    have hsum : ((v / 4096 + 0xe0) % 16 * 64 + v / 64 % 64) * 64 + v % 64 = v := by omega
    have hfollow : mayFollow (UInt8.ofNat (v / 4096 % 0x10 + 0xe0))
        (UInt8.ofNat (v / 64 % 0x40 + 0x80)) = true := by
      apply mayFollow_of_limits <;> omega
    simp only [List.cons_append, List.nil_append]
    rw [decodePieces_three (by omega) (by omega) hfollow (isContinuation_ofNat v), payload_ofNat,
      payload_ofNat, hb, hsum, hchar]
  · have hb : (UInt8.ofNat (v / 262144 % 0x08 + 0xf0)).toNat = v / 262144 + 0xf0 := by
      rw [toNat_ofNat_of_lt (by omega)]
      omega
    have hb1 : (UInt8.ofNat (v / 4096 % 0x40 + 0x80)).toNat = v / 4096 % 64 + 0x80 :=
      toNat_ofNat_of_lt (by omega)
    have hsum : (((v / 262144 + 0xf0) % 8 * 64 + v / 4096 % 64) * 64 + v / 64 % 64) * 64 + v % 64 =
        v := by omega
    have hfollow : mayFollow (UInt8.ofNat (v / 262144 % 0x08 + 0xf0))
        (UInt8.ofNat (v / 4096 % 0x40 + 0x80)) = true := by
      apply mayFollow_of_limits <;> omega
    simp only [List.cons_append, List.nil_append]
    rw [decodePieces_four (by omega) (by omega) hfollow (isContinuation_ofNat (v / 64))
      (isContinuation_ofNat v), payload_ofNat, payload_ofNat, payload_ofNat, hb, hsum, hchar]

/-! ### Texts -/

/-- The bytes of a list of characters are read as these characters. -/
theorem decodePieces_encodeChars (cs : List Char) :
    decodePieces (encodeChars cs) = cs.map some := by
  induction cs with
  | nil => simp [encodeChars, decodePieces]
  | cons c cs ih =>
    have hcons : encodeChars (c :: cs) = String.utf8EncodeChar c ++ encodeChars cs := rfl
    rw [hcons, decodePieces_utf8EncodeChar, ih, List.map_cons]

/-- **The bytes of a text show that text.** -/
@[simp] theorem decodeLossy_encode (s : String) : decodeLossy (encode s) = s := by
  rw [decodeLossy, encode, decodePieces_encodeChars, List.map_map]
  have hid : (fun piece : Option Char => piece.getD '�') ∘ some = id := rfl
  rw [hid, List.map_id, String.ofList_toList]

/-- **The bytes of a text are those of that text.** -/
@[simp] theorem decode?_encode (s : String) : decode? (encode s) = some s := by
  have hall : ∀ cs : List Char, (cs.map some).mapM id = some cs := by
    intro cs
    induction cs with
    | nil => rfl
    | cons c cs ih => rw [List.map_cons, List.mapM_cons, ih]; rfl
  rw [decode?, encode, decodePieces_encodeChars, hall, Option.map_some, String.ofList_toList]

/-- **Texts with the same bytes are the same.** -/
theorem encode_injective {s t : String} (h : encode s = encode t) : s = t := by
  rw [← decodeLossy_encode s, h, decodeLossy_encode]

/-! ### Cutting -/

/-- What fits is not cut again. -/
theorem takeBytes_takeBytes (capacity : Nat) (cs : List Char) :
    takeBytes capacity (takeBytes capacity cs) = takeBytes capacity cs := by
  induction cs generalizing capacity with
  | nil => rfl
  | cons c cs ih =>
    by_cases h : c.utf8Size ≤ capacity
    · rw [takeBytes, if_pos h, takeBytes, if_pos h, ih]
    · rw [takeBytes, if_neg h, takeBytes]

theorem length_encodeChars_takeBytes (capacity : Nat) (cs : List Char) :
    (encodeChars (takeBytes capacity cs)).length ≤ capacity := by
  induction cs generalizing capacity with
  | nil => exact Nat.zero_le _
  | cons c cs ih =>
    by_cases h : c.utf8Size ≤ capacity
    · have hcons : encodeChars (c :: takeBytes (capacity - c.utf8Size) cs) =
          String.utf8EncodeChar c ++ encodeChars (takeBytes (capacity - c.utf8Size) cs) := rfl
      have hrest := ih (capacity - c.utf8Size)
      rw [takeBytes, if_pos h, hcons, List.length_append, String.length_utf8EncodeChar]
      omega
    · rw [takeBytes, if_neg h]
      exact Nat.zero_le _

/-- **A text that is cut takes no more bytes than it may.** -/
theorem length_encode_truncate (capacity : Nat) (s : String) :
    (encode (truncate capacity s)).length ≤ capacity := by
  rw [truncate, encode, String.toList_ofList]
  exact length_encodeChars_takeBytes capacity s.toList

/-- **Cutting a text twice is cutting it once.** -/
@[simp] theorem truncate_truncate (capacity : Nat) (s : String) :
    truncate capacity (truncate capacity s) = truncate capacity s := by
  rw [truncate, truncate, String.toList_ofList, takeBytes_takeBytes]

end SchemaCompiler.Text
