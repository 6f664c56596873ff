import PocketSql.Proofs.Sequence
import PocketSql.Unicode.Utf8
/-!
# UTF-8 is read back

Reading the bytes of a text gives the text. The reader is a machine that keeps the ranges of the
bytes that are due, so the proof follows one character at a time through its first byte, which
decides the ranges, and through the bytes after it. The narrow ranges that keep out overlong forms,
surrogates and values above the last character are met because the characters are none of those.

Nothing else is read. Bytes that lie in the ranges that were due are those of the character that
they are read as, for the same reason the other way round: the narrow ranges leave no second
encoding of a character and no encoding of a value that is none.
-/

namespace PocketSql.Utf8

/-! ### Steps of the reader -/

theorem contains_ofNat (low high n : Nat) (hlow : low ≤ n) (hhigh : n ≤ high)
    (hbyte : high < 256) :
    (⟨UInt8.ofNat low, UInt8.ofNat high⟩ : ByteRange).contains (UInt8.ofNat n) = true := by
  have hvalue : ∀ m < 256, (UInt8.ofNat m).toNat = m := fun m hm => Nat.mod_eq_of_lt hm
  simp only [ByteRange.contains, Bool.and_eq_true, decide_eq_true_eq, UInt8.le_iff_toNat_le]
  rw [hvalue low (by omega), hvalue n (by omega), hvalue high hbyte]
  exact ⟨hlow, hhigh⟩

theorem decodeFrom_single {byte : UInt8} (h : followers byte = some []) (index : Nat)
    (rest : List UInt8) :
    decodeFrom index 0 0 [] (byte :: rest) =
      (decodeFrom (index + 1) 0 0 [] rest).map (Char.ofNat byte.toNat :: ·) := by
  rw [decodeFrom, h]

theorem decodeFrom_first {byte : UInt8} {range : ByteRange} {due : List ByteRange}
    (h : followers byte = some (range :: due)) (index : Nat) (rest : List UInt8) :
    decodeFrom index 0 0 [] (byte :: rest) =
      decodeFrom index 1 (byte.toNat % leadModulus (due.length + 1)) (range :: due) rest := by
  rw [decodeFrom, h]
  rfl

theorem decodeFrom_middle {byte : UInt8} {range next : ByteRange}
    (h : range.contains byte = true) (due : List ByteRange) (index read bits : Nat)
    (rest : List UInt8) :
    decodeFrom index read bits (range :: next :: due) (byte :: rest) =
      decodeFrom index (read + 1) (bits * 64 + byte.toNat % 64) (next :: due) rest := by
  rw [decodeFrom, if_pos h]
  rfl

theorem decodeFrom_last {byte : UInt8} {range : ByteRange} (h : range.contains byte = true)
    (index read bits : Nat) (rest : List UInt8) :
    decodeFrom index read bits [range] (byte :: rest) =
      (decodeFrom (index + read + 1) 0 0 [] rest).map
        (Char.ofNat (bits * 64 + byte.toNat % 64) :: ·) := by
  rw [decodeFrom, if_pos h]
  rfl

/-! ### First bytes -/

theorem followers_one : ∀ n < 0x80, followers (UInt8.ofNat n) = some [] := by
  decide

theorem followers_two : ∀ n < 0xE0, 0xC2 ≤ n →
    followers (UInt8.ofNat n) = some [continuation] := by
  decide +kernel

theorem followers_three : ∀ n < 0xF0, 0xE0 ≤ n → followers (UInt8.ofNat n) =
    some [⟨UInt8.ofNat (if n = 0xE0 then 0xA0 else 0x80),
      UInt8.ofNat (if n = 0xED then 0x9F else 0xBF)⟩, continuation] := by
  decide +kernel

theorem followers_four : ∀ n < 0xF5, 0xF0 ≤ n → followers (UInt8.ofNat n) =
    some [⟨UInt8.ofNat (if n = 0xF0 then 0x90 else 0x80),
      UInt8.ofNat (if n = 0xF4 then 0x8F else 0xBF)⟩, continuation, continuation] := by
  decide +kernel

theorem contains_continuation (n : Nat) :
    continuation.contains (UInt8.ofNat (n % 64 + 0x80)) = true := by
  change (⟨UInt8.ofNat 0x80, UInt8.ofNat 0xBF⟩ : ByteRange).contains _ = true
  exact contains_ofNat 0x80 0xBF _ (by omega) (by omega) (by decide)

theorem toNat_ofNat {n : Nat} (h : n < 256) : (UInt8.ofNat n).toNat = n :=
  Nat.mod_eq_of_lt h

/-! ### Characters -/

section Characters

variable {c : Char}

theorem utf8EncodeChar_one (h : c.toNat ≤ 0x7F) :
    String.utf8EncodeChar c = [UInt8.ofNat c.toNat] :=
  if_pos h

theorem utf8EncodeChar_two (h : ¬c.toNat ≤ 0x7F) (h2 : c.toNat ≤ 0x7FF) :
    String.utf8EncodeChar c = [UInt8.ofNat (c.toNat / 64 % 32 + 0xC0),
      UInt8.ofNat (c.toNat % 64 + 0x80)] :=
  (if_neg h).trans (if_pos h2)

theorem utf8EncodeChar_three (h : ¬c.toNat ≤ 0x7F) (h2 : ¬c.toNat ≤ 0x7FF)
    (h3 : c.toNat ≤ 0xFFFF) :
    String.utf8EncodeChar c = [UInt8.ofNat (c.toNat / 4096 % 16 + 0xE0),
      UInt8.ofNat (c.toNat / 64 % 64 + 0x80), UInt8.ofNat (c.toNat % 64 + 0x80)] :=
  (if_neg h).trans ((if_neg h2).trans (if_pos h3))

theorem utf8EncodeChar_four (h : ¬c.toNat ≤ 0x7F) (h2 : ¬c.toNat ≤ 0x7FF)
    (h3 : ¬c.toNat ≤ 0xFFFF) :
    String.utf8EncodeChar c = [UInt8.ofNat (c.toNat / 262144 % 8 + 0xF0),
      UInt8.ofNat (c.toNat / 4096 % 64 + 0x80), UInt8.ofNat (c.toNat / 64 % 64 + 0x80),
      UInt8.ofNat (c.toNat % 64 + 0x80)] :=
  (if_neg h).trans ((if_neg h2).trans (if_neg h3))

/-- A character is neither a surrogate nor above the last code point. -/
theorem toNat_valid (c : Char) :
    c.toNat < 0xD800 ∨ 0xDFFF < c.toNat ∧ c.toNat < 0x110000 :=
  c.valid

theorem ofNat_eq {n : Nat} (h : n = c.toNat) : Char.ofNat n = c := by
  rw [h, Char.ofNat_toNat]

/-- The bytes of a character are read as that character. -/
theorem decodeFrom_utf8EncodeChar (index : Nat) (c : Char) (rest : List UInt8) :
    decodeFrom index 0 0 [] (String.utf8EncodeChar c ++ rest) =
      (decodeFrom (index + (String.utf8EncodeChar c).length) 0 0 [] rest).map (c :: ·) := by
  have hvalid := toNat_valid c
  by_cases h : c.toNat ≤ 0x7F
  · have hfirst := followers_one c.toNat (by omega)
    have hc : Char.ofNat (UInt8.ofNat c.toNat).toNat = c :=
      ofNat_eq (toNat_ofNat (by omega))
    rw [utf8EncodeChar_one h, List.cons_append, List.nil_append, decodeFrom_single hfirst, hc]
    rfl
  by_cases h2 : c.toNat ≤ 0x7FF
  · have hfirst := followers_two (c.toNat / 64 % 32 + 0xC0) (by omega) (by omega)
    have hc : Char.ofNat ((UInt8.ofNat (c.toNat / 64 % 32 + 0xC0)).toNat % leadModulus 1 * 64 +
        (UInt8.ofNat (c.toNat % 64 + 0x80)).toNat % 64) = c := by
      rw [toNat_ofNat (by omega), toNat_ofNat (by omega), leadModulus]
      exact ofNat_eq (by omega)
    rw [utf8EncodeChar_two h h2, List.cons_append, List.cons_append, List.nil_append,
      decodeFrom_first hfirst, decodeFrom_last (contains_continuation _)]
    simp only [List.length_nil, List.length_cons, Nat.zero_add, Nat.add_assoc, hc]
  by_cases h3 : c.toNat ≤ 0xFFFF
  · have hfirst := followers_three (c.toNat / 4096 % 16 + 0xE0) (by omega) (by omega)
    -- The second byte is in its narrow range: the character is not overlong and no surrogate.
    have hsecond := contains_ofNat
      (if c.toNat / 4096 % 16 + 0xE0 = 0xE0 then 0xA0 else 0x80)
      (if c.toNat / 4096 % 16 + 0xE0 = 0xED then 0x9F else 0xBF) (c.toNat / 64 % 64 + 0x80)
      (by split <;> omega) (by split <;> omega) (by split <;> omega)
    have hc : Char.ofNat (((UInt8.ofNat (c.toNat / 4096 % 16 + 0xE0)).toNat % leadModulus 2 * 64 +
        (UInt8.ofNat (c.toNat / 64 % 64 + 0x80)).toNat % 64) * 64 +
        (UInt8.ofNat (c.toNat % 64 + 0x80)).toNat % 64) = c := by
      rw [toNat_ofNat (by omega), toNat_ofNat (by omega), toNat_ofNat (by omega), leadModulus]
      exact ofNat_eq (by omega)
    simp only [utf8EncodeChar_three h h2 h3, List.cons_append, List.nil_append]
    rw [decodeFrom_first hfirst, decodeFrom_middle hsecond,
      decodeFrom_last (contains_continuation _)]
    simp only [List.length_cons, List.length_nil, Nat.zero_add, Nat.add_assoc, hc]
  · have hfirst := followers_four (c.toNat / 262144 % 8 + 0xF0) (by omega) (by omega)
    -- Again the range is met: the character is not overlong and not above the last one.
    have hsecond := contains_ofNat
      (if c.toNat / 262144 % 8 + 0xF0 = 0xF0 then 0x90 else 0x80)
      (if c.toNat / 262144 % 8 + 0xF0 = 0xF4 then 0x8F else 0xBF) (c.toNat / 4096 % 64 + 0x80)
      (by split <;> omega) (by split <;> omega) (by split <;> omega)
    have hc : Char.ofNat ((((UInt8.ofNat (c.toNat / 262144 % 8 + 0xF0)).toNat % leadModulus 3 *
        64 + (UInt8.ofNat (c.toNat / 4096 % 64 + 0x80)).toNat % 64) * 64 +
        (UInt8.ofNat (c.toNat / 64 % 64 + 0x80)).toNat % 64) * 64 +
        (UInt8.ofNat (c.toNat % 64 + 0x80)).toNat % 64) = c := by
      rw [toNat_ofNat (by omega), toNat_ofNat (by omega), toNat_ofNat (by omega),
        toNat_ofNat (by omega), leadModulus]
      · exact ofNat_eq (by omega)
      all_goals decide
    simp only [utf8EncodeChar_four h h2 h3, List.cons_append, List.nil_append]
    rw [decodeFrom_first hfirst, decodeFrom_middle hsecond,
      decodeFrom_middle (contains_continuation _), decodeFrom_last (contains_continuation _)]
    simp only [List.length_cons, List.length_nil, Nat.zero_add, Nat.add_assoc, hc]

end Characters

/-- The bytes of some characters are read as those, and reading goes on right behind them. -/
theorem decodeFrom_flatMap (index : Nat) (chars : List Char) (rest : List UInt8) :
    decodeFrom index 0 0 [] (chars.flatMap String.utf8EncodeChar ++ rest) =
      (decodeFrom (index + (chars.flatMap String.utf8EncodeChar).length) 0 0 [] rest).map
        (chars ++ ·) := by
  induction chars generalizing index with
  | nil =>
      change decodeFrom index 0 0 [] rest = (decodeFrom index 0 0 [] rest).map ([] ++ ·)
      cases decodeFrom index 0 0 [] rest with
      | error fault => rfl
      | ok others => rfl
  | cons c chars ih =>
      rw [List.flatMap_cons, List.append_assoc, decodeFrom_utf8EncodeChar, ih, List.length_append,
        Nat.add_assoc]
      cases decodeFrom _ 0 0 [] rest with
      | error fault => rfl
      | ok others => rfl

/-- **A text is read back from its bytes.** -/
theorem decode_encode (text : String) : decode (encode text) = .ok text := by
  have hread := decodeFrom_flatMap 0 text.toList []
  rw [List.append_nil] at hread
  rw [decode, encode, hread]
  change Except.ok (String.ofList (text.toList ++ [])) = _
  rw [List.append_nil, String.ofList_toList]

/-! ### Only the bytes of texts are read -/

section Converse

variable {byte : UInt8} {range next : ByteRange} {due : List ByteRange} {index read bits : Nat}
  {bytes : List UInt8} {chars : List Char}

theorem followers_none : ∀ n < 0x100, 0x80 ≤ n ∧ n < 0xC2 ∨ 0xF5 ≤ n →
    followers (UInt8.ofNat n) = none := by
  decide +kernel

theorem ofNat_eq_byte (byte : UInt8) {n : Nat} (h : n = byte.toNat) : UInt8.ofNat n = byte := by
  rw [h, UInt8.ofNat_toNat]

theorem toNat_of_contains (low high : Nat) (hlow : low < 256) (hhigh : high < 256)
    (h : (⟨UInt8.ofNat low, UInt8.ofNat high⟩ : ByteRange).contains byte = true) :
    low ≤ byte.toNat ∧ byte.toNat ≤ high := by
  simp only [ByteRange.contains, Bool.and_eq_true, decide_eq_true_eq, UInt8.le_iff_toNat_le] at h
  rwa [toNat_ofNat hlow, toNat_ofNat hhigh] at h

theorem toNat_of_continuation (h : continuation.contains byte = true) :
    0x80 ≤ byte.toNat ∧ byte.toNat ≤ 0xBF :=
  toNat_of_contains 0x80 0xBF (by decide) (by decide) h

/-- A code point that is no surrogate and not above the last one is that of its character. -/
theorem toNat_charOfNat {n : Nat} (h : n < 0xD800 ∨ 0xDFFF < n ∧ n < 0x110000) :
    (Char.ofNat n).toNat = n := by
  have hvalid : n.isValidChar := h
  have hchar : Char.ofNat n = Char.ofNatAux n hvalid := dif_pos hvalid
  rw [hchar]
  rfl

theorem cons_of_decodeFrom_due (h : decodeFrom index read bits (range :: due) bytes = .ok chars) :
    ∃ byte rest, bytes = byte :: rest ∧ range.contains byte = true := by
  cases bytes with
  | nil => simp [decodeFrom] at h
  | cons byte rest =>
      refine ⟨byte, rest, rfl, ?_⟩
      cases hin : range.contains byte with
      | true => rfl
      | false => simp [decodeFrom, hin] at h

theorem cons_of_decodeFrom_middle
    (h : decodeFrom index read bits (range :: next :: due) bytes = .ok chars) :
    ∃ byte rest, bytes = byte :: rest ∧ range.contains byte = true ∧
      decodeFrom index (read + 1) (bits * 64 + byte.toNat % 64) (next :: due) rest =
        .ok chars := by
  obtain ⟨byte, rest, rfl, hin⟩ := cons_of_decodeFrom_due h
  rw [decodeFrom_middle hin] at h
  exact ⟨byte, rest, rfl, hin, h⟩

theorem cons_of_decodeFrom_last (h : decodeFrom index read bits [range] bytes = .ok chars) :
    ∃ byte rest others, bytes = byte :: rest ∧ range.contains byte = true ∧
      chars = Char.ofNat (bits * 64 + byte.toNat % 64) :: others ∧
      decodeFrom (index + read + 1) 0 0 [] rest = .ok others := by
  obtain ⟨byte, rest, rfl, hin⟩ := cons_of_decodeFrom_due h
  rw [decodeFrom_last hin] at h
  obtain ⟨others, hothers, rfl⟩ := map_eq_ok_iff.mp h
  exact ⟨byte, rest, others, rfl, hin, rfl, hothers⟩

/-- The bytes that are read as a character are those of the character. -/
theorem exists_char_of_decodeFrom (h : decodeFrom index 0 0 [] (byte :: bytes) = .ok chars) :
    ∃ c others later rest, byte :: bytes = String.utf8EncodeChar c ++ rest ∧
      chars = c :: others ∧ decodeFrom later 0 0 [] rest = .ok others := by
  have hbyte : byte.toNat < 256 := byte.toNat_lt
  have hself : UInt8.ofNat byte.toNat = byte := UInt8.ofNat_toNat
  by_cases h1 : byte.toNat < 0x80
  · have hfirst := followers_one byte.toNat h1
    rw [hself] at hfirst
    rw [decodeFrom_single hfirst] at h
    obtain ⟨others, hothers, rfl⟩ := map_eq_ok_iff.mp h
    refine ⟨_, others, _, bytes, ?_, rfl, hothers⟩
    have hc := toNat_charOfNat (n := byte.toNat) (by omega)
    rw [utf8EncodeChar_one (by omega), hc, hself]
    rfl
  by_cases h2 : 0xC2 ≤ byte.toNat ∧ byte.toNat < 0xE0
  · have hfirst := followers_two byte.toNat h2.2 h2.1
    rw [hself] at hfirst
    rw [decodeFrom_first hfirst] at h
    obtain ⟨second, rest, others, rfl, hsecond, rfl, hothers⟩ := cons_of_decodeFrom_last h
    have hrange := toNat_of_continuation hsecond
    refine ⟨_, others, _, rest, ?_, rfl, hothers⟩
    simp only [List.length_nil, Nat.zero_add, leadModulus]
    have hc := toNat_charOfNat (n := byte.toNat % 32 * 64 + second.toNat % 64) (by omega)
    rw [utf8EncodeChar_two (by omega) (by omega), hc, ofNat_eq_byte byte (by omega),
      ofNat_eq_byte second (by omega)]
    rfl
  by_cases h3 : 0xE0 ≤ byte.toNat ∧ byte.toNat < 0xF0
  · have hfirst := followers_three byte.toNat h3.2 h3.1
    rw [hself] at hfirst
    rw [decodeFrom_first hfirst] at h
    obtain ⟨second, _, rfl, hsecond, h⟩ := cons_of_decodeFrom_middle h
    obtain ⟨third, rest, others, rfl, hthird, rfl, hothers⟩ := cons_of_decodeFrom_last h
    -- The narrow range of the second byte keeps out overlong forms and surrogates.
    have hsecond := toNat_of_contains _ _ (by split <;> omega) (by split <;> omega) hsecond
    have hrange : (byte.toNat = 0xE0 → 0xA0 ≤ second.toNat) ∧
        (byte.toNat = 0xED → second.toNat ≤ 0x9F) ∧
        0x80 ≤ second.toNat ∧ second.toNat ≤ 0xBF := by
      split_ifs at hsecond <;> omega
    have hrange' := toNat_of_continuation hthird
    refine ⟨_, others, _, rest, ?_, rfl, hothers⟩
    simp only [List.length_cons, List.length_nil, Nat.zero_add, leadModulus]
    have hc := toNat_charOfNat
      (n := (byte.toNat % 16 * 64 + second.toNat % 64) * 64 + third.toNat % 64) (by omega)
    rw [utf8EncodeChar_three (by omega) (by omega) (by omega), hc,
      ofNat_eq_byte byte (by omega), ofNat_eq_byte second (by omega),
      ofNat_eq_byte third (by omega)]
    rfl
  by_cases h4 : 0xF0 ≤ byte.toNat ∧ byte.toNat < 0xF5
  · have hfirst := followers_four byte.toNat h4.2 h4.1
    rw [hself] at hfirst
    rw [decodeFrom_first hfirst] at h
    obtain ⟨second, _, rfl, hsecond, h⟩ := cons_of_decodeFrom_middle h
    obtain ⟨third, _, rfl, hthird, h⟩ := cons_of_decodeFrom_middle h
    obtain ⟨fourth, rest, others, rfl, hfourth, rfl, hothers⟩ := cons_of_decodeFrom_last h
    -- Here it keeps out overlong forms and values above the last code point.
    have hsecond := toNat_of_contains _ _ (by split <;> omega) (by split <;> omega) hsecond
    have hrange : (byte.toNat = 0xF0 → 0x90 ≤ second.toNat) ∧
        (byte.toNat = 0xF4 → second.toNat ≤ 0x8F) ∧
        0x80 ≤ second.toNat ∧ second.toNat ≤ 0xBF := by
      split_ifs at hsecond <;> omega
    have hrange' := toNat_of_continuation hthird
    have hrange'' := toNat_of_continuation hfourth
    refine ⟨_, others, _, rest, ?_, rfl, hothers⟩
    simp only [List.length_cons, List.length_nil, Nat.zero_add, leadModulus]
    have hc := toNat_charOfNat
      (n := ((byte.toNat % 8 * 64 + second.toNat % 64) * 64 + third.toNat % 64) * 64 +
        fourth.toNat % 64) (by omega)
    rw [utf8EncodeChar_four (by omega) (by omega) (by omega), hc,
      ofNat_eq_byte byte (by omega), ofNat_eq_byte second (by omega),
      ofNat_eq_byte third (by omega), ofNat_eq_byte fourth (by omega)]
    rfl
  · have hfirst := followers_none byte.toNat hbyte (by omega)
    rw [hself] at hfirst
    simp [decodeFrom, hfirst] at h

theorem eq_flatMap_of_decodeFrom (h : decodeFrom index 0 0 [] bytes = .ok chars) :
    bytes = chars.flatMap String.utf8EncodeChar := by
  induction chars generalizing index bytes with
  | nil =>
      cases bytes with
      | nil => rfl
      | cons byte bytes =>
          obtain ⟨c, others, _, _, _, hchars, _⟩ := exists_char_of_decodeFrom h
          simp at hchars
  | cons c chars ih =>
      cases bytes with
      | nil => simp [decodeFrom] at h
      | cons byte bytes =>
          obtain ⟨c', others, later, rest, hbytes, hchars, hrest⟩ := exists_char_of_decodeFrom h
          obtain ⟨rfl, rfl⟩ := List.cons.inj hchars
          rw [hbytes, List.flatMap_cons, ih hrest]

end Converse

/-- **Bytes are read as a text exactly when they are its encoding.** -/
theorem decode_eq_ok_iff {bytes : List UInt8} {text : String} :
    decode bytes = .ok text ↔ bytes = encode text := by
  constructor
  · intro h
    obtain ⟨chars, hchars, rfl⟩ := map_eq_ok_iff.mp h
    rw [encode, String.toList_ofList]
    exact eq_flatMap_of_decodeFrom hchars
  · rintro rfl
    exact decode_encode text

theorem encode_inj {a b : String} : encode a = encode b ↔ a = b := by
  constructor
  · intro h
    have hread := decode_encode a
    rw [h, decode_encode] at hread
    exact (Except.ok.inj hread).symm
  · rintro rfl
    rfl

/-- Bytes that are the encoding of a text. -/
def Valid (bytes : List UInt8) : Prop :=
  ∃ text, bytes = encode text

end PocketSql.Utf8
