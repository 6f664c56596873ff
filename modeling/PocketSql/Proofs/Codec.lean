import PocketSql.Proofs.Literal
import PocketSql.Proofs.Unicode.IllFormed
/-!
# Which bytes are values

An integer of 32 bits is written as four bytes in two's complement, the most significant first, and
every four bytes are those of one integer. A text is written in UTF-8, and bytes are those of one text
or of none. So reading a cell by a type gives the value that it was written from, and it fails just
where there is no such value.
-/

namespace PocketSql.Cell

theorem holdsText_iff {cell : Cell} {text : String} : cell.HoldsText text ↔ cell = ofText text := by
  constructor
  · intro h
    have hbytes := List.toByteArray_inj.mp (h.trans (holdsText_ofText text).symm)
    cases cell
    exact congrArg mk hbytes
  · rintro rfl
    exact holdsText_ofText text

theorem exists_asText_error_iff {cell : Cell} :
    (∃ fault, cell.asText = .error fault) ↔ ∀ text, ¬cell.HoldsText text := by
  constructor
  · rintro ⟨fault, hfault⟩ text htext
    have hread := asText_eq_ok_iff.mpr (holdsText_iff.mp htext)
    cases hfault.symm.trans hread
  · intro h
    cases hread : cell.asText with
    | error fault => exact ⟨fault, rfl⟩
    | ok text => exact absurd (holdsText_iff.mpr (asText_eq_ok_iff.mp hread)) (h text)

/-- **Writing and reading cells are inverse.** An integer is written as its four bytes and a text as
its UTF-8, and each is read back. A cell is read as an integer exactly where it is the one written
for it, and not at all exactly where it has not four bytes. It is read as a text exactly where it is
the one written for it, and not at all exactly where it holds the UTF-8 of no text. Overlong forms,
surrogates and numbers above the last character are in no text. A column type leads to the one
reading or the other. -/
theorem codec_exact :
    (∀ n, (ofInt n).HoldsInteger n.toInt ∧ (ofInt n).asInt = .ok n) ∧
    (∀ text, (ofText text).HoldsText text ∧ (ofText text).asText = .ok text) ∧
    ∀ cell : Cell,
      (∀ n, cell.asInt = .ok n ↔ cell = ofInt n) ∧
      (∀ fault, cell.asInt = .error fault ↔ fault = .notFourBytes ∧ cell.bytes.length ≠ 4) ∧
      (∀ text, cell.asText = .ok text ↔ cell = ofText text) ∧
      ((∃ fault, cell.asText = .error fault) ↔ ∀ text, ¬cell.HoldsText text) ∧
      (∀ text width n rest, Utf8.NoCharacter width n →
        cell.bytes = Utf8.encode text ++ Utf8.form width n ++ rest →
        cell.asText = .error (.notText (.invalid (Utf8.encode text).length 1))) ∧
      cell.decode .int = cell.asInt.map .int ∧ cell.decode .text = cell.asText.map .text := by
  refine ⟨fun n => ⟨holdsInteger_ofInt n, asInt_ofInt n⟩,
    fun text => ⟨holdsText_ofText text, asText_ofText text⟩, fun cell => ?_⟩
  refine ⟨fun n => asInt_eq_ok_iff, fun fault => asInt_eq_error_iff, fun text => asText_eq_ok_iff,
    exists_asText_error_iff, ?_, rfl, rfl⟩
  intro text width n rest hform hbytes
  rw [asText, hbytes, Utf8.decode_form hform]
  rfl

/-- The largest and the smallest integer, and the least forms of two bytes and above the last
character. -/
example :
    (ofInt 2147483647).bytes = [0x7F, 0xFF, 0xFF, 0xFF] ∧
      (ofInt (-2147483648)).bytes = [0x80, 0, 0, 0] ∧
      Utf8.form 2 0 = [0xC0, 0x80] ∧ Utf8.form 4 0x110000 = [0xF4, 0x90, 0x80, 0x80] := by
  decide +kernel

end PocketSql.Cell
