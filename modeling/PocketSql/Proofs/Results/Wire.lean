import PocketSql.Proofs.Cell
import PocketSql.Results.Wire
/-!
# Results travel unharmed

Each part of the wire form says how long it is before it goes on, so a reader knows where its part
ends and what follows belongs to the next one. `Exact` says this of a reader and a writer together:
the reader takes a value from the front of some bytes exactly when these begin with what the writer
writes for the value. It says that a value is read back whatever follows it, and also that nothing
else is read as that value.

Parts that come one after the other are exact when each of them is, also when the first one says
what the second one has to be (`Exact.bind`). A count or a length is such a first part, and so is
the tag of a column type.
-/

namespace PocketSql.Wire

section Sequencing

variable {α β : Type} {bytes rest : List UInt8}

theorem bind_eq_ok_iff {read : Reader α} {next : α → Reader β} {value : β} :
    (read >>= next) bytes = .ok (value, rest) ↔
      ∃ first middle, read bytes = .ok (first, middle) ∧ next first middle = .ok (value, rest) := by
  show (read bytes >>= fun pair => next pair.1 pair.2) = _ ↔ _
  cases hread : read bytes with
  | error fault => simp [bind, Except.bind]
  | ok pair =>
      obtain ⟨first, middle⟩ := pair
      simp [bind, Except.bind]

/-- The reader takes a value exactly from what the writer writes for it. -/
def Exact (Fits : α → Prop) (write : α → List UInt8) (read : Reader α) : Prop :=
  ∀ bytes value rest, read bytes = .ok (value, rest) ↔ Fits value ∧ bytes = write value ++ rest

variable {Fits Fits' : α → Prop} {write write' : α → List UInt8} {read : Reader α}

theorem Exact.congr (h : Exact Fits write read) (hfits : ∀ value, Fits' value ↔ Fits value)
    (hwrite : ∀ value, Fits value → write' value = write value) : Exact Fits' write' read := by
  intro bytes value rest
  rw [h bytes value rest, hfits]
  constructor
  · rintro ⟨hvalue, rfl⟩
    exact ⟨hvalue, by rw [hwrite value hvalue]⟩
  · rintro ⟨hvalue, rfl⟩
    exact ⟨hvalue, by rw [hwrite value hvalue]⟩

theorem exact_pure (value : α) (h : ∀ other, Fits other ↔ other = value) :
    Exact Fits (fun _ => []) (pure value) := by
  intro bytes found rest
  show Except.ok (value, bytes) = .ok (found, rest) ↔ _
  rw [h]
  simp [eq_comm]

theorem exact_throw (h : ∀ value, ¬Fits value) (fault : Fault) :
    Exact Fits write (throw fault) := by
  intro bytes value rest
  show Except.error fault = .ok (value, rest) ↔ _
  simp [h]

/-- The second part depends on the first one, which is `header` of the whole. -/
theorem Exact.bind {next : α → Reader β} {Rest : β → Prop} {writeRest : β → List UInt8}
    (h : Exact Fits write read) (header : β → α)
    (hnext : ∀ first, Exact (fun value => header value = first ∧ Rest value) writeRest
      (next first)) :
    Exact (fun value => Fits (header value) ∧ Rest value)
      (fun value => write (header value) ++ writeRest value) (read >>= next) := by
  intro bytes value rest
  rw [bind_eq_ok_iff]
  constructor
  · rintro ⟨first, middle, hfirst, hrest⟩
    obtain ⟨hfits, rfl⟩ := (h _ _ _).mp hfirst
    obtain ⟨⟨rfl, hvalue⟩, rfl⟩ := (hnext first _ _ _).mp hrest
    exact ⟨⟨hfits, hvalue⟩, by rw [List.append_assoc]⟩
  · rintro ⟨⟨hfits, hvalue⟩, rfl⟩
    refine ⟨header value, writeRest value ++ rest, (h _ _ _).mpr ⟨hfits, ?_⟩, ?_⟩
    · rw [List.append_assoc]
    · exact (hnext _ _ _ _).mpr ⟨⟨rfl, hvalue⟩, rfl⟩

/-- Nothing is written after the last part. -/
theorem Exact.last {next : α → Reader β} {Rest : β → Prop} (h : Exact Fits write read)
    (header : β → α)
    (hnext : ∀ first, Exact (fun value => header value = first ∧ Rest value) (fun _ => [])
      (next first)) :
    Exact (fun value => Fits (header value) ∧ Rest value) (fun value => write (header value))
      (read >>= next) :=
  (h.bind header hnext).congr (fun _ => Iff.rfl) fun _ _ => (List.append_nil _).symm

end Sequencing

/-! ### Numbers and bytes -/

theorem exact_take (count : Nat) (fault : Fault) :
    Exact (fun bytes => bytes.length = count) (fun bytes => bytes) (take count fault) := by
  intro bytes front rest
  simp only [take]
  split
  case isTrue hshort =>
    rw [List.length_take] at hshort
    constructor
    · intro h
      cases h
    · rintro ⟨hlength, rfl⟩
      rw [List.length_append] at hshort
      omega
  case isFalse hlong =>
    have hle : count ≤ bytes.length := by
      rw [List.length_take] at hlong
      omega
    constructor
    · intro h
      obtain ⟨rfl, rfl⟩ := Prod.mk.inj (Except.ok.inj h)
      exact ⟨List.length_take_of_le hle, (List.take_append_drop count bytes).symm⟩
    · rintro ⟨rfl, rfl⟩
      rw [List.take_left, List.drop_left]

theorem exact_number (width : Nat) :
    Exact (· < 256 ^ width) (littleEndian width) (readNumber width) := by
  intro bytes n rest
  rw [readNumber, bind_eq_ok_iff]
  constructor
  · rintro ⟨front, middle, hfront, hn⟩
    obtain ⟨rfl, rfl⟩ := (exact_take _ _ _ _ _).mp hfront
    obtain ⟨rfl, rfl⟩ := Prod.mk.inj (Except.ok.inj hn)
    exact ⟨ofLittleEndian_lt front, by rw [littleEndian_ofLittleEndian]⟩
  · rintro ⟨hlt, rfl⟩
    refine ⟨littleEndian width n, rest, (exact_take _ _ _ _ _).mpr ⟨?_, rfl⟩, ?_⟩
    · exact littleEndian_length width n
    · rw [ofLittleEndian_littleEndian, Nat.mod_eq_of_lt hlt]
      rfl

theorem exact_bytes : Exact (fun bytes => bytes.length < 2 ^ 64) encodeBytes readBytes := by
  have h : Exact (fun bytes : List UInt8 => bytes.length < 256 ^ 8 ∧ True)
      (fun bytes => littleEndian 8 bytes.length ++ bytes) readBytes := by
    refine (exact_number 8).bind List.length fun length => ?_
    exact (exact_take length .truncatedBytes).congr (by simp) fun _ _ => rfl
  exact h.congr (by simp) fun _ _ => rfl

/-! ### Lists -/

/-- The members of the list, and how many they are, can be written. -/
def ListFits {α : Type} (Fits : α → Prop) (list : List α) : Prop :=
  list.length < 2 ^ 64 ∧ ∀ member ∈ list, Fits member

instance {α : Type} (Fits : α → Prop) [DecidablePred Fits] : DecidablePred (ListFits Fits) :=
  fun list => inferInstanceAs (Decidable (list.length < 2 ^ 64 ∧ ∀ member ∈ list, Fits member))

section Lists

variable {α : Type} {Fits : α → Prop} {write : α → List UInt8} {item : Reader α}

theorem exact_repeated (h : Exact Fits write item) (count : Nat) :
    Exact (fun list => list.length = count ∧ ∀ member ∈ list, Fits member)
      (fun list => list.flatMap write) (repeated item count) := by
  induction count with
  | zero =>
      have hnil : Exact (fun list => list.length = 0 ∧ ∀ member ∈ list, Fits member)
          (fun _ => []) (repeated item 0) := by
        refine exact_pure [] fun list => ⟨fun h => List.length_eq_zero_iff.mp h.1, ?_⟩
        rintro rfl
        simp
      refine hnil.congr (fun _ => Iff.rfl) fun list hlist => ?_
      rw [List.length_eq_zero_iff.mp hlist.1]
      rfl
  | succ count ih =>
      intro bytes list rest
      rw [repeated, bind_eq_ok_iff]
      constructor
      · rintro ⟨first, middle, hfirst, hothers⟩
        obtain ⟨others, last, hrest, hlist⟩ := bind_eq_ok_iff.mp hothers
        obtain ⟨rfl, rfl⟩ := Prod.mk.inj (Except.ok.inj hlist)
        obtain ⟨hfits, rfl⟩ := (h _ _ _).mp hfirst
        obtain ⟨⟨hlength, hall⟩, rfl⟩ := (ih _ _ _).mp hrest
        refine ⟨⟨?_, List.forall_mem_cons.mpr ⟨hfits, hall⟩⟩, ?_⟩
        · rw [List.length_cons, hlength]
        · simp only [List.flatMap_cons, List.append_assoc]
      · rintro ⟨⟨hlength, hall⟩, rfl⟩
        obtain ⟨first, others, rfl⟩ := List.exists_cons_of_length_eq_add_one hlength
        obtain ⟨hfits, hall⟩ := List.forall_mem_cons.mp hall
        rw [List.length_cons] at hlength
        refine ⟨first, others.flatMap write ++ rest, (h _ _ _).mpr ⟨hfits, by simp⟩, ?_⟩
        refine bind_eq_ok_iff.mpr ⟨others, rest, (ih _ _ _).mpr ⟨⟨?_, hall⟩, rfl⟩, rfl⟩
        omega

theorem exact_list (h : Exact Fits write item) :
    Exact (ListFits Fits) (encodeList write) (readList item) :=
  (exact_number 8).bind List.length (exact_repeated h)

end Lists

/-! ### Columns and rows -/

/-- The name of the column is not too long. -/
def ColumnFits (column : Column) : Prop :=
  (Utf8.encode column.name).length < 2 ^ 64

def CellFits (cell : Cell) : Prop :=
  cell.bytes.length < 2 ^ 64

instance : DecidablePred ColumnFits :=
  fun column => inferInstanceAs (Decidable ((Utf8.encode column.name).length < 2 ^ 64))

instance : DecidablePred CellFits :=
  fun cell => inferInstanceAs (Decidable (cell.bytes.length < 2 ^ 64))

theorem typeOfTag?_eq_some_iff {n : Nat} {type : ColumnType} :
    typeOfTag? n = some type ↔ tag type = n := by
  cases type <;> match n with
    | 0 => decide
    | 1 => decide
    | n + 2 => simp [typeOfTag?, tag]

/-- A column of a type that is known already. -/
theorem exact_columnOfType (type : ColumnType) :
    Exact (fun column => ColumnFits column ∧ column.type = type)
      (fun column => encodeBytes (Utf8.encode column.name))
      (do
        let bytes ← readBytes
        match Utf8.decode bytes with
        | .error fault => throw (.badName fault)
        | .ok name => return { name, type }) := by
  apply exact_bytes.last fun column : Column => Utf8.encode column.name
  intro bytes
  cases hname : Utf8.decode bytes with
  | error fault =>
      have hne (name : String) : Utf8.encode name ≠ bytes := fun hbytes => by
        rw [Utf8.decode_eq_ok_iff.mpr hbytes.symm] at hname
        cases hname
      exact exact_throw (by simp [hne]) (.badName fault)
  | ok name =>
      obtain rfl := Utf8.decode_eq_ok_iff.mp hname
      refine exact_pure ({ name, type } : Column) fun column => ?_
      rw [Utf8.encode_inj]
      constructor
      · rintro ⟨rfl, rfl⟩
        rfl
      · rintro rfl
        exact ⟨rfl, rfl⟩

theorem exact_column : Exact ColumnFits encodeColumn readColumn := by
  have htag (type : ColumnType) : tag type < 256 ^ 4 := by
    cases type <;> decide
  have h : Exact (fun column : Column => tag column.type < 256 ^ 4 ∧ ColumnFits column)
      encodeColumn readColumn := by
    apply (exact_number 4).bind fun column : Column => tag column.type
    intro n
    cases htype : typeOfTag? n with
    | none =>
        have hne (type : ColumnType) : tag type ≠ n := fun htag => by
          rw [typeOfTag?_eq_some_iff.mpr htag] at htype
          cases htype
        exact exact_throw (by simp [hne]) (.unknownType n)
    | some type =>
        have hn (other : ColumnType) : tag other = n ↔ other = type := by
          rw [← typeOfTag?_eq_some_iff, htype, Option.some.injEq, eq_comm]
        exact (exact_columnOfType type).congr (by simp [hn, and_comm]) fun _ _ => rfl
  exact h.congr (fun column => ⟨fun hname => ⟨htag column.type, hname⟩, And.right⟩) fun _ _ => rfl

theorem exact_cell :
    Exact CellFits (fun cell => encodeBytes cell.bytes) (Cell.mk <$> readBytes) := by
  have h : Exact (fun cell => CellFits cell ∧ True) (fun cell => encodeBytes cell.bytes)
      (readBytes >>= fun bytes => pure (Cell.mk bytes)) := by
    apply exact_bytes.last Cell.bytes
    intro bytes
    refine exact_pure (Cell.mk bytes) fun cell => ?_
    rw [and_true, Cell.mk.injEq]
  rw [← bind_pure_comp]
  exact h.congr (fun _ => (and_true _).symm ▸ Iff.rfl) fun _ _ => rfl

theorem exact_row : Exact (ListFits CellFits) encodeRow readRow :=
  exact_list exact_cell

end PocketSql.Wire

namespace PocketSql.Results

/-- Every count and every length in the results is a number of 64 bits. -/
structure Sized (results : Results) : Prop where
  columns : Wire.ListFits Wire.ColumnFits results.columns
  rows : Wire.ListFits (Wire.ListFits Wire.CellFits) results.rows

theorem sized_iff {results : Results} :
    results.Sized ↔ Wire.ListFits Wire.ColumnFits results.columns ∧
      Wire.ListFits (Wire.ListFits Wire.CellFits) results.rows :=
  ⟨fun h => ⟨h.columns, h.rows⟩, fun h => ⟨h.1, h.2⟩⟩

instance : DecidablePred Sized :=
  fun _ => decidable_of_iff' _ sized_iff

theorem exact_readResults : Wire.Exact Sized encode Wire.readResults := by
  have h : Wire.Exact (fun results : Results =>
      Wire.ListFits Wire.ColumnFits results.columns ∧
        Wire.ListFits (Wire.ListFits Wire.CellFits) results.rows) encode Wire.readResults := by
    apply (Wire.exact_list Wire.exact_column).bind Results.columns
    intro columns
    have hrows : Wire.Exact (fun results : Results =>
        Wire.ListFits (Wire.ListFits Wire.CellFits) results.rows ∧ results.columns = columns)
        (fun results => Wire.encodeList Wire.encodeRow results.rows)
        (Wire.readList Wire.readRow >>= fun rows => pure { columns, rows }) := by
      apply (Wire.exact_list Wire.exact_row).last Results.rows
      intro rows
      refine Wire.exact_pure ({ columns, rows } : Results) fun results => ?_
      rw [Results.mk.injEq, and_comm]
    exact hrows.congr (fun _ => and_comm) fun _ _ => rfl
  exact h.congr (fun _ => sized_iff) fun _ _ => rfl

/-- Bytes are read as some results exactly when they begin with what these are written as. -/
theorem decode_eq_ok_iff {bytes : List UInt8} {results : Results} :
    decode bytes = .ok results ↔ results.Sized ∧ encode results <+: bytes := by
  rw [decode, map_eq_ok_iff]
  constructor
  · rintro ⟨⟨_, rest⟩, hread, rfl⟩
    obtain ⟨hsized, rfl⟩ := (exact_readResults _ _ _).mp hread
    exact ⟨hsized, rest, rfl⟩
  · rintro ⟨hsized, rest, rfl⟩
    exact ⟨(results, rest), (exact_readResults _ _ _).mpr ⟨hsized, rfl⟩, rfl⟩

/-- **The wire form of results is exact, and it ends by itself.** What is written is read back
whatever follows it, and nothing else is read as the same results. So different results have
different wire forms, none of them begins another one, and one that is cut off is not read. -/
theorem decode_exact :
    (∀ results : Results, results.Sized → ∀ rest, decode (encode results ++ rest) = .ok results) ∧
    (∀ bytes results, decode bytes = .ok results → results.Sized ∧ encode results <+: bytes) ∧
    (∀ a b : Results, a.Sized → b.Sized → encode a = encode b → a = b) ∧
    (∀ a b : Results, a.Sized → b.Sized → encode a <+: encode b → encode a = encode b) ∧
    (∀ results : Results, results.Sized → ∀ front, front <+: encode results →
      front ≠ encode results → ∃ fault, decode front = .error fault) := by
  have hread (results : Results) (h : results.Sized) (bytes : List UInt8)
      (hbytes : encode results <+: bytes) : decode bytes = .ok results :=
    decode_eq_ok_iff.mpr ⟨h, hbytes⟩
  -- A wire form that begins another one is read in its place.
  have hsame (a b : Results) (ha : a.Sized) (hb : b.Sized) (h : encode a <+: encode b) : a = b := by
    have htwo := hread a ha (encode b) h
    rw [hread b hb (encode b) (List.prefix_refl _)] at htwo
    exact (Except.ok.inj htwo).symm
  refine ⟨fun results h rest => ?_, fun bytes results => decode_eq_ok_iff.mp, ?_, ?_, ?_⟩
  · exact hread results h _ (List.prefix_append _ rest)
  · intro a b ha hb h
    exact hsame a b ha hb (h ▸ List.prefix_refl _)
  · intro a b ha hb h
    rw [hsame a b ha hb h]
  · intro results h front hfront hne
    cases hdecode : decode front with
    | error fault => exact ⟨fault, rfl⟩
    | ok found =>
        obtain ⟨hfound, hbegin⟩ := decode_eq_ok_iff.mp hdecode
        have heq := hsame found results hfound h (hbegin.trans hfront)
        rw [heq] at hbegin
        exact absurd (hfront.eq_of_length_le hbegin.length_le) hne

/-- A name that is not ASCII, a row that is too wide, an empty one, and a byte after the results. -/
theorem decode_exact_ragged :
    let results : Results :=
      { columns := [⟨"é", .text⟩], rows := [[⟨[1, 2]⟩, ⟨[]⟩], []] }
    results.Sized ∧ decode (encode results ++ [7]) = .ok results ∧
      ∃ fault, decode (encode results).dropLast = .error fault := by
  intro results
  have hsized : results.Sized := by
    decide +kernel
  obtain ⟨hread, _, _, _, hcut⟩ := decode_exact
  refine ⟨hsized, hread results hsized [7], hcut results hsized _ (List.dropLast_prefix _) ?_⟩
  decide

end PocketSql.Results
