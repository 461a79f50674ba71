/-
Places along a text, and how to find them again.

A place is carried along while a text is read, one character after the other.  Its
row and column are enough to know it by: a column counts from the beginning of its
row, and rows begin at the start of the text and after every line feed.  So whoever
has the bytes of the text can look up where the row begins, add the column, and get
the offset back.  That is `offsetAt_after`.

A character moves a place forward, in its row or to the next one.  Places of one text
are therefore in the same order by their offsets and by their rows and columns,
`offset_lt_iff_precedes`.

What stands between two places can be cut out of the bytes or of the text, and it is
the same either way.
-/
import CodeAtlas.Proofs.Text.ByteOrder
import CodeAtlas.Text.Cursor
import Mathlib.Data.String.Basic

namespace CodeAtlas.Text

/-- The place after the characters `cs` at the beginning of a text. -/
def Place.after (cs : List Char) : Place :=
  Place.zero.advanceAll cs

/-- The place `p` comes before `q` by row and then by column. -/
def Place.Precedes (p q : Place) : Prop :=
  p.row < q.row ∨ p.row = q.row ∧ p.column < q.column

instance (p q : Place) : Decidable (p.Precedes q) :=
  inferInstanceAs (Decidable (_ ∨ _))

namespace Place

theorem after_concat (cs : List Char) (c : Char) : after (cs ++ [c]) = (after cs).advance c := by
  simp [after, advanceAll]

/-! ### Order -/

theorem offset_lt_advance (p : Place) (c : Char) : p.offset < (p.advance c).offset := by
  have hsize := c.utf8Size_pos
  unfold advance
  split
  · exact Nat.lt_succ_self _
  · show p.offset < p.offset + c.utf8Size
    omega

theorem precedes_advance (p : Place) (c : Char) : p.Precedes (p.advance c) := by
  have hsize := c.utf8Size_pos
  unfold advance
  split
  · exact Or.inl (Nat.lt_succ_self _)
  · refine Or.inr ⟨rfl, ?_⟩
    show p.column < p.column + c.utf8Size
    omega

theorem Precedes.trans {p q r : Place} (hpq : p.Precedes q) (hqr : q.Precedes r) : p.Precedes r := by
  unfold Precedes at *
  omega

theorem Precedes.asymm {p q : Place} (h : p.Precedes q) : ¬q.Precedes p := by
  unfold Precedes at *
  omega

theorem not_precedes_self (p : Place) : ¬p.Precedes p := by
  unfold Precedes
  omega

/-- Reading on moves a place forward, by its offset and by its row and column. -/
theorem after_append_lt (u : List Char) (c : Char) (v : List Char) :
    (after u).offset < (after (u ++ c :: v)).offset ∧ (after u).Precedes (after (u ++ c :: v)) := by
  induction v generalizing u c with
  | nil =>
      rw [after_concat]
      exact ⟨offset_lt_advance _ c, precedes_advance _ c⟩
  | cons d v ih =>
      have hfirst := ih (u ++ [c]) d
      rw [after_concat, List.append_assoc] at hfirst
      exact ⟨Nat.lt_trans (offset_lt_advance _ c) hfirst.1, (precedes_advance _ c).trans hfirst.2⟩

theorem offset_le_of_prefix {u v : List Char} (h : u <+: v) : (after u).offset ≤ (after v).offset := by
  obtain ⟨rest, rfl⟩ := h
  cases rest with
  | nil => simp
  | cons c rest => exact Nat.le_of_lt (after_append_lt u c rest).1

/-- Of two beginnings of a text one goes on where the other ends. -/
theorem prefix_cases {u v text : List Char} (hu : u <+: text) (hv : v <+: text) :
    u = v ∨ (∃ c rest, v = u ++ c :: rest) ∨ ∃ c rest, u = v ++ c :: rest := by
  rcases List.prefix_or_prefix_of_prefix hu hv with ⟨rest, rfl⟩ | ⟨rest, rfl⟩
  · cases rest with
    | nil => exact Or.inl (List.append_nil u).symm
    | cons c rest => exact Or.inr (Or.inl ⟨c, rest, rfl⟩)
  · cases rest with
    | nil => exact Or.inl (List.append_nil v)
    | cons c rest => exact Or.inr (Or.inr ⟨c, rest, rfl⟩)

/-- **The order of offsets is that of rows and columns**, for the places of one text. -/
theorem offset_lt_iff_precedes {u v text : List Char} (hu : u <+: text) (hv : v <+: text) :
    (after u).offset < (after v).offset ↔ (after u).Precedes (after v) := by
  rcases prefix_cases hu hv with rfl | ⟨c, rest, rfl⟩ | ⟨c, rest, rfl⟩
  · exact iff_of_false (Nat.lt_irrefl _) (not_precedes_self _)
  · have h := after_append_lt u c rest
    exact iff_of_true h.1 h.2
  · have h := after_append_lt v c rest
    exact iff_of_false (Nat.not_lt.mpr (Nat.le_of_lt h.1)) h.2.asymm

theorem eq_of_offset_eq {u v text : List Char} (hu : u <+: text) (hv : v <+: text)
    (h : (after u).offset = (after v).offset) : u = v := by
  rcases prefix_cases hu hv with heq | ⟨c, rest, rfl⟩ | ⟨c, rest, rfl⟩
  · exact heq
  · have hlt := (after_append_lt u c rest).1
    omega
  · have hlt := (after_append_lt v c rest).1
    omega

end Place

/-! ### Offsets from rows and columns -/

/-- The offsets after the line feeds among some bytes, of which the first one is at `offset`. -/
def lineStartsFrom (offset : Nat) : Bytes → List Nat
  | [] => []
  | b :: rest => if b = 10 then (offset + 1) :: lineStartsFrom (offset + 1) rest else lineStartsFrom (offset + 1) rest

/-- The offsets where the lines of some bytes begin. -/
def lineStarts (bytes : Bytes) : List Nat :=
  0 :: lineStartsFrom 0 bytes

/-- The offset of a line, counted from one, and a column in it, counted from zero. -/
def offsetAt (bytes : Bytes) (line column : Nat) : Option Nat :=
  (lineStarts bytes)[line - 1]?.map (· + column)

theorem lineFeed_mem_encode {c : Char} : 10 ∈ String.utf8EncodeChar c ↔ c = '\n' :=
  ascii_mem_encode (d := '\n') (by decide)

theorem lineStartsFrom_append (xs ys : Bytes) : ∀ offset : Nat,
    lineStartsFrom offset (xs ++ ys) = lineStartsFrom offset xs ++ lineStartsFrom (offset + xs.length) ys := by
  induction xs with
  | nil => intro offset; rfl
  | cons b rest ih =>
      intro offset
      have hlength : offset + 1 + rest.length = offset + (b :: rest).length := by
        rw [List.length_cons]
        omega
      rw [List.cons_append, lineStartsFrom, lineStartsFrom, ih, hlength]
      split
      · rfl
      · rfl

theorem lineStartsFrom_of_not_mem {xs : Bytes} (h : 10 ∉ xs) : ∀ offset : Nat, lineStartsFrom offset xs = [] := by
  induction xs with
  | nil => intro offset; rfl
  | cons b rest ih =>
      intro offset
      rw [List.mem_cons, not_or] at h
      rw [lineStartsFrom, if_neg (Ne.symm h.1), ih h.2]

theorem lineStartsFrom_encode (c : Char) (offset : Nat) :
    lineStartsFrom offset (String.utf8EncodeChar c) = if c = '\n' then [offset + 1] else [] := by
  by_cases hc : c = '\n'
  · subst hc
    rfl
  · rw [if_neg hc]
    exact lineStartsFrom_of_not_mem (fun h => hc (lineFeed_mem_encode.mp h)) offset

/-- What the bytes before a place tell about it: how many there are, how many lines begin among them, and where the
last one does. -/
structure Place.Measures (p : Place) (bytes : Bytes) : Prop where
  offset : p.offset = bytes.length
  row : (lineStartsFrom 0 bytes).length = p.row
  column : (lineStarts bytes).getLast? = some (p.offset - p.column) ∧ p.column ≤ p.offset

theorem Place.Measures.advance {p : Place} {bytes : Bytes} (h : p.Measures bytes) (c : Char) :
    (p.advance c).Measures (bytes ++ String.utf8EncodeChar c) := by
  have hstarts : lineStartsFrom 0 (bytes ++ String.utf8EncodeChar c) =
      lineStartsFrom 0 bytes ++ if c = '\n' then [p.offset + 1] else [] := by
    rw [lineStartsFrom_append, Nat.zero_add, lineStartsFrom_encode, h.offset]
  have hlength := String.length_utf8EncodeChar c
  by_cases hc : c = '\n'
  · subst hc
    have hadvance : p.advance '\n' = ⟨p.offset + 1, p.row + 1, 0⟩ := if_pos rfl
    rw [if_pos rfl] at hstarts
    rw [hadvance]
    refine ⟨?_, ?_, ?_, Nat.zero_le _⟩
    · rw [List.length_append, h.offset]
      rfl
    · rw [hstarts, List.length_append, h.row]
      rfl
    · rw [lineStarts, hstarts, ← List.cons_append, List.getLast?_concat]
      rfl
  · have hadvance : p.advance c = ⟨p.offset + c.utf8Size, p.row, p.column + c.utf8Size⟩ := if_neg hc
    rw [if_neg hc, List.append_nil] at hstarts
    have hcolumn := h.column.2
    rw [hadvance]
    refine ⟨?_, ?_, ?_, ?_⟩
    · rw [List.length_append, hlength, h.offset]
    · rw [hstarts, h.row]
    · have hsame : p.offset + c.utf8Size - (p.column + c.utf8Size) = p.offset - p.column := by omega
      rw [lineStarts, hstarts, hsame]
      exact h.column.1
    · show p.column + c.utf8Size ≤ p.offset + c.utf8Size
      omega

theorem Place.measures_after (cs : List Char) : (Place.after cs).Measures (cs.flatMap String.utf8EncodeChar) := by
  suffices h : ∀ (cs : List Char) (p : Place) (bytes : Bytes), p.Measures bytes →
      (p.advanceAll cs).Measures (bytes ++ cs.flatMap String.utf8EncodeChar) from h cs .zero [] ⟨rfl, rfl, rfl, Nat.le_refl _⟩
  intro cs
  induction cs with
  | nil =>
      intro p bytes h
      rw [List.flatMap_nil, List.append_nil]
      exact h
  | cons c rest ih =>
      intro p bytes h
      rw [List.flatMap_cons, ← List.append_assoc]
      exact ih (p.advance c) (bytes ++ String.utf8EncodeChar c) (h.advance c)

theorem Place.offset_after (cs : List Char) : (Place.after cs).offset = (cs.flatMap String.utf8EncodeChar).length :=
  (Place.measures_after cs).offset

/-- The last of the lines that begin at or before a place begins where the place has its column from. -/
theorem getElem?_lineStarts_after (u v : List Char) :
    (lineStarts ((u ++ v).flatMap String.utf8EncodeChar))[(Place.after u).row]? =
      some ((Place.after u).offset - (Place.after u).column) := by
  have h := Place.measures_after u
  have hsplit : lineStarts ((u ++ v).flatMap String.utf8EncodeChar) =
      lineStarts (u.flatMap String.utf8EncodeChar) ++ lineStartsFrom (Place.after u).offset (v.flatMap String.utf8EncodeChar) := by
    rw [List.flatMap_append, lineStarts, lineStartsFrom_append, lineStarts, h.offset, Nat.zero_add]
    rfl
  have hlength : (lineStarts (u.flatMap String.utf8EncodeChar)).length = (Place.after u).row + 1 := by
    rw [lineStarts, List.length_cons, h.row]
  have hlast := h.column.1
  rw [List.getLast?_eq_getElem?, hlength, Nat.add_sub_cancel] at hlast
  rw [hsplit, List.getElem?_append_left (by omega), hlast]

/-- **A place is found again by its row and its column.** -/
theorem offsetAt_after (u v : List Char) :
    offsetAt ((u ++ v).flatMap String.utf8EncodeChar) ((Place.after u).row + 1) (Place.after u).column =
      some (Place.after u).offset := by
  have hcolumn := (Place.measures_after u).column.2
  rw [offsetAt, Nat.add_sub_cancel, getElem?_lineStarts_after, Option.map_some, Nat.sub_add_cancel hcolumn]

/-! ### Where a line begins -/

theorem Place.advanceAll_of_no_lineFeed {cs : List Char} (h : '\n' ∉ cs) : ∀ p : Place, p.advanceAll cs =
    ⟨p.offset + (cs.flatMap String.utf8EncodeChar).length, p.row, p.column + (cs.flatMap String.utf8EncodeChar).length⟩ := by
  induction cs with
  | nil => intro p; rfl
  | cons c rest ih =>
      intro p
      rw [List.mem_cons, not_or] at h
      have hadvance : p.advance c = ⟨p.offset + c.utf8Size, p.row, p.column + c.utf8Size⟩ := if_neg (Ne.symm h.1)
      show (p.advance c).advanceAll rest = _
      rw [ih h.2, hadvance, List.flatMap_cons, List.length_append, String.length_utf8EncodeChar, Nat.add_assoc, Nat.add_assoc]

theorem Place.column_after_eq_zero {u : List Char} (h : u.getLast?.all (· == '\n') = true) :
    (Place.after u).column = 0 := by
  rcases List.eq_nil_or_concat u with rfl | ⟨v, c, rfl⟩
  · rfl
  · rw [List.concat_eq_append, List.getLast?_concat, Option.all_some, beq_iff_eq] at h
    rw [List.concat_eq_append, h, after_concat]
    rfl

/-- The line of a place begins where the last line feed before it ends. -/
theorem offsetAt_lineStart {u v w : List Char} (hu : u.getLast?.all (· == '\n') = true) (hv : '\n' ∉ v) :
    offsetAt ((u ++ v ++ w).flatMap String.utf8EncodeChar) ((Place.after (u ++ v)).row + 1) 0 = some (Place.after u).offset := by
  have hrow : (Place.after (u ++ v)).row = (Place.after u).row := by
    have hsplit : Place.after (u ++ v) = (Place.after u).advanceAll v := List.foldl_append
    rw [hsplit, Place.advanceAll_of_no_lineFeed hv]
  have hfound := offsetAt_after u (v ++ w)
  rw [Place.column_after_eq_zero hu, ← List.append_assoc] at hfound
  rw [hrow]
  exact hfound

/-! ### Between two places of a source -/

/-- The bytes from one offset up to another. -/
def byteRange (bytes : Bytes) (start stop : Nat) : Bytes :=
  (bytes.take stop).drop start

/-- The part of a source that a stretch covers. -/
def spanText (source : String) (s : Span) : String :=
  String.Pos.Raw.extract source ⟨s.start.offset⟩ ⟨s.stop.offset⟩

theorem byteRange_append (x y z : Bytes) : byteRange (x ++ y ++ z) x.length (x ++ y).length = y := by
  rw [byteRange, List.take_left, List.drop_left]

theorem Place.offset_after_eq_utf8Len (cs : List Char) : (Place.after cs).offset = String.utf8Len cs := by
  rw [Place.offset_after]
  induction cs with
  | nil => rfl
  | cons c rest ih =>
      rw [List.flatMap_cons, List.length_append, ih, String.length_utf8EncodeChar, String.utf8Len_cons, Nat.add_comm]

section

variable {source : String} {u v w : List Char}

theorem offsetAt_bytes (h : source.toList = u ++ v) :
    offsetAt (bytes source) ((Place.after u).row + 1) (Place.after u).column = some (Place.after u).offset := by
  rw [bytes, h]
  exact offsetAt_after u v

theorem offset_le_length_bytes (h : source.toList = u ++ v) : (Place.after u).offset ≤ (bytes source).length := by
  rw [bytes, ← Place.offset_after, h]
  exact Place.offset_le_of_prefix (List.prefix_append u v)

/-- The bytes between two places are those of what stands there. -/
theorem byteRange_bytes (h : source.toList = u ++ v ++ w) :
    byteRange (bytes source) (Place.after u).offset (Place.after (u ++ v)).offset = v.flatMap String.utf8EncodeChar := by
  rw [bytes, h, Place.offset_after, Place.offset_after, List.flatMap_append, List.flatMap_append]
  exact byteRange_append _ _ _

/-- The text between two places is what stands there. -/
theorem spanText_after (h : source.toList = u ++ v ++ w) :
    spanText source ⟨Place.after u, Place.after (u ++ v)⟩ = String.ofList v := by
  have hsource : source = String.ofList (u ++ v ++ w) := by rw [← h, String.ofList_toList]
  unfold spanText
  rw [hsource, Place.offset_after_eq_utf8Len, Place.offset_after_eq_utf8Len, String.utf8Len_append]
  exact String.extract_of_valid u v w

end

end CodeAtlas.Text
