/-
The order of texts is the order of their bytes.

Texts are compared character by character.  Where names are compared byte by byte, a
character may have up to four bytes.  The encoding keeps the order: of two characters
the smaller one has fewer bytes, and then a smaller first byte, or equally many, and
then its bytes are the digits of a smaller number.  So the bytes of two texts first
differ within the first characters that do, `digits_lex`.
-/
import CodeAtlas.Text.Utf8

namespace CodeAtlas.Text

/-! ### Bytes of characters -/

/-- The bytes of a character as numbers: marked first digits, and then digits to the base of 64. -/
def digits (c : Char) : List Nat :=
  let v := c.toNat
  if v ≤ 0x7f then [v]
  else if v ≤ 0x7ff then [v / 64 + 0xc0, v % 64 + 0x80]
  else if v ≤ 0xffff then [v / 4096 + 0xe0, v / 64 % 64 + 0x80, v % 64 + 0x80]
  else [v / 262144 + 0xf0, v / 4096 % 64 + 0x80, v / 64 % 64 + 0x80, v % 64 + 0x80]

theorem map_toNat_encode (c : Char) : (String.utf8EncodeChar c).map UInt8.toNat = digits c := by
  have hval : c.val.toNat = c.toNat := rfl
  have hbound : c.toNat < 1114112 := by
    have hvalid : c.toNat < 0xd800 ∨ 0xdfff < c.toNat ∧ c.toNat < 0x110000 := c.valid
    omega
  unfold String.utf8EncodeChar digits
  simp only [hval]
  generalize c.toNat = v at hbound
  -- Each way to write a character has its own digits, and every byte stays below 256.
  repeat' split
  all_goals
    simp only [List.map_cons, List.map_nil, List.cons.injEq, and_true, UInt8.toNat_ofNat', Nat.reducePow]
    omega

/-- A character below 128 is a single byte, and no other character has that byte. -/
theorem ascii_mem_encode {c d : Char} (hd : d.toNat < 128) :
    UInt8.ofNat d.toNat ∈ String.utf8EncodeChar c ↔ c = d := by
  have hbyte : (UInt8.ofNat d.toNat).toNat = d.toNat := by
    rw [UInt8.toNat_ofNat']
    omega
  have hmem : UInt8.ofNat d.toNat ∈ String.utf8EncodeChar c ↔ d.toNat ∈ digits c := by
    rw [← map_toNat_encode, List.mem_map]
    constructor
    · intro h
      exact ⟨_, h, hbyte⟩
    · rintro ⟨b, hb, heq⟩
      rwa [← UInt8.toNat_inj.mp (heq.trans hbyte.symm)]
  have hcode : c = d ↔ c.toNat = d.toNat := Char.toNat_inj.symm
  rw [hmem, hcode]
  unfold digits
  simp only []
  generalize c.toNat = v
  generalize d.toNat = w at hd
  repeat' split
  all_goals
    simp only [List.mem_cons, List.not_mem_nil, or_false]
    omega

/-! ### Bytes of texts -/

@[simp] theorem bytes_append (s t : String) : bytes (s ++ t) = bytes s ++ bytes t := by
  unfold bytes
  rw [String.toList_append, List.flatMap_append]

theorem bytes_ofList (cs : List Char) : bytes (String.ofList cs) = cs.flatMap String.utf8EncodeChar := by
  unfold bytes
  rw [String.toList_ofList]

theorem ascii_mem_bytes {s : String} {c : Char} (hc : c.toNat < 128) :
    UInt8.ofNat c.toNat ∈ bytes s ↔ c ∈ s.toList := by
  unfold bytes
  simp only [List.mem_flatMap, ascii_mem_encode hc, exists_eq_right]

/-- The bytes of a smaller character come first, whatever follows. -/
theorem digits_lex {c d : Char} (h : c < d) (x y : List Nat) :
    List.Lex (· < ·) (digits c ++ x) (digits d ++ y) := by
  have hlt : c.toNat < d.toNat := h
  unfold digits
  simp only []
  generalize c.toNat = v at *
  generalize d.toNat = w at *
  repeat' split
  all_goals simp only [List.cons_append, List.nil_append, List.cons_lex_cons_iff]
  all_goals omega

theorem digits_ne_nil (c : Char) : digits c ≠ [] := by
  unfold digits
  simp only []
  repeat' split
  all_goals simp

theorem flatMap_digits_lex {cs ds : List Char} (h : List.Lex (· < ·) cs ds) :
    List.Lex (· < ·) (cs.flatMap digits) (ds.flatMap digits) := by
  induction h with
  | @nil d ds =>
      obtain ⟨b, bs, hb⟩ := List.exists_cons_of_ne_nil (digits_ne_nil d)
      rw [List.flatMap_cons, hb]
      exact .nil
  | @cons c cs ds _ ih =>
      rw [List.flatMap_cons, List.flatMap_cons]
      induction digits c with
      | nil => exact ih
      | cons b bs ihb => exact .cons ihb
  | @rel c d cs ds hcd =>
      rw [List.flatMap_cons, List.flatMap_cons]
      exact digits_lex hcd _ _

theorem lt_of_toNat_lex {a b : Bytes} (h : List.Lex (· < ·) (a.map UInt8.toNat) (b.map UInt8.toNat)) : a < b := by
  induction a generalizing b with
  | nil =>
      cases b with
      | nil => cases h
      | cons y b => exact .nil
  | cons x a ih =>
      cases b with
      | nil => cases h
      | cons y b =>
          rw [List.map_cons, List.map_cons, List.cons_lex_cons_iff] at h
          rcases h with hlt | ⟨heq, hrest⟩
          · exact .rel hlt
          · rw [UInt8.toNat_inj.mp heq]
            exact .cons (ih hrest)

/-- **A smaller text has smaller bytes**, compared one after the other. -/
theorem bytes_lt_of_lt {s t : String} (h : s < t) : bytes s < bytes t := by
  refine lt_of_toNat_lex ?_
  unfold bytes
  simp only [List.map_flatMap, map_toNat_encode]
  exact flatMap_digits_lex h

end CodeAtlas.Text
