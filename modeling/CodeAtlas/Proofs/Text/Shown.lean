/-
Bytes that are shown as texts.

Names of files are bytes, and where they are shown, whatever is no character is
replaced.  Bytes that are a text are shown as that text, so nothing is lost of them.
Of any other bytes at least this is kept: printable characters below 128 are shown
where they stand, and nothing else is shown as one of them.  So no slash is shown that
is not there, and bytes are shown as a point only if they are one.

Between characters a decoder has nothing in mind.  Within one it has read a beginning
that is too large for a character below 128, `Utf8State.Beyond`, and this is what the
induction carries along.
-/
import CodeAtlas.Proofs.Text.ByteOrder

namespace CodeAtlas.Text

/-! ### Texts and their bytes -/

theorem toByteArray_bytes (s : String) : (⟨(bytes s).toArray⟩ : ByteArray) = s.toUTF8 := by
  have hencode : s.toUTF8 = (s.toList.flatMap String.utf8EncodeChar).toByteArray := String.utf8Encode_toList.symm
  have hdata : s.toUTF8.data.toList = bytes s := by rw [hencode, List.toList_data_toByteArray, bytes]
  rw [← hdata, Array.toArray_toList]

theorem fromUTF8?_toUTF8 (text : String) : String.fromUTF8? text.toUTF8 = some text := by
  unfold String.fromUTF8?
  exact dif_pos text.isValidUTF8

theorem toUTF8_of_fromUTF8? {b : ByteArray} {text : String} (h : String.fromUTF8? b = some text) : text.toUTF8 = b := by
  unfold String.fromUTF8? at h
  split at h
  · cases h
    rfl
  · cases h

@[simp] theorem ofBytes?_bytes (s : String) : ofBytes? (bytes s) = some s := by
  unfold ofBytes?
  rw [toByteArray_bytes, fromUTF8?_toUTF8]

/-- **A text is shown as it is.** -/
@[simp] theorem ofBytes_bytes (s : String) : ofBytes (bytes s) = s := by
  unfold ofBytes decodeLossy
  rw [toByteArray_bytes, fromUTF8?_toUTF8]

theorem ofBytes?_eq_some_iff {b : Bytes} {s : String} : ofBytes? b = some s ↔ b = bytes s := by
  constructor
  · intro h
    have hbytes := (toByteArray_bytes s).trans (toUTF8_of_fromUTF8? h)
    exact (Array.toList_inj.mpr (ByteArray.mk.inj hbytes)).symm
  · rintro rfl
    exact ofBytes?_bytes s

/-- The bytes are those of a text. -/
def IsText (b : Bytes) : Prop :=
  bytes (ofBytes b) = b

instance (b : Bytes) : Decidable (IsText b) :=
  inferInstanceAs (Decidable (_ = _))

@[simp] theorem isText_bytes (s : String) : IsText (bytes s) :=
  congrArg bytes (ofBytes_bytes s)

/-- Bytes are a text, or they are shown with replacements. -/
theorem isText_or_ofBytes_eq (b : Bytes) : IsText b ∨ ofBytes b = String.ofList (decodeFrom .between b) := by
  cases htext : ofBytes? b with
  | some s =>
      rw [ofBytes?_eq_some_iff] at htext
      exact .inl (htext ▸ isText_bytes s)
  | none =>
      refine .inr ?_
      have hnone : String.fromUTF8? ⟨b.toArray⟩ = none := htext
      unfold ofBytes decodeLossy
      rw [hnone]

/-! ### Replacements -/

/-- A character that is printed with a single byte. -/
def Printable (c : Char) : Prop :=
  0 < c.toNat ∧ c.toNat < 128

/-- What is read of the present character is beyond those below 128. -/
def Utf8State.Beyond : Utf8State → Prop
  | .between => True
  | .inside needed low _ value => 2 ≤ value ∨ (2 ≤ needed ∧ (1 ≤ value ∨ 0x90 ≤ low))

theorem beyond_between : Utf8State.between.Beyond :=
  trivial

theorem not_printable_replacement : ¬Printable replacement := by
  unfold Printable
  decide

theorem toNat_ofNat_of_valid {n : Nat} (h : n.isValidChar) : (Char.ofNat n).toNat = n := by
  unfold Char.ofNat
  rw [dif_pos h]
  rfl

/-- A number that is too large gives no character below 128, also if it is too large for any character. -/
theorem not_printable_ofNat {n : Nat} (h : 128 ≤ n) : ¬Printable (Char.ofNat n) := by
  unfold Printable
  by_cases hvalid : n.isValidChar
  · rw [toNat_ofNat_of_valid hvalid]
    omega
  · have hnul : Char.ofNat n = Char.ofNat 0 := by
      unfold Char.ofNat
      rw [dif_neg hvalid]
      rfl
    rw [hnul]
    decide

/-- What a first byte does: it is a character, or nothing below 128 can come of it. -/
theorem firstByte_cases (b : Nat) : (b < 128 ∧ firstByte b = ([Char.ofNat b], .between)) ∨
    (128 ≤ b ∧ (firstByte b).2.Beyond ∧ (∀ c ∈ (firstByte b).1, ¬Printable c) ∧
      ((firstByte b).2 = .between → (firstByte b).1 ≠ [])) := by
  by_cases hb : b < 128
  · exact .inl ⟨hb, if_pos hb⟩
  · refine .inr ⟨Nat.not_lt.mp hb, ?_⟩
    unfold firstByte
    rw [if_neg hb]
    have hreplacement := not_printable_replacement
    repeat' split
    all_goals simp_all [Utf8State.Beyond]
    all_goals omega

/-- A step of the decoder: a character with a single byte, or nothing that is printed so. -/
theorem nextByte_cases {state : Utf8State} (hstate : state.Beyond) (b : Nat) :
    (state = .between ∧ b < 128 ∧ nextByte b state = ([Char.ofNat b], .between)) ∨
    ((nextByte b state).2.Beyond ∧ (∀ c ∈ (nextByte b state).1, Printable c → b < 128 ∧ c = Char.ofNat b) ∧
      ((nextByte b state).2 = .between → ∃ c ∈ (nextByte b state).1, ¬Printable c)) := by
  cases state with
  | between =>
      rcases firstByte_cases b with ⟨hb, hfirst⟩ | ⟨-, hbeyond, hnone, hsome⟩
      · exact .inl ⟨rfl, hb, hfirst⟩
      · refine .inr ⟨hbeyond, fun c hc hprintable => absurd hprintable (hnone c hc), ?_⟩
        intro hbetween
        obtain ⟨c, rest, hcs⟩ := List.exists_cons_of_ne_nil (hsome hbetween)
        have hc : c ∈ (firstByte b).1 := hcs ▸ List.mem_cons_self
        exact ⟨c, hc, hnone c hc⟩
  | inside needed low high value =>
      right
      unfold nextByte
      by_cases hrange : low ≤ b ∧ b ≤ high
      · simp only [hrange.1, hrange.2, decide_true, Bool.and_self, if_true]
        unfold Utf8State.Beyond at hstate
        by_cases hlast : needed ≤ 1
        · have hlarge : ¬Printable (Char.ofNat (value * 64 + (b - 0x80))) := not_printable_ofNat (by omega)
          simp [hlast, hlarge, Utf8State.Beyond]
        · simp only [hlast, if_false]
          refine ⟨?_, by simp, by simp⟩
          unfold Utf8State.Beyond
          omega
      · have hnot : (decide (low ≤ b) && decide (b ≤ high)) = false := by simpa using fun h => by omega
        simp only [hnot, Bool.false_eq_true, if_false]
        have hreplacement := not_printable_replacement
        rcases firstByte_cases b with ⟨hb, hfirst⟩ | ⟨-, hbeyond, hnone, -⟩
        · rw [hfirst]
          simp [hreplacement, Utf8State.Beyond, hb]
        · refine ⟨hbeyond, ?_, fun _ => ⟨_, List.mem_cons_self, hreplacement⟩⟩
          intro c hc hprintable
          rcases List.mem_cons.mp hc with rfl | hc
          · exact absurd hprintable hreplacement
          · exact absurd hprintable (hnone c hc)

theorem decodeFrom_cons (state : Utf8State) (b : UInt8) (rest : Bytes) :
    decodeFrom state (b :: rest) = (nextByte b.toNat state).1 ++ decodeFrom (nextByte b.toNat state).2 rest := by
  cases state <;> rfl

theorem ofNat_toNat_ofNat {b : UInt8} (h : b.toNat < 128) : UInt8.ofNat (Char.ofNat b.toNat).toNat = b := by
  have hvalid : b.toNat.isValidChar := Or.inl (by omega)
  rw [toNat_ofNat_of_valid hvalid, UInt8.ofNat_toNat]

/-- What is printed with a single byte stands among the bytes. -/
theorem mem_of_mem_decodeFrom {c : Char} (hc : Printable c) : ∀ {b : Bytes} {state : Utf8State}, state.Beyond →
    c ∈ decodeFrom state b → UInt8.ofNat c.toNat ∈ b := by
  intro b
  induction b with
  | nil =>
      intro state _ hmem
      cases state with
      | between => cases hmem
      | inside needed low high value =>
          rw [List.mem_singleton.mp hmem] at hc
          exact absurd hc not_printable_replacement
  | cons x rest ih =>
      intro state hstate hmem
      rw [decodeFrom_cons, List.mem_append] at hmem
      rcases nextByte_cases hstate x.toNat with ⟨-, hx, hnext⟩ | ⟨hbeyond, hprinted, -⟩
      · rw [hnext] at hmem
        rcases hmem with hfirst | hrest
        · rw [List.mem_singleton.mp hfirst, ofNat_toNat_ofNat hx]
          exact List.mem_cons_self
        · exact List.mem_cons_of_mem _ (ih beyond_between hrest)
      · rcases hmem with hfirst | hrest
        · obtain ⟨hx, rfl⟩ := hprinted c hfirst hc
          rw [ofNat_toNat_ofNat hx]
          exact List.mem_cons_self
        · exact List.mem_cons_of_mem _ (ih hbeyond hrest)

/-- Bytes that are shown with single bytes only are these bytes. -/
theorem eq_of_decodeFrom_printable : ∀ {b : Bytes} {state : Utf8State}, state.Beyond →
    (∀ c ∈ decodeFrom state b, Printable c) →
      state = .between ∧ b = (decodeFrom state b).map fun c => UInt8.ofNat c.toNat := by
  intro b
  induction b with
  | nil =>
      intro state _ hall
      cases state with
      | between => exact ⟨rfl, rfl⟩
      | inside needed low high value => exact absurd (hall _ List.mem_cons_self) not_printable_replacement
  | cons x rest ih =>
      intro state hstate hall
      rw [decodeFrom_cons, List.forall_mem_append] at hall
      rcases nextByte_cases hstate x.toNat with ⟨hbetween, hx, hnext⟩ | ⟨hbeyond, -, hsome⟩
      · rw [hnext] at hall
        obtain ⟨-, hrest⟩ := ih beyond_between hall.2
        refine ⟨hbetween, ?_⟩
        rw [decodeFrom_cons, hnext, List.map_append, ← hrest, List.map_singleton, ofNat_toNat_ofNat hx]
        rfl
      · -- The next state would have to be between characters, but then something else was shown.
        obtain ⟨hbetween, -⟩ := ih hbeyond hall.2
        obtain ⟨c, hc, hnot⟩ := hsome hbetween
        exact absurd (hall.1 c hc) hnot

/-! ### What is shown -/

theorem slash_mem_of_shown {b : Bytes} (h : '/' ∈ (ofBytes b).toList) : 47 ∈ b := by
  have hslash : Printable '/' := by
    unfold Printable
    decide
  rcases isText_or_ofBytes_eq b with htext | hshown
  · rw [← htext]
    exact (ascii_mem_bytes (c := '/') (by decide)).mpr h
  · rw [hshown, String.toList_ofList] at h
    exact mem_of_mem_decodeFrom hslash beyond_between h

/-- **Nothing else is shown as printable characters below 128.** -/
theorem eq_bytes_of_shown {b : Bytes} {s : String} (hs : ∀ c ∈ s.toList, Printable c) (h : ofBytes b = s) :
    b = s.toList.map fun c => UInt8.ofNat c.toNat := by
  have hone : ∀ {cs : List Char}, (∀ c ∈ cs, Printable c) →
      cs.flatMap String.utf8EncodeChar = cs.map fun c => UInt8.ofNat c.toNat := by
    intro cs hcs
    induction cs with
    | nil => rfl
    | cons c rest ih =>
        rw [List.forall_mem_cons] at hcs
        have hc : c.val.toNat ≤ 127 := Nat.le_of_lt_succ hcs.1.2
        rw [List.flatMap_cons, ih hcs.2, List.map_cons, String.utf8EncodeChar]
        simp only [hc, if_true]
        rfl
  rcases isText_or_ofBytes_eq b with htext | hshown
  · rw [← htext, h, bytes, hone hs]
  · have hchars : decodeFrom .between b = s.toList := by
      rw [← h, hshown, String.toList_ofList]
    rw [← hchars] at hs ⊢
    exact (eq_of_decodeFrom_printable beyond_between hs).2

theorem eq_nil_of_shown {b : Bytes} (h : ofBytes b = "") : b = [] :=
  eq_bytes_of_shown (s := "") (by simp) h

theorem eq_point_of_shown {b : Bytes} (h : ofBytes b = ".") : b = [46] := by
  have hpoint : ∀ c ∈ ".".toList, Printable c := by simp [Printable]
  exact eq_bytes_of_shown hpoint h

end CodeAtlas.Text
