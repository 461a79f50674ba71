/-
Names of parameters are told from the text of their list.

A list of parameters is cut at commas by counting brackets, without regard to what the
brackets are or what stands in them.  This works as long as each parameter is `Enclosed`:
where it has a comma some bracket is open, and at its end none is.  What the counter
passes in one parameter then has no effect on the next, and every piece is exactly one
parameter, with a space before it.

Within its piece the name is next to a colon, an equals sign or a space, depending on
the style.  Since it is made of word characters, none of these stands in the name itself,
and neither does anything else that is cut off from it.
-/
import CodeAtlas.Pattern.Parameters
import CodeAtlas.Proofs.Text.Trimming
import CodeAtlas.Text.Word

namespace CodeAtlas.Text

/-- White space, by number. -/
def blankCodes : List Nat :=
  [9, 10, 11, 12, 13, 0x20, 0x85, 0xa0, 0x1680, 0x2000, 0x2001, 0x2002, 0x2003, 0x2004, 0x2005, 0x2006, 0x2007, 0x2008,
    0x2009, 0x200a, 0x2028, 0x2029, 0x202f, 0x205f, 0x3000]

theorem mem_blankCodes_of_isBlank {c : Char} (h : isBlank c = true) : c.toNat ∈ blankCodes := by
  simp only [isBlank, Bool.or_eq_true, Bool.and_eq_true, decide_eq_true_eq, beq_iff_eq] at h
  simp only [blankCodes, List.mem_cons, List.not_mem_nil, or_false]
  omega

theorem isBlank_of_isWord {c : Char} (h : isWord c = true) : isBlank c = false := by
  by_contra hblank
  have hnone : ∀ n ∈ blankCodes, isWord (Char.ofNat n) = false := by decide +kernel
  have hc := hnone c.toNat (mem_blankCodes_of_isBlank (by simpa using hblank))
  rw [Char.ofNat_toNat, h] at hc
  cases hc

theorem ne_of_isWord {c d : Char} (hc : isWord c = true) (hd : isWord d = false) : c ≠ d := by
  rintro rfl
  rw [hc] at hd
  cases hd

end CodeAtlas.Text

namespace CodeAtlas.Pattern

open CodeAtlas.Text

/-! ### Parameters as they are written -/

/-- How many more brackets a text opens than it closes. -/
def bracketDepth : List Char → Int
  | [] => 0
  | c :: rest => bracketChange c + bracketDepth rest

/-- Every comma of the text stands in brackets, and all brackets are closed in the end. -/
structure Enclosed (text : List Char) : Prop where
  commas : ∀ i < text.length, text[i]? = some ',' → bracketDepth (text.take i) ≠ 0
  balanced : bracketDepth text = 0

/-- The name of a parameter. -/
structure ParameterName where
  text : String
  nonempty : text ≠ ""
  word : ∀ c ∈ text.toList, isWord c = true

/-- A parameter as it is written in a style. -/
inductive WrittenParameter : ParameterStyle → Type
  /-- As in `name: rest`. -/
  | typed (name : ParameterName) (rest : String) (enclosed : Enclosed rest.toList) : WrittenParameter .annotated
  /-- As in `name = rest`. -/
  | defaulted (name : ParameterName) (rest : String) (enclosed : Enclosed rest.toList) : WrittenParameter .annotated
  /-- As in `name rest`. -/
  | beforeType (name : ParameterName) (rest : String) (enclosed : Enclosed rest.toList) : WrittenParameter .nameFirst
  /-- As in `type name`. -/
  | afterType (type : String) (name : ParameterName) (enclosed : Enclosed type.toList)
      (visible : ∃ c ∈ type.toList, isBlank c = false) (plain : '=' ∉ type.toList) : WrittenParameter .nameLast

namespace WrittenParameter

variable {style : ParameterStyle}

/-- Its name. -/
def name : WrittenParameter style → ParameterName
  | typed name _ _ | defaulted name _ _ | beforeType name _ _ | afterType _ name _ _ _ => name

/-- Its text. -/
def text : WrittenParameter style → String
  | typed name rest _ => name.text ++ ": " ++ rest
  | defaulted name rest _ => name.text ++ " = " ++ rest
  | beforeType name rest _ => name.text ++ " " ++ rest
  | afterType type name _ _ _ => type ++ " " ++ name.text

end WrittenParameter

namespace ParameterName

variable (name : ParameterName)

theorem toList_ne_nil : name.text.toList ≠ [] := by
  simpa using name.nonempty

theorem not_blank : ∀ c ∈ name.text.toList, isBlank c = false :=
  fun c hc => isBlank_of_isWord (name.word c hc)

theorem ne {c d : Char} (hc : c ∈ name.text.toList) (hd : isWord d = false) : c ≠ d :=
  ne_of_isWord (name.word c hc) hd

/-- Whatever follows the name, trimming keeps it. -/
theorem trimList_append (rest : List Char) :
    trimList (name.text.toList ++ rest) = name.text.toList ++ dropEndWhile isBlank rest := by
  have hlast := List.getLast?_eq_some_getLast name.toList_ne_nil
  have hstart : (name.text.toList ++ rest).dropWhile isBlank = name.text.toList ++ rest := by
    obtain ⟨c, cs, hname⟩ := List.exists_cons_of_ne_nil name.toList_ne_nil
    have hc := name.not_blank c (hname ▸ List.mem_cons_self)
    rw [hname, List.cons_append, List.dropWhile_cons_of_neg (by simp [hc])]
  unfold trimList
  rw [hstart, dropEndWhile_append_of_last hlast (name.not_blank _ (List.getLast_mem name.toList_ne_nil))]

theorem takeWhile_append {d : Char} (hd : isWord d = false) (rest : List Char) :
    (name.text.toList ++ rest).takeWhile (· != d) = name.text.toList ++ rest.takeWhile (· != d) :=
  List.takeWhile_append_of_pos fun _ hc => by simpa using name.ne hc hd

end ParameterName

/-! ### Cutting the list -/

/-- A text in which the list is not cut, wherever it stands outside brackets. -/
def Uncut (text : List Char) : Prop :=
  ∀ piece rest, piecesFrom 0 piece (text ++ rest) = piecesFrom 0 (text.reverse ++ piece) rest

theorem Uncut.append {a b : List Char} (ha : Uncut a) (hb : Uncut b) : Uncut (a ++ b) := by
  intro piece rest
  rw [List.append_assoc, ha, hb, List.reverse_append, List.append_assoc]

/-- The counter goes through a text whose commas it sees at other depths than zero. -/
theorem piecesFrom_append : ∀ (text : List Char) (depth : Int) (piece rest : List Char),
    (∀ i < text.length, text[i]? = some ',' → depth + bracketDepth (text.take i) ≠ 0) →
      piecesFrom depth piece (text ++ rest) = piecesFrom (depth + bracketDepth text) (text.reverse ++ piece) rest := by
  intro text
  induction text with
  | nil => intro depth piece rest _; simp [bracketDepth]
  | cons c cs ih =>
      intro depth piece rest h
      have hcut : (c == ',' && depth == 0) = false := by
        have hfirst := h 0 (by simp)
        simp only [List.getElem?_cons_zero, Option.some.injEq, List.take_zero, bracketDepth, Int.add_zero] at hfirst
        simpa using hfirst
      have hlater : ∀ i < cs.length, cs[i]? = some ',' → depth + bracketChange c + bracketDepth (cs.take i) ≠ 0 := by
        intro i hi hcomma
        have hnext := h (i + 1) (by simpa using hi) (by simpa using hcomma)
        rwa [List.take_succ_cons, bracketDepth, ← Int.add_assoc] at hnext
      rw [List.cons_append, piecesFrom, hcut, if_neg (by simp), ih _ _ _ hlater, bracketDepth, ← Int.add_assoc]
      simp

/-- The pieces as a counter of 32 bits cuts them. -/
def wordPieces (depth : Int32) (piece : List Char) : List Char → List (List Char)
  | [] => [piece.reverse]
  | c :: rest =>
    if c == ',' && depth == 0 then piece.reverse :: wordPieces depth [] rest
    else wordPieces (depth + Int32.ofInt (bracketChange c)) (c :: piece) rest

/-- **A counter of 32 bits is wide enough** for every text with fewer characters than it can count. -/
theorem wordPieces_eq : ∀ (text : List Char) (depth : Int32) (piece : List Char),
    depth.toInt.natAbs + text.length < 2147483648 → wordPieces depth piece text = piecesFrom depth.toInt piece text := by
  intro text
  induction text with
  | nil => intro depth piece _; rfl
  | cons c rest ih =>
      intro depth piece h
      rw [List.length_cons] at h
      have hzero : (depth == 0) = (depth.toInt == 0) := by
        rw [Bool.eq_iff_iff, beq_iff_eq, beq_iff_eq, ← Int32.toInt_inj]
        rfl
      have hchange : -1 ≤ bracketChange c ∧ bracketChange c ≤ 1 := by
        unfold bracketChange
        split
        · decide
        · split
          · decide
          · decide
      have hsum : (depth + Int32.ofInt (bracketChange c)).toInt = depth.toInt + bracketChange c := by
        have hsmall : (Int32.ofInt (bracketChange c)).toInt = bracketChange c :=
          Int32.toInt_ofInt_of_le (by simp; omega) (by simp; omega)
        rw [Int32.toInt_add, hsmall]
        exact Int.bmod_eq_of_le (by simp; omega) (by simp; omega)
      rw [wordPieces, piecesFrom, hzero, ih _ _ (by omega), ih _ _ (by rw [hsum]; omega), hsum]

theorem Enclosed.uncut {text : List Char} (h : Enclosed text) : Uncut text := by
  intro piece rest
  have hcut := piecesFrom_append text 0 piece rest (by simpa using h.commas)
  rwa [h.balanced, Int.add_zero] at hcut

/-- Without brackets and commas there is nothing to count. -/
theorem uncut_of_plain {text : List Char} (h : ∀ c ∈ text, c ≠ ',' ∧ bracketChange c = 0) : Uncut text := by
  induction text with
  | nil => intro piece rest; rfl
  | cons c cs ih =>
      intro piece rest
      obtain ⟨hcomma, hchange⟩ := h c List.mem_cons_self
      rw [List.cons_append, piecesFrom, if_neg (by simp [hcomma]), hchange, Int.add_zero,
        ih (fun d hd => h d (List.mem_cons_of_mem _ hd))]
      simp

theorem ParameterName.uncut (name : ParameterName) : Uncut name.text.toList := by
  refine uncut_of_plain fun c hc => ⟨name.ne hc (by decide), ?_⟩
  have hne : ∀ d ∈ ['(', '[', '<', '{', ')', ']', '>', '}'], c ≠ d := by
    intro d hd
    have hmarks : ['(', '[', '<', '{', ')', ']', '>', '}'].all (fun d => !isWord d) = true := by decide
    exact name.ne hc (by simpa using List.all_eq_true.mp hmarks d hd)
  simp only [List.forall_mem_cons] at hne
  simp [bracketChange, hne]

theorem WrittenParameter.uncut {style : ParameterStyle} (p : WrittenParameter style) : Uncut p.text.toList := by
  have hspace : Uncut [' '] := uncut_of_plain (by simp [bracketChange])
  cases p with
  | typed name rest enclosed =>
      have hsign : Uncut [':', ' '] := uncut_of_plain (by simp [bracketChange])
      have h := (name.uncut.append hsign).append enclosed.uncut
      simpa [text] using h
  | defaulted name rest enclosed =>
      have hsign : Uncut [' ', '=', ' '] := uncut_of_plain (by simp [bracketChange])
      have h := (name.uncut.append hsign).append enclosed.uncut
      simpa [text] using h
  | beforeType name rest enclosed =>
      have h := (name.uncut.append hspace).append enclosed.uncut
      simpa [text] using h
  | afterType type name enclosed visible plain =>
      have h := (enclosed.uncut.append hspace).append name.uncut
      simpa [text] using h

/-- **The pieces of a list are its parts**, each but the first with the space that follows a comma. -/
theorem piecesFrom_intercalate : ∀ (later : List String) (first : String) (piece : List Char),
    (∀ t ∈ first :: later, Uncut t.toList) →
      piecesFrom 0 piece (", ".intercalate (first :: later)).toList =
        (piece.reverse ++ first.toList) :: later.map fun t => ' ' :: t.toList := by
  intro later
  induction later with
  | nil =>
      intro first piece h
      have hend := h first List.mem_cons_self piece []
      rw [List.append_nil] at hend
      rw [String.intercalate_singleton, hend, piecesFrom]
      simp
  | cons second rest ih =>
      intro first piece h
      have hfirst := h first List.mem_cons_self piece
      have hrest := ih second [' '] fun t ht => h t (List.mem_cons_of_mem _ ht)
      have htoList : (", ".intercalate (first :: second :: rest)).toList =
          first.toList ++ ',' :: ' ' :: (", ".intercalate (second :: rest)).toList := by
        rw [String.intercalate_cons_cons, String.toList_append, String.toList_append]
        simp
      rw [htoList, hfirst, piecesFrom, if_pos (by rfl), piecesFrom, if_neg (by simp)]
      rw [show (0 : Int) + bracketChange ' ' = 0 from rfl, hrest]
      simp

/-! ### The name in a piece -/

theorem partsFrom_append_of_none {p : Char → Bool} {word : List Char} (h : ∀ c ∈ word, p c = false) :
    ∀ part rest : List Char, partsFrom p part (word ++ rest) = partsFrom p (word.reverse ++ part) rest := by
  induction word with
  | nil => intro part rest; rfl
  | cons c cs ih =>
      intro part rest
      rw [List.cons_append, partsFrom, if_neg (by simp [h c List.mem_cons_self]),
        ih (fun d hd => h d (List.mem_cons_of_mem _ hd))]
      simp

theorem partsFrom_append_separator {p : Char → Bool} {c : Char} (hc : p c = true) (b : List Char) :
    ∀ a part : List Char, partsFrom p part (a ++ c :: b) = partsFrom p part a ++ parts p b := by
  intro a
  induction a with
  | nil =>
      intro part
      simp only [List.nil_append, partsFrom, hc, if_true]
      split
      · rfl
      · rfl
  | cons d rest ih =>
      intro part
      rw [List.cons_append, partsFrom, partsFrom]
      by_cases hd : p d = true
      · rw [if_pos hd, if_pos hd, ih]
        split
        · rfl
        · rfl
      · rw [if_neg hd, if_neg hd, ih]

namespace ParameterName

variable (name : ParameterName)

/-- A name is one word wherever words are told apart by characters that are not in names. -/
theorem parts_eq {p : Char → Bool} (h : ∀ c ∈ name.text.toList, p c = false) :
    parts p name.text.toList = [name.text.toList] := by
  have hwhole := partsFrom_append_of_none h [] []
  rw [List.append_nil, List.append_nil] at hwhole
  rw [parts, hwhole, partsFrom, if_neg (by simpa using name.nonempty), List.reverse_reverse]

/-- The name is found in what is left of a piece once default value and white space are cut off. -/
theorem parameterName?_eq {style : ParameterStyle} {piece trimmed : List Char}
    (htrim : trimList (piece.takeWhile (· != '=')) = trimmed) (hne : trimmed ≠ [])
    (hname : nameIn style trimmed = some name.text.toList) :
    parameterName? style piece = some name.text.toList := by
  unfold parameterName?
  simp only [htrim, hname]
  rw [if_neg (by simpa using hne), Option.filter_some, if_pos (by simpa using name.nonempty)]

theorem nameIn_annotated {rest : List Char} (h : rest.takeWhile (· != ':') = []) :
    nameIn .annotated (name.text.toList ++ rest) = some name.text.toList := by
  have hstart : name.text.toList.dropWhile (fun c => c == '&' || c == '.') = name.text.toList := by
    obtain ⟨c, cs, hcs⟩ := List.exists_cons_of_ne_nil name.toList_ne_nil
    have hmem : c ∈ name.text.toList := hcs ▸ List.mem_cons_self
    rw [hcs, List.dropWhile_cons_of_neg]
    simp [name.ne hmem (d := '&') (by decide), name.ne hmem (d := '.') (by decide)]
  have hend : dropEndWhile (· == '?') name.text.toList = name.text.toList := by
    refine dropEndWhile_of_last (List.getLast?_eq_some_getLast name.toList_ne_nil) ?_
    simpa using name.ne (List.getLast_mem name.toList_ne_nil) (d := '?') (by decide)
  unfold nameIn
  simp only [name.takeWhile_append (d := ':') (by decide), h, List.append_nil, name.parts_eq name.not_blank,
    List.getLast?_singleton, Option.map_some, hstart, hend]

theorem nameIn_nameFirst {rest : List Char} (h : rest.head?.all isBlank = true) :
    nameIn .nameFirst (name.text.toList ++ rest) = some name.text.toList := by
  unfold nameIn
  cases rest with
  | nil => rw [List.append_nil, name.parts_eq name.not_blank, List.head?_cons]
  | cons c cs =>
      have hparts : parts isBlank (name.text.toList ++ c :: cs) = [name.text.toList] ++ parts isBlank cs := by
        rw [parts, partsFrom_append_separator (by simpa using h), ← parts, name.parts_eq name.not_blank]
      rw [hparts, List.singleton_append, List.head?_cons]

theorem nameIn_nameLast (type : List Char) :
    nameIn .nameLast (type ++ ' ' :: name.text.toList) = some name.text.toList := by
  have hvoid : (type ++ ' ' :: name.text.toList == "void".toList) = false := by
    rw [beq_eq_false_iff_ne]
    intro heq
    have hspace : ' ' ∈ "void".toList := heq ▸ List.mem_append_right _ List.mem_cons_self
    exact absurd hspace (by decide)
  have hword : ∀ c ∈ name.text.toList, (isBlank c || c == '*' || c == '&') = false := by
    intro c hc
    simp [name.not_blank c hc, name.ne hc (d := '*') (by decide), name.ne hc (d := '&') (by decide)]
  have hbracket := name.takeWhile_append (d := '[') (by decide) []
  rw [List.append_nil, List.takeWhile_nil, List.append_nil] at hbracket
  unfold nameIn
  simp only [hvoid, Bool.false_or]
  rw [if_neg (by simp [isBlank]), parts, partsFrom_append_separator (by decide), name.parts_eq hword,
    List.getLast?_concat, Option.map_some, hbracket]

end ParameterName

/-- A space before a piece makes no difference. -/
theorem parameterName?_space (style : ParameterStyle) (piece : List Char) :
    parameterName? style (' ' :: piece) = parameterName? style piece := by
  unfold parameterName?
  rw [List.takeWhile_cons_of_pos (by decide), trimList_cons_of_blank (by decide)]

theorem WrittenParameter.parameterName?_text {style : ParameterStyle} (p : WrittenParameter style) :
    parameterName? style p.text.toList = some p.name.text.toList := by
  cases p with
  | typed name rest enclosed =>
      have htext : (text (typed name rest enclosed)).toList = name.text.toList ++ ':' :: ' ' :: rest.toList := by
        simp [text]
      have htrim : trimList ((name.text.toList ++ ':' :: ' ' :: rest.toList).takeWhile (· != '=')) =
          name.text.toList ++ ':' :: dropEndWhile isBlank ((' ' :: rest.toList).takeWhile (· != '=')) := by
        rw [name.takeWhile_append (by decide), name.trimList_append, List.takeWhile_cons_of_pos (by decide),
          ← List.singleton_append, dropEndWhile_append_of_last (c := ':') rfl (by decide)]
        rfl
      rw [htext]
      exact name.parameterName?_eq htrim (by simp) (name.nameIn_annotated (by simp))
  | defaulted name rest enclosed =>
      have htext : (text (defaulted name rest enclosed)).toList =
          name.text.toList ++ ' ' :: '=' :: ' ' :: rest.toList := by
        simp [text]
      have htrim : trimList ((name.text.toList ++ ' ' :: '=' :: ' ' :: rest.toList).takeWhile (· != '=')) =
          name.text.toList ++ [] := by
        rw [name.takeWhile_append (by decide), name.trimList_append]
        rfl
      rw [htext]
      exact name.parameterName?_eq htrim (by simpa using name.nonempty) (name.nameIn_annotated (by simp))
  | beforeType name rest enclosed =>
      have htext : (text (beforeType name rest enclosed)).toList = name.text.toList ++ ' ' :: rest.toList := by
        simp [text]
      have htrim : trimList ((name.text.toList ++ ' ' :: rest.toList).takeWhile (· != '=')) =
          name.text.toList ++ dropEndWhile isBlank (' ' :: rest.toList.takeWhile (· != '=')) := by
        rw [name.takeWhile_append (by decide), name.trimList_append, List.takeWhile_cons_of_pos (by decide)]
      -- The type may be gone with the default value, and then the space is gone as well.
      have hspace : (dropEndWhile isBlank (' ' :: rest.toList.takeWhile (· != '='))).head?.all isBlank = true := by
        rcases List.prefix_cons_iff.mp (dropEndWhile_isPrefix _) with hnil | ⟨u, hcons, -⟩
        · rw [hnil]
          rfl
        · rw [hcons]
          rfl
      rw [htext]
      exact name.parameterName?_eq htrim (by simp [name.nonempty]) (name.nameIn_nameFirst hspace)
  | afterType type name enclosed visible plain =>
      have htext : (text (afterType type name enclosed visible plain)).toList =
          type.toList ++ ' ' :: name.text.toList := by
        simp [text]
      have hwhole : (type.toList ++ ' ' :: name.text.toList).takeWhile (· != '=') =
          type.toList ++ ' ' :: name.text.toList := by
        rw [List.takeWhile_eq_self_iff]
        intro c hc
        rcases List.mem_append.mp hc with htype | hname
        · have hne : c ≠ '=' := fun heq => plain (heq ▸ htype)
          simpa using hne
        · rcases List.mem_cons.mp hname with rfl | hname
          · decide
          · simpa using name.ne hname (by decide)
      have hkept : type.toList.dropWhile isBlank ≠ [] := by
        obtain ⟨c, hc, hblank⟩ := visible
        intro hnil
        have := List.dropWhile_eq_nil_iff.mp hnil c hc
        rw [hblank] at this
        cases this
      have hlast : (type.toList.dropWhile isBlank ++ ' ' :: name.text.toList).getLast? =
          some (name.text.toList.getLast name.toList_ne_nil) := by
        rw [List.getLast?_append, List.getLast?_cons, List.getLast?_eq_some_getLast name.toList_ne_nil]
        rfl
      have htrim : trimList ((type.toList ++ ' ' :: name.text.toList).takeWhile (· != '=')) =
          type.toList.dropWhile isBlank ++ ' ' :: name.text.toList := by
        rw [hwhole, trimList, List.dropWhile_append, if_neg (by simpa using hkept),
          dropEndWhile_of_last hlast (name.not_blank _ (List.getLast_mem name.toList_ne_nil))]
      rw [htext]
      exact name.parameterName?_eq htrim (by simp) (name.nameIn_nameLast _)

/--
**Names of parameters survive writing them down.**  Whatever names and types a list of
parameters has, and however their brackets nest, its text gives back the names in order.
-/
theorem parameterNames_written {style : ParameterStyle} (parameters : List (WrittenParameter style)) :
    parameterNames style (", ".intercalate (parameters.map WrittenParameter.text)) =
      parameters.map fun p => p.name.text := by
  cases parameters with
  | nil => cases style <;> decide
  | cons p rest =>
      have huncut : ∀ t ∈ p.text :: rest.map WrittenParameter.text, Uncut t.toList := by
        rw [← List.map_cons, List.forall_mem_map]
        exact fun q _ => q.uncut
      have hpieces : pieces (", ".intercalate ((p :: rest).map WrittenParameter.text)).toList =
          p.text.toList :: rest.map fun q => ' ' :: q.text.toList := by
        rw [pieces, List.map_cons, piecesFrom_intercalate _ _ _ huncut, List.map_map]
        rfl
      have hlater : (rest.map fun q => ' ' :: q.text.toList).filterMap (parameterName? style) =
          rest.map fun q => q.name.text.toList := by
        rw [List.filterMap_map]
        refine List.filterMap_eq_map_iff_forall_eq_some.mpr fun q _ => ?_
        rw [Function.comp_apply, parameterName?_space, q.parameterName?_text]
      rw [parameterNames, hpieces, List.filterMap_cons_some p.parameterName?_text, hlater]
      simp

/-- Parameters with commas in brackets of all kinds, and a name that is not ASCII. -/
def nestedParameters : List (WrittenParameter .annotated) := [
  .typed ⟨"m", by decide, List.all_eq_true.mp (by decide)⟩ "Map<K, (V, W)>" ⟨by decide, by decide⟩,
  .defaulted ⟨"größe", by decide, List.all_eq_true.mp (by decide +kernel)⟩ "f([1, 2], \x7b3: 4\x7d)"
    ⟨by decide, by decide⟩]

theorem parameterNames_of_nestedParameters :
    ", ".intercalate (nestedParameters.map WrittenParameter.text) =
      "m: Map<K, (V, W)>, größe = f([1, 2], \x7b3: 4\x7d)" ∧
    parameterNames .annotated (", ".intercalate (nestedParameters.map WrittenParameter.text)) = ["m", "größe"] :=
  ⟨by decide +kernel, parameterNames_written nestedParameters⟩

end CodeAtlas.Pattern
