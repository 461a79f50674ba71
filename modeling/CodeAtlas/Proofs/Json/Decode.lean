/-
What readers of JSON values accept.

The readers of records are put together from a few others: of texts, numbers, words,
lists, and of fields that have to be there or may be missing.  For each of these there
is a lemma on what it makes of a value that was written.  The other direction matters
for numbers, since one that was read has at most 64 bits and so can be written and read
again; and for what lists and fields are put together from, to get down to the numbers.
-/
import CodeAtlas.Json.Decode

namespace CodeAtlas.Json

variable {α β : Type}

/-! ### Steps of a reader -/

theorem bind_eq_ok {x : Decoded α} {f : α → Decoded β} {b : β} :
    (x >>= f) = .ok b ↔ ∃ a, x = .ok a ∧ f a = .ok b := by
  cases x with
  | error e =>
      constructor
      · intro h; cases h
      · rintro ⟨a, h, -⟩; cases h
  | ok a =>
      constructor
      · intro h; exact ⟨a, rfl, h⟩
      · rintro ⟨a', h, hf⟩; cases h; exact hf

theorem exists_of_map {x : Decoded α} {f : α → β} {b : β} (h : x.map f = .ok b) : ∃ a, x = .ok a ∧ f a = b := by
  cases x with
  | error e => cases h
  | ok a => exact ⟨a, rfl, Except.ok.inj h⟩

theorem ok_bind (a : α) (f : α → Decoded β) : (Except.ok a >>= f) = f a := rfl

/-! ### Numbers, words and lists -/

theorem toNat_nat {n : Nat} (h : n < UInt64.size) : toNat (.nat n) = .ok n :=
  if_pos h

theorem lt_of_toNat {j : Json} {n : Nat} (h : toNat j = .ok n) : n < UInt64.size := by
  unfold toNat at h
  split at h
  · next m =>
      by_cases hm : m < UInt64.size
      · rw [if_pos hm] at h
        cases h
        exact hm
      · rw [if_neg hm] at h
        cases h
  · cases h

theorem toWord_str {ofName? : String → Option α} {s : String} {a : α} (h : ofName? s = some a) :
    toWord ofName? (.str s) = .ok a := by
  unfold toWord
  simp only [Option.bind_some, h]

theorem mapM_map {encode : α → β} {decode : β → Decoded α} : ∀ {l : List α}, (∀ a ∈ l, decode (encode a) = .ok a) →
    (l.map encode).mapM decode = .ok l := by
  intro l
  induction l with
  | nil => intro _; rfl
  | cons a rest ih =>
      intro h
      rw [List.map_cons, List.mapM_cons, h a List.mem_cons_self, ok_bind,
        ih fun b hb => h b (List.mem_cons_of_mem _ hb), ok_bind]
      rfl

/-- What is in a list that was read has been read by itself. -/
theorem exists_of_mapM {decode : β → Decoded α} {a : α} : ∀ {items : List β} {l : List α},
    items.mapM decode = .ok l → a ∈ l → ∃ j ∈ items, decode j = .ok a := by
  intro items
  induction items with
  | nil =>
      intro l h ha
      cases h
      cases ha
  | cons j rest ih =>
      intro l h ha
      rw [List.mapM_cons, bind_eq_ok] at h
      obtain ⟨b, hb, h⟩ := h
      obtain ⟨bs, hbs, h⟩ := bind_eq_ok.mp h
      cases h
      rcases List.mem_cons.mp ha with rfl | ha
      · exact ⟨j, List.mem_cons_self, hb⟩
      · obtain ⟨j', hj', hdecode⟩ := ih hbs ha
        exact ⟨j', List.mem_cons_of_mem _ hj', hdecode⟩

theorem exists_of_toList {decode : Json → Decoded α} {j : Json} {l : List α} {a : α}
    (h : toList decode j = .ok l) (ha : a ∈ l) : ∃ item, decode item = .ok a := by
  cases j with
  | arr items =>
      obtain ⟨item, -, hitem⟩ := exists_of_mapM h ha
      exact ⟨item, hitem⟩
  | _ => cases h

theorem exists_of_toPairs {decode : Json → Decoded α} {j : Json} {l : List (String × α)} {name : String} {a : α}
    (h : toPairs decode j = .ok l) (ha : (name, a) ∈ l) : ∃ item, decode item = .ok a := by
  cases j with
  | obj fields =>
      obtain ⟨⟨key, item⟩, -, hitem⟩ := exists_of_mapM h ha
      obtain ⟨b, hb, hpair⟩ := exists_of_map hitem
      cases hpair
      exact ⟨item, hb⟩
  | _ => cases h

theorem toList_strings (l : List String) : toList toText (.strings l) = .ok l :=
  mapM_map fun _ _ => rfl

/-! ### Fields -/

@[simp] theorem field?_nil (name : String) : (Json.obj []).field? name = none := rfl

/-- Of fields with the same name the last counts. -/
theorem field?_cons (name key : String) (value : Json) (rest : List (String × Json)) :
    (Json.obj ((key, value) :: rest)).field? name =
      ((Json.obj rest).field? name).or (if name = key then some value else none) := by
  show ((key, value) :: rest).reverse.lookup name = _
  rw [List.reverse_cons, List.lookup_append, List.lookup_cons, List.lookup_nil]
  by_cases h : name = key
  · simp [field?, h]
  · simp [field?, h, beq_false_of_ne h]

theorem toFields_obj (names : List String) (defaults : Nat) (fields : List (String × Json)) :
    toFields names defaults (.obj fields) = .ok fun name => (Json.obj fields).field? name := rfl

theorem required_some (j : Json) (decode : Json → Decoded α) : required (some j) decode = decode j := rfl

theorem lt_of_required {field : Option Json} {n : Nat} (h : required field toNat = .ok n) : n < UInt64.size := by
  cases field with
  | none => cases h
  | some j => exact lt_of_toNat h

theorem optional_text (o : Option String) : optional (some (.ofOption .str o)) toText = .ok o := by
  cases o with
  | none => rfl
  | some s => rfl

theorem optional_texts (o : Option (List String)) :
    optional (some (.ofOption .strings o)) (toList toText) = .ok o := by
  cases o with
  | none => rfl
  | some l =>
      show (toList toText (.strings l)).map some = _
      rw [toList_strings]
      rfl

theorem present_some {j : Json} {decode : Json → Decoded α} {a : α} (h : decode j = .ok a) :
    present (some j) decode = .ok (some a) := by
  show (decode j).map some = _
  rw [h]
  rfl

theorem exists_of_present {field : Option Json} {decode : Json → Decoded α} {a : α}
    (h : present field decode = .ok (some a)) : ∃ j, decode j = .ok a := by
  cases field with
  | none => cases h
  | some j =>
      obtain ⟨b, hb, hsome⟩ := exists_of_map h
      cases hsome
      exact ⟨j, hb⟩

theorem eq_some_of_need {o : Option α} {a : α} (h : need o = .ok a) : o = some a := by
  cases o with
  | none => cases h
  | some b => rw [Except.ok.inj h]

end CodeAtlas.Json
