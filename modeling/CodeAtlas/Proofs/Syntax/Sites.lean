/-
Where sites stand to each other.

A site knows the way up from it, so it can be told what a site stands in without
looking at a tree.  `line` is that way, and `Under` says that a site was reached by
going down; a site that was reached from another has it on its line.

What the walks over trees rest on is that different parts of a tree do not meet.  All
sites of a line have different depths.  So two sites of one depth, such as the
children of a node, have nothing below them in common: they are `Apart`.
-/
import CodeAtlas.Syntax.Site

namespace CodeAtlas.Syntax.Site

/-- The site `c` stands directly in `s`. -/
def Holds (s c : Site) : Prop :=
  ∃ b ∈ s.children, b.val = c

/-- The site is reached from `s` by going down, through one site or more. -/
inductive Under (s : Site) : Site → Prop
  | child {c : Site} (h : s.Holds c) : Under s c
  | step {t c : Site} (ht : Under s t) (h : t.Holds c) : Under s c

/-- A site and all that it stands in. -/
def line : Site → List Site
  | root n => [root n]
  | child n before above => child n before above :: above.line

/-- How many sites are above. -/
def depth : Site → Nat
  | root _ => 0
  | child _ _ above => above.depth + 1

/-- Nothing stands at or below both sites. -/
def Apart (a b : Site) : Prop :=
  ∀ t : Site, a ∈ t.line → b ∉ t.line

/-! ### Directly below -/

theorem mem_place {s : Site} {b : s.Below} : ∀ {children before : List Node}
    {h : Node.sizeAll children < s.size}, b ∈ s.place children before h →
      ∃ n earlier, n ∈ children ∧ before.length ≤ earlier.length ∧ b.val = child n earlier s := by
  intro children
  induction children with
  | nil => intro before h hb; cases hb
  | cons n rest ih =>
      intro before h hb
      rw [place] at hb
      rcases List.mem_cons.mp hb with rfl | hb
      · exact ⟨n, before, List.mem_cons_self, Nat.le_refl _, rfl⟩
      · obtain ⟨m, earlier, hm, hlength, hval⟩ := ih hb
        refine ⟨m, earlier, List.mem_cons_of_mem _ hm, ?_, hval⟩
        rw [List.length_cons] at hlength
        omega

theorem map_node_place {s : Site} : ∀ (children before : List Node) (h : Node.sizeAll children < s.size),
    (s.place children before h).map (·.val.node) = children := by
  intro children
  induction children with
  | nil => intro before h; rfl
  | cons n rest ih =>
      intro before h
      exact congrArg (n :: ·) (ih _ _)

theorem place_pairwise {s : Site} : ∀ (children before : List Node) (h : Node.sizeAll children < s.size),
    (s.place children before h).Pairwise (fun a b => a.val ≠ b.val) := by
  intro children
  induction children with
  | nil => intro before h; exact List.Pairwise.nil
  | cons n rest ih =>
      intro before h
      rw [place]
      refine List.Pairwise.cons ?_ (ih _ _)
      -- Whatever comes later has more siblings before it.
      intro b hb heq
      obtain ⟨m, earlier, -, hlength, hval⟩ := mem_place hb
      rw [hval] at heq
      cases heq
      rw [List.length_cons] at hlength
      omega

/-- The sites directly below are those of the children, in their order. -/
theorem map_node_children (s : Site) : s.children.map (·.val.node) = s.node.children :=
  map_node_place _ _ _

theorem children_pairwise (s : Site) : s.children.Pairwise (fun a b => a.val ≠ b.val) :=
  place_pairwise _ _ _

theorem Holds.above {s c : Site} (h : s.Holds c) : c.above = some s := by
  obtain ⟨b, hb, rfl⟩ := h
  obtain ⟨n, earlier, -, -, hval⟩ := mem_place hb
  rw [hval]
  rfl

theorem Holds.node_mem {s c : Site} (h : s.Holds c) : c.node ∈ s.node.children := by
  obtain ⟨b, hb, rfl⟩ := h
  rw [← map_node_children]
  exact List.mem_map.mpr ⟨b, hb, rfl⟩

theorem Holds.size_lt {s c : Site} (h : s.Holds c) : c.size < s.size := by
  obtain ⟨b, -, rfl⟩ := h
  exact b.property

theorem holds_of_mem {s : Site} {b : s.Below} (h : b ∈ s.children) : s.Holds b.val :=
  ⟨b, h, rfl⟩

theorem holds_of_child? {s : Site} {name : String} {b : s.Below} (h : s.child? name = some b) : s.Holds b.val :=
  holds_of_mem (List.mem_of_find?_eq_some h)

theorem holds_of_namedChild {s : Site} {b : s.Below} (h : b ∈ s.namedChildren) : s.Holds b.val :=
  holds_of_mem (List.mem_filter.mp h).1

theorem namedChildren_sublist (s : Site) : s.namedChildren.Sublist s.children :=
  List.filter_sublist

/-! ### Above -/

theorem mem_line_self (s : Site) : s ∈ s.line := by
  cases s <;> exact List.mem_cons_self

theorem line_of_above {s a : Site} (h : s.above = some a) : s.line = s :: a.line := by
  cases s with
  | root n => cases h
  | child n before above =>
      cases h
      rfl

theorem depth_of_above {s a : Site} (h : s.above = some a) : s.depth = a.depth + 1 := by
  cases s with
  | root n => cases h
  | child n before above =>
      cases h
      rfl

theorem depth_le_of_mem_line {a : Site} : ∀ {t : Site}, a ∈ t.line → a.depth ≤ t.depth := by
  intro t
  induction t with
  | root n =>
      intro h
      exact Nat.le_of_eq (congrArg depth (List.mem_singleton.mp h))
  | child n before above ih =>
      intro h
      rcases List.mem_cons.mp h with rfl | h
      · exact Nat.le_refl _
      · exact Nat.le_succ_of_le (ih h)

/-- The line of a site goes on as that of any site on it. -/
theorem line_trans {a b : Site} : ∀ {t : Site}, b ∈ t.line → a ∈ b.line → a ∈ t.line := by
  intro t
  induction t with
  | root n =>
      intro hb ha
      rw [List.mem_singleton.mp hb] at ha
      exact ha
  | child n before above ih =>
      intro hb ha
      rcases List.mem_cons.mp hb with rfl | hb
      · exact ha
      · exact List.mem_cons_of_mem _ (ih hb ha)

/-- On a line there is one site of each depth only. -/
theorem eq_of_depth_eq {a b : Site} : ∀ {t : Site}, a ∈ t.line → b ∈ t.line → a.depth = b.depth → a = b := by
  intro t
  induction t with
  | root n =>
      intro ha hb _
      rw [List.mem_singleton.mp ha, List.mem_singleton.mp hb]
  | child n before above ih =>
      intro ha hb hdepth
      rcases List.mem_cons.mp ha with ha | ha <;> rcases List.mem_cons.mp hb with hb | hb
      · rw [ha, hb]
      · have hle := depth_le_of_mem_line hb
        rw [ha, depth] at hdepth
        omega
      · have hle := depth_le_of_mem_line ha
        rw [hb, depth] at hdepth
        omega
      · exact ih ha hb hdepth

theorem apart_of_depth_eq {a b : Site} (hne : a ≠ b) (hdepth : a.depth = b.depth) : a.Apart b :=
  fun _ ha hb => hne (eq_of_depth_eq ha hb hdepth)

theorem Holds.mem_line {s c : Site} (h : s.Holds c) : s ∈ c.line := by
  rw [line_of_above h.above]
  exact List.mem_cons_of_mem _ s.mem_line_self

/-- The children of a site are apart. -/
theorem children_apart (s : Site) : s.children.Pairwise (fun a b => a.val.Apart b.val) := by
  refine (children_pairwise s).imp_of_mem ?_
  intro a b ha hb hne
  refine apart_of_depth_eq hne ?_
  rw [depth_of_above (holds_of_mem ha).above, depth_of_above (holds_of_mem hb).above]

/-! ### Below -/

theorem Under.mem_line {s t : Site} (h : s.Under t) : s ∈ t.line := by
  induction h with
  | child h => exact h.mem_line
  | step _ h ih => exact line_trans h.mem_line ih

theorem Under.size_lt {s t : Site} (h : s.Under t) : t.size < s.size := by
  induction h with
  | child h => exact h.size_lt
  | step _ h ih => exact Nat.lt_trans h.size_lt ih

theorem Under.depth_lt {s t : Site} (h : s.Under t) : s.depth < t.depth := by
  induction h with
  | child h =>
      rw [depth_of_above h.above]
      omega
  | step _ h ih =>
      rw [depth_of_above h.above]
      omega

theorem Under.trans {a b c : Site} (hab : a.Under b) (hbc : b.Under c) : a.Under c := by
  induction hbc with
  | child h => exact .step hab h
  | step _ h ih => exact .step ih h

theorem Under.of_within {a b c : Site} (hab : b = a ∨ a.Under b) (hbc : b.Under c) : a.Under c := by
  rcases hab with rfl | hab
  · exact hbc
  · exact hab.trans hbc

/-- On the way down there is a first step. -/
theorem under_iff {s t : Site} : s.Under t ↔ ∃ c, s.Holds c ∧ (t = c ∨ c.Under t) := by
  constructor
  · intro h
    induction h with
    | child h => exact ⟨_, h, Or.inl rfl⟩
    | step _ h ih =>
        obtain ⟨c, hc, rfl | hunder⟩ := ih
        · exact ⟨_, hc, Or.inr (.child h)⟩
        · exact ⟨c, hc, Or.inr (.step hunder h)⟩
  · rintro ⟨c, hc, rfl | hunder⟩
    · exact .child hc
    · exact Under.trans (.child hc) hunder

end CodeAtlas.Syntax.Site
