/-
Trees of files come back from their JSON forms.

A node is written without its language when it has none, and without its children when
it has none, at every level of the tree.  The reader takes both forms of a record, and
goes down into the children while it is still among the fields; `ofJson_eq` says that
this comes to looking up the field of the children first.  With that one step of the
reader can be taken at a time: `toFields_toJson` tells the fields that are written, and
a node comes back when its children do.

In the other direction a node that was read has a size of at most 64 bits, and its
children were read as well.  Both inductions are over the tree.
-/
import CodeAtlas.Proofs.Crawl.Tree
import CodeAtlas.Proofs.Json.Decode

namespace CodeAtlas.Crawl

open CodeAtlas.Json

theorem NodeKind.ofName?_name (k : NodeKind) : NodeKind.ofName? k.name = some k := by
  cases k <;> rfl

namespace FileNode

/-! ### One step of the reader -/

theorem childrenField_eq (fields : List (String × Json)) :
    childrenField fields = ((Json.obj fields).field? "children").map ofChildren := by
  induction fields with
  | nil => rw [childrenField, field?_nil, Option.map_none]
  | cons q rest ih =>
      obtain ⟨name, j⟩ := q
      rw [childrenField, ih, field?_cons]
      cases (Json.obj rest).field? "children" with
      | some found => rfl
      | none =>
          by_cases hname : name = "children"
          · subst hname
            rfl
          · simp [hname, Ne.symm hname]

theorem childrenItem_eq (items : List Json) : ∀ k : Nat, childrenItem k items = items[k]?.map ofChildren := by
  induction items with
  | nil => intro k; cases k <;> rfl
  | cons j rest ih =>
      intro k
      cases k with
      | zero => rfl
      | succ k => exact ih k

theorem lookup_children (items : List Json) : (fieldNames.zip items).lookup "children" = items[5]? := by
  rcases items with _ | ⟨_, _ | ⟨_, _ | ⟨_, _ | ⟨_, _ | ⟨_, _ | ⟨_, _⟩⟩⟩⟩⟩⟩ <;> rfl

/-- Both forms of a record are read in the same way, the children from the field of their name. -/
theorem ofJson_eq (j : Json) :
    ofJson j = toFields fieldNames 2 j >>= fun field => ofFields field ((field "children").map ofChildren) := by
  cases j with
  | obj fields => rw [ofJson, childrenField_eq]; rfl
  | arr items =>
      rw [ofJson, childrenItem_eq, ← lookup_children]
      by_cases hlength : fieldNames.length ≤ items.length + 2 ∧ items.length ≤ fieldNames.length
      · have hfields : toFields fieldNames 2 (.arr items) = .ok fun name => (fieldNames.zip items).lookup name :=
          if_pos hlength
        rw [hfields]
        rfl
      · have hfields : toFields fieldNames 2 (.arr items) = .error .malformed := if_neg hlength
        rw [hfields]
        rfl
  | null => rfl
  | bool b => rfl
  | nat n => rfl
  | float x => rfl
  | str s => rfl

theorem ofAll_eq_mapM (items : List Json) : ofAll items = items.mapM ofJson := by
  induction items with
  | nil => rfl
  | cons j rest ih => rw [ofAll, ih, List.mapM_cons]

theorem toJsonAll_eq_map (ns : List FileNode) : toJsonAll ns = ns.map toJson := by
  induction ns with
  | nil => rfl
  | cons n rest ih => rw [toJsonAll, ih, List.map_cons]

theorem ofChildren_eq : ofChildren = toList ofJson := by
  funext j
  cases j with
  | arr items => exact ofAll_eq_mapM items
  | _ => rfl

/-! ### Trees of files -/

mutual

/-- What holds of a node when it holds of its children holds of all nodes. -/
theorem induction_children {motive : FileNode → Prop} (node : ∀ n, (∀ m ∈ n.children, motive m) → motive n) :
    ∀ n, motive n
  | mk name path kind size language children =>
      node (mk name path kind size language children) (induction_children_all node children)

theorem induction_children_all {motive : FileNode → Prop} (node : ∀ n, (∀ m ∈ n.children, motive m) → motive n) :
    ∀ ns : List FileNode, ∀ n ∈ ns, motive n
  | [] => fun _ hn => absurd hn List.not_mem_nil
  | n :: rest => List.forall_mem_cons.mpr ⟨induction_children node n, induction_children_all node rest⟩

end

/-- The sizes of all nodes of a tree have at most 64 bits. -/
def Fits (t : FileNode) : Prop :=
  ∀ n ∈ t.nodes, n.size < UInt64.size

theorem fits_iff {t : FileNode} : t.Fits ↔ t.size < UInt64.size ∧ ∀ n ∈ t.children, n.Fits := by
  unfold Fits
  rw [nodes_eq, List.forall_mem_cons, List.forall_mem_flatMap]

/-- The fields of the JSON form of a node. A language or children that are left out are missing there. -/
structure Written (n : FileNode) (field : String → Option Json) : Prop where
  name : field "name" = some (.str n.name)
  path : field "path" = some (.str n.path)
  kind : field "type" = some (.str n.kind.name)
  size : field "size" = some (.nat n.size)
  language : field "language" = n.language.map .str
  children : field "children" = if n.children = [] then none else some (.arr (n.children.map toJson))

theorem toFields_toJson (n : FileNode) :
    ∃ field, toFields fieldNames 2 n.toJson = .ok field ∧ n.Written field := by
  obtain ⟨name, path, kind, size, language, children⟩ := n
  rw [toJson.eq_def]
  refine ⟨_, toFields_obj _ _ _, ?_⟩
  -- What is left out decides the list of fields, and then all six are looked up in it.
  cases language <;> cases children <;> constructor <;>
    simp [field?_cons, FileNode.name, FileNode.path, FileNode.kind, FileNode.size, FileNode.language,
      FileNode.children, toJsonAll_eq_map]

theorem Written.language_eq {n : FileNode} {field : String → Option Json} (h : n.Written field) :
    optional (field "language") toText = .ok n.language := by
  rw [h.language]
  cases n.language <;> rfl

theorem Written.children_eq {n : FileNode} {field : String → Option Json} (h : n.Written field)
    (hbelow : ∀ m ∈ n.children, ofJson m.toJson = .ok m) :
    ((field "children").map ofChildren).getD (.ok []) = .ok n.children := by
  rw [h.children]
  by_cases hnil : n.children = []
  · rw [if_pos hnil, hnil]
    rfl
  · rw [if_neg hnil, ofChildren_eq]
    exact mapM_map hbelow

/-- A node comes back when what stands below it does. -/
theorem ofJson_toJson_of_children {n : FileNode} (hsize : n.size < UInt64.size)
    (hbelow : ∀ m ∈ n.children, ofJson m.toJson = .ok m) : ofJson n.toJson = .ok n := by
  obtain ⟨field, hfield, h⟩ := toFields_toJson n
  rw [ofJson_eq, hfield, ok_bind]
  unfold ofFields
  rw [h.language_eq, h.children_eq hbelow, h.name, h.path, h.kind, h.size]
  simp only [required_some, toText, toWord_str (NodeKind.ofName?_name n.kind), toNat_nat hsize, ok_bind]
  cases n
  rfl

theorem ofJson_toJson (n : FileNode) : n.Fits → ofJson n.toJson = .ok n := by
  induction n using induction_children with
  | node n ih =>
      intro h
      obtain ⟨hsize, hbelow⟩ := fits_iff.mp h
      exact ofJson_toJson_of_children hsize fun m hm => ih m hm (hbelow m hm)

/-- The size of a node that was read has at most 64 bits, and its children were read too. -/
theorem read_of_ofJson {j : Json} {n : FileNode} (h : ofJson j = .ok n) :
    n.size < UInt64.size ∧ ∀ m ∈ n.children, ∃ item, ofJson item = .ok m := by
  rw [ofJson_eq] at h
  obtain ⟨field, -, h⟩ := bind_eq_ok.mp h
  unfold ofFields at h
  simp only [bind_eq_ok] at h
  obtain ⟨name, -, path, -, kind, -, size, hsize, language, -, ns, hns, hn⟩ := h
  cases hn
  refine ⟨lt_of_required hsize, ?_⟩
  intro m hm
  cases hfield : field "children" with
  | none =>
      rw [hfield] at hns
      cases hns
      exact absurd hm List.not_mem_nil
  | some found =>
      rw [hfield, ofChildren_eq] at hns
      exact exists_of_toList hns hm

theorem fits_of_ofJson (n : FileNode) : ∀ {j : Json}, ofJson j = .ok n → n.Fits := by
  induction n using induction_children with
  | node n ih =>
      intro j h
      obtain ⟨hsize, hbelow⟩ := read_of_ofJson h
      refine fits_iff.mpr ⟨hsize, ?_⟩
      intro m hm
      obtain ⟨item, hitem⟩ := hbelow m hm
      exact ih m hm hitem

end FileNode
end CodeAtlas.Crawl
