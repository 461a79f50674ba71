/-
The two views of a crawl.

A walk yields a tree and a list, and makes both at once: the tree by what every visit
returns, the list by putting the lists of the visits together.  `Visit.Agrees` says
of one visit that its list is the list of the files of its tree, and that the tree is
`Shown` for what stands on the disk: its nodes have the texts of names that are there,
their paths follow from these, they stand in the order of the names, and the sizes of
directories are those of their files.  One induction over the entries of the disk shows
it of every visit.

All else is read off such a tree.  The paths below a directory go on with the text of
the name of one of its nodes, up to the next slash.  So no two nodes have the same path,
as long as no two names in a directory are shown as one text, and then looking for a
path finds the one node that has it.  Names that are no texts can look alike.
-/
import CodeAtlas.Proofs.Crawl.Files

namespace CodeAtlas.Crawl

open CodeAtlas.Disk
open CodeAtlas.Text

/-! ### Paths of nodes -/

/-- The path of an entry of a directory. -/
def childPath (path name : String) : String :=
  if path = "." then name else path ++ "/" ++ name

/-- What the paths of the entries of a directory begin with. -/
def lead (path : String) : List Char :=
  if path = "." then [] else path.toList ++ ['/']

theorem childPath_toList (path name : String) : (childPath path name).toList = lead path ++ name.toList := by
  unfold childPath lead
  by_cases hp : path = "."
  · simp [hp]
  · simp [hp]

theorem childPath_ne_point {path name : String} (h : ShownName name) : childPath path name ≠ "." := by
  intro heq
  have htoList := childPath_toList path name
  rw [heq] at htoList
  unfold lead at htoList
  by_cases hp : path = "."
  · rw [if_pos hp, List.nil_append] at htoList
    exact h.2.1 (String.toList_inj.mp htoList.symm)
  · rw [if_neg hp] at htoList
    have hslash : '/' ∈ ".".toList := by rw [htoList]; simp
    revert hslash
    decide

theorem takeWhile_reverse_name {path above name : List Char} (h : '/' ∉ name)
    (habove : above = [] ∨ ∃ rest, above = rest ++ ['/']) (hpath : path = above ++ name) :
    path.reverse.takeWhile (· != '/') = name.reverse := by
  have hname : ∀ c ∈ name.reverse, (c != '/') = true := by
    intro c hc
    have hne : c ≠ '/' := fun heq => h (heq ▸ List.mem_reverse.mp hc)
    simpa using hne
  have hrest : above.reverse.takeWhile (· != '/') = [] := by
    rcases habove with rfl | ⟨rest, rfl⟩
    · rfl
    · simp
  rw [hpath, List.reverse_append, List.takeWhile_append_of_pos hname, hrest, List.append_nil]

/-- The name of a file is the whole of its path or what follows a slash in it. -/
theorem CrawledFile.name_eq_iff {f : CrawledFile} {name : String} (h : '/' ∉ name.toList) :
    f.name = name ↔ f.path = name ∨ ∃ above, f.path = above ++ "/" ++ name := by
  constructor
  · rintro rfl
    -- What stands before the name is empty or ends with a slash.
    have hsplit := List.takeWhile_append_dropWhile (p := (· != '/')) (l := f.path.toList.reverse)
    have hpath : f.path.toList = (f.path.toList.reverse.dropWhile (· != '/')).reverse ++ f.name.toList := by
      unfold CrawledFile.name
      rw [String.toList_ofList, ← List.reverse_append, hsplit, List.reverse_reverse]
    cases hbefore : f.path.toList.reverse.dropWhile (· != '/') with
    | nil =>
        rw [hbefore, List.reverse_nil, List.nil_append] at hpath
        exact .inl (String.toList_inj.mp hpath)
    | cons c rest =>
        have hc : c = '/' := by
          have hhead := List.head_dropWhile_not (· != '/') (hbefore ▸ List.cons_ne_nil c rest)
          simpa [hbefore] using hhead
        rw [hbefore, hc] at hpath
        refine .inr ⟨String.ofList rest.reverse, String.toList_inj.mp ?_⟩
        rw [hpath]
        simp
  · intro hpath
    have hname : f.path.toList.reverse.takeWhile (· != '/') = name.toList.reverse := by
      rcases hpath with hpath | ⟨above, hpath⟩
      · exact takeWhile_reverse_name h (.inl rfl) (by simp [hpath])
      · exact takeWhile_reverse_name h (.inr ⟨above.toList, rfl⟩) (by simp [hpath])
    unfold CrawledFile.name
    rw [hname, List.reverse_reverse, String.ofList_toList]

/-- The name of a file is the text of the last name that leads to it. -/
theorem CrawledFile.name_eq {above : List Bytes} {name : Bytes} (h : AllowedName name) {f : CrawledFile}
    (hf : f.path = shownPath (above ++ [name])) : f.name = ofBytes name := by
  rw [CrawledFile.name_eq_iff (shownName_of_allowed h).2.2, hf]
  by_cases habove : above = []
  · subst habove
    exact .inl (shownPath_singleton name)
  · exact .inr ⟨shownPath above, shownPath_concat habove name⟩

/-- The path of the node for what stands under some names; the root of a repository is a point. -/
def nodePath (names : List Bytes) : String :=
  if names = [] then "." else shownPath names

theorem nodePath_concat {here : List Bytes} (h : ∀ n ∈ here, AllowedName n) (name : Bytes) :
    nodePath (here ++ [name]) = childPath (nodePath here) (ofBytes name) := by
  have hconcat : nodePath (here ++ [name]) = shownPath (here ++ [name]) := if_neg (by simp)
  rw [hconcat]
  cases here with
  | nil => exact shownPath_singleton name
  | cons first rest =>
      have hplain := plain_shownPath first (h first List.mem_cons_self) rest
      have hhere : nodePath (first :: rest) = shownPath (first :: rest) := if_neg (List.cons_ne_nil _ _)
      rw [hhere, childPath, if_neg hplain.2.1, shownPath_concat (List.cons_ne_nil _ _)]

/-- The path `q` leads to the path `p` or goes on from there. -/
def Under (p q : String) : Prop :=
  q = p ∨ ∃ rest, q = p ++ "/" ++ rest

theorem Under.of_child {path name q : String} (hp : path ≠ ".") (h : Under (childPath path name) q) :
    Under path q := by
  have hchild : childPath path name = path ++ "/" ++ name := by
    unfold childPath
    rw [if_neg hp]
  rw [hchild] at h
  rcases h with rfl | ⟨rest, rfl⟩
  · exact Or.inr ⟨name, rfl⟩
  · exact Or.inr ⟨name ++ "/" ++ rest, by simp only [String.append_assoc]⟩

theorem Under.toList {path name q : String} (h : Under (childPath path name) q) :
    ∃ rest, q.toList = lead path ++ (name.toList ++ rest) ∧ rest.takeWhile (· != '/') = [] := by
  rcases h with rfl | ⟨rest, rfl⟩
  · exact ⟨[], by rw [childPath_toList, List.append_nil], rfl⟩
  · exact ⟨'/' :: rest.toList, by simp [childPath_toList], rfl⟩

/-- A path leads through one entry of a directory only. -/
theorem name_eq_of_under {path a b q : String} (ha : ShownName a) (hb : ShownName b)
    (hqa : Under (childPath path a) q) (hqb : Under (childPath path b) q) : a = b := by
  -- The name is what stands between the path of the directory and the next slash.
  have hname : ∀ {name : String}, ShownName name → Under (childPath path name) q →
      (q.toList.drop (lead path).length).takeWhile (· != '/') = name.toList := by
    intro name hallowed hunder
    obtain ⟨rest, hq, hrest⟩ := hunder.toList
    have hplain : ∀ c ∈ name.toList, (c != '/') = true := by
      intro c hc
      have hne : c ≠ '/' := fun heq => hallowed.2.2 (heq ▸ hc)
      simpa using hne
    rw [hq, List.drop_left, List.takeWhile_append_of_pos hplain, hrest, List.append_nil]
  exact String.toList_inj.mp ((hname ha hqa).symm.trans (hname hb hqb))

theorem ne_of_under_child {path name q : String} (h : ShownName name) (hq : Under (childPath path name) q) :
    q ≠ path := by
  intro heq
  subst heq
  by_cases hp : q = "."
  · subst hp
    rcases hq with heq | ⟨rest, heq⟩
    · exact childPath_ne_point h heq.symm
    · have hslash : '/' ∈ ".".toList := by rw [heq]; simp
      revert hslash
      decide
  · obtain ⟨rest, hrest, -⟩ := hq.toList
    have hlength := congrArg List.length hrest
    rw [lead, if_neg hp] at hlength
    simp at hlength

namespace FileNode

/-! ### The nodes of a tree -/

mutual

/-- All nodes of a tree, each before what stands in it. -/
def nodes : FileNode → List FileNode
  | mk n p k s l cs => mk n p k s l cs :: nodesIn cs

/-- All nodes of several trees. -/
def nodesIn : List FileNode → List FileNode
  | [] => []
  | n :: rest => n.nodes ++ nodesIn rest

end

theorem nodesIn_eq : ∀ ns : List FileNode, nodesIn ns = ns.flatMap nodes
  | [] => by rw [nodesIn, List.flatMap_nil]
  | n :: rest => by rw [nodesIn, List.flatMap_cons, nodesIn_eq rest]

theorem nodes_eq (n : FileNode) : n.nodes = n :: n.children.flatMap nodes := by
  cases n
  rw [nodes, nodesIn_eq]
  rfl

/-- The nodes of a tree that are files. -/
def fileNodes (n : FileNode) : List FileNode :=
  n.nodes.filter (·.kind == .file)

/-- How many bytes some nodes have together. -/
def totalSize (ns : List FileNode) : Nat :=
  ns.foldl (fun size n => size + n.size) 0

mutual

/-- Looking for a path goes through the nodes in their order. -/
theorem find?_eq_find?_nodes (wanted : String) : ∀ n : FileNode,
    n.find? wanted = n.nodes.find? (·.path == wanted)
  | mk n p k s l cs => by
      rw [find?, nodes, findIn?_eq_find?_nodesIn wanted cs]
      by_cases hp : (p == wanted) = true
      · rw [if_pos hp, List.find?_cons_of_pos (by exact hp)]
      · rw [if_neg hp, List.find?_cons_of_neg (by exact hp)]

theorem findIn?_eq_find?_nodesIn (wanted : String) : ∀ ns : List FileNode,
    findIn? wanted ns = (nodesIn ns).find? (·.path == wanted)
  | [] => by rw [findIn?, nodesIn, List.find?_nil]
  | n :: rest => by
      rw [findIn?, nodesIn, List.find?_append, find?_eq_find?_nodes wanted n, findIn?_eq_find?_nodesIn wanted rest]
      cases n.nodes.find? (·.path == wanted) <;> rfl

end

/-! ### Trees for what stands on a disk -/

/-- A tree as a walk makes it for what stands under the names `here`: files are leaves; the nodes of a directory have
the texts of the names of some of its entries, in the order of these names; and a directory has the size of its nodes.
`P` says which names lead to an entry. -/
inductive Shown (P : List Bytes → Prop) : List Bytes → FileNode → Prop
  | file {here : List Bytes} {name : String} {size : Nat} {language : Option String} :
      Shown P here (.mk name (nodePath here) .file size language [])
  | directory {here : List Bytes} {name : String} {ns : List (Bytes × FileNode)}
      (stand : ∀ q ∈ ns, P (here ++ [q.1]))
      (names : ∀ q ∈ ns, q.2.name = ofBytes q.1)
      (sorted : (ns.map Prod.fst).Pairwise (· < ·))
      (below : ∀ q ∈ ns, Shown P (here ++ [q.1]) q.2) :
      Shown P here (.mk name (nodePath here) .directory (totalSize (ns.map Prod.snd)) none (ns.map Prod.snd))

/-- Below a directory, paths tell the nodes apart exactly if its nodes have different names and this is so below each of
them.  The directory itself has a path that none of them has. -/
theorem nodup_below_iff {p : String} {cs : List FileNode} (hpath : ∀ c ∈ cs, c.path = childPath p c.name)
    (hname : ∀ c ∈ cs, ShownName c.name) (hunder : ∀ c ∈ cs, ∀ n ∈ c.nodes, Under (childPath p c.name) n.path)
    (hbelow : ∀ c ∈ cs, ((c.nodes.map path).Nodup ↔ ∀ n ∈ c.nodes, (n.children.map name).Nodup)) :
    (p ∉ (cs.flatMap fun c => c.nodes.map path) ∧ (cs.flatMap fun c => c.nodes.map path).Nodup) ↔
      (cs.map name).Nodup ∧ ∀ n ∈ cs.flatMap nodes, (n.children.map name).Nodup := by
  have hroot : p ∉ cs.flatMap fun c => c.nodes.map path := by
    intro hmem
    obtain ⟨c, hc, hmem⟩ := List.mem_flatMap.mp hmem
    obtain ⟨n, hn, heq⟩ := List.mem_map.mp hmem
    exact ne_of_under_child (hname c hc) (hunder c hc n hn) heq
  unfold List.Nodup
  rw [List.pairwise_flatMap]
  constructor
  · rintro ⟨-, hchildren, hapart⟩
    refine ⟨?_, fun n hn => ?_⟩
    · rw [List.pairwise_map]
      refine List.Pairwise.imp_of_mem ?_ hapart
      intro a b ha hb hne heq
      refine hne a.path (List.mem_map.mpr ⟨a, by rw [nodes_eq]; simp, rfl⟩) b.path
        (List.mem_map.mpr ⟨b, by rw [nodes_eq]; simp, rfl⟩) ?_
      rw [hpath a ha, hpath b hb, heq]
    · obtain ⟨c, hc, hn⟩ := List.mem_flatMap.mp hn
      exact (hbelow c hc).mp (hchildren c hc) n hn
  · rintro ⟨hnames, hchildren⟩
    refine ⟨hroot, fun c hc => (hbelow c hc).mpr fun n hn => hchildren n (List.mem_flatMap.mpr ⟨c, hc, hn⟩), ?_⟩
    refine List.Pairwise.imp_of_mem ?_ (List.pairwise_map.mp hnames)
    intro a b ha hb hne p hp q hq heq
    subst heq
    obtain ⟨m, hm, rfl⟩ := List.mem_map.mp hp
    obtain ⟨n, hn, heq⟩ := List.mem_map.mp hq
    have hb' := hunder b hb n hn
    rw [heq] at hb'
    exact hne (name_eq_of_under (hname a ha) (hname b hb) (hunder a ha m hm) hb')

section

variable {P : List Bytes → Prop}

theorem Shown.path_eq {here : List Bytes} {t : FileNode} (h : Shown P here t) : t.path = nodePath here := by
  cases h with
  | file => rfl
  | directory => rfl

/-- Every node of a tree is the root of one. -/
theorem Shown.node {here : List Bytes} {t : FileNode} (h : Shown P here t) : P here → ∀ n ∈ t.nodes,
    ∃ there, P there ∧ Shown P there n := by
  induction h with
  | file =>
      intro hhere n hn
      rw [nodes_eq] at hn
      rw [List.mem_singleton.mp hn]
      exact ⟨_, hhere, .file⟩
  | directory stand names sorted below ih =>
      intro hhere n hn
      rw [nodes_eq] at hn
      rcases List.mem_cons.mp hn with rfl | hn
      · exact ⟨_, hhere, .directory stand names sorted below⟩
      · obtain ⟨c, hc, hn⟩ := List.mem_flatMap.mp hn
        obtain ⟨q, hq, rfl⟩ := List.mem_map.mp hc
        exact ih q hq (stand q hq) n hn

/-- The nodes of a directory are shown for entries of it, in the order of their names. -/
theorem Shown.children {here : List Bytes} {t : FileNode} (h : Shown P here t) :
    ∃ raw : List Bytes, raw.Pairwise (· < ·) ∧ (∀ r ∈ raw, P (here ++ [r])) ∧
      t.children.map name = raw.map ofBytes := by
  cases h with
  | file => exact ⟨[], .nil, by simp, rfl⟩
  | @directory _ _ ns stand names sorted below =>
      refine ⟨ns.map Prod.fst, sorted, ?_, ?_⟩
      · intro r hr
        obtain ⟨q, hq, rfl⟩ := List.mem_map.mp hr
        exact stand q hq
      · show (ns.map Prod.snd).map name = _
        rw [List.map_map, List.map_map]
        exact List.map_congr_left names

/-! ### Paths in such trees -/

variable (hP : ∀ names, P names → ∀ n ∈ names, AllowedName n)

include hP

theorem Shown.child_path {here : List Bytes} {t n : FileNode} (h : Shown P here t) (hhere : P here)
    (hn : n ∈ t.children) : n.path = childPath t.path n.name := by
  cases h with
  | file => cases hn
  | directory stand names sorted below =>
      obtain ⟨q, hq, rfl⟩ := List.mem_map.mp hn
      rw [(below q hq).path_eq, nodePath_concat (hP _ hhere), names q hq]
      rfl

theorem Shown.child_shownName {here : List Bytes} {t n : FileNode} (h : Shown P here t) (hn : n ∈ t.children) :
    ShownName n.name := by
  cases h with
  | file => cases hn
  | directory stand names sorted below =>
      obtain ⟨q, hq, rfl⟩ := List.mem_map.mp hn
      rw [names q hq]
      exact shownName_of_allowed (hP _ (stand q hq) q.1 (by simp))

theorem Shown.under {here : List Bytes} {t : FileNode} (h : Shown P here t) : P here → t.path ≠ "." →
    ∀ n ∈ t.nodes, Under t.path n.path := by
  induction h with
  | file =>
      intro _ _ n hn
      rw [nodes_eq] at hn
      rw [List.mem_singleton.mp hn]
      exact Or.inl rfl
  | @directory here name ns stand names sorted below ih =>
      intro hhere hp n hn
      have hself : Shown P here (.mk name (nodePath here) .directory (totalSize (ns.map Prod.snd)) none
          (ns.map Prod.snd)) := .directory stand names sorted below
      rw [nodes_eq] at hn
      rcases List.mem_cons.mp hn with rfl | hn
      · exact Or.inl rfl
      · obtain ⟨c, hc, hn⟩ := List.mem_flatMap.mp hn
        have hpath := hself.child_path hP hhere hc
        have hname := hself.child_shownName hP hc
        obtain ⟨q, hq, rfl⟩ := List.mem_map.mp hc
        have hunder := ih q hq (stand q hq) (hpath ▸ childPath_ne_point hname) n hn
        rw [hpath] at hunder
        exact hunder.of_child hp

/-- **Paths tell the nodes of a tree apart exactly if names tell the nodes of every directory apart.** -/
theorem Shown.nodup_paths_iff {here : List Bytes} {t : FileNode} (h : Shown P here t) : P here →
    ((t.nodes.map path).Nodup ↔ ∀ n ∈ t.nodes, (n.children.map name).Nodup) := by
  induction h with
  | file =>
      intro _
      rw [nodes_eq]
      simp [FileNode.children]
  | @directory here name ns stand names sorted below ih =>
      intro hhere
      have hself : Shown P here (.mk name (nodePath here) .directory (totalSize (ns.map Prod.snd)) none
          (ns.map Prod.snd)) := .directory stand names sorted below
      have hpath : ∀ c ∈ ns.map Prod.snd, c.path = childPath (nodePath here) c.name :=
        fun c hc => hself.child_path hP hhere hc
      have hname : ∀ c ∈ ns.map Prod.snd, ShownName c.name := fun c hc => hself.child_shownName hP hc
      have hunder : ∀ c ∈ ns.map Prod.snd, ∀ n ∈ c.nodes, Under (childPath (nodePath here) c.name) n.path := by
        intro c hc n hn
        rw [← hpath c hc]
        have hne : c.path ≠ "." := hpath c hc ▸ childPath_ne_point (hname c hc)
        obtain ⟨q, hq, rfl⟩ := List.mem_map.mp hc
        exact (below q hq).under hP (stand q hq) hne n hn
      rw [nodes_eq, List.map_cons, List.nodup_cons, List.map_flatMap, List.forall_mem_cons]
      refine nodup_below_iff hpath hname hunder fun c hc => ?_
      obtain ⟨q, hq, rfl⟩ := List.mem_map.mp hc
      exact ih q hq (stand q hq)

end

/-! ### Counting and adding up -/

theorem fileNodes_directory (name path : String) (size : Nat) (language : Option String) (ns : List FileNode) :
    (FileNode.mk name path .directory size language ns).fileNodes = ns.flatMap fileNodes := by
  unfold fileNodes
  rw [nodes_eq, List.filter_cons_of_neg (by simp [kind]), List.filter_flatMap]
  rfl

theorem fileNodes_file (name path : String) (size : Nat) (language : Option String) :
    (FileNode.mk name path .file size language []).fileNodes = [.mk name path .file size language []] := by
  unfold fileNodes
  rw [nodes_eq]
  rfl

theorem fileCountIn_eq : ∀ {ns : List FileNode}, (∀ n ∈ ns, n.fileCount = n.fileNodes.length) →
    fileCountIn ns = (ns.flatMap fileNodes).length := by
  intro ns
  induction ns with
  | nil => intro _; rw [fileCountIn]; rfl
  | cons n rest ih =>
      intro h
      rw [fileCountIn, List.flatMap_cons, List.length_append, h n List.mem_cons_self,
        ih fun m hm => h m (List.mem_cons_of_mem _ hm)]

theorem Shown.fileCount_eq {P : List Bytes → Prop} {here : List Bytes} {t : FileNode} (h : Shown P here t) :
    t.fileCount = t.fileNodes.length := by
  induction h with
  | file => rw [fileCount, fileNodes_file]; rfl
  | directory stand names sorted below ih =>
      rw [fileCount, fileNodes_directory, fileCountIn_eq]
      intro n hn
      obtain ⟨q, hq, rfl⟩ := List.mem_map.mp hn
      exact ih q hq

theorem foldl_size (ns : List FileNode) : ∀ size : Nat,
    ns.foldl (fun size n => size + n.size) size = size + totalSize ns := by
  unfold totalSize
  induction ns with
  | nil => intro size; rfl
  | cons n rest ih =>
      intro size
      rw [List.foldl_cons, List.foldl_cons, ih, ih (0 + n.size)]
      omega

theorem totalSize_append (ms ns : List FileNode) : totalSize (ms ++ ns) = totalSize ms + totalSize ns := by
  rw [totalSize, List.foldl_append, foldl_size ns]
  rfl

theorem totalSize_cons (n : FileNode) (rest : List FileNode) : totalSize (n :: rest) = n.size + totalSize rest := by
  rw [totalSize, List.foldl_cons, foldl_size rest, Nat.zero_add]

theorem totalSize_flatMap : ∀ {ns : List FileNode}, (∀ n ∈ ns, n.size = totalSize n.fileNodes) →
    totalSize (ns.flatMap fileNodes) = totalSize ns := by
  intro ns
  induction ns with
  | nil => intro _; rfl
  | cons n rest ih =>
      intro h
      rw [List.flatMap_cons, totalSize_append, totalSize_cons, ← h n List.mem_cons_self,
        ih fun m hm => h m (List.mem_cons_of_mem _ hm)]

/-- **A tree is as large as its files are together.** -/
theorem Shown.size_eq {P : List Bytes → Prop} {here : List Bytes} {t : FileNode} (h : Shown P here t) :
    t.size = totalSize t.fileNodes := by
  induction h with
  | file => rw [fileNodes_file, totalSize_cons]; rfl
  | directory stand names sorted below ih =>
      rw [fileNodes_directory, totalSize_flatMap]
      · rfl
      · intro n hn
        obtain ⟨q, hq, rfl⟩ := List.mem_map.mp hn
        exact ih q hq

end FileNode

/-! ### Visits -/

/-- The node of a file in the tree. -/
def CrawledFile.node (f : CrawledFile) : FileNode :=
  .mk f.name f.path .file f.size f.language []

/-- A visit of what stands under some names whose tree and list agree. -/
structure Visit.Agrees (P : List Bytes → Prop) (here : List Bytes) (v : Visit) : Prop where
  shown : FileNode.Shown P here v.node
  files : v.node.fileNodes = v.files.map CrawledFile.node

theorem visitFile_agrees {P : List Bytes → Prop} {w : Walk} {above : List Bytes} {name : Bytes}
    (h : AllowedName name) : (visitFile w above name).Agrees P (above ++ [name]) := by
  have hpath : shownPath (above ++ [name]) = nodePath (above ++ [name]) := (if_neg (by simp)).symm
  unfold visitFile
  refine ⟨?_, ?_⟩
  · rw [hpath]
    exact .file
  · rw [FileNode.fileNodes_file, List.map_singleton, CrawledFile.node, CrawledFile.name_eq h rfl]

/-- Sorted visits stand in the strict order of their names if no name occurs twice. -/
theorem mergeSort_names {visits : List (Bytes × Visit)} (h : visits.Pairwise fun a b => a.1 ≠ b.1) :
    (visits.mergeSort fun a b => a.1 ≤ b.1).Pairwise fun a b => a.1 < b.1 := by
  have hle : (visits.mergeSort fun a b => a.1 ≤ b.1).Pairwise fun a b => decide (a.1 ≤ b.1) = true :=
    List.pairwise_mergeSort (Lists.key_trans fun v : Bytes × Visit => v.1)
      (Lists.key_total fun v : Bytes × Visit => v.1) visits
  have hne := (List.mergeSort_perm visits fun a b => a.1 ≤ b.1).symm.pairwise h fun hab => Ne.symm hab
  refine (hle.and hne).imp ?_
  intro a b ⟨hle, hne⟩
  exact List.not_le.mp fun hge => hne (List.le_antisymm (of_decide_eq_true hle) hge)

theorem ofDirectory_agrees {P : List Bytes → Prop} {here : List Bytes} {name : String}
    {visits : List (Bytes × Visit)} (hnames : visits.Pairwise fun a b => a.1 ≠ b.1)
    (h : ∀ v ∈ visits, P (here ++ [v.1]) ∧ v.2.node.name = ofBytes v.1 ∧ v.2.Agrees P (here ++ [v.1])) :
    (Visit.ofDirectory name (nodePath here) visits).Agrees P here := by
  have hsorted : ∀ v ∈ visits.mergeSort (fun a b => a.1 ≤ b.1),
      P (here ++ [v.1]) ∧ v.2.node.name = ofBytes v.1 ∧ v.2.Agrees P (here ++ [v.1]) :=
    fun v hv => h v (List.mem_mergeSort.mp hv)
  have horder := mergeSort_names hnames
  unfold Visit.ofDirectory
  generalize visits.mergeSort (fun a b => a.1 ≤ b.1) = sorted at hsorted horder
  -- The nodes with the names that they are shown for.
  have hnodes : (sorted.map Prod.snd).map Visit.node = (sorted.map fun v => (v.1, v.2.node)).map Prod.snd := by
    rw [List.map_map, List.map_map]
    rfl
  have hmem : ∀ q ∈ sorted.map (fun v => (v.1, v.2.node)), ∃ v ∈ sorted, (v.1, v.2.node) = q :=
    fun q hq => List.mem_map.mp hq
  refine ⟨?_, ?_⟩
  · simp only [hnodes]
    refine .directory ?_ ?_ ?_ ?_
    · intro q hq
      obtain ⟨v, hv, rfl⟩ := hmem q hq
      exact (hsorted v hv).1
    · intro q hq
      obtain ⟨v, hv, rfl⟩ := hmem q hq
      exact (hsorted v hv).2.1
    · rw [List.map_map, List.pairwise_map]
      exact horder
    · intro q hq
      obtain ⟨v, hv, rfl⟩ := hmem q hq
      exact (hsorted v hv).2.2.shown
  · rw [FileNode.fileNodes_directory, List.flatMap_map, List.flatMap_map, List.map_flatMap, List.flatMap_def,
      List.flatMap_map, List.flatMap_def]
    congr 1
    refine List.map_congr_left ?_
    intro v hv
    exact (hsorted v hv).2.2.files

/-- What is visited in a directory has different names. -/
theorem visitAll_names {w : Walk} {above : List Bytes} {entries : List (Bytes × Entry)}
    (hnodup : (entries.map Prod.fst).Nodup) : (visitAll w above entries).Pairwise fun a b => a.1 ≠ b.1 := by
  rw [visitAll_eq, List.pairwise_filterMap]
  refine List.Pairwise.imp ?_ (List.pairwise_map.mp hnodup)
  intro p q hne v hv u hu
  obtain ⟨-, -, rfl⟩ := Option.map_eq_some_iff.mp hv
  obtain ⟨-, -, rfl⟩ := Option.map_eq_some_iff.mp hu
  exact hne

theorem visit?_name {w : Walk} {above : List Bytes} {name : Bytes} {e : Entry} {v : Visit}
    (h : visit? w above name e = some v) : v.node.name = ofBytes name := by
  cases e with
  | file content =>
      obtain ⟨-, rfl⟩ := visit?_file_eq_some.mp h
      rfl
  | link target =>
      rw [visit?_link] at h
      cases h
  | directory entries =>
      obtain ⟨-, rfl⟩ := visit?_directory_eq_some.mp h
      rfl

/-- The names `here` lead from some entry to another one. -/
def LeadsTo (top : Entry) (here : List Bytes) : Prop :=
  (top.at? here).isSome = true

theorem leadsTo_entry {top : Entry} {here : List Bytes} {entries : List (Bytes × Entry)}
    (hhere : top.at? here = some (.directory entries)) (hnodup : (entries.map Prod.fst).Nodup) {q : Bytes × Entry}
    (hq : q ∈ entries) : top.at? (here ++ [q.1]) = some q.2 :=
  (Entry.at?_concat hhere).trans ((Lists.lookup_eq_some_iff_of_nodup hnodup).mpr hq)

/-- **Every visit yields a tree and a list that agree.** -/
theorem visit?_agrees {top : Entry} {w : Walk} (htop : top.Allowed) (e : Entry) : e.Distinct →
    ∀ (above : List Bytes) (name : Bytes), top.at? (above ++ [name]) = some e → ∀ v : Visit,
      visit? w above name e = some v → v.Agrees (LeadsTo top) (above ++ [name]) := by
  induction e using Entry.induction with
  | file content =>
      intro _ above name hat v hv
      obtain ⟨-, rfl⟩ := visit?_file_eq_some.mp hv
      exact visitFile_agrees (htop.of_at? hat name (by simp))
  | link target =>
      intro _ above name _ v hv
      rw [visit?_link] at hv
      cases hv
  | directory entries ih =>
      intro hdistinct above name hat v hv
      obtain ⟨hnodup, hbelow⟩ := Entry.apartBy_directory.mp hdistinct
      obtain ⟨-, rfl⟩ := visit?_directory_eq_some.mp hv
      have hpath : shownPath (above ++ [name]) = nodePath (above ++ [name]) := (if_neg (by simp)).symm
      have hnames : (visitIn w (above ++ [name]) entries).Pairwise fun a b => a.1 ≠ b.1 := by
        unfold visitIn
        split
        · exact visitAll_names hnodup
        · exact .nil
      rw [hpath]
      refine ofDirectory_agrees hnames ?_
      intro u hu
      obtain ⟨-, q, hq, hname, hvisit⟩ := mem_visitIn.mp hu
      have hthere := leadsTo_entry hat hnodup hq
      rw [hname]
      refine ⟨?_, visit?_name hvisit, ih q hq (hbelow q hq) _ q.1 hthere u.2 hvisit⟩
      rw [LeadsTo, hthere]
      rfl

/-! ### Crawls -/

/-- The tree and the list of a crawl through the directory `top` tell the same. -/
structure Coherent (top : Entry) (c : Crawl) : Prop where
  /-- The list is that of the files of the tree, each before what comes after it there. -/
  files : c.tree.fileNodes = c.files.map CrawledFile.node
  root : c.tree.path = "."
  path : ∀ n ∈ c.tree.nodes, ∀ m ∈ n.children, m.path = if n.path = "." then m.name else n.path ++ "/" ++ m.name
  /-- The nodes of a directory are shown for names that are there, and stand in the order of these. -/
  sorted : ∀ n ∈ c.tree.nodes, ∃ here raw : List Bytes, n.path = nodePath here ∧ raw.Pairwise (· < ·) ∧
    (∀ r ∈ raw, (top.at? (here ++ [r])).isSome = true) ∧ n.children.map FileNode.name = raw.map ofBytes
  size : ∀ n ∈ c.tree.nodes, n.kind = .directory → n.size = FileNode.totalSize n.fileNodes
  count : c.tree.fileCount = c.files.length
  /-- Paths tell nodes apart where names do so in every directory. -/
  nodup : (c.tree.nodes.map FileNode.path).Nodup ↔ ∀ n ∈ c.tree.nodes, (n.children.map FileNode.name).Nodup
  found : (c.tree.nodes.map FileNode.path).Nodup →
    ∀ f ∈ c.files, c.tree.find? f.path = some f.node ∧ c.file? f.path = some f

/-- If the paths of the tree differ, those of the list do too. -/
theorem nodup_files_of_nodes {c : Crawl} (hfiles : c.tree.fileNodes = c.files.map CrawledFile.node)
    (h : (c.tree.nodes.map FileNode.path).Nodup) : (c.files.map CrawledFile.path).Nodup := by
  have hpaths : c.files.map CrawledFile.path = c.tree.fileNodes.map FileNode.path := by
    rw [hfiles, List.map_map]
    rfl
  rw [hpaths]
  exact h.sublist (List.filter_sublist.map _)

/-- A file of the list is found again in the tree and in the list. -/
theorem found_of_nodup {c : Crawl} (hfiles : c.tree.fileNodes = c.files.map CrawledFile.node)
    (h : (c.tree.nodes.map FileNode.path).Nodup) {f : CrawledFile} (hf : f ∈ c.files) :
    c.tree.find? f.path = some f.node ∧ c.file? f.path = some f := by
  have hnode : f.node ∈ c.tree.fileNodes := hfiles ▸ List.mem_map_of_mem hf
  have htree : c.tree.find? f.node.path = some f.node := by
    rw [FileNode.find?_eq_find?_nodes]
    exact Lists.find?_of_nodup_map h (List.mem_filter.mp hnode).1
  exact ⟨htree, Lists.find?_of_nodup_map (nodup_files_of_nodes hfiles h) hf⟩

theorem Visit.Agrees.coherent {top : Entry} (htop : top.Allowed) {root : Bytes} {v : Visit}
    (h : v.Agrees (LeadsTo top) []) (maxFileSize : Nat) : Coherent top ⟨root, v.node, v.files, maxFileSize⟩ := by
  have hP : ∀ names, LeadsTo top names → ∀ n ∈ names, AllowedName n := by
    intro names hnames
    obtain ⟨found, hfound⟩ := Option.isSome_iff_exists.mp hnames
    exact htop.of_at? hfound
  have hroot : LeadsTo top [] := rfl
  refine ⟨h.files, h.shown.path_eq, ?_, ?_, ?_, ?_, h.shown.nodup_paths_iff hP hroot, ?_⟩
  · intro n hn m hm
    obtain ⟨there, hthere, hshown⟩ := h.shown.node hroot n hn
    exact hshown.child_path hP hthere hm
  · intro n hn
    obtain ⟨there, -, hshown⟩ := h.shown.node hroot n hn
    obtain ⟨raw, hsorted, hstand, hnames⟩ := hshown.children
    exact ⟨there, raw, hshown.path_eq, hsorted, hstand, hnames⟩
  · intro n hn _
    obtain ⟨there, -, hshown⟩ := h.shown.node hroot n hn
    exact hshown.size_eq
  · show v.node.fileCount = v.files.length
    rw [h.shown.fileCount_eq, h.files, List.length_map]
  · exact fun hnodup f hf => found_of_nodup h.files hnodup hf

/-- What a walk from the root visits agrees. -/
theorem visitRoot_agrees {w : Walk} {root : Bytes} {entries : List (Bytes × Entry)}
    (hallowed : (Entry.directory entries).Allowed) (hdistinct : (Entry.directory entries).Distinct) :
    (visitRoot w root entries).Agrees (LeadsTo (.directory entries)) [] := by
  obtain ⟨hnodup, hbelow⟩ := Entry.apartBy_directory.mp hdistinct
  have hhere : (Entry.directory entries).at? [] = some (.directory entries) := rfl
  refine ofDirectory_agrees (visitAll_names hnodup) ?_
  intro v hv
  obtain ⟨q, hq, hname, hvisit⟩ := mem_visitAll.mp hv
  have hthere := leadsTo_entry hhere hnodup hq
  rw [hname]
  refine ⟨?_, visit?_name hvisit, visit?_agrees hallowed q.2 (hbelow q hq) [] q.1 hthere v.2 hvisit⟩
  rw [LeadsTo, hthere]
  rfl

/-! ### Names that can be told apart -/

/-- Names that are texts are shown in the order of their own bytes. -/
theorem Coherent.bytes_sorted {top : Entry} {c : Crawl} (h : Coherent top c) (htexts : top.Texts) :
    ∀ n ∈ c.tree.nodes, (n.children.map fun m => bytes m.name).Pairwise (· < ·) := by
  intro n hn
  obtain ⟨here, raw, -, hsorted, hstand, hnames⟩ := h.sorted n hn
  have hraw : n.children.map (fun m => bytes m.name) = raw := by
    have hmap : n.children.map (fun m => bytes m.name) = (n.children.map FileNode.name).map bytes := by
      rw [List.map_map]
      rfl
    rw [hmap, hnames, List.map_map]
    refine (List.map_congr_left fun r hr => ?_).trans (List.map_id raw)
    obtain ⟨found, hfound⟩ := Option.isSome_iff_exists.mp (hstand r hr)
    exact htexts.of_at? hfound r (by simp)
  rw [hraw]
  exact hsorted

/-- Paths tell the nodes apart if the names on the disk are shown apart. -/
theorem Coherent.nodup_of_shownApart {top : Entry} {c : Crawl} (h : Coherent top c) (hshown : top.ShownApart) :
    (c.tree.nodes.map FileNode.path).Nodup := by
  rw [h.nodup]
  intro n hn
  obtain ⟨here, raw, -, hsorted, hstand, hnames⟩ := h.sorted n hn
  rw [hnames]
  unfold List.Nodup
  rw [List.pairwise_map]
  refine List.Pairwise.imp_of_mem ?_ hsorted
  intro a b ha hb hlt heq
  obtain ⟨x, hx⟩ := Option.isSome_iff_exists.mp (hstand a ha)
  obtain ⟨y, hy⟩ := Option.isSome_iff_exists.mp (hstand b hb)
  have hnames : here ++ [a] = here ++ [b] := Entry.ShownApart.names_eq hshown hx hy (by simp [heq])
  rw [List.append_cancel_left_eq, List.singleton_inj] at hnames
  exact List.lt_irrefl a (hnames ▸ hlt)

/-- A walk that succeeds is coherent. -/
theorem coherent_of_run {s : Settings} {d : Disk} {root : Bytes} {c : Crawl} (hallowed : d.root.Allowed)
    (hdistinct : d.root.Distinct) (h : run s d root = .ok c) :
    ∃ entries, d.list root = .ok entries ∧ Coherent (.directory entries) c := by
  obtain ⟨place, entries, rules, hreach, hlist, -, rfl⟩ := run_eq_ok h
  have htop := names_of_reach hallowed hreach
  exact ⟨entries, hlist, (visitRoot_agrees htop (apartBy_of_reach hdistinct hreach)).coherent htop s.maxFileSize⟩

/-- A crawl lists no path twice if the names in the repository are shown apart. -/
theorem run_nodup_paths {s : Settings} {d : Disk} {root : Bytes} {c : Crawl} (hallowed : d.root.Allowed)
    (hdistinct : d.root.Distinct) (hshown : ShownApart d root) (h : run s d root = .ok c) :
    (c.files.map CrawledFile.path).Nodup := by
  obtain ⟨entries, hlist, hcoherent⟩ := coherent_of_run hallowed hdistinct h
  exact nodup_files_of_nodes hcoherent.files (hcoherent.nodup_of_shownApart (hshown entries hlist))

/-- **The two views of a crawl agree**, for every tree on a disk and every way to walk through it.  Where the names in
every directory are shown as different texts, a path is that of one node only; and where all names are texts, this is so
and nodes stand in the order of the bytes of the names that they have. -/
theorem run_coherent (s : Settings) (d : Disk) (hallowed : d.root.Allowed) (hdistinct : d.root.Distinct)
    (root : Bytes) (c : Crawl) (h : run s d root = .ok c) :
    ∃ entries, d.list root = .ok entries ∧ Coherent (.directory entries) c ∧
      ((Entry.directory entries).ShownApart → (c.tree.nodes.map FileNode.path).Nodup) ∧
      ((Entry.directory entries).Texts → (c.tree.nodes.map FileNode.path).Nodup ∧
        ∀ n ∈ c.tree.nodes, (n.children.map fun m => bytes m.name).Pairwise (· < ·)) := by
  obtain ⟨entries, hlist, hcoherent⟩ := coherent_of_run hallowed hdistinct h
  obtain ⟨place, hreach, -⟩ := list_eq_ok hlist
  have hapart : (Entry.directory entries).Distinct := apartBy_of_reach hdistinct hreach
  refine ⟨entries, hlist, hcoherent, hcoherent.nodup_of_shownApart, fun htexts => ⟨?_, hcoherent.bytes_sorted htexts⟩⟩
  exact hcoherent.nodup_of_shownApart (hapart.shownApart htexts)

/-- A repository with a directory, a link back to the root and something to pass over, in no order. -/
def scattered : List (Bytes × Entry) := [
  (bytes "b.py", .file "x = 1\n".toUTF8),
  (bytes "b", .directory [
    (bytes "z.rs", .file "fn f() {}\n".toUTF8), (bytes "up", .link (bytes "..")), (bytes "a.md", .file "".toUTF8)]),
  (bytes ".git", .directory [(bytes "head", .file "0".toUTF8)]),
  (bytes "a", .file "1".toUTF8)]

theorem scattered_allowed : (Entry.directory scattered).Allowed := by
  simp only [scattered, Entry.names_directory, List.forall_mem_cons, List.not_mem_nil, false_implies, implies_true,
    Entry.names_file, Entry.names_link, and_true]
  decide

theorem scattered_distinct : (Entry.directory scattered).Distinct := by
  simp only [scattered, Entry.apartBy_directory, List.forall_mem_cons, List.not_mem_nil, false_implies, implies_true,
    Entry.apartBy_file, Entry.apartBy_link, and_true]
  decide

theorem scattered_coherent :
    (holding scattered).root.Allowed ∧ (holding scattered).root.Distinct ∧
    ∃ c, run ⟨[".git"], 1000, false⟩ (holding scattered) (bytes "repo") = .ok c ∧
      ⟨"b/z.rs", 10, false, some "rust"⟩ ∈ c.files ∧
      ∃ entries, (holding scattered).list (bytes "repo") = .ok entries ∧ Coherent (.directory entries) c ∧
        ((Entry.directory entries).ShownApart → (c.tree.nodes.map FileNode.path).Nodup) ∧
        ((Entry.directory entries).Texts → (c.tree.nodes.map FileNode.path).Nodup ∧
          ∀ n ∈ c.tree.nodes, (n.children.map fun m => bytes m.name).Pairwise (· < ·)) := by
  have hallowed := holding_allowed scattered_allowed
  have hdistinct := holding_apartBy scattered_distinct
  have hrules : Crawl.rules ⟨[".git"], 1000, false⟩ (holding scattered) (bytes "repo") = .ok (rulesOf [".git"]) :=
    rules_eq_rulesOf rfl (by decide +kernel) _ _
  have hat : (Entry.directory scattered).at? [bytes "b", bytes "z.rs"] = some (.file "fn f() {}\n".toUTF8) := rfl
  have hlength : (Path.below (bytes "repo") [bytes "b", bytes "z.rs"]).length ≤ maxPath := by decide +kernel
  obtain ⟨c, hc⟩ := run_holding hrules
  refine ⟨hallowed, hdistinct, c, hc, ?_, run_coherent _ _ hallowed hdistinct _ c hc⟩
  have hincluded := Included.of_holding scattered_allowed hrules hat hlength (by decide +kernel) (by decide +kernel)
  refine (mem_files_iff hdistinct hc).mpr ⟨_, _, hincluded, ?_⟩
  rw [fileAt_holding scattered_allowed hat (by simp) hlength]
  decide +kernel

/-! ### Names that look alike -/

/-- A name with a byte in it that is no character by itself. -/
def latinName (b : UInt8) : Bytes :=
  bytes "caf" ++ b :: bytes ".py"

/-- Two files whose names differ in one such byte. -/
def latin : List (Bytes × ByteArray) := [
  (latinName 0xe8, "x = 1\n".toUTF8), (latinName 0xe9, "y = 1\n".toUTF8)]

/-- A smiling face, and a byte that comes after it but is shown as a character that comes before. -/
def smiling : List (Bytes × ByteArray) := [
  (bytes "😀.py", "x = 1\n".toUTF8), (0xff :: bytes ".py", "y = 1\n".toUTF8)]

theorem latin_inOrder : InOrder latin := by
  decide

theorem latin_shown : ofBytes (latinName 0xe8) = ofBytes (latinName 0xe9) := by
  decide +kernel

theorem latin_names_share_path :
    ((holding (fileEntries latin)).root.Allowed ∧ (holding (fileEntries latin)).root.Distinct ∧
      ∃ c, run ⟨[], 1000, false⟩ (holding (fileEntries latin)) (bytes "repo") = .ok c ∧
        ¬(c.tree.nodes.map FileNode.path).Nodup) ∧
    ∃ c, run ⟨[], 1000, false⟩ (holding (fileEntries smiling)) (bytes "repo") = .ok c ∧
      ¬(c.tree.children.map fun m => bytes m.name).Pairwise (· < ·) := by
  have hallowed := holding_allowed latin_inOrder.entries_allowed
  have hdistinct := holding_apartBy latin_inOrder.entries_distinct
  have hsmiling : InOrder smiling := by decide
  obtain ⟨c, hc, hseen⟩ := run_fileEntries latin_inOrder
  obtain ⟨c', hc', hseen'⟩ := run_fileEntries hsmiling
  refine ⟨⟨hallowed, hdistinct, c, hc, ?_⟩, c', hc', ?_⟩
  · intro hnodup
    obtain ⟨entries, -, hcoherent⟩ := coherent_of_run hallowed hdistinct hc
    have hchildren := hcoherent.nodup.mp hnodup c.tree (by rw [FileNode.nodes_eq]; exact List.mem_cons_self)
    rw [hseen.names] at hchildren
    simp [latin, latin_shown] at hchildren
  · have hbytes : (c'.tree.children.map fun m => bytes m.name) =
        (c'.tree.children.map FileNode.name).map bytes := by
      rw [List.map_map]
      rfl
    rw [hbytes, hseen'.names]
    decide +kernel

end CodeAtlas.Crawl
