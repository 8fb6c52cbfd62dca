import ApiTypes.Proofs.App.RouteTree
import ApiTypes.Proofs.List
import Mathlib.Data.List.Nodup

/-!
Positions of nodes in a route tree.

Nodes refer to each other by position, and a position may lie outside the list. The operations are
therefore given a second time, so that they fail where they look outside it; the type of a node
fails too where its calls are nested more deeply than it is told. No run of insertions fails, and no
type does that is told the number of nodes.
-/

namespace ApiTypes.RouteTree

variable {tree : RouteTree} {id next : Nat} {n : Node}

/-! ### Operations that may look outside the list -/

def node? (tree : RouteTree) (id : Nat) : Option Node := tree.nodes[id]?

def setNode? (tree : RouteTree) (id : Nat) (n : Node) : Option RouteTree :=
  if id < tree.nodes.length then some (tree.setNode id n) else none

def child? (tree : RouteTree) (parent : Nat) (segment : String) : Option (RouteTree × Nat) :=
  (tree.node? parent).bind fun n =>
    match n.lookup segment with
    | some (.child id) => some (tree, id)
    | _ =>
      (tree.setNode? parent (Keyed.put Prod.fst (segment, .child tree.nodes.length) n)).map
        fun grown => (⟨grown.nodes ++ [[]]⟩, tree.nodes.length)

def setLeaf? (tree : RouteTree) (id : Nat) (key : String) (type : TypeExpr) : Option RouteTree :=
  (tree.node? id).bind fun n => tree.setNode? id (Keyed.put Prod.fst (key, .leaf type) n)

def walk? (tree : RouteTree) (id : Nat) : List String → Option (RouteTree × Nat)
  | [] => some (tree, id)
  | segment :: rest => (tree.child? id segment).bind fun step => walk? step.1 step.2 rest

def setLeaves? (tree : RouteTree) (id : Nat) (leaves : List (String × TypeExpr)) :
    Option RouteTree :=
  leaves.foldlM (fun t leaf => t.setLeaf? id leaf.1 leaf.2) tree

def insert? (tree : RouteTree) (segments : List String) (leaves : List (String × TypeExpr)) :
    Option RouteTree :=
  (tree.walk? 0 segments).bind fun last => last.1.setLeaves? last.2 leaves

def ofCalls? (calls : List RouteCall) : Option RouteTree :=
  calls.foldlM (fun tree call => tree.insert? call.1 call.2) empty

/-- The type of an entry, given how to find that of a node. -/
def Entry.type? (typeOf : Nat → Option TypeExpr) : Entry → Option TypeExpr
  | .child next => typeOf next
  | .leaf type => some type

/-- The object type of a node, found by calls that are nested at most so deep. -/
def typeAt? (tree : RouteTree) : (depth : Nat) → (id : Nat) → Option TypeExpr
  | 0, _ => none
  | depth + 1, id =>
    (tree.node? id).bind fun n =>
      (n.mapM fun e : String × Entry =>
        (e.2.type? (typeAt? tree depth)).map (Member.quotedField e.1)).map
          (TypeExpr.objectOf .block)

/-! ### Inside the list they do not fail -/

lemma node_of_getElem? (h : tree.nodes[id]? = some n) : tree.node id = n := by
  rw [node, List.getD_eq_getElem?_getD, h, Option.getD_some]

lemma node?_of_lt (h : id < tree.nodes.length) : tree.node? id = some (tree.node id) := by
  have hget : tree.nodes[id]? = some tree.nodes[id] := List.getElem?_eq_getElem h
  rw [node?, node_of_getElem? hget, hget]

lemma setNode?_of_lt (h : id < tree.nodes.length) (n : Node) :
    tree.setNode? id n = some (tree.setNode id n) :=
  if_pos h

lemma setLeaf?_of_lt (h : id < tree.nodes.length) (key : String) (type : TypeExpr) :
    tree.setLeaf? id key type = some (tree.setLeaf id key type) := by
  rw [setLeaf?, node?_of_lt h, Option.bind_some, setNode?_of_lt h, setLeaf]

lemma child?_of_lt (h : id < tree.nodes.length) (segment : String) :
    tree.child? id segment = some (tree.child id segment) := by
  rw [child?, node?_of_lt h, Option.bind_some, setNode?_of_lt h, Option.map_some, child]
  cases (tree.node id).lookup segment with
  | none => rfl
  | some entry => cases entry <;> rfl

/-- A leaf does not change the number of nodes, so the node it is set at stays inside the list. -/
lemma setLeaves?_of_lt (h : id < tree.nodes.length) (leaves : List (String × TypeExpr)) :
    tree.setLeaves? id leaves =
      some (leaves.foldl (fun t leaf => t.setLeaf id leaf.1 leaf.2) tree) := by
  induction leaves generalizing tree with
  | nil => rfl
  | cons leaf rest ih =>
    have hlength : (tree.setLeaf id leaf.1 leaf.2).nodes.length = tree.nodes.length :=
      length_setNode _
    have hrest := ih (hlength ▸ h)
    rw [setLeaves?] at hrest ⊢
    rw [List.foldlM_cons, setLeaf?_of_lt h, Option.bind_eq_bind, Option.bind_some, hrest,
      List.foldl_cons]

/-! ### Runs of insertions -/

/-- Segments lead from a node of the list to a node of the list. -/
lemma Sound.walk?_eq (h : Sound tree) (hid : id < tree.nodes.length) (segments : List String) :
    tree.walk? id segments = some (tree.walk id segments) ∧
      (tree.walk id segments).2 < (tree.walk id segments).1.nodes.length := by
  induction segments generalizing tree id with
  | nil => exact ⟨rfl, hid⟩
  | cons segment rest ih =>
    have hin := h.entered hid segment
    obtain ⟨hwalk, hlast⟩ := ih hin.sound hin.forward.2
    rw [walk?, child?_of_lt hid, Option.bind_some, walk]
    exact ⟨hwalk, hlast⟩

lemma Sound.insert?_eq (h : Sound tree) (hroot : 0 < tree.nodes.length) (segments : List String)
    (leaves : List (String × TypeExpr)) :
    tree.insert? segments leaves = some (tree.insert segments leaves) := by
  obtain ⟨hwalk, hlast⟩ := h.walk?_eq hroot segments
  rw [insert?, hwalk, Option.bind_some, setLeaves?_of_lt hlast]
  rfl

lemma ofCalls?_eq (calls : List RouteCall) : ofCalls? calls = some (ofCalls calls) := by
  induction calls using List.reverseRecOn with
  | nil => rfl
  | append_singleton calls call ih =>
    obtain ⟨hsound, hroot, -⟩ := sound_ofCalls calls
    rw [ofCalls?] at ih ⊢
    rw [List.foldlM_append, ih, Option.bind_eq_bind, Option.bind_some, List.foldlM_cons,
      hsound.insert?_eq hroot, ofCalls_concat]
    rfl

/-! ### The type of a node -/

lemma Sound.view_of_le (h : Sound tree) {depth : Nat} (hdepth : tree.nodes.length - id ≤ depth) :
    tree.view depth id = tree.view (tree.nodes.length - id) id := by
  induction hdepth with
  | refl => rfl
  | step hdepth ih => rw [h.view_succ hdepth, ih]

/-- A deeper bound than the number of nodes behind a node does not show in its type. -/
lemma Sound.typeAt_of_le (h : Sound tree) {depth : Nat} (hdepth : tree.nodes.length - id ≤ depth) :
    tree.typeAt depth id = tree.typeAt tree.nodes.length id := by
  rw [h.typeAt_eq, h.typeAt_eq, h.view_of_le hdepth, h.view_of_le (Nat.sub_le _ _)]

/-- Children stand further on, so every nested call leaves fewer nodes behind it. -/
lemma Sound.typeAt?_eq (h : Sound tree) {depth : Nat} (hid : id < tree.nodes.length)
    (hdepth : tree.nodes.length - id ≤ depth) :
    tree.typeAt? depth id = some (tree.typeAt depth id) := by
  induction depth generalizing id with
  | zero => omega
  | succ depth ih =>
    rw [typeAt?, node?_of_lt hid, Option.bind_some, typeAt]
    rw [List.mapM_eq_some_map, Option.map_some]
    rintro ⟨key, entry⟩ he
    cases entry with
    | leaf type => rfl
    | child next =>
      have hnext := h.forward he
      rw [Entry.type?, ih hnext.2 (by omega), Option.map_some]

/-! ### Nodes that entries refer to -/

def Entry.target? : Entry → Option Nat
  | .child next => some next
  | .leaf _ => none

/-- The nodes that the entries of a node refer to, once for each entry. -/
def targetsOf (n : Node) : List Nat := n.filterMap fun e => e.2.target?

def targets (tree : RouteTree) : List Nat := tree.nodes.flatMap targetsOf

lemma target?_eq_some_iff {entry : Entry} : entry.target? = some next ↔ entry = .child next := by
  cases entry <;> simp [Entry.target?]

lemma mem_targetsOf : next ∈ targetsOf n ↔ ∃ key, (key, Entry.child next) ∈ n := by
  simp [targetsOf, target?_eq_some_iff]

lemma mem_targets : next ∈ tree.targets ↔ ∃ id, next ∈ targetsOf (tree.node id) := by
  rw [targets, List.mem_flatMap]
  constructor
  · rintro ⟨n, hn, hnext⟩
    obtain ⟨id, hid⟩ := List.mem_iff_getElem?.mp hn
    exact ⟨id, node_of_getElem? hid ▸ hnext⟩
  · rintro ⟨id, hnext⟩
    have hid : id < tree.nodes.length := by
      by_contra hout
      rw [node_of_length_le (Nat.le_of_not_lt hout)] at hnext
      simp [targetsOf] at hnext
    exact ⟨tree.node id, List.mem_of_getElem? (node?_of_lt hid), hnext⟩

/-- Two entries of a node have different keys, so they refer to different nodes. -/
lemma Sound.nodup_targetsOf (h : Sound tree) (id : Nat) : (targetsOf (tree.node id)).Nodup := by
  have hkeys := List.pairwise_map.mp (h.nodup id)
  refine List.pairwise_filterMap.mpr (hkeys.imp_of_mem fun {a b} ha hb hne => ?_)
  rintro next hnext other hother rfl
  have hac : (a.1, Entry.child next) ∈ tree.node id := target?_eq_some_iff.mp hnext ▸ ha
  have hbc : (b.1, Entry.child next) ∈ tree.node id := target?_eq_some_iff.mp hother ▸ hb
  exact hne (h.single hac hbc).2

lemma Sound.nodup_targets (h : Sound tree) : tree.targets.Nodup := by
  refine List.nodup_flatMap.mpr ⟨fun n hn => ?_, ?_⟩
  · obtain ⟨id, hid⟩ := List.mem_iff_getElem?.mp hn
    exact node_of_getElem? hid ▸ h.nodup_targetsOf id
  · -- a node that entries of two nodes refer to would have two parents
    refine List.pairwise_iff_getElem.mpr fun i j hi hj hlt next hnext hother => ?_
    obtain ⟨key, hkey⟩ := mem_targetsOf.mp hnext
    obtain ⟨key', hkey'⟩ := mem_targetsOf.mp hother
    rw [← node_of_getElem? (List.getElem?_eq_getElem hi)] at hkey
    rw [← node_of_getElem? (List.getElem?_eq_getElem hj)] at hkey'
    have := (h.single hkey hkey').1
    omega

lemma Sound.root_notMem_targets (h : Sound tree) : 0 ∉ tree.targets := by
  intro hmem
  obtain ⟨id, hid⟩ := mem_targets.mp hmem
  obtain ⟨key, hkey⟩ := mem_targetsOf.mp hid
  exact Nat.not_lt_zero id (h.forward hkey).1

/-- **Positions of nodes.** After any insertions, every node of the list, cut off or not, has each
key once, and its children stand behind it. No two entries of the whole list refer to one node, and
none refers to the root. So the insertions never looked outside the list, and neither does the type
of a node, whose calls are nested no deeper than there are nodes from it to the end. -/
theorem ofCalls_positions (calls : List RouteCall) :
    let tree := ofCalls calls
    (∀ id n, tree.nodes[id]? = some n →
      (n.map Prod.fst).Nodup ∧
        ∀ key next, (key, Entry.child next) ∈ n → id < next ∧ next < tree.nodes.length) ∧
      tree.targets.Nodup ∧ 0 ∉ tree.targets ∧
      ofCalls? calls = some tree ∧
      0 < tree.nodes.length ∧
      ∀ id < tree.nodes.length, ∀ depth, tree.nodes.length - id ≤ depth →
        tree.typeAt? depth id = some (tree.typeAt tree.nodes.length id) := by
  intro tree
  obtain ⟨hsound, hroot, -⟩ := sound_ofCalls calls
  refine ⟨fun id n hn => ?_, hsound.nodup_targets, hsound.root_notMem_targets, ofCalls?_eq calls,
    hroot, fun id hid depth hdepth => ?_⟩
  · obtain rfl := node_of_getElem? hn
    exact ⟨hsound.nodup id, fun key next hnext => hsound.forward hnext⟩
  · rw [hsound.typeAt?_eq hid hdepth, hsound.typeAt_of_le hdepth]

/-- The fourth node is cut off by a leaf, and still refers to the last one. -/
theorem sampleCalls_positions :
    (ofCalls sampleCalls).nodes[3]? = some [("c", .child 4)] ∧
      4 < (ofCalls sampleCalls).nodes.length ∧ (ofCalls sampleCalls).targets = [1, 2, 4] ∧
      (ofCalls sampleCalls).targets.Nodup ∧ ofCalls? sampleCalls = some (ofCalls sampleCalls) ∧
      (ofCalls sampleCalls).typeAt? 5 0 = some (ofCalls sampleCalls).toType := by
  have hnode : (ofCalls sampleCalls).nodes[3]? = some [("c", .child 4)] := rfl
  obtain ⟨hnodes, hnodup, -, hrun, hroot, htype⟩ := ofCalls_positions sampleCalls
  have hchild := (hnodes 3 _ hnode).2 "c" 4 (by simp)
  exact ⟨hnode, hchild.2, rfl, hnodup, hrun, htype 0 hroot 5 (Nat.le_refl 5)⟩

end ApiTypes.RouteTree
