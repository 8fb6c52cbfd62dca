import ApiTypes.App.RouteTree
import ApiTypes.Proofs.App.SegmentTree
import Mathlib.Logic.Relation

/-!
Route trees stand for trees of segments.

In the list of nodes a child stands behind its parent and has no other parent, so the nodes under
different children are different ones. A change below one child is therefore not seen from the
others, and an insertion does to the tree that the list stands for what it does to a tree of
segments. Nodes that a leaf has cut off stay in the list, but nothing leads to them.
-/

namespace ApiTypes.RouteTree

open SegmentTree (Entries under setLeaf)

variable {tree grown : RouteTree} {id next other : Nat} {key segment : String}

def ofCalls (calls : List RouteCall) : RouteTree :=
  calls.foldl (fun tree call => tree.insert call.1 call.2) empty

/-! ### Nodes -/

lemma node_of_length_le (h : tree.nodes.length ≤ id) : tree.node id = [] := by
  rw [node, List.getD_eq_getElem?_getD, List.getElem?_eq_none h, Option.getD_none]

lemma length_setNode (n : Node) : (tree.setNode id n).nodes.length = tree.nodes.length :=
  List.length_set

lemma node_setNode_self {n : Node} (h : id < tree.nodes.length) :
    (tree.setNode id n).node id = n := by
  simp [node, setNode, List.getD_eq_getElem?_getD, h]

lemma node_setNode_ne {n : Node} (h : other ≠ id) :
    (tree.setNode id n).node other = tree.node other := by
  simp [node, setNode, List.getD_eq_getElem?_getD, List.getElem?_set_ne (Ne.symm h)]

lemma node_concat (tree : RouteTree) (id : Nat) :
    (RouteTree.mk (tree.nodes ++ [[]])).node id = tree.node id := by
  rcases Nat.lt_trichotomy id tree.nodes.length with h | h | h
  · simp [node, List.getD_eq_getElem?_getD, List.getElem?_append_left h]
  · rw [node_of_length_le (Nat.le_of_eq h.symm)]
    simp [node, h]
  · rw [node_of_length_le (Nat.le_of_lt h), node_of_length_le (by simp; omega)]

/-! ### What every insertion keeps -/

structure Sound (tree : RouteTree) : Prop where
  nodup : ∀ id, ((tree.node id).map Prod.fst).Nodup
  forward : ∀ {id key next}, (key, .child next) ∈ tree.node id →
    id < next ∧ next < tree.nodes.length
  single : ∀ {id other key key' next}, (key, .child next) ∈ tree.node id →
    (key', .child next) ∈ tree.node other → id = other ∧ key = key'

lemma sound_empty : Sound empty := by
  have hnone : ∀ id, empty.node id = [] := by
    intro id
    cases id <;> rfl
  refine ⟨?_, ?_, ?_⟩ <;> simp [hnone]

/-- One node may change if it gets no children but a new one. -/
lemma Sound.update (h : Sound tree) (segment : String)
    (hlength : tree.nodes.length ≤ grown.nodes.length)
    (hnodup : ((grown.node id).map Prod.fst).Nodup)
    (hothers : ∀ j ≠ id, grown.node j = tree.node j)
    (hchild : ∀ key next, (key, Entry.child next) ∈ grown.node id →
      (key, Entry.child next) ∈ tree.node id ∨
        (key = segment ∧ next = tree.nodes.length ∧ id < next ∧ next < grown.nodes.length)) :
    Sound grown := by
  -- where a child of the new tree was before
  have hold : ∀ {j key next}, (key, Entry.child next) ∈ grown.node j →
      (key, Entry.child next) ∈ tree.node j ∨
        (j = id ∧ key = segment ∧ next = tree.nodes.length ∧ id < next ∧
          next < grown.nodes.length) := by
    intro j key next hj
    by_cases hid : j = id
    · subst hid
      exact (hchild key next hj).imp_right fun hnew => ⟨rfl, hnew⟩
    · exact Or.inl (hothers j hid ▸ hj)
  refine ⟨fun j => ?_, fun {j key next} hj => ?_, fun {j other key key' next} hj hother => ?_⟩
  · by_cases hid : j = id
    · exact hid ▸ hnodup
    · exact hothers j hid ▸ h.nodup j
  · rcases hold hj with hj | ⟨rfl, -, -, hlt, hbound⟩
    · have := h.forward hj
      omega
    · exact ⟨hlt, hbound⟩
  · rcases hold hj with hj | ⟨rfl, rfl, hnew, -, -⟩ <;>
      rcases hold hother with hother | ⟨rfl, rfl, hnew', -, -⟩
    · exact h.single hj hother
    · have := (h.forward hj).2
      omega
    · have := (h.forward hother).2
      omega
    · exact ⟨rfl, rfl⟩

/-! ### Nodes under a node -/

/-- Some children lead from one node to the other. -/
def Under (tree : RouteTree) : Nat → Nat → Prop :=
  Relation.ReflTransGen fun id next => ∃ key, (key, Entry.child next) ∈ tree.node id

lemma Sound.le_of_under (h : Sound tree) (hu : Under tree id next) : id ≤ next := by
  induction hu with
  | refl => exact Nat.le_refl _
  | tail _ hstep ih =>
    obtain ⟨key, hkey⟩ := hstep
    have := (h.forward hkey).1
    omega

lemma Sound.lt_length_of_under (h : Sound tree) (hid : id < tree.nodes.length)
    (hu : Under tree id next) : next < tree.nodes.length := by
  induction hu with
  | refl => exact hid
  | tail _ hstep _ =>
    obtain ⟨key, hkey⟩ := hstep
    exact (h.forward hkey).2

/-- A child is not under another child of its parent. -/
lemma Sound.not_under_sibling (h : Sound tree) {a b : Nat} {key key' : String}
    (ha : (key, Entry.child a) ∈ tree.node id) (hb : (key', Entry.child b) ∈ tree.node id)
    (hne : a ≠ b) : ¬Under tree a b := by
  intro hu
  rcases hu.cases_tail with heq | ⟨parent, hparent, key'', hstep⟩
  · exact hne heq.symm
  · obtain ⟨rfl, -⟩ := h.single hstep hb
    have hle := h.le_of_under hparent
    have hlt := (h.forward ha).1
    omega

/-- Two children of a node have no node under both of them. -/
lemma Sound.not_under_both (h : Sound tree) {a b : Nat} {key key' : String}
    (ha : (key, Entry.child a) ∈ tree.node id) (hb : (key', Entry.child b) ∈ tree.node id)
    (hne : a ≠ b) (hua : Under tree a next) : ¬Under tree b next := by
  intro hub
  -- parents are unique, so of two nodes above a third one is above the other
  have hunique : Relator.RightUnique
      (Function.swap fun id next => ∃ key, (key, Entry.child next) ∈ tree.node id) := by
    rintro x y z ⟨_, hy⟩ ⟨_, hz⟩
    exact (h.single hy hz).1
  rcases Relation.ReflTransGen.total_of_right_unique hunique
    (Relation.reflTransGen_swap.mpr hua) (Relation.reflTransGen_swap.mpr hub) with hab | hba
  · exact h.not_under_sibling hb ha hne.symm (Relation.reflTransGen_swap.mp hab)
  · exact h.not_under_sibling ha hb hne (Relation.reflTransGen_swap.mp hba)

/-! ### The tree that the list stands for -/

/-- What an entry stands for, given what the nodes do. -/
def Entry.asTree (entriesOf : Nat → Entries) : Entry → SegmentTree
  | .child next => .node (entriesOf next)
  | .leaf type => .leaf type

def view (tree : RouteTree) : (depth : Nat) → (id : Nat) → Entries
  | 0, _ => []
  | depth + 1, id => (tree.node id).map fun e => (e.1, e.2.asTree (view tree depth))

/-- What a node stands for. -/
def entriesAt (tree : RouteTree) (id : Nat) : Entries := tree.view tree.nodes.length id

lemma map_asTree_congr {f g : Nat → Entries} {n : Node}
    (h : ∀ key next, (key, Entry.child next) ∈ n → f next = g next) :
    (n.map fun e => (e.1, e.2.asTree f)) = n.map fun e => (e.1, e.2.asTree g) := by
  refine List.map_congr_left fun e he => ?_
  obtain ⟨key, entry⟩ := e
  cases entry with
  | child next => simp only [Entry.asTree, h key next he]
  | leaf type => rfl

lemma Sound.view_succ (h : Sound tree) {depth : Nat} (hdepth : tree.nodes.length - id ≤ depth) :
    tree.view (depth + 1) id = tree.view depth id := by
  induction depth generalizing id with
  | zero => rw [view, view, node_of_length_le (by omega), List.map_nil]
  | succ depth ih =>
    rw [view, view]
    refine map_asTree_congr fun key next hnext => ih ?_
    have := h.forward hnext
    omega

lemma Sound.entriesAt_eq (h : Sound tree) (id : Nat) :
    tree.entriesAt id = (tree.node id).map fun e => (e.1, e.2.asTree tree.entriesAt) := by
  unfold entriesAt
  cases hlength : tree.nodes.length with
  | zero => rw [view, node_of_length_le (by omega), List.map_nil]
  | succ count =>
    rw [view]
    refine map_asTree_congr fun key next hnext => ?_
    have := h.forward hnext
    exact (h.view_succ (by omega)).symm

/-- A node stands for the same as before if all nodes under it are as before. -/
lemma Sound.entriesAt_congr (h : Sound tree) (hgrown : Sound grown)
    (hsame : ∀ j, Under tree id j → grown.node j = tree.node j) :
    grown.entriesAt id = tree.entriesAt id := by
  induction hsize : tree.nodes.length - id using Nat.strongRecOn generalizing id with
  | ind size ih =>
    rw [h.entriesAt_eq, hgrown.entriesAt_eq, hsame id .refl]
    refine map_asTree_congr fun key next hnext => ?_
    have := h.forward hnext
    exact ih _ (by omega) (fun j hj => hsame j (.head ⟨key, hnext⟩ hj)) rfl

lemma Sound.typeAt_eq (h : Sound tree) (depth id : Nat) :
    tree.typeAt depth id = (SegmentTree.node (tree.view depth id)).toType := by
  rw [SegmentTree.toType, SegmentTree.members_eq_map]
  induction depth generalizing id with
  | zero => rfl
  | succ depth ih =>
    have hmembers : (tree.node id).map (fun e => Member.quotedField e.1 <|
        match e.2 with
        | .child next => tree.typeAt depth next
        | .leaf type => type) =
        (tree.view (depth + 1) id).map fun e => Member.quotedField e.1 e.2.toType := by
      rw [view, List.map_map]
      refine List.map_congr_left fun e _ => ?_
      obtain ⟨key, entry⟩ := e
      cases entry with
      | child next =>
        simp only [Function.comp_apply, Entry.asTree, SegmentTree.toType,
          SegmentTree.members_eq_map, ih]
      | leaf type => rfl
    have hnodup : (((tree.view (depth + 1) id).map fun e =>
        Member.quotedField e.1 e.2.toType).map Member.name).Nodup := by
      rw [← hmembers, List.map_map]
      exact h.nodup id
    rw [typeAt, TypeExpr.objectOf]
    exact congrArg _ ((congrArg _ hmembers).trans (Keyed.gather_of_nodup hnodup))

/-! ### Setting leaves -/

lemma child_mem_of_mem_put {n : Node} {type : TypeExpr}
    (h : (segment, Entry.child next) ∈ Keyed.put Prod.fst (key, Entry.leaf type) n) :
    (segment, Entry.child next) ∈ n :=
  (Keyed.mem_of_mem_put h).resolve_left (by simp)

lemma node_setLeaf_self {type : TypeExpr} (hid : id < tree.nodes.length) :
    (tree.setLeaf id key type).node id = Keyed.put Prod.fst (key, .leaf type) (tree.node id) :=
  node_setNode_self hid

lemma Sound.setLeaf (h : Sound tree) (hid : id < tree.nodes.length) (key : String)
    (type : TypeExpr) : Sound (tree.setLeaf id key type) := by
  refine h.update key (Nat.le_of_eq (length_setNode _).symm) ?_
    (fun j hj => node_setNode_ne hj) fun k next hnext => Or.inl ?_
  · rw [node_setLeaf_self hid]
    exact Keyed.nodup_map_put (h.nodup id)
  · rw [node_setLeaf_self hid] at hnext
    exact child_mem_of_mem_put hnext

lemma Sound.entriesAt_setLeaf (h : Sound tree) (hid : id < tree.nodes.length) (key : String)
    (type : TypeExpr) :
    (tree.setLeaf id key type).entriesAt id =
      SegmentTree.setLeaf (tree.entriesAt id) (key, type) := by
  have hgrown := h.setLeaf hid key type
  rw [hgrown.entriesAt_eq, h.entriesAt_eq, node_setLeaf_self hid, SegmentTree.setLeaf]
  refine Keyed.map_put_snd (h.nodup id) fun e he _ => ?_
  obtain ⟨k, entry⟩ := e
  cases entry with
  | leaf type => rfl
  | child next =>
    have hlt := (h.forward he).1
    have hsame : (tree.setLeaf id key type).entriesAt next = tree.entriesAt next := by
      refine h.entriesAt_congr hgrown fun j hj => node_setNode_ne ?_
      have := h.le_of_under hj
      omega
    rw [Entry.asTree, Entry.asTree, hsame]

lemma Sound.setLeaves (h : Sound tree) (hid : id < tree.nodes.length)
    (leaves : List (String × TypeExpr)) :
    let grown := leaves.foldl (fun t leaf => t.setLeaf id leaf.1 leaf.2) tree
    Sound grown ∧ grown.nodes.length = tree.nodes.length ∧
      (∀ j ≠ id, grown.node j = tree.node j) ∧
      grown.entriesAt id = leaves.foldl SegmentTree.setLeaf (tree.entriesAt id) := by
  induction leaves generalizing tree with
  | nil => exact ⟨h, rfl, fun _ _ => rfl, rfl⟩
  | cons leaf rest ih =>
    have hlength : (tree.setLeaf id leaf.1 leaf.2).nodes.length = tree.nodes.length :=
      length_setNode _
    obtain ⟨hsound, hlen, hothers, hentries⟩ := ih (h.setLeaf hid leaf.1 leaf.2) (hlength ▸ hid)
    refine ⟨hsound, hlen.trans hlength, fun j hj => ?_, ?_⟩
    · exact (hothers j hj).trans (node_setNode_ne hj)
    · rw [h.entriesAt_setLeaf hid] at hentries
      exact hentries

/-! ### Entering a segment -/

/-- The tree with a new child under a segment. -/
def addChild (tree : RouteTree) (id : Nat) (segment : String) : RouteTree :=
  ⟨(tree.setNode id
    (Keyed.put Prod.fst (segment, .child tree.nodes.length) (tree.node id))).nodes ++ [[]]⟩

lemma length_addChild : (tree.addChild id segment).nodes.length = tree.nodes.length + 1 := by
  rw [addChild, List.length_append, length_setNode, List.length_singleton]

lemma node_addChild_self (hid : id < tree.nodes.length) :
    (tree.addChild id segment).node id =
      Keyed.put Prod.fst (segment, .child tree.nodes.length) (tree.node id) :=
  (node_concat _ _).trans (node_setNode_self hid)

lemma node_addChild_ne (h : other ≠ id) :
    (tree.addChild id segment).node other = tree.node other :=
  (node_concat _ _).trans (node_setNode_ne h)

lemma Sound.addChild (h : Sound tree) (hid : id < tree.nodes.length) (segment : String) :
    Sound (tree.addChild id segment) := by
  refine h.update segment (by rw [length_addChild]; omega) ?_ (fun j hj => node_addChild_ne hj)
    fun key next hnext => ?_
  · rw [node_addChild_self hid]
    exact Keyed.nodup_map_put (h.nodup id)
  · rw [node_addChild_self hid] at hnext
    rcases Keyed.mem_of_mem_put hnext with hnew | hold
    · cases hnew
      exact Or.inr ⟨rfl, rfl, hid, by rw [length_addChild]; omega⟩
    · exact Or.inl hold

/-- What entering a segment at a node leads to. -/
structure Entered (tree grown : RouteTree) (id next : Nat) (segment : String) : Prop where
  sound : Sound grown
  length : tree.nodes.length ≤ grown.nodes.length
  forward : id < next ∧ next < grown.nodes.length
  node : grown.node id = Keyed.put Prod.fst (segment, .child next) (tree.node id)
  others : ∀ j ≠ id, grown.node j = tree.node j
  /-- The child was there, or it is a new one. -/
  fresh : (grown = tree ∧ (segment, .child next) ∈ tree.node id) ∨ next = tree.nodes.length
  entries : grown.entriesAt next = under segment (tree.entriesAt id)

lemma Sound.lookup_entriesAt (h : Sound tree) (id : Nat) (segment : String) :
    (tree.entriesAt id).lookup segment =
      ((tree.node id).lookup segment).map (Entry.asTree tree.entriesAt) := by
  rw [h.entriesAt_eq, Keyed.lookup_map_snd]

lemma Sound.entered (h : Sound tree) (hid : id < tree.nodes.length) (segment : String) :
    Entered tree (tree.child id segment).1 id (tree.child id segment).2 segment := by
  unfold RouteTree.child
  split
  · next next hlookup =>
    have hmem := Keyed.mem_of_lookup hlookup
    refine ⟨h, Nat.le_refl _, h.forward hmem, ?_, fun _ _ => rfl, Or.inl ⟨rfl, hmem⟩, ?_⟩
    · exact (Keyed.put_of_lookup hlookup).symm
    · rw [under, h.lookup_entriesAt, hlookup]
      rfl
  · next hnone =>
    have hgrown := h.addChild hid segment
    have hlength : tree.nodes.length < (tree.addChild id segment).nodes.length := by
      rw [length_addChild]
      omega
    refine ⟨hgrown, Nat.le_of_lt hlength, ⟨hid, hlength⟩, node_addChild_self hid,
      fun j hj => node_addChild_ne hj, Or.inr rfl, ?_⟩
    -- the new node is empty, and there was no node under the segment
    change (tree.addChild id segment).entriesAt tree.nodes.length = _
    rw [hgrown.entriesAt_eq, node_addChild_ne (Nat.ne_of_gt hid),
      node_of_length_le (Nat.le_refl _), under, h.lookup_entriesAt]
    cases hl : (tree.node id).lookup segment with
    | none => rfl
    | some entry =>
      cases entry with
      | leaf type => rfl
      | child next => exact absurd hl (hnone next)

/-! ### Insertion -/

def insertAt (tree : RouteTree) (id : Nat) (segments : List String)
    (leaves : List (String × TypeExpr)) : RouteTree :=
  leaves.foldl (fun t leaf => t.setLeaf (tree.walk id segments).2 leaf.1 leaf.2)
    (tree.walk id segments).1

lemma insert_eq (tree : RouteTree) (segments : List String) (leaves : List (String × TypeExpr)) :
    tree.insert segments leaves = tree.insertAt 0 segments leaves := rfl

/-- A change at or under a node that makes it stand for some entries. -/
structure Changed (tree grown : RouteTree) (id : Nat) (entries : Entries) : Prop where
  sound : Sound grown
  length : tree.nodes.length ≤ grown.nodes.length
  outside : ∀ j < tree.nodes.length, ¬Under tree id j → grown.node j = tree.node j
  entries : grown.entriesAt id = entries

/-- A change under a child, seen from its parent. -/
lemma Changed.parent {entered : RouteTree} {inner : Entries} (h : Sound tree)
    (hid : id < tree.nodes.length) (hin : Entered tree entered id next segment)
    (hch : Changed entered grown next inner) :
    Changed tree grown id (Keyed.put Prod.fst (segment, .node inner) (tree.entriesAt id)) := by
  -- an old node is under the child only if the child was there before
  have hold : ∀ j < tree.nodes.length, Under entered next j →
      entered = tree ∧ (segment, Entry.child next) ∈ tree.node id := by
    intro j hj hu
    refine hin.fresh.resolve_right fun hnew => ?_
    have := hin.sound.le_of_under hu
    omega
  have hkept : ∀ j < tree.nodes.length, j ≠ id → ¬Under entered next j →
      grown.node j = tree.node j := fun j hj hne hu =>
    (hch.outside j (Nat.lt_of_lt_of_le hj hin.length) hu).trans (hin.others j hne)
  refine ⟨hch.sound, Nat.le_trans hin.length hch.length, fun j hj hnot => ?_, ?_⟩
  · refine hkept j hj (fun heq => hnot (heq ▸ .refl)) fun hu => ?_
    obtain ⟨rfl, hmem⟩ := hold j hj hu
    exact hnot (.head ⟨segment, hmem⟩ hu)
  · have hnode : grown.node id = Keyed.put Prod.fst (segment, .child next) (tree.node id) := by
      refine (hch.outside id (Nat.lt_of_lt_of_le hid hin.length) fun hu => ?_).trans hin.node
      have hle := hin.sound.le_of_under hu
      have hlt := hin.forward.1
      omega
    rw [hch.sound.entriesAt_eq, hnode, h.entriesAt_eq, ← hch.entries]
    refine Keyed.map_put_snd (h.nodup id) fun e he hne => ?_
    obtain ⟨key, entry⟩ := e
    cases entry with
    | leaf type => rfl
    | child sibling =>
      have hlt := h.forward he
      have hsame : grown.entriesAt sibling = tree.entriesAt sibling := by
        refine h.entriesAt_congr hch.sound fun j hj => ?_
        have hbound := h.lt_length_of_under hlt.2 hj
        have hle := h.le_of_under hj
        refine hkept j hbound (by omega) fun hu => ?_
        obtain ⟨rfl, hmem⟩ := hold j hbound hu
        have hdiff : next ≠ sibling := by
          rintro rfl
          exact hne (h.single he hmem).2
        exact h.not_under_both hmem he hdiff hu hj
      rw [Entry.asTree, Entry.asTree, hsame]

lemma Sound.insertAt (h : Sound tree) (hid : id < tree.nodes.length) (segments : List String)
    (leaves : List (String × TypeExpr)) :
    Changed tree (tree.insertAt id segments leaves) id
      (SegmentTree.insert segments leaves (tree.entriesAt id)) := by
  induction segments generalizing tree id with
  | nil =>
    obtain ⟨hsound, hlength, hothers, hentries⟩ := h.setLeaves hid leaves
    exact ⟨hsound, Nat.le_of_eq hlength.symm,
      fun j _ hnot => hothers j fun heq => hnot (heq ▸ .refl), hentries⟩
  | cons segment rest ih =>
    have hin := h.entered hid segment
    have hch := ih hin.sound hin.forward.2
    rw [hin.entries] at hch
    exact hch.parent h hid hin

lemma ofCalls_concat (calls : List RouteCall) (call : RouteCall) :
    ofCalls (calls ++ [call]) = (ofCalls calls).insert call.1 call.2 := by
  rw [ofCalls, List.foldl_append]
  rfl

/-- A run of insertions: the list stands for the tree that they make. -/
lemma sound_ofCalls (calls : List RouteCall) :
    Sound (ofCalls calls) ∧ 0 < (ofCalls calls).nodes.length ∧
      (ofCalls calls).entriesAt 0 = SegmentTree.ofCalls calls := by
  induction calls using List.reverseRecOn with
  | nil => exact ⟨sound_empty, Nat.one_pos, rfl⟩
  | append_singleton calls call ih =>
    obtain ⟨hsound, hroot, hentries⟩ := ih
    have hch := hsound.insertAt hroot call.1 call.2
    rw [ofCalls_concat, SegmentTree.ofCalls_concat, insert_eq, ← hentries]
    exact ⟨hch.sound, Nat.lt_of_lt_of_le hroot hch.length, hch.entries⟩

lemma toType_ofCalls (calls : List RouteCall) :
    (ofCalls calls).toType = (SegmentTree.node (SegmentTree.ofCalls calls)).toType := by
  obtain ⟨hsound, -, hentries⟩ := sound_ofCalls calls
  rw [toType, hsound.typeAt_eq, ← hentries]
  rfl

/-- **Refinement.** Whatever is inserted, the type of a route tree is the type of the tree of
segments. No node of it has a key twice, and its keys are in the order in which they came to it. -/
theorem toType_eq_segmentTree (calls : List RouteCall) :
    (ofCalls calls).toType = (SegmentTree.node (SegmentTree.ofCalls calls)).toType ∧
      ∀ path entries,
        (SegmentTree.node (SegmentTree.ofCalls calls)).at? path = some (.node entries) →
        ∃ members, (ofCalls calls).toType.quoted? path = some (.object .block members) ∧
          (members.map Member.name).Nodup ∧
          members.map Member.name =
            ((SegmentTree.enteringAlong path calls).flatMap SegmentTree.arriving).eraseDups := by
  have htype := toType_ofCalls calls
  refine ⟨htype, fun path entries hpath => ⟨SegmentTree.members entries, ?_, ?_, ?_⟩⟩
  · rw [htype, SegmentTree.quoted?_toType hpath, SegmentTree.toType]
  · rw [SegmentTree.map_name_members]
    exact SegmentTree.nodup_of_at? hpath
  · rw [SegmentTree.map_name_members, SegmentTree.map_fst_of_at? hpath]

/-- A segment takes the place of a verb, and a verb that of a segment. -/
def sampleCalls : List RouteCall :=
  [(["a"], [("get", .any), ("b", .any)]), (["a", "get"], [("get", .unknown)]),
   (["b", "c"], [("get", .any)]), ([], [("b", .unknown)]), (["a"], [("b", .unknown), ("c", .any)])]

theorem sampleCalls_members :
    ∃ members, (ofCalls sampleCalls).toType.quoted? ["a"] = some (.object .block members) ∧
      (members.map Member.name).Nodup ∧ members.map Member.name = ["get", "b", "c"] := by
  obtain ⟨members, htype, hnodup, hnames⟩ := (toType_eq_segmentTree sampleCalls).2 ["a"] _ rfl
  exact ⟨members, htype, hnodup, hnames.trans (by decide)⟩

end ApiTypes.RouteTree
