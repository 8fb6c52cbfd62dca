import ApiTypes.Proofs.Keyed
import ApiTypes.TypeExpr.Basic

/-!
Trees of path segments as nested ordered lists.

A node holds its entries itself: going along a segment enters the node that stands there, or puts an
empty one in the place of a leaf or at the end, and a leaf takes the place of whatever has its key.
What stands under a segment is the tree of the calls that came through it since a leaf last stood
there, so that the keys of every node have the order in which they first came to it.
-/

namespace ApiTypes

namespace TypeExpr

/-- The member with a quoted key. -/
def quotedMember? (key : String) : TypeExpr → Option TypeExpr
  | .object _ members => (members.find? fun m => m.key = ⟨key, true⟩).map Member.type
  | _ => none

/-- Follows quoted keys from the outermost inwards. -/
def quoted? : List String → TypeExpr → Option TypeExpr
  | [], type => some type
  | key :: rest, type => (type.quotedMember? key).bind (quoted? rest)

end TypeExpr

/-- The segments of a path, and what is attached to the node there. -/
abbrev RouteCall := List String × List (String × TypeExpr)

inductive SegmentTree where
  | leaf (type : TypeExpr)
  | node (entries : List (String × SegmentTree))
deriving Inhabited

namespace SegmentTree

abbrev Entries := List (String × SegmentTree)

def setLeaf (entries : Entries) (leaf : String × TypeExpr) : Entries :=
  Keyed.put Prod.fst (leaf.1, .leaf leaf.2) entries

/-- The entries of the node under a segment, none if there is no node. -/
def under (segment : String) (entries : Entries) : Entries :=
  match entries.lookup segment with
  | some (.node inner) => inner
  | _ => []

def insert : List String → List (String × TypeExpr) → Entries → Entries
  | [], leaves, entries => leaves.foldl setLeaf entries
  | segment :: rest, leaves, entries =>
    Keyed.put Prod.fst (segment, .node (insert rest leaves (under segment entries))) entries

def ofCalls (calls : List RouteCall) : Entries :=
  calls.foldl (fun entries call => insert call.1 call.2 entries) []

mutual

/-- Nested block objects with every key quoted. -/
def toType : SegmentTree → TypeExpr
  | .leaf type => type
  | .node entries => .object .block (members entries)

def members : Entries → List (Member TypeExpr)
  | [] => []
  | (key, tree) :: rest => .quotedField key tree.toType :: members rest

end

/-- The tree that some keys lead to. -/
def at? : List String → SegmentTree → Option SegmentTree
  | [], tree => some tree
  | key :: rest, .node entries => (entries.lookup key).bind (at? rest)
  | _ :: _, .leaf _ => none

variable {entries inner : Entries} {calls : List RouteCall} {tree : SegmentTree}
  {segment key : String} {path : List String}

lemma members_eq_map (entries : Entries) :
    members entries = entries.map fun e => .quotedField e.1 e.2.toType := by
  induction entries with
  | nil => rfl
  | cons e rest ih => rw [members, ih, List.map_cons]

lemma map_name_members (entries : Entries) :
    (members entries).map Member.name = entries.map Prod.fst := by
  rw [members_eq_map, List.map_map]
  rfl

lemma quotedMember?_node (key : String) (entries : Entries) :
    (node entries).toType.quotedMember? key = (entries.lookup key).map toType := by
  rw [toType, TypeExpr.quotedMember?, members_eq_map]
  induction entries with
  | nil => rfl
  | cons e rest ih =>
    rw [List.map_cons, List.find?_cons, Keyed.lookup_cons]
    by_cases h : key = e.1
    · simp [h, Member.quotedField]
    · have hkey : (Member.quotedField e.1 e.2.toType).key ≠ ⟨key, true⟩ := by
        simp [Member.quotedField, Ne.symm h]
      rw [decide_eq_false hkey, if_neg h, ih]

/-- Keys lead to the same place in a tree and in its type. -/
lemma quoted?_toType {found : SegmentTree} (h : tree.at? path = some found) :
    tree.toType.quoted? path = some found.toType := by
  induction path generalizing tree with
  | nil =>
    cases h
    rfl
  | cons key rest ih =>
    cases tree with
    | leaf type => cases h
    | node entries =>
      obtain ⟨inner, hinner, hfound⟩ := Option.bind_eq_some_iff.mp h
      rw [TypeExpr.quoted?, quotedMember?_node, hinner, Option.map_some, Option.bind_some]
      exact ih hfound

/-! ### Order of first arrival -/

/-- The keys that a call brings to the node where it starts. -/
def arriving : RouteCall → List String
  | ([], leaves) => leaves.map Prod.fst
  | (segment :: _, _) => [segment]

/-- The calls that enter the node under a segment, after those that entered it before. -/
def enter (segment : String) (before : List RouteCall) : RouteCall → List RouteCall
  | ([], leaves) => if segment ∈ leaves.map Prod.fst then [] else before
  | (first :: rest, leaves) => if first = segment then before ++ [(rest, leaves)] else before

/-- The calls that entered the node under a segment since a leaf last stood in its place. -/
def entering (segment : String) (calls : List RouteCall) : List RouteCall :=
  calls.foldl (enter segment) []

/-- The same for the node that some keys lead to. -/
def enteringAlong : List String → List RouteCall → List RouteCall
  | [], calls => calls
  | segment :: rest, calls => enteringAlong rest (entering segment calls)

lemma ofCalls_concat (calls : List RouteCall) (call : RouteCall) :
    ofCalls (calls ++ [call]) = insert call.1 call.2 (ofCalls calls) := by
  rw [ofCalls, List.foldl_append]
  rfl

lemma lookup_setLeaf (entries : Entries) (leaf : String × TypeExpr) (key : String) :
    (setLeaf entries leaf).lookup key =
      if key = leaf.1 then some (.leaf leaf.2) else entries.lookup key := by
  rw [setLeaf, Keyed.lookup_put]

lemma under_foldl_setLeaf (segment : String) (leaves : List (String × TypeExpr))
    (entries : Entries) :
    under segment (leaves.foldl setLeaf entries) =
      if segment ∈ leaves.map Prod.fst then [] else under segment entries := by
  induction leaves generalizing entries with
  | nil => rfl
  | cons leaf rest ih =>
    rw [List.foldl_cons, ih]
    by_cases hrest : segment ∈ rest.map Prod.fst
    · simp [hrest]
    · by_cases hleaf : segment = leaf.1
      · simp [hleaf, under, lookup_setLeaf]
      · have hnone : segment ∉ (leaf :: rest).map Prod.fst := by simp_all
        rw [if_neg hrest, if_neg hnone]
        simp only [under, lookup_setLeaf, if_neg hleaf]

lemma under_ofCalls (segment : String) (calls : List RouteCall) :
    under segment (ofCalls calls) = ofCalls (entering segment calls) := by
  induction calls using List.reverseRecOn with
  | nil => rfl
  | append_singleton calls call ih =>
    rw [ofCalls_concat, entering, List.foldl_append]
    obtain ⟨segments, leaves⟩ := call
    cases segments with
    | nil =>
      rw [insert, under_foldl_setLeaf, ih]
      simp only [List.foldl_cons, List.foldl_nil, enter]
      split
      · rfl
      · rfl
    | cons first rest =>
      simp only [List.foldl_cons, List.foldl_nil, enter]
      by_cases h : first = segment
      · rw [if_pos h, ofCalls_concat, insert, h, ih]
        simp [under, Keyed.lookup_put, entering]
      · rw [if_neg h]
        have hne : ¬segment = first := fun e => h e.symm
        simp only [insert, under, Keyed.lookup_put, if_neg hne] at ih ⊢
        exact ih

lemma map_fst_ofCalls (calls : List RouteCall) :
    (ofCalls calls).map Prod.fst = (calls.flatMap arriving).eraseDups := by
  induction calls using List.reverseRecOn with
  | nil => rfl
  | append_singleton calls call ih =>
    rw [ofCalls_concat, List.flatMap_append, List.flatMap_singleton]
    obtain ⟨segments, leaves⟩ := call
    cases segments with
    | nil =>
      have hfold : leaves.foldl setLeaf (ofCalls calls) =
          (leaves.map fun leaf => (leaf.1, SegmentTree.leaf leaf.2)).foldl
            (fun kept e => Keyed.put Prod.fst e kept) (ofCalls calls) := by
        rw [List.foldl_map]
        rfl
      rw [insert, hfold, Keyed.map_foldl_put ih, List.map_map]
      rfl
    | cons segment rest => exact Keyed.map_put_eq_eraseDups ih

lemma eq_ofCalls_of_at? (h : (node (ofCalls calls)).at? path = some (.node entries)) :
    entries = ofCalls (enteringAlong path calls) := by
  induction path generalizing calls with
  | nil =>
    cases h
    rfl
  | cons key rest ih =>
    obtain ⟨inner, hinner, hfound⟩ := Option.bind_eq_some_iff.mp h
    cases inner with
    | leaf type => cases rest <;> cases hfound
    | node inner =>
      have hunder : under key (ofCalls calls) = inner := by simp [under, hinner]
      rw [← hunder, under_ofCalls] at hfound
      exact ih hfound

lemma map_fst_of_at? (h : (node (ofCalls calls)).at? path = some (.node entries)) :
    entries.map Prod.fst = ((enteringAlong path calls).flatMap arriving).eraseDups := by
  rw [eq_ofCalls_of_at? h, map_fst_ofCalls]

lemma nodup_of_at? (h : (node (ofCalls calls)).at? path = some (.node entries)) :
    (entries.map Prod.fst).Nodup := by
  rw [map_fst_of_at? h]
  exact List.nodup_eraseDups _

end SegmentTree

end ApiTypes
