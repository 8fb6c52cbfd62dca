import ApiTypes.Proofs.App.SegmentTree
import Mathlib.Data.List.Perm.Basic

/-!
What a run of insertions leaves at the end of some keys.

Two things can take a leaf away: another leaf at the same place, and segments that run on through
it. Without these the calls alone tell what stands where, whatever their order: a node where the
keys begin the segments of a call, a leaf where they are the segments and a key of one. The types of
two orders therefore differ in the order of keys only.
-/

namespace ApiTypes

namespace SegmentTree

variable {entries : Entries} {calls : List RouteCall} {call : RouteCall} {tree : SegmentTree}
  {segments path : List String} {leaves : List (String × TypeExpr)} {key : String}

/-! ### What stands at the end of some keys -/

inductive Spot where
  | node
  | leaf (type : TypeExpr)

def spot : SegmentTree → Spot
  | .leaf type => .leaf type
  | .node _ => .node

def spotAt? (path : List String) (tree : SegmentTree) : Option Spot := (tree.at? path).map spot

@[simp] lemma spotAt?_nil (tree : SegmentTree) : spotAt? [] tree = some tree.spot := rfl

lemma spotAt?_cons (key : String) (rest : List String) (entries : Entries) :
    spotAt? (key :: rest) (.node entries) = (entries.lookup key).bind (spotAt? rest) := by
  rw [spotAt?, at?, Option.map_bind]
  rfl

lemma spotAt?_cons_leaf (key : String) (rest : List String) (type : TypeExpr) :
    spotAt? (key :: rest) (.leaf type) = none := rfl

/-! ### Insertion -/

lemma spotAt?_insert_begin (leaves : List (String × TypeExpr)) (entries : Entries)
    (h : path <+: segments) :
    spotAt? path (.node (insert segments leaves entries)) = some .node := by
  induction segments generalizing path entries with
  | nil =>
    rw [List.prefix_nil.mp h]
    rfl
  | cons segment rest ih =>
    cases path with
    | nil => rfl
    | cons key path =>
      obtain ⟨rfl, hpath⟩ := List.cons_prefix_cons.mp h
      rw [spotAt?_cons, insert, Keyed.lookup_put, if_pos rfl, Option.bind_some]
      exact ih _ hpath

lemma lookup_foldl_setLeaf (hn : (leaves.map Prod.fst).Nodup) (key : String) (entries : Entries) :
    (leaves.foldl setLeaf entries).lookup key =
      ((leaves.lookup key).map SegmentTree.leaf).or (entries.lookup key) := by
  induction leaves generalizing entries with
  | nil => rfl
  | cons leaf rest ih =>
    rw [List.map_cons, List.nodup_cons] at hn
    rw [List.foldl_cons, ih hn.2, lookup_setLeaf, Keyed.lookup_cons]
    by_cases h : key = leaf.1
    · rw [if_pos h, if_pos h, h, Keyed.lookup_eq_none_iff.mpr hn.1]
      rfl
    · rw [if_neg h, if_neg h]

/-- What an insertion puts behind the segments. -/
lemma spotAt?_insert_leaf (hn : (leaves.map Prod.fst).Nodup) (entries : Entries) {type : TypeExpr}
    (hleaf : (key, type) ∈ leaves) (rest : List String) :
    spotAt? (segments ++ key :: rest) (.node (insert segments leaves entries)) =
      spotAt? rest (.leaf type) := by
  induction segments generalizing entries with
  | nil =>
    rw [List.nil_append, spotAt?_cons, insert, lookup_foldl_setLeaf hn,
      Keyed.lookup_of_mem hn hleaf]
    rfl
  | cons segment segments ih =>
    rw [List.cons_append, spotAt?_cons, insert, Keyed.lookup_put, if_pos rfl, Option.bind_some]
    exact ih _

/-- Everything else is as it was. -/
lemma spotAt?_insert_other (hn : (leaves.map Prod.fst).Nodup) (entries : Entries)
    (hpath : ¬path <+: segments)
    (hleaf : ∀ key type rest, (key, type) ∈ leaves → path ≠ segments ++ key :: rest) :
    spotAt? path (.node (insert segments leaves entries)) = spotAt? path (.node entries) := by
  induction segments generalizing path entries with
  | nil =>
    cases path with
    | nil => exact absurd List.nil_prefix hpath
    | cons key rest =>
      have hnone : leaves.lookup key = none := by
        refine Keyed.lookup_eq_none_iff.mpr fun hmem => ?_
        obtain ⟨⟨k, type⟩, hin, rfl⟩ := List.mem_map.mp hmem
        exact hleaf k type rest hin rfl
      rw [spotAt?_cons, spotAt?_cons, insert, lookup_foldl_setLeaf hn, hnone]
      rfl
  | cons segment segments ih =>
    cases path with
    | nil => exact absurd List.nil_prefix hpath
    | cons key rest =>
      rw [spotAt?_cons, spotAt?_cons, insert, Keyed.lookup_put]
      by_cases hkey : key = segment
      · subst hkey
        have hrest : ¬rest <+: segments := fun h => hpath (List.cons_prefix_cons.mpr ⟨rfl, h⟩)
        have hsame := ih (under key entries) hrest fun k type tail hin heq =>
          hleaf k type tail hin (by rw [heq, List.cons_append])
        rw [if_pos rfl, Option.bind_some, hsame]
        -- something follows, and it is not found behind a leaf or where there was nothing
        obtain ⟨next, tail, rfl⟩ : ∃ next tail, rest = next :: tail :=
          List.exists_cons_of_ne_nil fun hnil => hrest (hnil ▸ List.nil_prefix)
        cases hlookup : entries.lookup key with
        | none => simp [under, hlookup, spotAt?_cons]
        | some inner => cases inner <;> simp [under, hlookup, spotAt?_cons, spotAt?_cons_leaf]
      · rw [if_neg hkey]

/-! ### A run of insertions -/

/-- No call brings the same leaf as another one, or goes through a leaf of another one. -/
structure Apart (calls : List RouteCall) : Prop where
  segments : (calls.map Prod.fst).Nodup
  keys : ∀ call ∈ calls, (call.2.map Prod.fst).Nodup
  through : ∀ call ∈ calls, ∀ leaf ∈ call.2, ∀ other ∈ calls, ¬call.1 ++ [leaf.1] <+: other.1

/-- The keys lead to a leaf of a call. -/
def LeafOf (calls : List RouteCall) (path : List String) (type : TypeExpr) : Prop :=
  ∃ call ∈ calls, ∃ leaf ∈ call.2, path = call.1 ++ [leaf.1] ∧ type = leaf.2

def NodeOf (calls : List RouteCall) (path : List String) : Prop :=
  path = [] ∨ ∃ call ∈ calls, path <+: call.1

lemma Apart.init (h : Apart (calls ++ [call])) : Apart calls where
  segments := by
    have := h.segments
    rw [List.map_append, List.nodup_append] at this
    exact this.1
  keys c hc := h.keys c (List.mem_append_left _ hc)
  through c hc leaf hleaf d hd :=
    h.through c (List.mem_append_left _ hc) leaf hleaf d (List.mem_append_left _ hd)

lemma Apart.not_leafOf_of_nodeOf (h : Apart calls) {type : TypeExpr} (hnode : NodeOf calls path) :
    ¬LeafOf calls path type := by
  rintro ⟨call, hcall, leaf, hleaf, rfl, -⟩
  rcases hnode with hnil | ⟨other, hother, hbegin⟩
  · simp at hnil
  · exact h.through call hcall leaf hleaf other hother hbegin

/-- Two leaves at the end of the same keys are one. -/
lemma Apart.leafOf_unique (h : Apart calls) {type type' : TypeExpr} (hl : LeafOf calls path type)
    (hl' : LeafOf calls path type') : type = type' := by
  obtain ⟨call, hcall, leaf, hleaf, rfl, rfl⟩ := hl
  obtain ⟨call', hcall', leaf', hleaf', heq, rfl⟩ := hl'
  obtain ⟨hsegments, hkey⟩ := List.append_inj' heq rfl
  obtain rfl : call = call' := List.inj_on_of_nodup_map h.segments hcall hcall' hsegments
  have hkey : leaf.1 = leaf'.1 := by simpa using hkey
  rw [List.inj_on_of_nodup_map (h.keys call hcall) hleaf hleaf' hkey]

/-- Nothing stands behind a leaf of a call. -/
lemma Apart.nothing_behind_leaf (h : Apart calls) (hcall : call ∈ calls) {leaf : String × TypeExpr}
    (hleaf : leaf ∈ call.2) (next : String) (rest : List String) :
    ¬NodeOf calls (call.1 ++ leaf.1 :: next :: rest) ∧
      ∀ type, ¬LeafOf calls (call.1 ++ leaf.1 :: next :: rest) type := by
  have hbegins : call.1 ++ [leaf.1] <+: call.1 ++ leaf.1 :: next :: rest := by simp
  refine ⟨?_, fun type => ?_⟩
  · rintro (hnil | ⟨other, hother, hbegin⟩)
    · simp at hnil
    · exact h.through call hcall leaf hleaf other hother (hbegins.trans hbegin)
  · rintro ⟨other, hother, leaf', -, heq, -⟩
    refine h.through call hcall leaf hleaf other hother
      (List.prefix_of_prefix_length_le hbegins ⟨[leaf'.1], heq.symm⟩ ?_)
    have hlength := congrArg List.length heq
    simp only [List.length_append, List.length_cons, List.length_nil] at hlength ⊢
    omega

/-- The three things that can stand at the end of some keys, as the calls tell. -/
structure Told (calls : List RouteCall) (path : List String) (found : Option Spot) : Prop where
  node : NodeOf calls path → found = some .node
  leaf : ∀ type, LeafOf calls path type → found = some (.leaf type)
  nothing : ¬NodeOf calls path → (∀ type, ¬LeafOf calls path type) → found = none

lemma Told.congr {others : List RouteCall} {found : Option Spot} (h : Told calls path found)
    (hnode : NodeOf calls path ↔ NodeOf others path)
    (hleaf : ∀ type, LeafOf calls path type ↔ LeafOf others path type) :
    Told others path found where
  node hn := h.node (hnode.mpr hn)
  leaf type hl := h.leaf type ((hleaf type).mpr hl)
  nothing hn hl := h.nothing (hn ∘ hnode.mp) fun type => hl type ∘ (hleaf type).mp

lemma Told.cases {found : Option Spot} (h : Told calls path found) :
    (NodeOf calls path ∧ found = some .node) ∨
      (∃ type, LeafOf calls path type ∧ found = some (.leaf type)) ∨
      (¬NodeOf calls path ∧ (∀ type, ¬LeafOf calls path type) ∧ found = none) := by
  by_cases hn : NodeOf calls path
  · exact Or.inl ⟨hn, h.node hn⟩
  · by_cases hl : ∃ type, LeafOf calls path type
    · obtain ⟨type, ht⟩ := hl
      exact Or.inr (Or.inl ⟨type, ht, h.leaf type ht⟩)
    · have hnone : ∀ type, ¬LeafOf calls path type := fun type ht => hl ⟨type, ht⟩
      exact Or.inr (Or.inr ⟨hn, hnone, h.nothing hn hnone⟩)

lemma Told.unique {found found' : Option Spot} (h : Told calls path found)
    (h' : Told calls path found') : found = found' := by
  rcases h.cases with ⟨hn, heq⟩ | ⟨type, hl, heq⟩ | ⟨hn, hl, heq⟩
  · rw [heq, h'.node hn]
  · rw [heq, h'.leaf type hl]
  · rw [heq, h'.nothing hn hl]

lemma nodeOf_concat : NodeOf (calls ++ [call]) path ↔ NodeOf calls path ∨ path <+: call.1 := by
  simp only [NodeOf, List.mem_append, List.mem_singleton, or_and_right, exists_or, exists_eq_left,
    or_assoc]

lemma leafOf_concat {type : TypeExpr} : LeafOf (calls ++ [call]) path type ↔
    LeafOf calls path type ∨ ∃ leaf ∈ call.2, path = call.1 ++ [leaf.1] ∧ type = leaf.2 := by
  simp only [LeafOf, List.mem_append, List.mem_singleton, or_and_right, exists_or, exists_eq_left]

lemma Apart.told (h : Apart calls) (path : List String) :
    Told calls path (spotAt? path (.node (ofCalls calls))) := by
  induction calls using List.reverseRecOn with
  | nil =>
    refine ⟨?_, ?_, fun hnode _ => ?_⟩
    · rintro (rfl | ⟨call, hcall, -⟩)
      · rfl
      · simp at hcall
    · rintro type ⟨call, hcall, -⟩
      simp at hcall
    · cases path with
      | nil => exact absurd (Or.inl rfl) hnode
      | cons key rest => rfl
  | append_singleton calls call ih =>
    have hmem : call ∈ calls ++ [call] := by simp
    have hkeys := h.keys call hmem
    rw [ofCalls_concat]
    by_cases hbegin : path <+: call.1
    · -- on the way of the last call
      have hnode : NodeOf (calls ++ [call]) path := Or.inr ⟨call, hmem, hbegin⟩
      rw [spotAt?_insert_begin _ _ hbegin]
      exact ⟨fun _ => rfl, fun type hleaf => absurd hleaf (h.not_leafOf_of_nodeOf hnode),
        fun hnot => absurd hnode hnot⟩
    · by_cases hleaf : ∃ leaf ∈ call.2, ∃ rest, path = call.1 ++ leaf.1 :: rest
      · obtain ⟨leaf, hin, rest, rfl⟩ := hleaf
        rw [spotAt?_insert_leaf hkeys _ hin]
        cases rest with
        | nil =>
          -- a leaf of the last call
          have hself : LeafOf (calls ++ [call]) (call.1 ++ [leaf.1]) leaf.2 :=
            ⟨call, hmem, leaf, hin, rfl, rfl⟩
          refine ⟨fun hnode => absurd hself (h.not_leafOf_of_nodeOf hnode), fun type hother => ?_,
            fun _ hnot => absurd hself (hnot leaf.2)⟩
          rw [h.leafOf_unique hother hself]
          rfl
        | cons next rest =>
          obtain ⟨hnode, hleaf⟩ := h.nothing_behind_leaf hmem hin next rest
          exact ⟨fun hn => absurd hn hnode, fun type hl => absurd hl (hleaf type), fun _ _ => rfl⟩
      · -- the last call does not matter
        have hother : ∀ key type rest, (key, type) ∈ call.2 → path ≠ call.1 ++ key :: rest :=
          fun key type rest hin heq => hleaf ⟨(key, type), hin, rest, heq⟩
        have hnodes : NodeOf calls path ↔ NodeOf (calls ++ [call]) path :=
          (nodeOf_concat.trans (or_iff_left hbegin)).symm
        have hleaves : ∀ type, LeafOf calls path type ↔ LeafOf (calls ++ [call]) path type := by
          refine fun type => (leafOf_concat.trans (or_iff_left ?_)).symm
          rintro ⟨leaf, hin, heq, -⟩
          exact hleaf ⟨leaf, hin, [], heq⟩
        rw [spotAt?_insert_other hkeys _ hbegin hother]
        exact (ih h.init).congr hnodes hleaves

lemma Apart.perm {others : List RouteCall} (h : Apart calls) (hperm : others.Perm calls) :
    Apart others where
  segments := (hperm.map Prod.fst).nodup_iff.mpr h.segments
  keys call hcall := h.keys call (hperm.mem_iff.mp hcall)
  through call hcall leaf hleaf other hother :=
    h.through call (hperm.mem_iff.mp hcall) leaf hleaf other (hperm.mem_iff.mp hother)

/-- The order of the calls does not matter for what stands at the end of some keys. -/
lemma Apart.spotAt?_perm {others : List RouteCall} (h : Apart calls) (hperm : others.Perm calls)
    (path : List String) :
    spotAt? path (.node (ofCalls calls)) = spotAt? path (.node (ofCalls others)) := by
  refine (h.told path).unique (((h.perm hperm).told path).congr ?_ fun type => ?_)
  · simp only [NodeOf, hperm.mem_iff]
  · simp only [LeafOf, hperm.mem_iff]

lemma Apart.leaf_iff (h : Apart calls) (path : List String) (type : TypeExpr) :
    (SegmentTree.node (ofCalls calls)).at? path = some (.leaf type) ↔ LeafOf calls path type := by
  have hspot : (SegmentTree.node (ofCalls calls)).at? path = some (.leaf type) ↔
      spotAt? path (.node (ofCalls calls)) = some (.leaf type) := by
    rw [spotAt?, Option.map_eq_some_iff]
    refine ⟨fun h => ⟨_, h, rfl⟩, ?_⟩
    rintro ⟨found, hfound, hleaf⟩
    cases found with
    | leaf t =>
      cases hleaf
      exact hfound
    | node entries => cases hleaf
  refine hspot.trans ⟨fun hfound => ?_, (h.told path).leaf type⟩
  rcases (h.told path).cases with ⟨-, heq⟩ | ⟨t, ht, heq⟩ | ⟨-, -, heq⟩
  · cases heq.symm.trans hfound
  · cases heq.symm.trans hfound
    exact ht
  · cases heq.symm.trans hfound

theorem induction {motive : SegmentTree → Prop} (leaf : ∀ type, motive (.leaf type))
    (node : ∀ entries, (∀ e ∈ entries, motive e.2) → motive (.node entries))
    (tree : SegmentTree) : motive tree := by
  match tree with
  | .leaf type => exact leaf type
  | .node entries =>
    refine node entries fun e he => ?_
    have := List.sizeOf_lt_of_mem he
    obtain ⟨key, inner⟩ := e
    exact induction leaf node inner
termination_by sizeOf tree
decreasing_by simp_wf; simp only [Prod.mk.sizeOf_spec] at *; omega

end SegmentTree

/-! ### Order of keys -/

/-- The same type but for the order of members, at every depth. -/
inductive TypeExpr.Reordered : TypeExpr → TypeExpr → Prop where
  | same (type : TypeExpr) : Reordered type type
  | object {layout : ObjectLayout} {members members' : List (Member TypeExpr)}
      (keys : (members.map Member.key).Perm (members'.map Member.key))
      (optional : ∀ m ∈ members, ∀ m' ∈ members', m.key = m'.key → m.optional = m'.optional)
      (types : ∀ m ∈ members, ∀ m' ∈ members', m.key = m'.key → Reordered m.type m'.type) :
      Reordered (.object layout members) (.object layout members')

namespace SegmentTree

/-- No node has a key twice. -/
def Distinct (tree : SegmentTree) : Prop :=
  ∀ path entries, tree.at? path = some (.node entries) → (entries.map Prod.fst).Nodup

lemma mem_keys_iff {entries : Entries} {key : String} :
    key ∈ entries.map Prod.fst ↔ spotAt? [key] (.node entries) ≠ none := by
  rw [spotAt?_cons]
  cases h : entries.lookup key with
  | none => simpa using Keyed.lookup_eq_none_iff.mp h
  | some inner =>
    refine iff_of_true ?_ (by simp)
    exact List.mem_map.mpr ⟨(key, inner), Keyed.mem_of_lookup h, rfl⟩

lemma map_key_members (entries : Entries) :
    (members entries).map Member.key = (entries.map Prod.fst).map fun key => ⟨key, true⟩ := by
  rw [members_eq_map, List.map_map, List.map_map]
  rfl

lemma mem_members {entries : Entries} {m : Member TypeExpr} :
    m ∈ members entries ↔ ∃ e ∈ entries, .quotedField e.1 e.2.toType = m := by
  rw [members_eq_map, List.mem_map]

lemma Distinct.child {entries : Entries} {key : String} {inner : SegmentTree}
    (h : (node entries).Distinct) (hin : entries.lookup key = some inner) : inner.Distinct := by
  intro path found hpath
  refine h (key :: path) found ?_
  rwa [at?, hin, Option.bind_some]

lemma reordered_of_spotAt? {tree other : SegmentTree} (hd : tree.Distinct) (hd' : other.Distinct)
    (h : ∀ path, spotAt? path tree = spotAt? path other) :
    TypeExpr.Reordered tree.toType other.toType := by
  induction tree using SegmentTree.induction generalizing other with
  | leaf type =>
    cases other with
    | leaf type' =>
      cases h []
      exact .same type
    | node entries => cases h []
  | node entries ih =>
    cases other with
    | leaf type => cases h []
    | node entries' =>
      have hn := hd [] entries rfl
      have hn' := hd' [] entries' rfl
      have hkeys : (entries.map Prod.fst).Perm (entries'.map Prod.fst) :=
        (List.perm_ext_iff_of_nodup hn hn').mpr fun key => by
          rw [mem_keys_iff, mem_keys_iff, h]
      rw [toType, toType]
      refine .object ?_ ?_ ?_
      · rw [map_key_members, map_key_members]
        exact hkeys.map _
      · intro m hm m' hm' _
        obtain ⟨e, -, rfl⟩ := mem_members.mp hm
        obtain ⟨e', -, rfl⟩ := mem_members.mp hm'
        rfl
      · intro m hm m' hm' hkey
        obtain ⟨⟨key, inner⟩, he, rfl⟩ := mem_members.mp hm
        obtain ⟨⟨key', inner'⟩, he', rfl⟩ := mem_members.mp hm'
        obtain rfl : key = key' := congrArg Key.text hkey
        have hin := Keyed.lookup_of_mem hn he
        have hin' := Keyed.lookup_of_mem hn' he'
        refine ih _ he (hd.child hin) (hd'.child hin') fun path => ?_
        have hpath := h (key :: path)
        rwa [spotAt?_cons, spotAt?_cons, hin, hin', Option.bind_some, Option.bind_some] at hpath

lemma distinct_ofCalls (calls : List RouteCall) : Distinct (.node (ofCalls calls)) :=
  fun _ _ hpath => nodup_of_at? hpath

/-! ### Types without quoted keys at the leaves -/

/-- The type at the end of some quoted keys is that of what stands there in the tree, if no key can
be followed into a leaf. -/
lemma quoted?_toType_eq {tree : SegmentTree}
    (hleaf : ∀ path type, tree.at? path = some (.leaf type) → ∀ key, type.quotedMember? key = none)
    (path : List String) : tree.toType.quoted? path = (tree.at? path).map toType := by
  induction path generalizing tree with
  | nil => rfl
  | cons key rest ih =>
    cases tree with
    | leaf type =>
      rw [TypeExpr.quoted?, toType, hleaf [] type rfl]
      rfl
    | node entries =>
      rw [TypeExpr.quoted?, quotedMember?_node, at?]
      cases hin : entries.lookup key with
      | none => rfl
      | some inner =>
        rw [Option.map_some, Option.bind_some, Option.bind_some]
        refine ih fun path type hpath => hleaf (key :: path) type ?_
        rwa [at?, hin, Option.bind_some]

end SegmentTree

namespace TypeExpr

/-- A block object with every key quoted, as the nodes of a route tree are. -/
def isNode : TypeExpr → Bool
  | .object .block members => members.all fun m => m.key.quoted
  | _ => false

end TypeExpr

lemma SegmentTree.isNode_toType (entries : Entries) : (node entries).toType.isNode = true := by
  rw [toType, TypeExpr.isNode, members_eq_map, List.all_map]
  simp [Member.quotedField]

end ApiTypes
