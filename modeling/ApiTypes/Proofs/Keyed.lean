import ApiTypes.Keyed
import ApiTypes.Proofs.List
import Mathlib.Tactic.Common

/-!
What lists with keys hold: only items that were put there, one for each key, in the order in which
the keys first arrived.
-/

namespace ApiTypes.Keyed

variable {α κ : Type} [DecidableEq κ] {key : α → κ} {x y : α} {xs ys : List α}

lemma mem_of_mem_put (h : y ∈ put key x ys) : y = x ∨ y ∈ ys := by
  induction ys with
  | nil => exact Or.inl (by simpa using h)
  | cons z zs ih =>
    by_cases hz : key z = key x
    · rw [put_cons_eq hz] at h
      rcases List.mem_cons.mp h with rfl | h
      · exact Or.inl rfl
      · exact Or.inr (List.mem_cons_of_mem _ h)
    · rw [put_cons_ne hz] at h
      rcases List.mem_cons.mp h with rfl | h
      · exact Or.inr List.mem_cons_self
      · exact (ih h).imp_right (List.mem_cons_of_mem _)

lemma mem_of_mem_gather (h : y ∈ gather key xs) : y ∈ xs := by
  -- along the fold, what is kept comes from the start or from the items put so far
  have hfold : ∀ kept : List α, y ∈ xs.foldl (fun kept x => put key x kept) kept →
      y ∈ kept ∨ y ∈ xs := by
    clear h
    induction xs with
    | nil => exact fun kept h => Or.inl h
    | cons x xs ih =>
      intro kept h
      rcases ih _ h with h | h
      · rcases mem_of_mem_put h with rfl | h
        · exact Or.inr List.mem_cons_self
        · exact Or.inl h
      · exact Or.inr (List.mem_cons_of_mem _ h)
  exact (hfold [] h).resolve_left (by simp)

/-! ### Keys -/

lemma map_put (x : α) (ys : List α) : (put key x ys).map key =
    if key x ∈ ys.map key then ys.map key else ys.map key ++ [key x] := by
  split
  · next h => exact map_put_of_mem h
  · next h => rw [put_of_not_mem h, List.map_append, List.map_singleton]

lemma nodup_map_put (h : (ys.map key).Nodup) : ((put key x ys).map key).Nodup := by
  rw [map_put]
  split
  · exact h
  · next hx => exact List.nodup_append_comm.mp (List.nodup_cons.mpr ⟨hx, h⟩)

lemma map_put_eq_eraseDups {as : List κ} (h : ys.map key = as.eraseDups) :
    (put key x ys).map key = (as ++ [key x]).eraseDups := by
  rw [map_put, List.eraseDups_concat, h]
  simp only [List.mem_eraseDups]

lemma map_foldl_put {as : List κ} (h : ys.map key = as.eraseDups) :
    (xs.foldl (fun kept x => put key x kept) ys).map key = (as ++ xs.map key).eraseDups := by
  induction xs generalizing ys as with
  | nil => simpa using h
  | cons x xs ih =>
    rw [List.foldl_cons, ih (map_put_eq_eraseDups h), List.append_assoc]
    rfl

/-- The keys of gathered items stand in the order in which they first arrived. -/
lemma map_gather (xs : List α) : (gather key xs).map key = (xs.map key).eraseDups := by
  have hnone : ([] : List α).map key = ([] : List κ).eraseDups := rfl
  exact map_foldl_put hnone

lemma mem_map_gather {k : κ} {xs : List α} : k ∈ (gather key xs).map key ↔ k ∈ xs.map key := by
  rw [map_gather, List.mem_eraseDups]

lemma nodup_map_gather (xs : List α) : ((gather key xs).map key).Nodup := by
  rw [map_gather]
  exact List.nodup_eraseDups _

/-- One list has every item of another once, in the order in which the items first stand there. -/
structure FirstSeen (as bs : List κ) : Prop where
  nodup : bs.Nodup
  mem_iff : ∀ b, b ∈ bs ↔ b ∈ as
  ordered : bs.Pairwise fun b b' => as.idxOf b < as.idxOf b'

lemma firstSeen_eraseDups (as : List κ) : FirstSeen as as.eraseDups := by
  refine ⟨List.nodup_eraseDups as, fun b => List.mem_eraseDups, ?_⟩
  induction as using List.reverseRecOn with
  | nil => exact List.Pairwise.nil
  | append_singleton as a ih =>
    -- a further item at the end moves none of the first places
    have hinit : as.eraseDups.Pairwise fun b b' => (as ++ [a]).idxOf b < (as ++ [a]).idxOf b' := by
      refine ih.imp_of_mem fun {b b'} hb hb' hlt => ?_
      rw [List.mem_eraseDups] at hb hb'
      rwa [List.idxOf_append_of_mem hb, List.idxOf_append_of_mem hb']
    rw [List.eraseDups_concat]
    split
    · exact hinit
    · next hnew =>
      refine List.pairwise_append.mpr ⟨hinit, List.pairwise_singleton _ _, fun b hb a' ha' => ?_⟩
      rw [List.mem_eraseDups] at hb
      rw [List.mem_singleton.mp ha', List.idxOf_append_of_mem hb, List.idxOf_append_of_notMem hnew]
      have := List.idxOf_lt_length_of_mem hb
      omega

/-- The order and the items leave no choice. -/
lemma FirstSeen.unique {as bs cs : List κ} (hb : FirstSeen as bs) (hc : FirstSeen as cs) :
    bs = cs := by
  have hperm : bs.Perm cs := (List.perm_ext_iff_of_nodup hb.nodup hc.nodup).mpr fun b =>
    (hb.mem_iff b).trans (hc.mem_iff b).symm
  exact hperm.eq_of_pairwise (fun b b' _ _ h h' => absurd h (Nat.lt_asymm h')) hb.ordered hc.ordered

lemma firstSeen_gather (xs : List α) : FirstSeen (xs.map key) ((gather key xs).map key) := by
  rw [map_gather]
  exact firstSeen_eraseDups _

lemma gather_eq_nil_iff : gather key xs = [] ↔ xs = [] := by
  constructor
  · intro h
    refine List.eq_nil_iff_forall_not_mem.mpr fun x hx => ?_
    have hkey := mem_map_gather.mpr (List.mem_map_of_mem (f := key) hx)
    simp [h] at hkey
  · rintro rfl
    rfl

lemma gather_of_nodup (h : (xs.map key).Nodup) : gather key xs = xs := by
  have hfold : ∀ kept : List α, ((kept ++ xs).map key).Nodup →
      xs.foldl (fun kept x => put key x kept) kept = kept ++ xs := by
    clear h
    induction xs with
    | nil => simp
    | cons x xs ih =>
      intro kept h
      have hx : key x ∉ kept.map key := by
        rw [List.map_append, List.nodup_append] at h
        exact fun hmem => h.2.2 (key x) hmem (key x) (by simp) rfl
      rw [List.append_cons] at h ⊢
      rw [List.foldl_cons, put_of_not_mem hx, ih _ h]
  exact hfold [] h

/-! ### Items by key -/

lemma find?_put (x : α) (k : κ) (ys : List α) :
    (put key x ys).find? (fun y => key y = k) =
      if key x = k then some x else ys.find? fun y => key y = k := by
  induction ys with
  | nil => by_cases hx : key x = k <;> simp [hx]
  | cons y ys ih =>
    by_cases hy : key y = key x
    · rw [put_cons_eq hy]
      by_cases hx : key x = k <;> simp [hx, hy]
    · rw [put_cons_ne hy, List.find?_cons, List.find?_cons, ih]
      by_cases hx : key x = k
      · simp [hx, hx ▸ hy]
      · simp [hx]

lemma gather_concat (xs : List α) (x : α) :
    gather key (xs ++ [x]) = put key x (gather key xs) := by
  rw [gather, List.foldl_append]
  rfl

/-- The last item with a key is the one that is kept. -/
lemma find?_gather (xs : List α) (k : κ) :
    (gather key xs).find? (fun x => key x = k) = xs.reverse.find? fun x => key x = k := by
  induction xs using List.reverseRecOn with
  | nil => rfl
  | append_singleton xs x ih =>
    rw [gather_concat, find?_put, ih, List.reverse_concat, List.find?_cons]
    by_cases hx : key x = k <;> simp [hx]

/-- With distinct keys every item is found by its key. -/
lemma find?_of_mem (hn : (xs.map key).Nodup) (h : x ∈ xs) :
    xs.find? (fun y => key y = key x) = some x := by
  obtain ⟨y, hy⟩ : ∃ y, xs.find? (fun y => key y = key x) = some y :=
    Option.isSome_iff_exists.mp (List.find?_isSome.mpr ⟨x, h, by simp⟩)
  have hkey : key y = key x := by simpa using List.find?_some hy
  rw [hy, List.inj_on_of_nodup_map hn (List.mem_of_find?_eq_some hy) h hkey]

/-- An item is kept just when it is the last one with its key. -/
lemma mem_gather_iff :
    x ∈ gather key xs ↔ xs.reverse.find? (fun y => key y = key x) = some x := by
  rw [← find?_gather]
  exact ⟨find?_of_mem (nodup_map_gather xs), List.mem_of_find?_eq_some⟩

/-- An item is kept just when no later one has its key. -/
lemma mem_gather_iff_last : x ∈ gather key xs ↔
    ∃ before after, xs = before ++ x :: after ∧ ∀ y ∈ after, key y ≠ key x := by
  rw [mem_gather_iff, List.find?_eq_some_iff_append]
  constructor
  · rintro ⟨-, after, before, hxs, hafter⟩
    refine ⟨before.reverse, after.reverse, ?_, fun y hy => ?_⟩
    · rw [← List.reverse_reverse xs, hxs]
      simp
    · simpa using hafter y (List.mem_reverse.mp hy)
  · rintro ⟨before, after, rfl, hafter⟩
    refine ⟨by simp, after.reverse, before.reverse, by simp, fun y hy => ?_⟩
    simpa using hafter y (List.mem_reverse.mp hy)

/-! ### Some of the items, and other items for them -/

/-- Putting an item and then leaving out keys, or the other way round. -/
lemma filter_put {p : α → Bool} (hp : ∀ a b, key a = key b → p a = p b) (x : α) (ys : List α) :
    (put key x ys).filter p = if p x then put key x (ys.filter p) else ys.filter p := by
  induction ys with
  | nil => by_cases hx : p x = true <;> simp [hx]
  | cons y ys ih =>
    by_cases hy : key y = key x
    · have hsame := hp y x hy
      rw [put_cons_eq hy]
      by_cases hx : p x = true
      · rw [List.filter_cons_of_pos hx, List.filter_cons_of_pos (hsame.trans hx), if_pos hx,
          put_cons_eq hy]
      · rw [List.filter_cons_of_neg hx, List.filter_cons_of_neg (hsame ▸ hx), if_neg hx]
    · rw [put_cons_ne hy, List.filter_cons, List.filter_cons, ih]
      by_cases hkept : p y = true
      · rw [if_pos hkept, if_pos hkept, put_cons_ne hy]
        split <;> rfl
      · rw [if_neg hkept, if_neg hkept]

lemma filter_gather {p : α → Bool} (hp : ∀ a b, key a = key b → p a = p b) (xs : List α) :
    (gather key xs).filter p = gather key (xs.filter p) := by
  induction xs using List.reverseRecOn with
  | nil => rfl
  | append_singleton xs x ih =>
    rw [gather_concat, filter_put hp, ih, List.filter_append]
    by_cases hx : p x = true <;> simp [hx, gather_concat]

/-- The last item with the key of the first comes first. -/
lemma head?_gather (xs : List α) : (gather key xs).head? =
    xs.head?.bind fun x => xs.reverse.find? fun y => key y = key x := by
  cases xs with
  | nil => rfl
  | cons x xs =>
    have hne : gather key (x :: xs) ≠ [] := by simp [gather_eq_nil_iff]
    obtain ⟨y, ys, hcons⟩ := List.exists_cons_of_ne_nil hne
    have hkey : key y = key x := by
      have hkeys : (gather key (x :: xs)).map key = ((x :: xs).map key).eraseDups := map_gather _
      rw [hcons, List.map_cons, List.map_cons, List.eraseDups_cons, List.cons.injEq] at hkeys
      exact hkeys.1
    rw [List.head?_cons, Option.bind_some, ← find?_gather, hcons, List.head?_cons,
      List.find?_cons_of_pos (by simpa using hkey)]

/-- What is found first among the gathered items, if keys decide what is looked for. -/
lemma find?_gather_of_key {p : α → Bool} (hp : ∀ a b, key a = key b → p a = p b) (xs : List α) :
    (gather key xs).find? p =
      (xs.find? p).bind fun x => xs.reverse.find? fun y => key y = key x := by
  rw [← List.head?_filter, filter_gather hp, head?_gather, List.head?_filter]
  cases hx : xs.find? p with
  | none => rfl
  | some x =>
    have hpx : p x = true := List.find?_some hx
    rw [Option.bind_some, Option.bind_some, ← List.filter_reverse, List.find?_filter]
    refine congrArg (xs.reverse.find? ·) (funext fun y => ?_)
    by_cases hy : key y = key x
    · simp [hy, hp y x hy, hpx]
    · simp [hy]

section

variable {β κ' : Type} [DecidableEq κ'] {key' : β → κ'} {f : α → β}

lemma put_map (h : ∀ y ∈ ys, key' (f y) = key' (f x) ↔ key y = key x) :
    put key' (f x) (ys.map f) = (put key x ys).map f := by
  induction ys with
  | nil => rfl
  | cons y ys ih =>
    have htail := ih fun z hz => h z (List.mem_cons_of_mem y hz)
    have hhead := h y List.mem_cons_self
    by_cases hy : key y = key x
    · rw [put_cons_eq hy, List.map_cons, put_cons_eq (hhead.mpr hy), List.map_cons]
    · rw [put_cons_ne hy, List.map_cons, put_cons_ne (mt hhead.mp hy), htail, List.map_cons]

/-- Other items that agree in their keys just when the first ones do are gathered alike. -/
lemma gather_map (h : ∀ x ∈ xs, ∀ y ∈ xs, key' (f x) = key' (f y) ↔ key x = key y) :
    gather key' (xs.map f) = (gather key xs).map f := by
  induction xs using List.reverseRecOn with
  | nil => rfl
  | append_singleton xs x ih =>
    have hinit : gather key' (xs.map f) = (gather key xs).map f :=
      ih fun a ha b hb => h a (List.mem_append_left _ ha) b (List.mem_append_left _ hb)
    rw [List.map_append, List.map_singleton, gather_concat, gather_concat, hinit]
    refine put_map fun y hy => h y (List.mem_append_left _ (mem_of_mem_gather hy)) x ?_
    simp

/-- Gathering the items first does not change what is gathered of the others. -/
lemma gather_map_gather (h : ∀ x ∈ xs, ∀ y ∈ xs, key' (f x) = key' (f y) ↔ key x = key y) :
    gather key' ((gather key xs).map f) = gather key' (xs.map f) := by
  have honce : gather key (gather key xs) = gather key xs := gather_of_nodup (nodup_map_gather xs)
  rw [gather_map h, gather_map fun a ha b hb => h a (mem_of_mem_gather ha) b (mem_of_mem_gather hb),
    honce]

end

section

variable {β κ' : Type} [DecidableEq κ'] {key' : β → κ'} {f : α → Option β}

/-- Putting an item and then choosing others, or the other way round. -/
lemma filterMap_put (hsome : ∀ a b, key a = key b → (f a).isSome = (f b).isSome)
    (hkey : ∀ a b a' b', f a = some a' → f b = some b' → (key' a' = key' b' ↔ key a = key b))
    (x : α) (ys : List α) :
    (put key x ys).filterMap f =
      (f x).elim (ys.filterMap f) fun b => put key' b (ys.filterMap f) := by
  induction ys with
  | nil => cases hx : f x <;> simp [hx]
  | cons y ys ih =>
    by_cases hy : key y = key x
    · have hsame := hsome y x hy
      rw [put_cons_eq hy]
      cases hfx : f x with
      | none =>
        have hfy : f y = none := by simpa [hfx] using hsame
        rw [List.filterMap_cons_none hfx, List.filterMap_cons_none hfy, Option.elim_none]
      | some b =>
        obtain ⟨c, hfy⟩ : ∃ c, f y = some c := by
          rw [hfx] at hsame
          exact Option.isSome_iff_exists.mp hsame
        rw [List.filterMap_cons_some hfx, List.filterMap_cons_some hfy, Option.elim_some,
          put_cons_eq ((hkey y x c b hfy hfx).mpr hy)]
    · rw [put_cons_ne hy]
      cases hfy : f y with
      | none => rw [List.filterMap_cons_none hfy, List.filterMap_cons_none hfy, ih]
      | some c =>
        rw [List.filterMap_cons_some hfy, List.filterMap_cons_some hfy, ih]
        cases hfx : f x with
        | none => rfl
        | some b => exact (put_cons_ne (mt (hkey y x c b hfy hfx).mp hy) _).symm

/-- Some of the items and other items for them are gathered alike. -/
lemma filterMap_gather (hsome : ∀ a b, key a = key b → (f a).isSome = (f b).isSome)
    (hkey : ∀ a b a' b', f a = some a' → f b = some b' → (key' a' = key' b' ↔ key a = key b))
    (xs : List α) : (gather key xs).filterMap f = gather key' (xs.filterMap f) := by
  induction xs using List.reverseRecOn with
  | nil => rfl
  | append_singleton xs x ih =>
    rw [gather_concat, filterMap_put hsome hkey, ih, List.filterMap_append]
    cases hx : f x with
    | none => simp [hx]
    | some b => simp [hx, gather_concat]

end

/-! ### Values -/

section

variable {β γ : Type} {k j : κ} {v : β} {entries : List (κ × β)}

lemma lookup_cons [BEq κ] [LawfulBEq κ] (j : κ) (e : κ × β) (rest : List (κ × β)) :
    (e :: rest).lookup j = if j = e.1 then some e.2 else rest.lookup j := by
  rw [List.lookup_cons]
  by_cases h : j = e.1
  · rw [if_pos h, beq_iff_eq.mpr h]
  · rw [if_neg h, beq_false_of_ne h]

lemma lookup_put [BEq κ] [LawfulBEq κ] (k j : κ) (v : β) (entries : List (κ × β)) :
    (put Prod.fst (k, v) entries).lookup j = if j = k then some v else entries.lookup j := by
  induction entries with
  | nil => rw [put_nil, lookup_cons]
  | cons e rest ih =>
    by_cases he : e.1 = k
    · rw [put_cons_eq he, lookup_cons, lookup_cons, he]
      split <;> rfl
    · rw [put_cons_ne he, lookup_cons, lookup_cons, ih]
      by_cases hj : j = k
      · rw [if_pos hj, if_neg fun h => he (h.symm.trans hj), if_pos hj]
      · rw [if_neg hj, if_neg hj]

lemma put_of_lookup (h : entries.lookup k = some v) : put Prod.fst (k, v) entries = entries := by
  induction entries with
  | nil => cases h
  | cons e rest ih =>
    rw [lookup_cons] at h
    by_cases he : e.1 = k
    · rw [if_pos he.symm] at h
      cases h
      rw [put_cons_eq he, ← he]
    · rw [if_neg (Ne.symm he)] at h
      rw [put_cons_ne he, ih h]

lemma lookup_map_snd (f : β → γ) (k : κ) (entries : List (κ × β)) :
    (entries.map fun e => (e.1, f e.2)).lookup k = (entries.lookup k).map f := by
  induction entries with
  | nil => rfl
  | cons e rest ih =>
    rw [List.map_cons, lookup_cons, lookup_cons, ih]
    split <;> rfl

lemma mem_of_lookup (h : entries.lookup k = some v) : (k, v) ∈ entries := by
  obtain ⟨before, after, rfl, -⟩ := List.lookup_eq_some_iff.mp h
  simp

/-- With distinct keys every entry is found under its key. -/
lemma lookup_of_mem (hn : (entries.map Prod.fst).Nodup) (h : (k, v) ∈ entries) :
    entries.lookup k = some v := by
  induction entries with
  | nil => simp at h
  | cons e rest ih =>
    rw [List.map_cons, List.nodup_cons] at hn
    rw [lookup_cons]
    rcases List.mem_cons.mp h with rfl | hmem
    · rw [if_pos rfl]
    · rw [if_neg, ih hn.2 hmem]
      rintro rfl
      exact hn.1 (List.mem_map.mpr ⟨_, hmem, rfl⟩)

lemma lookup_eq_none_iff : entries.lookup k = none ↔ k ∉ entries.map Prod.fst := by
  induction entries with
  | nil => simp
  | cons e rest ih =>
    rw [lookup_cons, List.map_cons, List.mem_cons]
    by_cases h : k = e.1
    · simp [h]
    · rw [if_neg h, ih]
      simp [h]

/-- Changing all values goes along with putting one, if the other values change the same way. -/
lemma map_put_snd {f g : β → γ} (hn : (entries.map Prod.fst).Nodup)
    (h : ∀ e ∈ entries, e.1 ≠ k → g e.2 = f e.2) :
    (put Prod.fst (k, v) entries).map (fun e => (e.1, g e.2)) =
      put Prod.fst (k, g v) (entries.map fun e => (e.1, f e.2)) := by
  induction entries with
  | nil => rfl
  | cons e rest ih =>
    rw [List.map_cons, List.nodup_cons] at hn
    by_cases he : e.1 = k
    · have hrest : ∀ e' ∈ rest, (e'.1, g e'.2) = (e'.1, f e'.2) := by
        intro e' hmem
        rw [h e' (List.mem_cons_of_mem e hmem)]
        rintro rfl
        exact hn.1 (he ▸ List.mem_map_of_mem hmem)
      rw [put_cons_eq he, List.map_cons, List.map_cons, put_cons_eq (y := (e.1, f e.2)) he,
        List.map_congr_left hrest]
    · have htail := ih hn.2 fun e' hmem => h e' (List.mem_cons_of_mem e hmem)
      rw [put_cons_ne he, List.map_cons, List.map_cons, put_cons_ne (y := (e.1, f e.2)) he, htail,
        h e (by simp) he]

end

end ApiTypes.Keyed
