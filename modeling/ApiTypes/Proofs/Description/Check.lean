import ApiTypes.Description.Check
import ApiTypes.Proofs.Json.Record
import Mathlib.Data.List.Nodup
import Mathlib.Tactic.Common

/-!
A description passes its check exactly when it is well formed.

Each check is read as the condition that it tests. The ids of operations are carried from one
operation to the next: those that were seen come out in reverse, and the check goes on as long as
none of them is there twice. Whether the parts of an operation pass does not depend on them.
-/

namespace ApiTypes

open Json (bind_eq_ok)

namespace Outline

variable {path : Path} {op : Operation}

lemma checkEach_eq_ok {α : Type} {check : α → Except Fault Unit} {xs : List α} :
    checkEach check xs = .ok () ↔ ∀ x ∈ xs, check x = .ok () := by
  induction xs with
  | nil => simp [checkEach]
  | cons x rest ih =>
    rw [checkEach, List.forall_mem_cons, ← ih]
    cases check x <;> simp

lemma checkParameter_eq_ok {p : Parameter} :
    checkParameter path op p = .ok () ↔
      p.name ∈ Template.placeholders path.path ∧ p.required = true := by
  unfold checkParameter
  split
  · next h => simp [h]
  · split <;> simp_all

lemma checkPlaceholder_eq_ok {name : String} :
    checkPlaceholder path op name = .ok () ↔
      (∃ p ∈ allParameters path op, p.isReference = true) ∨
        ∃ p ∈ pathParameters path op, p.name = name := by
  unfold checkPlaceholder
  split
  · next h => simpa using Or.inl (List.any_eq_true.mp h)
  · split <;> simp_all

lemma checkParts_eq_ok :
    checkParts path op = .ok () ↔
      (∀ p ∈ pathParameters path op, checkParameter path op p = .ok ()) ∧
      (∀ name ∈ Template.placeholders path.path, checkPlaceholder path op name = .ok ()) ∧
      ∀ code ∈ op.codes, checkCode path op code = .ok () := by
  rw [← checkEach_eq_ok, ← checkEach_eq_ok, ← checkEach_eq_ok]
  constructor
  · intro h
    obtain ⟨⟨⟩, hparameters, h⟩ := bind_eq_ok.mp h
    obtain ⟨⟨⟩, hplaceholders, hcodes⟩ := bind_eq_ok.mp h
    exact ⟨hparameters, hplaceholders, hcodes⟩
  · rintro ⟨hparameters, hplaceholders, hcodes⟩
    exact bind_eq_ok.mpr ⟨(), hparameters, bind_eq_ok.mpr ⟨(), hplaceholders, hcodes⟩⟩

/-! ### Ids -/

/-- The ids of operations, in order; not every operation has one. -/
def idsOf (ops : List Operation) : List String := ops.filterMap Operation.operationId

lemma idsOf_cons (op : Operation) (rest : List Operation) :
    idsOf (op :: rest) = op.operationId.toList ++ idsOf rest := by
  cases h : op.operationId <;> simp [idsOf, h]

lemma nodup_idsOf_iff {ops : List Operation} :
    (idsOf ops).Nodup ↔
      ops.Pairwise fun a b => ∀ id, a.operationId = some id → b.operationId ≠ some id := by
  rw [idsOf, List.Nodup, List.pairwise_filterMap]
  refine List.Pairwise.iff fun a b => ⟨fun h id ha hb => h id ha id hb rfl, ?_⟩
  rintro h id ha _ hb rfl
  exact h id ha hb

lemma checkOperation_eq_ok {ids ids' : List String} (hids : ids.Nodup) :
    checkOperation path ids op = .ok ids' ↔
      checkParts path op = .ok () ∧ ids' = op.operationId.toList ++ ids ∧ ids'.Nodup := by
  rw [checkOperation, bind_eq_ok]
  cases op.operationId with
  | none =>
    constructor
    · rintro ⟨⟨⟩, hparts, h⟩
      cases h
      exact ⟨hparts, rfl, hids⟩
    · rintro ⟨hparts, rfl, -⟩
      exact ⟨(), hparts, rfl⟩
  | some id =>
    constructor
    · rintro ⟨⟨⟩, hparts, h⟩
      dsimp only at h
      split at h
      · cases h
      · next hid =>
        cases h
        exact ⟨hparts, rfl, List.nodup_cons.mpr ⟨hid, hids⟩⟩
    · rintro ⟨hparts, rfl, hnodup⟩
      exact ⟨(), hparts, if_neg (List.nodup_cons.mp hnodup).1⟩

/-- The ids of the operations so far are those that came in and those of the operations, last
first. -/
lemma checkOperations_eq_ok {ops : List Operation} {ids ids' : List String} (hids : ids.Nodup) :
    checkOperations path ids ops = .ok ids' ↔
      (∀ op ∈ ops, checkParts path op = .ok ()) ∧
        ids' = (idsOf ops).reverse ++ ids ∧ ids'.Nodup := by
  induction ops generalizing ids with
  | nil =>
    simp only [checkOperations, Except.ok.injEq]
    exact ⟨fun h => ⟨by simp, by simp [idsOf, h], h ▸ hids⟩, fun h => by simp [h.2.1, idsOf]⟩
  | cons op rest ih =>
    have hsplit : (idsOf (op :: rest)).reverse ++ ids =
        (idsOf rest).reverse ++ (op.operationId.toList ++ ids) := by
      rw [idsOf_cons]
      cases op.operationId <;> simp
    rw [checkOperations, List.forall_mem_cons, hsplit]
    constructor
    · intro h
      split at h
      · cases h
      · next next hop =>
        obtain ⟨hparts, rfl, hnext⟩ := (checkOperation_eq_ok hids).mp hop
        obtain ⟨hall, hids', hnodup⟩ := (ih hnext).mp h
        exact ⟨⟨hparts, hall⟩, hids', hnodup⟩
    · rintro ⟨⟨hparts, hall⟩, rfl, hnodup⟩
      have hnext := hnodup.of_append_right
      rw [(checkOperation_eq_ok hids).mpr ⟨hparts, rfl, hnext⟩]
      exact (ih hnext).mpr ⟨hall, rfl, hnodup⟩

lemma checkPath_eq_ok {ids ids' : List String} (hids : ids.Nodup) :
    checkPath ids path = .ok ids' ↔
      path.path.toList.head? = some '/' ∧ (∀ op ∈ path.operations, checkParts path op = .ok ()) ∧
        ids' = (idsOf path.operations).reverse ++ ids ∧ ids'.Nodup := by
  unfold checkPath
  split
  · next h => simp [h, checkOperations_eq_ok hids]
  · next h => simp [h]

lemma checkPaths_eq_ok {paths : List Path} {ids ids' : List String} (hids : ids.Nodup) :
    checkPaths ids paths = .ok ids' ↔
      (∀ path ∈ paths, path.path.toList.head? = some '/') ∧
      (∀ path ∈ paths, ∀ op ∈ path.operations, checkParts path op = .ok ()) ∧
      ids' = (idsOf (paths.flatMap Path.operations)).reverse ++ ids ∧ ids'.Nodup := by
  induction paths generalizing ids with
  | nil =>
    simp only [checkPaths, Except.ok.injEq]
    exact ⟨fun h => ⟨by simp, by simp, by simp [idsOf, h], h ▸ hids⟩, fun h => by simp [h, idsOf]⟩
  | cons path rest ih =>
    have hsplit : (idsOf ((path :: rest).flatMap Path.operations)).reverse ++ ids =
        (idsOf (rest.flatMap Path.operations)).reverse ++
          ((idsOf path.operations).reverse ++ ids) := by
      simp [idsOf, List.filterMap_append]
    rw [checkPaths, List.forall_mem_cons, List.forall_mem_cons, hsplit]
    constructor
    · intro h
      split at h
      · cases h
      · next next hpath =>
        obtain ⟨hslash, hparts, rfl, hnext⟩ := (checkPath_eq_ok hids).mp hpath
        obtain ⟨hslashes, hall, hids', hnodup⟩ := (ih hnext).mp h
        exact ⟨⟨hslash, hslashes⟩, ⟨hparts, hall⟩, hids', hnodup⟩
    · rintro ⟨⟨hslash, hslashes⟩, ⟨hparts, hall⟩, rfl, hnodup⟩
      have hnext := hnodup.of_append_right
      rw [(checkPath_eq_ok hids).mpr ⟨hslash, hparts, rfl, hnext⟩]
      exact (ih hnext).mpr ⟨hslashes, hall, rfl, hnodup⟩

end Outline

namespace Description

lemma check_eq_ok {description : Description} :
    description.check = .ok () ↔ ∃ ids, Outline.checkPaths [] description.outline = .ok ids := by
  unfold check
  cases Outline.checkPaths [] description.outline <;> simp [Except.map]

lemma checkParts_of_check {description : Description} (h : description.check = .ok ()) :
    ∀ path ∈ description.outline, ∀ op ∈ path.operations,
      Outline.checkParts path op = .ok () := by
  obtain ⟨ids, hpaths⟩ := check_eq_ok.mp h
  exact ((Outline.checkPaths_eq_ok List.nodup_nil).mp hpaths).2.1

lemma exists_of_validate {dereference : Bool} {root : Json} {description : Description}
    (h : validate dereference root = .ok description) :
    ∃ format unfolded, unfold dereference root = .ok unfolded ∧
      read format unfolded = .ok description ∧ description.check = .ok () := by
  unfold validate at h
  split at h
  · obtain ⟨format, -, h⟩ := bind_eq_ok.mp h
    obtain ⟨unfolded, hunfolded, h⟩ := bind_eq_ok.mp h
    obtain ⟨found, hfound, h⟩ := bind_eq_ok.mp h
    obtain ⟨⟨⟩, hcheck, h⟩ := bind_eq_ok.mp h
    cases h
    exact ⟨format, unfolded, hunfolded, hfound, hcheck⟩
  · cases h

lemma check_of_validate {dereference : Bool} {root : Json} {description : Description}
    (h : validate dereference root = .ok description) : description.check = .ok () := by
  obtain ⟨_, _, -, -, hcheck⟩ := exists_of_validate h
  exact hcheck

end Description

/-! ### What the check accepts -/

/-- A key under which a response may stand. -/
inductive ResponseKey : String → Prop where
  | default : ResponseKey "default"
  | extension (rest : String) : ResponseKey ("x-" ++ rest)
  | status {a b c : Char} : '1' ≤ a → a ≤ '5' → b.isDigit = true → c.isDigit = true →
      ResponseKey (String.ofList [a, b, c])
  | range {a : Char} : '1' ≤ a → a ≤ '5' → ResponseKey (String.ofList [a, 'X', 'X'])

lemma isExtension_iff {key : String} : isExtension key = true ↔ ∃ rest, key = "x-" ++ rest := by
  constructor
  · intro h
    unfold isExtension at h
    split at h
    · next rest hkey => exact ⟨String.ofList rest, String.toList_injective (by simp [hkey])⟩
    · cases h
  · rintro ⟨rest, rfl⟩
    simp [isExtension]

lemma isResponseCode_iff {code : String} : isResponseCode code = true ↔ ResponseKey code := by
  constructor
  · intro h
    rw [isResponseCode, Bool.or_eq_true, Bool.or_eq_true, decide_eq_true_eq] at h
    rcases h with (rfl | hextension) | hdigits
    · exact .default
    · obtain ⟨rest, rfl⟩ := isExtension_iff.mp hextension
      exact .extension rest
    · split at hdigits
      · next a b c hcode =>
        obtain rfl : code = String.ofList [a, b, c] := String.toList_injective (by simp [hcode])
        simp only [Bool.and_eq_true, Bool.or_eq_true, decide_eq_true_eq, beq_iff_eq] at hdigits
        obtain ⟨⟨hlow, hhigh⟩, ⟨hb, hc⟩ | ⟨rfl, rfl⟩⟩ := hdigits
        · exact .status hlow hhigh hb hc
        · exact .range hlow hhigh
      · cases hdigits
  · intro h
    cases h with
    | default => rfl
    | extension rest => simp [isResponseCode, isExtension_iff.mpr ⟨rest, rfl⟩]
    | status hlow hhigh hb hc => simp [isResponseCode, hlow, hhigh, hb, hc]
    | range hlow hhigh => simp [isResponseCode, hlow, hhigh]

namespace Outline

/-- The parameter stands in the description itself, at the path or at the operation, and is sent in
the path. -/
def InPath (path : Path) (op : Operation) (p : Parameter) : Prop :=
  RefOr.item p ∈ path.parameters ++ op.parameters ∧ p.location = "path"

/-- What is asked of an operation, its id apart. -/
structure WellFormed (path : Path) (op : Operation) : Prop where
  parameters : ∀ p, InPath path op p →
    p.name ∈ Template.placeholders path.path ∧ p.required = true
  placeholders : ∀ name ∈ Template.placeholders path.path,
    (∃ p, InPath path op p ∧ p.name = name) ∨
      ∃ text, RefOr.reference text ∈ path.parameters ++ op.parameters
  codes : ∀ code ∈ op.codes, ResponseKey code

variable {path : Path} {op : Operation}

lemma mem_pathParameters {p : Parameter} : p ∈ pathParameters path op ↔ InPath path op p := by
  have hitem : ∀ x : RefOr Parameter, x.item? = some p ↔ x = .item p := by
    intro x
    cases x <;> simp [RefOr.item?]
  simp [pathParameters, InPath, allParameters, hitem, or_and_right]

lemma exists_isReference {xs : List (RefOr Parameter)} :
    (∃ x ∈ xs, x.isReference = true) ↔ ∃ text, RefOr.reference text ∈ xs := by
  constructor
  · rintro ⟨x, hx, href⟩
    cases x with
    | reference text => exact ⟨text, hx⟩
    | item p => cases href
  · rintro ⟨text, hx⟩
    exact ⟨_, hx, rfl⟩

lemma checkParts_eq_ok_iff_wellFormed : checkParts path op = .ok () ↔ WellFormed path op := by
  have hcode : ∀ code, checkCode path op code = .ok () ↔ ResponseKey code := by
    intro code
    rw [← isResponseCode_iff]
    unfold checkCode
    split <;> simp_all
  have hplaceholder : ∀ name, checkPlaceholder path op name = .ok () ↔
      (∃ p, InPath path op p ∧ p.name = name) ∨
        ∃ text, RefOr.reference text ∈ path.parameters ++ op.parameters := by
    intro name
    rw [checkPlaceholder_eq_ok, exists_isReference, or_comm]
    simp only [mem_pathParameters, allParameters]
  rw [checkParts_eq_ok]
  simp only [mem_pathParameters, checkParameter_eq_ok, hplaceholder, hcode]
  exact ⟨fun ⟨hp, hn, hc⟩ => ⟨hp, hn, hc⟩, fun h => ⟨h.parameters, h.placeholders, h.codes⟩⟩

end Outline

/-- **A description is accepted exactly when it is well formed.** Its paths start with a slash, its
operations are well formed, and no two of them, wherever they stand, have the same id. -/
theorem Description.check_eq_ok_iff (description : Description) :
    description.check = .ok () ↔
      (∀ path ∈ description.outline, path.path.toList.head? = some '/') ∧
      (∀ path ∈ description.outline, ∀ op ∈ path.operations, Outline.WellFormed path op) ∧
      (description.outline.flatMap Outline.Path.operations).Pairwise fun a b =>
        ∀ id, a.operationId = some id → b.operationId ≠ some id := by
  rw [check_eq_ok, ← Outline.nodup_idsOf_iff]
  simp only [Outline.checkPaths_eq_ok List.nodup_nil,
    Outline.checkParts_eq_ok_iff_wellFormed]
  constructor
  · rintro ⟨_, hslashes, hall, rfl, hnodup⟩
    rw [List.append_nil, List.nodup_reverse] at hnodup
    exact ⟨hslashes, hall, hnodup⟩
  · rintro ⟨hslashes, hall, hnodup⟩
    refine ⟨_, hslashes, hall, rfl, ?_⟩
    rwa [List.append_nil, List.nodup_reverse]

end ApiTypes
