import ApiTypes.TypeExpr.Basic
import Mathlib.Tactic.Common

/-!
Normal forms of type expressions.

A text of a type does not tell every expression from every other. The normal form keeps what it does
tell: a union or intersection has several members and none of them is of its own kind, one of a
single member is that member, and one of no members is `never` or `unknown`; the layout of an object
and the quotes around a key are forgotten.
-/

namespace ApiTypes

theorem TypeExpr.induction {motive : TypeExpr → Prop}
    (literal : ∀ text, motive (.literal text))
    (object : ∀ layout members, (∀ m ∈ members, motive m.type) → motive (.object layout members))
    (union : ∀ members, (∀ m ∈ members, motive m) → motive (.union members))
    (intersection : ∀ members, (∀ m ∈ members, motive m) → motive (.intersection members))
    (generic : ∀ name arguments, (∀ a ∈ arguments, motive a) → motive (.generic name arguments))
    (array : ∀ item, motive item → motive (.array item))
    (type : TypeExpr) : motive type := by
  match type with
  | .literal text => exact literal text
  | .object layout members =>
    refine object layout members fun m hm => ?_
    have := List.sizeOf_lt_of_mem hm
    obtain ⟨key, optional, type⟩ := m
    exact TypeExpr.induction literal object union intersection generic array type
  | .union members =>
    refine union members fun m hm => ?_
    have := List.sizeOf_lt_of_mem hm
    exact TypeExpr.induction literal object union intersection generic array m
  | .intersection members =>
    refine intersection members fun m hm => ?_
    have := List.sizeOf_lt_of_mem hm
    exact TypeExpr.induction literal object union intersection generic array m
  | .generic name arguments =>
    refine generic name arguments fun a ha => ?_
    have := List.sizeOf_lt_of_mem ha
    exact TypeExpr.induction literal object union intersection generic array a
  | .array item =>
    exact array item (TypeExpr.induction literal object union intersection generic array item)
termination_by sizeOf type
decreasing_by
  all_goals simp_wf
  all_goals (try simp only [Member.mk.sizeOf_spec] at *); omega

/-! ### Operators between types -/

inductive Operator where
  | union
  | intersection
deriving DecidableEq, Repr

namespace Operator

def make : Operator → List TypeExpr → TypeExpr
  | .union => .union
  | .intersection => .intersection

/-- What the operator makes of no types. -/
def unit : Operator → TypeExpr
  | .union => .literal "never"
  | .intersection => .unknown

/-- The types that the operator stands between. -/
def operands : Operator → TypeExpr → List TypeExpr
  | .union, .union members => members
  | .intersection, .intersection members => members
  | _, type => [type]

def ofOperands (op : Operator) : List TypeExpr → TypeExpr
  | [] => op.unit
  | [type] => type
  | types => op.make types

/-- The operator between all operands of some types. -/
def join (op : Operator) (types : List TypeExpr) : TypeExpr :=
  op.ofOperands (types.flatMap op.operands)

variable {op : Operator} {type t : TypeExpr} {types : List TypeExpr}

@[simp] lemma operands_make (members : List TypeExpr) :
    op.operands (op.make members) = members := by
  cases op <;> rfl

lemma make_inj {op' : Operator} {members members' : List TypeExpr}
    (h : op.make members = op'.make members') : op = op' ∧ members = members' := by
  cases op <;> cases op' <;> simp_all [make]

lemma operands_cases (op : Operator) (type : TypeExpr) :
    (∃ members, type = op.make members) ∨ op.operands type = [type] := by
  cases op <;> cases type <;> simp [make, operands]

end Operator

/-- Where the type is a union or an intersection it has several members, none of its own kind. -/
def TypeExpr.Flat (type : TypeExpr) : Prop :=
  ∀ (op : Operator) (members : List TypeExpr), type = op.make members →
    2 ≤ members.length ∧ ∀ m ∈ members, op.operands m = [m]

namespace Operator

open TypeExpr (Flat)

variable {op : Operator} {type t : TypeExpr} {types : List TypeExpr}

lemma operands_ne_nil (h : Flat type) : op.operands type ≠ [] := by
  rcases op.operands_cases type with ⟨members, rfl⟩ | hself
  · intro hnil
    obtain ⟨hlen, -⟩ := h op members rfl
    simp_all
  · simp [hself]

lemma operands_of_mem (h : Flat type) (ht : t ∈ op.operands type) : op.operands t = [t] := by
  rcases op.operands_cases type with ⟨members, rfl⟩ | hself
  · exact (h op members rfl).2 t (by simpa using ht)
  · rw [hself, List.mem_singleton] at ht
    rw [ht, hself]

lemma operands_eq_self (h : Flat type) (hlen : (op.operands type).length < 2) :
    op.operands type = [type] := by
  rcases op.operands_cases type with ⟨members, rfl⟩ | hself
  · have := (h op members rfl).1
    rw [operands_make] at hlen
    omega
  · exact hself

lemma ofOperands_operands (h : Flat type) : op.ofOperands (op.operands type) = type := by
  rcases op.operands_cases type with ⟨members, rfl⟩ | hself
  · obtain ⟨hlen, -⟩ := h op members rfl
    rw [operands_make]
    match members, hlen with
    | _ :: _ :: _, _ => rfl
  · rw [hself]
    rfl

lemma flat_unit : Flat op.unit := by
  intro op' members hmake
  cases op <;> cases op' <;> cases hmake

lemma flat_join (h : ∀ t ∈ types, Flat t) : Flat (op.join types) := by
  have hmem : ∀ t ∈ types.flatMap op.operands, op.operands t = [t] := by
    intro t ht
    obtain ⟨type, htype, ht⟩ := List.mem_flatMap.mp ht
    exact operands_of_mem (h type htype) ht
  unfold join
  match hops : types.flatMap op.operands with
  | [] => exact flat_unit
  | [t] =>
    -- The only operand is one of the types: a union among them would have given two.
    obtain ⟨type, htype, ht⟩ := List.mem_flatMap.mp (hops ▸ List.mem_singleton_self t)
    have hsub : (op.operands type).Sublist [t] := by
      rw [← hops, List.flatMap_def]
      exact List.sublist_flatten_of_mem (List.mem_map_of_mem htype)
    have hself := operands_eq_self (h type htype) (Nat.lt_succ_of_le hsub.length_le)
    rw [hself, List.mem_singleton] at ht
    exact ht ▸ h type htype
  | t :: t' :: rest =>
    intro op' members hmake
    obtain ⟨rfl, rfl⟩ := make_inj hmake
    rw [hops] at hmem
    exact ⟨by simp, hmem⟩

lemma operands_join (hne : types ≠ []) (h : ∀ t ∈ types, Flat t) :
    op.operands (op.join types) = types.flatMap op.operands := by
  unfold join
  match hops : types.flatMap op.operands with
  | [] =>
    obtain ⟨type, rest, rfl⟩ := List.exists_cons_of_ne_nil hne
    rw [List.flatMap_cons, List.append_eq_nil_iff] at hops
    exact absurd hops.1 (operands_ne_nil (h type (by simp)))
  | [t] =>
    obtain ⟨type, htype, ht⟩ := List.mem_flatMap.mp (hops ▸ List.mem_singleton_self t)
    exact operands_of_mem (h type htype) ht
  | t :: t' :: rest => exact operands_make _

end Operator

/-! ### The normal form -/

namespace TypeExpr

mutual

def normal : TypeExpr → TypeExpr
  | .literal text => .literal text
  | .object _ [] => .emptyObject
  | .object _ (member :: rest) => .object .inline (normalMembers (member :: rest))
  | .union members => Operator.union.join (normalAll members)
  | .intersection members => Operator.intersection.join (normalAll members)
  | .generic name arguments => .generic name (normalAll arguments)
  | .array item => .array (normal item)

def normalAll : List TypeExpr → List TypeExpr
  | [] => []
  | type :: rest => normal type :: normalAll rest

def normalMembers : List (Member TypeExpr) → List (Member TypeExpr)
  | [] => []
  | ⟨key, optional, type⟩ :: rest =>
    ⟨⟨key.text, false⟩, optional, normal type⟩ :: normalMembers rest

end

lemma normalAll_eq_map (types : List TypeExpr) : normalAll types = types.map normal := by
  induction types with
  | nil => rfl
  | cons type rest ih => rw [normalAll, ih, List.map_cons]

/-- A member under a bare key. -/
def normalMember (m : Member TypeExpr) : Member TypeExpr :=
  ⟨⟨m.name, false⟩, m.optional, m.type.normal⟩

lemma normalMembers_eq_map (members : List (Member TypeExpr)) :
    normalMembers members = members.map normalMember := by
  induction members with
  | nil => rfl
  | cons member rest ih =>
    rw [normalMembers, ih, List.map_cons]
    rfl

lemma normal_object {layout : ObjectLayout} {members : List (Member TypeExpr)}
    (hne : members ≠ []) :
    (TypeExpr.object layout members).normal = .object .inline (members.map normalMember) := by
  match members, hne with
  | _ :: _, _ => rw [normal, normalMembers_eq_map]

lemma normal_make (op : Operator) (members : List TypeExpr) :
    (op.make members).normal = op.join (members.map normal) := by
  cases op <;> simp only [Operator.make, normal, normalAll_eq_map]

lemma flat_normal (type : TypeExpr) : Flat type.normal := by
  have hjoin : ∀ (op : Operator) members, (∀ m ∈ members, Flat (normal m)) →
      Flat (op.make members).normal := by
    intro op members ih
    rw [normal_make]
    exact Operator.flat_join (by simpa using ih)
  induction type using TypeExpr.induction with
  | literal text => intro op members h; cases op <;> cases h
  | object layout members _ =>
    intro op members' h
    cases members <;> cases op <;> cases h
  | union members ih => exact hjoin .union members ih
  | intersection members ih => exact hjoin .intersection members ih
  | generic name arguments _ => intro op members h; cases op <;> cases h
  | array item _ => intro op members h; cases op <;> cases h

/-- Types are put together as their normal forms are, one type being itself. -/
lemma normal_ofOperands {op : Operator} {types : List TypeExpr} (hne : types ≠ []) :
    (op.ofOperands types).normal = op.join (types.map normal) := by
  match types, hne with
  | [type], _ =>
    rw [Operator.join, List.map_singleton, List.flatMap_singleton]
    exact (Operator.ofOperands_operands (flat_normal type)).symm
  | type :: type' :: rest, _ => exact normal_make op _

/-- Types whose normal forms have the operands of `type` between them make up `type`. -/
lemma normal_ofOperands_eq {op : Operator} {types : List TypeExpr} {type : TypeExpr}
    (hne : types ≠ [])
    (h : (types.map normal).flatMap op.operands = op.operands type.normal) :
    (op.ofOperands types).normal = type.normal := by
  rw [normal_ofOperands hne, Operator.join, h, Operator.ofOperands_operands (flat_normal type)]

end TypeExpr

end ApiTypes
