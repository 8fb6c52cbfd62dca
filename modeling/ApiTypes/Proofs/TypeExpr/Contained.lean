import ApiTypes.Proofs.Text.Brackets

/-!
Types whose text keeps brackets and strings.

A type is contained if the texts it is given as they are, those of literals and the names of generic
types, have matched brackets and no semicolon outside them. Keys need no such promise: a key that is
no name and no integer is quoted. Whatever the depth and the width of the indentation, the text of a
contained type is closed again.
-/

namespace ApiTypes

open Brackets
open TypeExpr (renderAt renderMember spaces)

/-- Literals and the names of generic types are closed. -/
abbrev TypeExpr.Contained : TypeExpr → Prop := TypeExpr.Texts Closed Closed

namespace Brackets

/-! ### Pieces of the text -/

lemma closed_spaces (count : Nat) : Closed (spaces count) := by
  refine closed_of_forall fun c hc => ?_
  have hspace : c = ' ' := by
    rw [spaces, String.toList_ofList] at hc
    exact List.eq_of_mem_replicate hc
  rw [hspace]
  decide

lemma Closed.grouped {text : String} (h : Closed text) (parentheses : Bool) :
    Closed (TypeExpr.grouped parentheses text) := by
  cases parentheses with
  | false => exact h
  | true => exact Inner.bracketed rfl rfl rfl h.keeps

lemma closed_member {width depth : Nat} {m : Member TypeExpr}
    (h : Closed (renderAt width depth m.type)) : Closed (renderMember width depth m) := by
  have hmark : Closed (if m.optional then "?" else "") := by
    cases m.optional <;> exact nests_closed.known (by decide)
  have hcolon : Closed ": " := nests_closed.known (by decide)
  exact (((nests_closed.key m.key).append hmark).append hcolon).append h

/-- The text of an object: its members, and whatever layout puts between and around them. -/
lemma closed_object {layout : ObjectLayout} {members : List (Member TypeExpr)} {width depth : Nat}
    (h : ∀ depth, ∀ m ∈ members, Closed (renderMember width depth m)) :
    Closed (renderAt width depth (.object layout members)) := by
  cases members with
  | nil =>
    rw [renderAt]
    exact Inner.braces keeps_empty
  | cons member rest =>
    cases layout with
    | inline =>
      have hspace : Inner " " := (nests_closed.known (by decide)).keeps
      have hlist : Inner (Text.join "; " ((member :: rest).map (renderMember width depth))) :=
        joins_keeps.join (inner_semicolon.append hspace) fun m hm => (h depth m hm).keeps
      have hall := Inner.braces ((hspace.append hlist).append hspace)
      rw [Text.inBraces] at hall
      simp only [renderAt, TypeExpr.renderMembers_eq, show "\x7b " = "\x7b" ++ " " from rfl,
        show " \x7d" = " " ++ "\x7d" from rfl, String.append_assoc] at hall ⊢
      exact hall
    | block =>
      have hfeed : '\n' ∉ Text.special := by decide
      have hclosed : Closed "\n" := closed_of_forall (List.forall_mem_singleton.mpr hfeed)
      have hbreak : Inner "\n" := hclosed.keeps
      have hlist : Inner (Text.join ";\n" ((member :: rest).map fun m =>
          spaces ((depth + 1) * width) ++ renderMember width (depth + 1) m)) :=
        joins_keeps.join (inner_semicolon.append hbreak) fun m hm =>
          (closed_spaces _).keeps.append (h (depth + 1) m hm).keeps
      have hall := Inner.braces (((hbreak.append hlist).append hbreak).append
        (closed_spaces (depth * width)).keeps)
      rw [Text.inBraces] at hall
      simp only [renderAt, TypeExpr.renderMembers_eq, List.map_map, Function.comp_def,
        show "\x7b\n" = "\x7b" ++ "\n" from rfl, String.append_assoc] at hall ⊢
      exact hall

theorem closed_renderAt {type : TypeExpr} (h : type.Contained) (width depth : Nat) :
    Closed (renderAt width depth type) := by
  induction h generalizing depth with
  | literal h =>
    rw [renderAt]
    exact h
  | object _ ih => exact closed_object fun depth m hm => closed_member (ih m hm depth)
  | @union members _ ih =>
    cases members with
    | nil =>
      rw [renderAt]
      exact nests_closed.known (by decide)
    | cons member rest =>
      simp only [renderAt, TypeExpr.renderAll_eq]
      exact joins_keeps.join (nests_closed.known (by decide)) fun m hm => ih m hm depth
  | @intersection members _ ih =>
    cases members with
    | nil =>
      rw [renderAt]
      exact nests_closed.known (by decide)
    | cons member rest =>
      simp only [renderAt, TypeExpr.renderGrouped_eq]
      exact joins_keeps.join (nests_closed.known (by decide)) fun m hm =>
        (ih m hm depth).grouped m.isUnion
  | @generic name arguments hname _ ih =>
    have hlist : Inner (Text.join ", " (arguments.map (renderAt width depth))) :=
      joins_keeps.join (nests_closed.known (by decide)).keeps fun a ha => (ih a ha depth).keeps
    have hangles : Closed ("<" ++ Text.join ", " (arguments.map (renderAt width depth)) ++ ">") :=
      hlist.bracketed rfl rfl rfl
    have hall := nests_closed.outer.append hname hangles
    simp only [renderAt, TypeExpr.renderAll_eq, String.append_assoc] at hall ⊢
    exact hall
  | @array item _ ih =>
    have hsquare : Closed ("[" ++ "" ++ "]") := Inner.bracketed rfl rfl rfl keeps_empty
    rw [renderAt]
    exact ((ih depth).grouped item.isCompound).append hsquare

end Brackets

end ApiTypes
