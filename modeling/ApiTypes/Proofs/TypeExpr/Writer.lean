import ApiTypes.Proofs.TypeExpr.Normal
import ApiTypes.TypeExpr.Render

/-!
The text of a type.

A writer carries the text along, and the depth at which it writes, which changes inside block
objects. Whatever was written before, an expression is written behind it; its text depends on the
width and on the depth it begins at, and afterwards the depth is what it was. So the text of an
expression is put together from the texts of its parts.
-/

namespace ApiTypes.TypeExpr

def grouped (parentheses : Bool) (text : String) : String :=
  if parentheses then "(" ++ text ++ ")" else text

/-- A member up to its type. -/
def memberHead (key : Key) (optional : Bool) : String :=
  key.render ++ (if optional then "?" else "") ++ ": "

mutual

/-- The text of an expression inside `depth` block objects, with `width` spaces for each. -/
def renderAt (width depth : Nat) : TypeExpr → String
  | .literal text => text
  | .object _ [] => Text.inBraces ""
  | .object .inline members =>
    "\x7b " ++ Text.join "; " (renderMembers width depth members) ++ " \x7d"
  | .object .block members =>
    "\x7b\n" ++ (Text.join ";\n" ((renderMembers width (depth + 1) members).map fun member =>
      spaces ((depth + 1) * width) ++ member) ++ "\n") ++ spaces (depth * width) ++ "\x7d"
  | .union [] => "never"
  | .union members => Text.join " | " (renderAll width depth members)
  | .intersection [] => "unknown"
  | .intersection members => Text.join " & " (renderGrouped width depth members)
  | .generic name arguments =>
    name ++ "<" ++ Text.join ", " (renderAll width depth arguments) ++ ">"
  | .array item => grouped item.isCompound (renderAt width depth item) ++ "[]"

def renderAll (width depth : Nat) : List TypeExpr → List String
  | [] => []
  | type :: rest => renderAt width depth type :: renderAll width depth rest

def renderGrouped (width depth : Nat) : List TypeExpr → List String
  | [] => []
  | type :: rest =>
    grouped type.isUnion (renderAt width depth type) :: renderGrouped width depth rest

def renderMembers (width depth : Nat) : List (Member TypeExpr) → List String
  | [] => []
  | ⟨key, optional, type⟩ :: rest =>
    (memberHead key optional ++ renderAt width depth type) :: renderMembers width depth rest

end

def renderMember (width depth : Nat) (m : Member TypeExpr) : String :=
  memberHead m.key m.optional ++ renderAt width depth m.type

section

variable {width depth : Nat}

@[simp] lemma renderAll_eq (types : List TypeExpr) :
    renderAll width depth types = types.map (renderAt width depth) := by
  induction types with
  | nil => rfl
  | cons type rest ih => rw [renderAll, ih, List.map_cons]

@[simp] lemma renderGrouped_eq (types : List TypeExpr) :
    renderGrouped width depth types =
      types.map fun t => grouped t.isUnion (renderAt width depth t) := by
  induction types with
  | nil => rfl
  | cons type rest ih => rw [renderGrouped, ih, List.map_cons]

@[simp] lemma renderMembers_eq (members : List (Member TypeExpr)) :
    renderMembers width depth members = members.map (renderMember width depth) := by
  induction members with
  | nil => rfl
  | cons member rest ih =>
    rw [renderMembers, ih, List.map_cons]
    rfl

end

/-! ### What a writer does -/

lemma spaces_add (m n : Nat) : spaces (m + n) = spaces m ++ spaces n := by
  rw [spaces, ← List.replicate_append_replicate, String.ofList_append]
  rfl

lemma Writer.push_push (w : Writer) (a b : String) : (w.push a).push b = w.push (a ++ b) := by
  simp only [push, String.append_assoc]

/-- The text is put behind what there is, and nothing else is changed. -/
def Writes (f : Writer → Writer) (text : Nat → Nat → String) : Prop :=
  ∀ w : Writer, f w = w.push (text w.width w.depth)

namespace Writes

variable {f g : Writer → Writer} {a b : Nat → Nat → String}

lemma const (text : String) : Writes (·.push text) fun _ _ => text := fun _ => rfl

lemma congr (hf : Writes f a) (hfun : ∀ w, g w = f w)
    (htext : ∀ width depth, b width depth = a width depth) : Writes g b := by
  intro w
  rw [hfun, hf w, htext]

lemma comp (hg : Writes g b) (hf : Writes f a) :
    Writes (fun w => g (f w)) fun width depth => a width depth ++ b width depth := by
  intro w
  calc g (f w)
    _ = g (w.push (a w.width w.depth)) := by rw [hf w]
    _ = (w.push (a w.width w.depth)).push (b w.width w.depth) := hg _
    _ = w.push (a w.width w.depth ++ b w.width w.depth) := w.push_push _ _

lemma push (hf : Writes f a) (text : String) :
    Writes (fun w => (f w).push text) fun width depth => a width depth ++ text :=
  (const text).comp hf

lemma grouped (hf : Writes f a) (parentheses : Bool) :
    Writes (·.grouped parentheses f) fun width depth =>
      grouped parentheses (a width depth) := by
  cases parentheses with
  | false => exact hf
  | true => exact (hf.comp (const "(")).push ")"

lemma inside (hf : Writes f a) :
    Writes (fun w => (f w.enter).leave) fun width depth => a width (depth + 1) :=
  fun w => congrArg Writer.leave (hf w.enter)

lemma indent : Writes Writer.indent fun width depth => spaces (depth * width) := by
  have hrepeat : ∀ (w : Writer) width depth,
      Nat.repeat (·.push (spaces width)) depth w = w.push (spaces (depth * width)) := by
    intro w width depth
    induction depth with
    | zero => simp [Nat.repeat, Writer.push, spaces]
    | succ depth ih => rw [Nat.repeat, ih, Writer.push_push, ← spaces_add, Nat.succ_mul]
  exact fun w => hrepeat w w.width w.depth

/-- Writes with a separator between them. -/
lemma join {α : Type} {separator : String} {list : List α → Writer → Writer}
    {one : α → Writer → Writer} {text : α → Nat → Nat → String} (hnil : ∀ w, list [] w = w)
    (hone : ∀ x w, list [x] w = one x w)
    (hmore : ∀ x y rest w, list (x :: y :: rest) w = list (y :: rest) ((one x w).push separator))
    {items : List α} (h : ∀ x ∈ items, Writes (one x) (text x)) :
    Writes (list items) fun width depth =>
      Text.join separator (items.map fun x => text x width depth) := by
  induction items with
  | nil =>
    intro w
    rw [hnil]
    exact congrArg (Writer.mk _ · _) String.append_empty.symm
  | cons x rest ih =>
    have hx := h x List.mem_cons_self
    cases rest with
    | nil =>
      intro w
      rw [hone]
      exact hx w
    | cons y rest =>
      intro w
      rw [hmore]
      exact (ih fun z hz => h z (List.mem_cons_of_mem x hz)).comp (hx.push separator) w

end Writes

/-! ### What is written for a type -/

lemma writes_joined {types : List TypeExpr} (separator : String) (groupUnions : Bool)
    (h : ∀ t ∈ types, Writes (write t) fun width depth => renderAt width depth t) :
    Writes (writeJoined separator groupUnions types) fun width depth =>
      Text.join separator (types.map fun t =>
        grouped (groupUnions && t.isUnion) (renderAt width depth t)) :=
  .join (fun _ => by simp only [writeJoined]) (fun _ _ => by simp only [writeJoined])
    (fun _ _ _ _ => by simp only [writeJoined]) fun t ht => (h t ht).grouped _

lemma writes_member {m : Member TypeExpr}
    (h : Writes (write m.type) fun width depth => renderAt width depth m.type) :
    Writes (writeMember m) fun width depth => renderMember width depth m := by
  obtain ⟨key, optional, type⟩ := m
  intro w
  rw [writeMember]
  exact h.comp (((Writes.const key.render).push (if optional then "?" else "")).push ": ") w

lemma writes_block {members : List (Member TypeExpr)} (hne : members ≠ [])
    (h : ∀ m ∈ members, Writes (writeMember m) fun width depth => renderMember width depth m) :
    Writes (writeBlock members) fun width depth =>
      Text.join ";\n" (members.map fun m => spaces (depth * width) ++ renderMember width depth m) ++
        "\n" := by
  induction members with
  | nil => exact absurd rfl hne
  | cons m rest ih =>
    have hline := (h m List.mem_cons_self).comp Writes.indent
    cases rest with
    | nil =>
      intro w
      rw [writeBlock]
      exact hline.push "\n" w
    | cons m' rest =>
      have hrest := ih (List.cons_ne_nil m' rest) fun n hn => h n (List.mem_cons_of_mem m hn)
      refine (hrest.comp ((hline.push ";").push "\n")).congr (fun w => ?_) fun width depth => ?_
      · simp only [writeBlock]
      · simp only [List.map_cons, Text.join, show ";\n" = ";" ++ "\n" from rfl,
          String.append_assoc]

lemma writes_object {layout : ObjectLayout} {members : List (Member TypeExpr)}
    (h : ∀ m ∈ members, Writes (writeMember m) fun width depth => renderMember width depth m) :
    Writes (write (.object layout members)) fun width depth =>
      renderAt width depth (.object layout members) := by
  cases members with
  | nil =>
    intro w
    simp only [write, renderAt]
  | cons member rest =>
    cases layout with
    | inline =>
      have hlist : Writes (writeInline (member :: rest)) fun width depth =>
          Text.join "; " ((member :: rest).map fun m => renderMember width depth m) :=
        .join (fun _ => by simp only [writeInline]) (fun _ _ => by simp only [writeInline])
          (fun _ _ _ _ => by simp only [writeInline]) h
      intro w
      simp only [write, renderAt, renderMembers_eq]
      exact (hlist.comp (.const "\x7b ")).push " \x7d" w
    | block =>
      have hlines := (writes_block (List.cons_ne_nil member rest) h).inside
      intro w
      simp only [write, renderAt, renderMembers_eq, List.map_map]
      exact (Writes.indent.comp (hlines.comp (.const "\x7b\n"))).push "\x7d" w

/-- **A write appends the text of the expression,** and leaves the depth as it was. -/
theorem writes_write (type : TypeExpr) :
    Writes (write type) fun width depth => renderAt width depth type := by
  induction type using TypeExpr.induction with
  | literal text => exact .const text
  | object layout members ih => exact writes_object fun m hm => writes_member (ih m hm)
  | union members ih =>
    intro w
    cases members with
    | nil => simp only [write, renderAt]
    | cons member rest =>
      simp only [write, renderAt, renderAll_eq]
      exact writes_joined " | " false ih w
  | intersection members ih =>
    intro w
    cases members with
    | nil => simp only [write, renderAt]
    | cons member rest =>
      simp only [write, renderAt, renderGrouped_eq]
      exact writes_joined " & " true ih w
  | generic name arguments ih =>
    intro w
    simp only [write, renderAt, renderAll_eq]
    exact ((writes_joined ", " false ih).comp ((Writes.const name).push "<")).push ">" w
  | array item ih =>
    intro w
    simp only [write, renderAt]
    exact (ih.grouped item.isCompound).push "[]" w

lemma render_eq (width : Nat) (type : TypeExpr) : type.render width = renderAt width 0 type := by
  rw [render, writes_write]
  exact String.empty_append

/-! ### Texts that are written as they are -/

/-- What is written as it is: `L` holds of literals, and `N` of the names of generic types. -/
inductive Texts (L N : String → Prop) : TypeExpr → Prop where
  | literal {text : String} : L text → Texts L N (.literal text)
  | object {layout : ObjectLayout} {members : List (Member TypeExpr)} :
      (∀ m ∈ members, Texts L N m.type) → Texts L N (.object layout members)
  | union {members : List TypeExpr} : (∀ m ∈ members, Texts L N m) → Texts L N (.union members)
  | intersection {members : List TypeExpr} :
      (∀ m ∈ members, Texts L N m) → Texts L N (.intersection members)
  | generic {name : String} {arguments : List TypeExpr} :
      N name → (∀ a ∈ arguments, Texts L N a) → Texts L N (.generic name arguments)
  | array {item : TypeExpr} : Texts L N item → Texts L N (.array item)

lemma Texts.imp {L N L' N' : String → Prop} (hL : ∀ text, L text → L' text)
    (hN : ∀ name, N name → N' name) {type : TypeExpr} (h : type.Texts L N) : type.Texts L' N' := by
  induction h with
  | literal htext => exact .literal (hL _ htext)
  | object _ ih => exact .object ih
  | union _ ih => exact .union ih
  | intersection _ ih => exact .intersection ih
  | generic hname _ ih => exact .generic (hN _ hname) ih
  | array _ ih => exact .array ih

/-- Nothing is asked of any text. -/
lemma texts_of_forall {L N : String → Prop} (hL : ∀ text, L text) (hN : ∀ name, N name)
    (type : TypeExpr) : type.Texts L N := by
  induction type using TypeExpr.induction with
  | literal text => exact .literal (hL text)
  | object layout members ih => exact .object ih
  | union members ih => exact .union ih
  | intersection members ih => exact .intersection ih
  | generic name arguments ih => exact .generic (hN name) ih
  | array item ih => exact .array ih

end ApiTypes.TypeExpr
