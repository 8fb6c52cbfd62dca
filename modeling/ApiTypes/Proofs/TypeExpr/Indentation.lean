import ApiTypes.Proofs.Text.Lines
import ApiTypes.Proofs.Text.Printable

/-!
Indentation of rendered types.

A text is laid out if it is one line, or such a text and one more line behind it, with as many
spaces in front as its depth asks for at the given width and something else than a space behind
them. Texts that are laid out can be put one after another, so the text of a type is laid out
whatever it is made of. The width then matters to nothing but these spaces, and where no text that
is written as it is breaks a line, the depth of each line is the number of block objects open
around it.
-/

namespace ApiTypes

open Text (Within IsPrintable lines split)
open TypeExpr (memberHead renderAt renderMember spaces)

/-! ### Lines that a type begins -/

namespace TypeExpr

mutual

/-- The lines that are begun inside the text of a type, each by the number of block objects that are
open around it: the line of each member of a block object, and the line of its closing brace. -/
def lineDepths (depth : Nat) : TypeExpr → List Nat
  | .literal _ => []
  | .object _ [] => []
  | .object .inline members => inlineDepths depth members
  | .object .block members => blockDepths (depth + 1) members ++ [depth]
  | .union members => allDepths depth members
  | .intersection members => allDepths depth members
  | .generic _ arguments => allDepths depth arguments
  | .array item => lineDepths depth item

def allDepths (depth : Nat) : List TypeExpr → List Nat
  | [] => []
  | type :: rest => lineDepths depth type ++ allDepths depth rest

def inlineDepths (depth : Nat) : List (Member TypeExpr) → List Nat
  | [] => []
  | ⟨_, _, type⟩ :: rest => lineDepths depth type ++ inlineDepths depth rest

def blockDepths (depth : Nat) : List (Member TypeExpr) → List Nat
  | [] => []
  | ⟨_, _, type⟩ :: rest => depth :: lineDepths depth type ++ blockDepths depth rest

end

variable {depth : Nat}

lemma allDepths_eq (types : List TypeExpr) :
    allDepths depth types = types.flatMap (lineDepths depth) := by
  induction types with
  | nil => rfl
  | cons type rest ih => rw [allDepths, ih, List.flatMap_cons]

lemma inlineDepths_eq (members : List (Member TypeExpr)) :
    inlineDepths depth members = members.flatMap fun m => lineDepths depth m.type := by
  induction members with
  | nil => rfl
  | cons m rest ih => rw [inlineDepths, ih, List.flatMap_cons]

lemma blockDepths_eq (members : List (Member TypeExpr)) :
    blockDepths depth members = members.flatMap fun m => depth :: lineDepths depth m.type := by
  induction members with
  | nil => rfl
  | cons m rest ih => rw [blockDepths, ih, List.flatMap_cons]

end TypeExpr

open TypeExpr (lineDepths)

/-! ### Texts that are laid out -/

/-- A text that no space stands in front of. -/
def StartsLine (text : String) : Prop := ∃ c cs, text.toList = c :: cs ∧ c ≠ ' '

lemma StartsLine.append {a : String} (h : StartsLine a) (b : String) : StartsLine (a ++ b) := by
  obtain ⟨c, cs, heq, hc⟩ := h
  exact ⟨c, cs ++ b.toList, by rw [String.toList_append, heq, List.cons_append], hc⟩

/-- Texts for all widths that differ in the indentation of the lines behind the first, whose depths
are given; all other characters are as `S` says. -/
inductive Lays (S : Char → Prop) : List Nat → (Nat → String) → Prop where
  | text {f : Nat → String} {text : String} :
      Within S text → (∀ width, f width = text) → Lays S [] f
  | line {f g : Nat → String} {depths : List Nat} {depth : Nat} {text : String} :
      Lays S depths f → Within S text → StartsLine text →
      (∀ width, g width = f width ++ ("\n" ++ spaces (depth * width) ++ text)) →
      Lays S (depths ++ [depth]) g

namespace Lays

variable {S : Char → Prop} {ds es : List Nat} {f g : Nat → String} {a b : String}

lemma congr (h : Lays S ds f) (heq : ∀ width, g width = f width) : Lays S ds g := by
  cases h with
  | text htext hf => exact .text htext fun width => (heq width).trans (hf width)
  | line hlays htext hstart hf =>
    exact .line hlays htext hstart fun width => (heq width).trans (hf width)

lemma const (h : Within S a) : Lays S [] fun _ => a := .text h fun _ => rfl

/-- More text on the last line. -/
lemma append_text (h : Lays S ds f) (ha : Within S a) : Lays S ds fun width => f width ++ a := by
  cases h with
  | text htext hf => exact .text (htext.append ha) fun width => by rw [hf]
  | line hlays htext hstart hf =>
    refine .line hlays (htext.append ha) (hstart.append a) fun width => ?_
    simp only [hf, String.append_assoc]

lemma append (hf : Lays S ds f) (hg : Lays S es g) :
    Lays S (ds ++ es) fun width => f width ++ g width := by
  induction hg with
  | text htext hg =>
    rw [List.append_nil]
    exact (hf.append_text htext).congr fun width => by rw [hg]
  | line _ htext hstart hg ih =>
    rw [← List.append_assoc]
    refine .line ih htext hstart fun width => ?_
    simp only [hg, String.append_assoc]

lemma prepend (ha : Within S a) (hf : Lays S ds f) : Lays S ds fun width => a ++ f width :=
  (const ha).append hf

/-- A new line and what is written on it. -/
lemma newLine {depth : Nat} (ha : Within S a) (hstart : StartsLine a) :
    Lays S [depth] fun width => "\n" ++ spaces (depth * width) ++ a :=
  .line (const Text.within_empty) ha hstart fun _ => String.empty_append.symm

lemma join {α : Type} {text : α → Nat → String} {depths : α → List Nat} (hsep : Within S a) :
    ∀ {items : List α}, (∀ x ∈ items, Lays S (depths x) (text x)) →
      Lays S (items.flatMap depths) fun width => Text.join a (items.map fun x => text x width)
  | [], _ => const Text.within_empty
  | [x], h => by simpa [Text.join] using h x (by simp)
  | x :: y :: rest, h =>
    ((h x (by simp)).append_text hsep).append
      (Lays.join hsep fun z hz => h z (List.mem_cons_of_mem x hz))

end Lays

/-! ### The text of a type -/

lemma printable_memberHead (key : Key) (optional : Bool) :
    Within IsPrintable (memberHead key optional) := by
  have hmark : Within IsPrintable (if optional then "?" else "") := by
    cases optional <;> exact Text.printable_of_all (by decide)
  exact ((Text.nests_printable.key key).append hmark).append (Text.printable_of_all (by decide))

lemma startsLine_of_forall {text : String} (hne : text.toList ≠ [])
    (h : ∀ c ∈ text.toList, c ≠ ' ') : StartsLine text := by
  obtain ⟨c, cs, heq⟩ := List.exists_cons_of_ne_nil hne
  exact ⟨c, cs, heq, h c (heq ▸ List.mem_cons_self)⟩

lemma startsLine_key (key : Key) : StartsLine key.render := by
  have hspace : TypeName.isPart ' ' = false := by decide +kernel
  refine Key.render_cases (motive := StartsLine) (fun {text} h => ?_) (fun {text} h => ?_)
    (fun text => ?_) key
  · refine startsLine_of_forall ?_ fun c hc => ?_
    · intro hnil
      simp [TypeName.isIdentifier, hnil] at h
    · rintro rfl
      rw [TypeName.isPart_of_isIdentifier h _ hc] at hspace
      cases hspace
  · refine startsLine_of_forall ?_ fun c hc => ?_
    · intro hnil
      simp [Key.isInteger, hnil] at h
    · rintro rfl
      exact absurd (Key.isDigit_of_isInteger h _ hc) (by decide)
  · exact ⟨'"', _, by rw [Json.quote, String.toList_ofList, List.cons_append], by decide⟩

/-- Line breaks in front of the texts instead of behind them. -/
lemma break_join {α : Type} (text : α → String) {items : List α} (hne : items ≠ []) :
    "\n" ++ Text.join ";\n" (items.map text) =
      Text.join ";" (items.map fun x => "\n" ++ text x) := by
  induction items with
  | nil => exact absurd rfl hne
  | cons x rest ih =>
    cases rest with
    | nil => rfl
    | cons y rest =>
      have hrest := ih (List.cons_ne_nil y rest)
      simp only [List.map_cons, Text.join, show ";\n" = ";" ++ "\n" from rfl] at hrest ⊢
      rw [← hrest]
      simp only [String.append_assoc]

lemma renderAt_block (width depth : Nat) {members : List (Member TypeExpr)} (hne : members ≠ []) :
    renderAt width depth (.object .block members) =
      "\x7b" ++ Text.join ";" (members.map fun m =>
        "\n" ++ (spaces ((depth + 1) * width) ++ renderMember width (depth + 1) m)) ++
      ("\n" ++ spaces (depth * width) ++ "\x7d") := by
  obtain ⟨member, rest, rfl⟩ := List.exists_cons_of_ne_nil hne
  rw [← break_join _ hne]
  simp only [renderAt, TypeExpr.renderMembers_eq, List.map_map, Function.comp_def,
    show "\x7b\n" = "\x7b" ++ "\n" from rfl, String.append_assoc]

variable {S : Char → Prop}

/-- The texts that layout brings along. -/
lemma within_of_all (hS : ∀ c, IsPrintable c → S c) (text : String)
    (h : text.toList.all (fun c => IsPrintable c) = true) : Within S text :=
  (Text.printable_of_all h).imp hS

/-- The line of a member and the lines inside it. -/
lemma lays_memberLine (hS : ∀ c, IsPrintable c → S c) {m : Member TypeExpr} {depth : Nat}
    {depths : List Nat} (h : Lays S depths fun width => renderAt width depth m.type) :
    Lays S (depth :: depths) fun width =>
      "\n" ++ (spaces (depth * width) ++ renderMember width depth m) := by
  have hhead : Within S (memberHead m.key m.optional) := (printable_memberHead _ _).imp hS
  have hstart : StartsLine (memberHead m.key m.optional) :=
    ((startsLine_key m.key).append _).append _
  refine ((Lays.newLine hhead hstart).append h).congr fun width => ?_
  simp only [renderMember, String.append_assoc]

lemma lays_object (hS : ∀ c, IsPrintable c → S c) {layout : ObjectLayout}
    {members : List (Member TypeExpr)}
    (h : ∀ depth, ∀ m ∈ members,
      Lays S (m.type.lineDepths depth) fun width => renderAt width depth m.type) (depth : Nat) :
    Lays S (lineDepths depth (.object layout members)) fun width =>
      renderAt width depth (.object layout members) := by
  have hown := within_of_all hS
  cases members with
  | nil =>
    simp only [renderAt, lineDepths]
    exact .const (hown _ (by decide))
  | cons member rest =>
    cases layout with
    | inline =>
      have hmember : ∀ m ∈ member :: rest,
          Lays S (m.type.lineDepths depth) fun width => renderMember width depth m :=
        fun m hm => (h depth m hm).prepend ((printable_memberHead _ _).imp hS)
      have hlist := Lays.join (hown "; " (by decide)) hmember
      simp only [renderAt, TypeExpr.renderMembers_eq, lineDepths, TypeExpr.inlineDepths_eq]
      exact (hlist.prepend (hown _ (by decide))).append_text (hown _ (by decide))
    | block =>
      have hlist := Lays.join (hown ";" (by decide)) fun m hm =>
        lays_memberLine hS (h (depth + 1) m hm)
      have hclose : Lays S [depth] fun width => "\n" ++ spaces (depth * width) ++ "\x7d" :=
        .newLine (hown _ (by decide)) ⟨'}', [], rfl, by decide⟩
      simp only [lineDepths, TypeExpr.blockDepths_eq]
      refine ((hlist.prepend (hown "\x7b" (by decide))).append hclose).congr fun width => ?_
      exact renderAt_block width depth (List.cons_ne_nil member rest)

/-- **The text of a type is laid out.** -/
theorem lays_renderAt (hS : ∀ c, IsPrintable c → S c) {type : TypeExpr}
    (h : type.Texts (Within S) (Within S)) (depth : Nat) :
    Lays S (type.lineDepths depth) fun width => renderAt width depth type := by
  have hown := within_of_all hS
  -- parentheses are written on the lines that are there
  have hgrouped : ∀ {depths : List Nat} {f : Nat → String} (parentheses : Bool), Lays S depths f →
      Lays S depths fun width => TypeExpr.grouped parentheses (f width) := by
    intro depths f parentheses hf
    cases parentheses with
    | false => exact hf
    | true => exact (hf.prepend (hown _ (by decide))).append_text (hown _ (by decide))
  induction h generalizing depth with
  | literal htext =>
    simp only [renderAt, lineDepths]
    exact .const htext
  | object _ ih => exact lays_object hS (fun depth m hm => ih m hm depth) depth
  | @union members _ ih =>
    cases members with
    | nil =>
      simp only [renderAt, lineDepths, TypeExpr.allDepths]
      exact .const (hown _ (by decide))
    | cons member rest =>
      simp only [renderAt, TypeExpr.renderAll_eq, lineDepths, TypeExpr.allDepths_eq]
      exact Lays.join (hown _ (by decide)) fun m hm => ih m hm depth
  | @intersection members _ ih =>
    cases members with
    | nil =>
      simp only [renderAt, lineDepths, TypeExpr.allDepths]
      exact .const (hown _ (by decide))
    | cons member rest =>
      simp only [renderAt, TypeExpr.renderGrouped_eq, lineDepths, TypeExpr.allDepths_eq]
      exact Lays.join (hown _ (by decide)) fun m hm => hgrouped m.isUnion (ih m hm depth)
  | @generic name arguments hname _ ih =>
    have hlist := Lays.join (hown ", " (by decide)) fun a ha => ih a ha depth
    simp only [renderAt, TypeExpr.renderAll_eq, lineDepths, TypeExpr.allDepths_eq]
    exact (hlist.prepend (hname.append (hown _ (by decide)))).append_text (hown _ (by decide))
  | @array item _ ih =>
    simp only [renderAt, lineDepths]
    exact (hgrouped item.isCompound (ih depth)).append_text (hown _ (by decide))

/-! ### Lines of texts that are laid out -/

namespace Text

def dropSpaces (line : List Char) : List Char := line.dropWhile (· == ' ')

def leadingSpaces (line : List Char) : Nat := (line.takeWhile (· == ' ')).length

/-- The text without the spaces in front of its lines. -/
def dedent (text : String) : String :=
  String.ofList (['\n'].intercalate ((split '\n' text.toList).map dropSpaces))

lemma split_spaces_append (count : Nat) (cs : List Char) :
    ∃ piece pieces, split '\n' cs = piece :: pieces ∧
      split '\n' (List.replicate count ' ' ++ cs) =
        (List.replicate count ' ' ++ piece) :: pieces := by
  obtain ⟨piece, pieces, hcs⟩ := List.exists_cons_of_ne_nil (split_ne_nil '\n' cs)
  refine ⟨piece, pieces, hcs, ?_⟩
  induction count with
  | zero => exact hcs
  | succ count ih =>
    rw [List.replicate_succ, List.cons_append, split, if_neg (by decide), ih]
    rfl

lemma dropSpaces_spaces_append (count : Nat) (cs : List Char) :
    dropSpaces (List.replicate count ' ' ++ cs) = dropSpaces cs := by
  induction count with
  | zero => rfl
  | succ count ih =>
    rw [List.replicate_succ, List.cons_append, dropSpaces, List.dropWhile_cons_of_pos rfl]
    exact ih

lemma leadingSpaces_spaces_append (count : Nat) {c : Char} (hc : c ≠ ' ') (cs : List Char) :
    leadingSpaces (List.replicate count ' ' ++ c :: cs) = count := by
  induction count with
  | zero => simp [leadingSpaces, hc]
  | succ count ih =>
    rw [List.replicate_succ, List.cons_append, leadingSpaces, List.takeWhile_cons_of_pos rfl,
      List.length_cons]
    exact congrArg Nat.succ ih

lemma map_leadingSpaces_split {cs : List Char} (h : cs.head? ≠ some ' ') :
    (split '\n' cs).map leadingSpaces = 0 :: (split '\n' cs).tail.map leadingSpaces := by
  cases cs with
  | nil => rfl
  | cons c rest =>
    have hc : c ≠ ' ' := fun e => h (congrArg some e)
    rw [split]
    split_ifs
    · rfl
    · obtain ⟨piece, pieces, hrest⟩ := List.exists_cons_of_ne_nil (split_ne_nil '\n' rest)
      simp [hrest, leadingSpaces, hc]

/-- A line is counted for every line feed, and one more for what follows the last of them. -/
lemma length_lines (cs : List Char) :
    (lines cs).length = cs.count '\n' + if cs.getLast?.getD '\n' = '\n' then 0 else 1 := by
  induction cs using split_induction '\n' with
  | last piece hpiece =>
    by_cases hne : piece = []
    · rw [hne]
      rfl
    · have hlast : piece.getLast hne ≠ '\n' := fun e => hpiece (e ▸ List.getLast_mem hne)
      rw [lines_of_notMem hpiece hne, List.count_eq_zero_of_not_mem hpiece,
        List.getLast?_eq_getLast_of_ne_nil hne]
      simp [hlast]
  | more piece rest hpiece ih =>
    rw [lines_append_cons hpiece, List.length_cons, ih, List.count_append,
      List.count_eq_zero_of_not_mem hpiece, List.count_cons_self, List.getLast?_append,
      List.getLast?_cons, Option.some_or, Option.getD_some]
    omega

end Text

open Text (dropSpaces leadingSpaces dedent)

lemma toList_newLine (count : Nat) (text : String) :
    ("\n" ++ spaces count ++ text).toList = '\n' :: (List.replicate count ' ' ++ text.toList) := by
  simp [spaces]

namespace Lays

variable {S : Char → Prop} {depths : List Nat} {f : Nat → String}

lemma within_of_nil (h : Lays S [] f) (width : Nat) : Within S (f width) := by
  generalize hnil : ([] : List Nat) = depths at h
  cases h with
  | text htext hf => exact hf width ▸ htext
  | line => simp at hnil

/-- Without the spaces in front, the lines do not depend on the width. -/
lemma map_dropSpaces (h : Lays S depths f) :
    ∃ ls, ∀ width, (split '\n' (f width).toList).map dropSpaces = ls := by
  induction h with
  | text htext hf => exact ⟨_, fun width => by rw [hf]⟩
  | @line f g depths depth text _ _ _ hg ih =>
    obtain ⟨ls, hls⟩ := ih
    refine ⟨ls ++ (split '\n' text.toList).map dropSpaces, fun width => ?_⟩
    obtain ⟨piece, pieces, htext, hspaces⟩ :=
      Text.split_spaces_append (depth * width) text.toList
    rw [hg, String.toList_append, toList_newLine, Text.split_append_cons, List.map_append, hls,
      hspaces, htext, List.map_cons, List.map_cons, Text.dropSpaces_spaces_append]

/-- How many lines are ended, and how the last one ends. -/
lemma count_feeds (h : Lays S depths f) :
    ∃ n last, ∀ width, (f width).toList.count '\n' = n ∧ (f width).toList.getLast? = last := by
  induction h with
  | text htext hf => exact ⟨_, _, fun width => by rw [hf]; exact ⟨rfl, rfl⟩⟩
  | @line f g depths depth text _ _ hstart hg ih =>
    obtain ⟨n, last, hlast⟩ := ih
    obtain ⟨c, cs, heq, -⟩ := hstart
    refine ⟨n + (1 + text.toList.count '\n'), text.toList.getLast?, fun width => ?_⟩
    have hspaces : (List.replicate (depth * width) ' ').count '\n' = 0 := by
      rw [List.count_replicate]
      rfl
    rw [hg, String.toList_append, toList_newLine]
    constructor
    · rw [List.count_append, (hlast width).1, List.count_cons_self, List.count_append, hspaces]
      omega
    · rw [heq, List.getLast?_append, List.getLast?_cons, List.getLast?_append, List.getLast?_cons]
      simp

lemma length_lines (h : Lays S depths f) : ∃ n, ∀ width, (lines (f width).toList).length = n := by
  obtain ⟨n, last, hlast⟩ := h.count_feeds
  refine ⟨n + if last.getD '\n' = '\n' then 0 else 1, fun width => ?_⟩
  rw [Text.length_lines, (hlast width).1, (hlast width).2]

/-- Where no other line is begun, the spaces in front of a line are those of its depth. -/
lemma map_leadingSpaces (h : Lays (· ≠ '\n') depths f) (width : Nat) :
    (split '\n' (f width).toList).tail.map leadingSpaces = depths.map (· * width) := by
  induction h with
  | text htext hf =>
    rw [hf, Text.split_of_not_mem fun hmem => htext _ hmem rfl]
    rfl
  | @line f g depths depth text _ htext hstart hg ih =>
    obtain ⟨c, cs, heq, hc⟩ := hstart
    have hfeed : '\n' ∉ List.replicate (depth * width) ' ' ++ text.toList := by
      intro hmem
      rcases List.mem_append.mp hmem with hmem | hmem
      · exact absurd (List.eq_of_mem_replicate hmem) (by decide)
      · exact htext _ hmem rfl
    rw [hg, String.toList_append, toList_newLine, Text.split_append_cons,
      Text.split_of_not_mem hfeed, List.tail_append_of_ne_nil (Text.split_ne_nil _ _),
      List.map_append, ih, List.map_append, List.map_singleton, List.map_singleton, heq,
      Text.leadingSpaces_spaces_append _ hc]

end Lays

/-! ### Rendered types -/

/-- A text that ends no line. -/
def NoBreak (text : String) : Prop := '\n' ∉ text.toList

/-- **Indentation.** Texts of a type that are written with different widths have the same number of
lines, and they are equal without the spaces in front of their lines. If neither a literal nor the
name of a generic type breaks a line, then every line behind the first, which are those that block
objects begin, is indented by the width as often as block objects are open around it, and the first
line is not indented unless the text begins with a space. -/
theorem render_indentation (type : TypeExpr) :
    (∀ v w, (lines (type.render v).toList).length = (lines (type.render w).toList).length ∧
      dedent (type.render v) = dedent (type.render w)) ∧
    (type.Texts NoBreak NoBreak → ∀ w,
      (split '\n' (type.render w).toList).tail.map leadingSpaces =
        (type.lineDepths 0).map (· * w) ∧
      ((type.render w).toList.head? ≠ some ' ' →
        (split '\n' (type.render w).toList).map leadingSpaces =
          (0 :: type.lineDepths 0).map (· * w))) := by
  constructor
  · intro v w
    have htexts : type.Texts (Within fun _ => True) (Within fun _ => True) :=
      TypeExpr.texts_of_forall (fun _ _ _ => trivial) (fun _ _ _ => trivial) type
    have hlays := lays_renderAt (fun _ _ => trivial) htexts 0
    obtain ⟨n, hlength⟩ := hlays.length_lines
    obtain ⟨ls, hlines⟩ := hlays.map_dropSpaces
    simp only [TypeExpr.render_eq]
    exact ⟨(hlength v).trans (hlength w).symm, by rw [dedent, dedent, hlines v, hlines w]⟩
  · intro h w
    have hprintable : ∀ c, IsPrintable c → c ≠ '\n' := by
      rintro c hc rfl
      exact absurd hc (by decide)
    have hwithin : ∀ text, NoBreak text → Within (· ≠ '\n') text := by
      rintro text htext c hc rfl
      exact htext hc
    have htail := (lays_renderAt hprintable (h.imp hwithin hwithin) 0).map_leadingSpaces w
    rw [← TypeExpr.render_eq] at htail
    refine ⟨htail, fun hhead => ?_⟩
    rw [Text.map_leadingSpaces_split hhead, List.map_cons, Nat.zero_mul]
    exact congrArg _ htail

/-- Block objects inside parentheses, inside arguments and inside an inline object. -/
def indentedType : TypeExpr :=
  .object .block
    [.field "a" (.array (.union
      [.object .block [.optionalField "b-c" (.literal "x")], .literal "y"])),
     .field "d" (.generic "G" [.object .inline [.field "e" (.object .block [.field "f" .any])]])]

lemma texts_indentedType : indentedType.Texts NoBreak NoBreak := by
  have hliteral : NoBreak "x" ∧ NoBreak "y" ∧ NoBreak "any" ∧ NoBreak "G" := by
    unfold NoBreak
    decide
  obtain ⟨hx, hy, hany, hname⟩ := hliteral
  have hinner : TypeExpr.Texts NoBreak NoBreak
      (.object .block [.optionalField "b-c" (.literal "x")]) :=
    .object (List.forall_mem_singleton.mpr (.literal hx))
  have hunion : TypeExpr.Texts NoBreak NoBreak
      (.union [.object .block [.optionalField "b-c" (.literal "x")], .literal "y"]) :=
    .union (List.forall_mem_cons.mpr ⟨hinner, List.forall_mem_singleton.mpr (.literal hy)⟩)
  have hargument : TypeExpr.Texts NoBreak NoBreak
      (.object .inline [.field "e" (.object .block [.field "f" .any])]) :=
    .object (List.forall_mem_singleton.mpr
      (.object (List.forall_mem_singleton.mpr (.literal hany))))
  exact .object (List.forall_mem_cons.mpr ⟨.array hunion, List.forall_mem_singleton.mpr
    (.generic hname (List.forall_mem_singleton.mpr hargument))⟩)

theorem indentedType_indentation :
    indentedType.Texts NoBreak NoBreak ∧
    (indentedType.render 3).toList.head? ≠ some ' ' ∧
    (split '\n' (indentedType.render 3).toList).map leadingSpaces = [0, 3, 6, 3, 3, 6, 3, 0] ∧
    dedent (indentedType.render 3) = dedent (indentedType.render 0) := by
  obtain ⟨hwidths, hdepths⟩ := render_indentation indentedType
  have hhead : (indentedType.render 3).toList.head? ≠ some ' ' := by decide +kernel
  refine ⟨texts_indentedType, hhead, ?_, (hwidths 3 0).2⟩
  rw [(hdepths texts_indentedType 3).2 hhead]
  decide

/-- A literal that begins with spaces, on the line that opens a block object. -/
def shiftedType : TypeExpr :=
  .intersection [.literal "  A", .object .block [.field "x" (.literal "y")]]

/-- A generic type whose name breaks a line. -/
def brokenType : TypeExpr := .object .block [.field "a" (.generic "A\nB" [.literal "c"])]

/-- It is not enough that no literal breaks a line: the line that opens a block object begins with
the spaces of a literal, and the rest of a name stands at the beginning of a line inside one. -/
theorem literals_not_enough :
    (shiftedType.Texts NoBreak NoBreak ∧
      shiftedType.render 2 = "  A & \x7b\n  x: y\n\x7d" ∧
      (split '\n' (shiftedType.render 2).toList).map leadingSpaces ≠
        (0 :: shiftedType.lineDepths 0).map (· * 2)) ∧
    brokenType.Texts NoBreak (fun _ => True) ∧
    brokenType.render 2 = "\x7b\n  a: A\nB<c>\n\x7d" ∧
    (split '\n' (brokenType.render 2).toList).tail.map leadingSpaces ≠
      (brokenType.lineDepths 0).map (· * 2) := by
  have hliterals : NoBreak "  A" ∧ NoBreak "y" ∧ NoBreak "c" := by
    unfold NoBreak
    decide
  obtain ⟨hA, hy, hc⟩ := hliterals
  refine ⟨⟨.intersection ?_, by decide +kernel, by decide +kernel⟩,
    .object (List.forall_mem_singleton.mpr ?_), by decide +kernel, by decide +kernel⟩
  · exact List.forall_mem_cons.mpr ⟨.literal hA, List.forall_mem_singleton.mpr
      (.object (List.forall_mem_singleton.mpr (.literal hy)))⟩
  · exact .generic trivial (List.forall_mem_singleton.mpr (.literal hc))

end ApiTypes
