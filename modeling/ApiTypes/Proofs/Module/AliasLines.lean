import ApiTypes.Proofs.Module.AliasNames
import ApiTypes.Proofs.Schema.Soundness
import ApiTypes.Proofs.TypeExpr.Indentation

/-!
Aliases are lines.

Types of schemas have no block objects, and every text in them is a name, a keyword or a JSON value.
So the alias of a named schema stands on one line, whatever the schema says, and the lines of the
aliases are found again inside a namespace.
-/

namespace ApiTypes

open Text (Within IsPrintable lines unlines)
open TypeExpr (lineDepths)

/-! ### Types of schemas stand on one line -/

namespace Schema

/-- Objects are inline, so no line is begun. -/
lemma lineDepths_toType (depth : Nat) (schema : Json) : (toType schema).lineDepths depth = [] := by
  refine toType_induction (motive := fun type => type.lineDepths depth = [])
    ?_ ?_ ?_ ?_ ?_ ?_ ?_ ?_ ?_ schema
  · exact fun _ => rfl
  · exact fun _ => rfl
  · exact fun _ => rfl
  · rfl
  · rfl
  · intro members h
    rw [lineDepths, TypeExpr.allDepths_eq]
    exact List.flatMap_eq_nil_iff.mpr h
  · intro members h
    rw [lineDepths, TypeExpr.allDepths_eq]
    exact List.flatMap_eq_nil_iff.mpr h
  · intro members h
    rw [TypeExpr.objectOf]
    generalize hkept : Keyed.gather Member.name members = kept
    have hkept : ∀ m ∈ kept, m.type.lineDepths depth = [] := fun m hm =>
      h m (Keyed.mem_of_mem_gather (hkept ▸ hm))
    cases kept with
    | nil => rfl
    | cons m rest =>
      rw [lineDepths, TypeExpr.inlineDepths_eq]
      · exact List.flatMap_eq_nil_iff.mpr hkept
      · simp
  · exact fun _ h => h

lemma printable_render (width : Nat) (schema : Json) :
    Within IsPrintable ((toType schema).render width) := by
  have hlays := lays_renderAt (fun _ hc => hc) (Text.nests_printable.texts_toType schema) 0
  rw [lineDepths_toType] at hlays
  rw [TypeExpr.render_eq]
  exact hlays.within_of_nil width

end Schema

/-! ### Lines of aliases -/

/-- The alias of a named schema, without its line end. -/
def aliasLine (width : Nat) (entry : String × Json) : List Char :=
  ("export type " ++ TypeName.sanitize entry.1 ++ " = " ++ (Schema.toType entry.2).render width ++
    ";").toList

/-- The first line of a namespace. -/
def namespaceLine (name : String) : List Char :=
  ("export namespace " ++ TypeName.sanitize name ++ " \x7b").toList

/-- The lines between the first and the last one, each without its first two characters. -/
def unwrap (text : String) : String :=
  String.ofList (unlines ((lines text.toList).tail.dropLast.map (List.drop 2)))

lemma Text.Within.unbroken {text : String} (h : Within IsPrintable text) :
    '\n' ∉ text.toList ∧ '\r' ∉ text.toList :=
  ⟨fun hn => absurd (h _ hn) (by decide), fun hr => absurd (h _ hr) (by decide)⟩

lemma printable_sanitize (name : String) : Within IsPrintable (TypeName.sanitize name) :=
  Text.nests_printable.typeName (TypeName.isTypeName_sanitize name)

lemma aliasLine_unbroken (width : Nat) (entry : String × Json) :
    '\n' ∉ aliasLine width entry ∧ '\r' ∉ aliasLine width entry := by
  have hname : Within IsPrintable ("export type " ++ TypeName.sanitize entry.1) :=
    (Text.printable_of_all (by decide)).append (printable_sanitize entry.1)
  have htype : Within IsPrintable ("export type " ++ TypeName.sanitize entry.1 ++ " = " ++
      (Schema.toType entry.2).render width) :=
    (hname.append (Text.printable_of_all (by decide))).append
      (Schema.printable_render width entry.2)
  exact (htype.append (Text.printable_of_all (by decide))).unbroken

lemma unbroken_of_mem_aliasLines (width : Nat) (model : Model) :
    ∀ line ∈ model.namedSchemas.map (aliasLine width), '\n' ∉ line ∧ '\r' ∉ line := by
  intro line hline
  obtain ⟨entry, -, rfl⟩ := List.mem_map.mp hline
  exact aliasLine_unbroken width entry

lemma namespaceLine_unbroken (name : String) :
    '\n' ∉ namespaceLine name ∧ '\r' ∉ namespaceLine name :=
  Text.Within.unbroken <| ((Text.printable_of_all (by decide)).append
    (printable_sanitize name)).append (Text.printable_of_all (by decide))

lemma toList_aliases (width : Nat) (model : Model) :
    (aliases width model).toList = unlines (model.namedSchemas.map (aliasLine width)) := by
  have hentry (entry : String × Json) :
      exportType width entry.1 (Schema.toType entry.2) =
        String.ofList (aliasLine width entry) ++ "\n" := by
    have hend : ";\n" = ";" ++ "\n" := rfl
    delta exportType
    rw [aliasLine, String.ofList_toList, hend, ← String.append_assoc]
  rw [← Text.toList_join_feed, aliases, List.map_map]
  simp only [hentry, Function.comp_def]

lemma lines_aliases (width : Nat) (model : Model) :
    lines (aliases width model).toList = model.namedSchemas.map (aliasLine width) := by
  rw [toList_aliases]
  exact Text.lines_unlines (unbroken_of_mem_aliasLines width model)

lemma indentLine_aliasLine (width : Nat) (entry : String × Json) :
    indentLine (aliasLine width entry) = ' ' :: ' ' :: aliasLine width entry := by
  have hne : aliasLine width entry ≠ [] := by simp [aliasLine]
  rw [indentLine, if_neg (by simpa using hne)]

lemma toList_indentLines_aliases (width : Nat) (model : Model) :
    (indentLines (aliases width model)).toList =
      unlines (model.namedSchemas.map fun entry => ' ' :: ' ' :: aliasLine width entry) := by
  rw [indentLines, String.toList_ofList, lines_aliases, List.flatMap_map, unlines,
    List.flatMap_map]
  simp only [indentLine_aliasLine]

lemma toList_namespacedAliases (width : Nat) (name : String) {model : Model}
    (h : model.namedSchemas ≠ []) :
    (namespacedAliases width name model).toList =
      unlines (namespaceLine name ::
        (model.namedSchemas.map fun entry => ' ' :: ' ' :: aliasLine width entry) ++
          [['}']]) := by
  have hbody : (aliases width model).isEmpty = false := by
    obtain ⟨entry, rest, hschemas⟩ := List.exists_cons_of_ne_nil h
    have hne : (aliases width model).toList ≠ [] := by simp [toList_aliases, hschemas, unlines]
    simpa using hne
  have hopen : " \x7b".toList = " ".toList ++ "\x7b".toList := rfl
  delta namespacedAliases
  dsimp only
  rw [hbody, if_neg (by decide), Text.inBraces]
  simp only [String.toList_append, toList_indentLines_aliases, namespaceLine, hopen,
    Text.unlines_append, Text.unlines_cons, List.append_assoc, List.cons_append]
  rfl

/-- What is inside a namespace is found by its lines. -/
lemma unwrap_eq {text : String} {first last : List Char} {ls : List (List Char)}
    (htext : text.toList = unlines (first :: (ls.map fun line => ' ' :: ' ' :: line) ++ [last]))
    (hfirst : '\n' ∉ first ∧ '\r' ∉ first) (hlast : '\n' ∉ last ∧ '\r' ∉ last)
    (hls : ∀ line ∈ ls, '\n' ∉ line ∧ '\r' ∉ line) : unwrap text = String.ofList (unlines ls) := by
  have hlines : lines text.toList =
      first :: (ls.map fun line => ' ' :: ' ' :: line) ++ [last] := by
    rw [htext]
    refine Text.lines_unlines fun line hline => ?_
    simp only [List.mem_append, List.mem_cons, List.mem_map, List.not_mem_nil, or_false] at hline
    rcases hline with (rfl | ⟨inner, hinner, rfl⟩) | rfl
    · exact hfirst
    · simpa using hls inner hinner
    · exact hlast
  rw [unwrap, hlines]
  simp [Function.comp_def]

/-- **An alias is a line.** The aliases are one line for each named schema, in order, and neither
a line feed nor a carriage return is inside of one, whatever the schema holds. A namespace is its
first line, these lines behind two spaces and a closing brace, so the aliases are read back from
it. -/
theorem aliases_line_each (width : Nat) (model : Model) :
    (aliases width model).toList = unlines (model.namedSchemas.map (aliasLine width)) ∧
    lines (aliases width model).toList = model.namedSchemas.map (aliasLine width) ∧
    (∀ entry ∈ model.namedSchemas,
      '\n' ∉ aliasLine width entry ∧ '\r' ∉ aliasLine width entry) ∧
    ∀ name, model.namedSchemas ≠ [] →
      (namespacedAliases width name model).toList =
        unlines (namespaceLine name ::
          (model.namedSchemas.map fun entry => ' ' :: ' ' :: aliasLine width entry) ++
            [['}']]) ∧
      unwrap (namespacedAliases width name model) = aliases width model := by
  refine ⟨toList_aliases width model, lines_aliases width model,
    fun entry _ => aliasLine_unbroken width entry, fun name hne => ?_⟩
  have htext := toList_namespacedAliases width name hne
  refine ⟨htext, ?_⟩
  have hmap : (model.namedSchemas.map fun entry => ' ' :: ' ' :: aliasLine width entry) =
      (model.namedSchemas.map (aliasLine width)).map fun line => ' ' :: ' ' :: line := by
    rw [List.map_map, Function.comp_def]
  rw [unwrap_eq (hmap ▸ htext) (namespaceLine_unbroken name) (by decide)
    (unbroken_of_mem_aliasLines width model), ← toList_aliases, String.ofList_toList]

/-- Line ends in a schema's name, in a property, in a value and in a reference. -/
def brokenLinesModel : Model := .ofSchemas
  [("a\nb", .object [("properties", .object
    [("c\nd", .object [("enum", .array [.string "e\r\nf"])])])]),
   ("g", .object [("$ref", .string "#/h\ri")])]

theorem brokenLinesModel_aliases :
    brokenLinesModel.namedSchemas ≠ [] ∧
    (lines (aliases 2 brokenLinesModel).toList).map String.ofList =
      ["export type a_b = \x7b \"c\\nd\"?: \"e\\r\\nf\" \x7d;", "export type g = h_i;"] ∧
    unwrap (namespacedAliases 2 "N" brokenLinesModel) = aliases 2 brokenLinesModel := by
  have hne : brokenLinesModel.namedSchemas ≠ [] := by
    simp [brokenLinesModel, Model.ofSchemas, Model.namedSchemas]
  obtain ⟨-, hlines, -, hwrapped⟩ := aliases_line_each 2 brokenLinesModel
  refine ⟨hne, ?_, (hwrapped "N" hne).2⟩
  have hvalues : Schema.toType (.object [("enum", .array [.string "e\r\nf"])]) =
      .union [.literal (Json.string "e\r\nf").compact] :=
    Schema.toType_of_kind (k := .enumeration [.string "e\r\nf"]) (by simp) rfl
  have hobject : Schema.toType (.object [("properties", .object
      [("c\nd", .object [("enum", .array [.string "e\r\nf"])])])]) =
      .objectOf .inline [Schema.propertyMember [] "c\nd"
        (.union [.literal (Json.string "e\r\nf").compact])] := by
    rw [Schema.toType_of_properties rfl, List.map_singleton, hvalues]
    rfl
  have hreference : Schema.toType (.object [("$ref", .string "#/h\ri")]) =
      .literal (Schema.referenceName "#/h\ri") :=
    Schema.toType_of_kind (k := .reference "#/h\ri") (by simp) rfl
  rw [hlines]
  simp only [brokenLinesModel, Model.ofSchemas, Model.namedSchemas, Option.getD_some,
    List.map_cons, List.map_nil, aliasLine, hobject, hreference]
  decide +kernel

end ApiTypes
