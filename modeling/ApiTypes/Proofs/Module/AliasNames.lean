import ApiTypes.Module.App
import ApiTypes.Proofs.Json.Replace
import ApiTypes.Proofs.Schema.Soundness
import ApiTypes.Proofs.TypeExpr.NameClash
import Mathlib.Data.List.Nodup

/-!
The names of aliases and of references to them.

The alias of a named schema has the name that its key is made, and the type of a reference is the
name that its last key is made. So a reference to a named schema has the name of its alias. Two
named schemas whose keys clash have aliases of one name, and a reference to one of them may as well
stand for the other; where no keys clash, every reference denotes the schema that it points to.
-/

namespace ApiTypes

open Json

/-! ### References -/

namespace Schema

/-- The name of a reference is made from its last token. -/
lemma referenceName_append {start token : String} (hne : token ≠ "") (h : '/' ∉ token.toList) :
    referenceName (start ++ "/" ++ token) = TypeName.sanitize (unescapeToken token.toList) := by
  have hlist : (start ++ "/" ++ token).toList = start.toList ++ '/' :: token.toList := by
    simp
  have hlast : (Text.split '/' (start ++ "/" ++ token).toList).getLast? = some token.toList := by
    rw [hlist, Text.split_append_cons, Text.split_of_not_mem h, List.getLast?_concat]
  obtain ⟨c, rest, hcons⟩ : ∃ c rest, token.toList = c :: rest :=
    List.exists_cons_of_ne_nil fun hnil => hne (String.toList_inj.mp hnil)
  rw [referenceName, hlast, hcons]

end Schema

lemma Json.escapeToken_ne_empty {key : String} (h : key ≠ "") : escapeToken key ≠ "" := by
  intro hempty
  have hkey := unescapeToken_escapeToken key
  rw [hempty] at hkey
  exact h hkey.symm

lemma exists_append_slash {start : String} (h : start.toList.getLast? = some '/') :
    ∃ front, start = front ++ "/" := by
  obtain ⟨front, hfront⟩ := List.getLast?_eq_some_iff.mp h
  exact ⟨String.ofList front, by simp [← String.toList_inj, hfront]⟩

/-! ### Aliases -/

/-- The aliases of a model: the name and the type of every named schema. -/
def Model.aliasTable (model : Model) : List (String × TypeExpr) :=
  model.namedSchemas.map fun entry => (TypeName.sanitize entry.1, Schema.toType entry.2)

def aliasText (width : Nat) (entry : String × TypeExpr) : String :=
  "export type " ++ entry.1 ++ " = " ++ entry.2.render width ++ ";\n"

lemma aliases_eq (width : Nat) (model : Model) :
    aliases width model = String.join (model.aliasTable.map (aliasText width)) := by
  rw [aliases, Model.aliasTable, List.map_map]
  rfl

/-- **A reference has the name of the alias.** Behind any text that ends in a slash, a key that is
written as a token gives the name that the alias of a schema under this key has. The token is the
key with its tildes and then its slashes replaced, and it is read by replacing in the other
order. -/
theorem Schema.referenceName_escapeToken {start name : String}
    (hstart : start.toList.getLast? = some '/') (hname : name ≠ "") :
    referenceName (start ++ escapeToken name) = TypeName.sanitize name ∧
    ((escapeToken name).toList =
        Text.replaceAll '/' [] ['~', '1'] (Text.replaceAll '~' [] ['~', '0'] name.toList) ∧
      ∀ token, (unescapeToken token).toList =
        Text.replaceAll '~' ['0'] ['~'] (Text.replaceAll '~' ['1'] ['/'] token)) ∧
    ∀ (model : Model) (width : Nat),
      aliases width model = String.join (model.aliasTable.map (aliasText width)) ∧
      ∀ schema, (name, schema) ∈ model.namedSchemas →
        (referenceName (start ++ escapeToken name), toType schema) ∈ model.aliasTable := by
  have hreference : referenceName (start ++ escapeToken name) = TypeName.sanitize name := by
    obtain ⟨front, rfl⟩ := exists_append_slash hstart
    rw [referenceName_append (escapeToken_ne_empty hname) (slash_notMem_escapeToken name),
      unescapeToken_escapeToken]
  refine ⟨hreference, ⟨toList_escapeToken name, fun token => ?_⟩, fun model width => ?_⟩
  · rw [unescapeToken, String.toList_ofList, unescape_eq_replaceAll]
  · refine ⟨aliases_eq width model, fun schema hschema => ?_⟩
    rw [hreference]
    exact List.mem_map.mpr ⟨(name, schema), hschema, rfl⟩

theorem Schema.referenceName_tildes :
    "#/components/schemas/".toList.getLast? = some '/' ∧ "a~1/b" ≠ "" ∧
    escapeToken "a~1/b" = "a~01~1b" ∧
    referenceName ("#/components/schemas/" ++ escapeToken "a~1/b") = "a_1_b" := by
  have hstart : "#/components/schemas/".toList.getLast? = some '/' := by decide +kernel
  have hname : "a~1/b" ≠ "" := by decide
  have hfit : TypeName.sanitize "a~1/b" = "a_1_b" := by decide +kernel
  exact ⟨hstart, hname, by decide +kernel, (referenceName_escapeToken hstart hname).1.trans hfit⟩

/-! ### Clashing names -/

/-- No two of the named schemas have names that clash. -/
def Model.NoClash (model : Model) : Prop :=
  ∀ a ∈ model.namedSchemas, ∀ b ∈ model.namedSchemas,
    TypeName.Clash a.1.toList b.1.toList → a.1 = b.1

lemma Model.noClash_iff (model : Model) :
    model.NoClash ↔ ∀ a ∈ model.namedSchemas, ∀ b ∈ model.namedSchemas,
      TypeName.sanitize a.1 = TypeName.sanitize b.1 → a.1 = b.1 := by
  constructor
  · intro h a ha b hb heq
    rcases TypeName.sanitize_eq_sanitize_iff.mp heq with hclash | hclash
    · exact h a ha b hb hclash
    · exact (h b hb a ha hclash).symm
  · exact fun h a ha b hb hclash => h a ha b hb hclash.sanitize_eq

lemma Model.nodup_aliasTable_iff {model : Model} (h : (model.namedSchemas.map Prod.fst).Nodup) :
    (model.aliasTable.map Prod.fst).Nodup ↔ model.NoClash := by
  have hnames : model.aliasTable.map Prod.fst =
      (model.namedSchemas.map Prod.fst).map TypeName.sanitize := by
    rw [aliasTable, List.map_map, List.map_map]
    rfl
  rw [hnames, List.nodup_map_iff_inj_on h, noClash_iff]
  simp only [List.forall_mem_map]

/-- **Aliases are told apart by their names** just when no two different keys of named schemas
clash: when they differ in more than characters that become underscores, and in more than the
underscore that is put in front of a digit, behind a reserved word or for an empty text. Then the
name of a reference to a named schema is that of its alias and of no other. -/
theorem Model.aliases_distinct_iff (model : Model)
    (h : (model.namedSchemas.map Prod.fst).Nodup) :
    (∀ width, aliases width model = String.join (model.aliasTable.map (aliasText width))) ∧
    ((model.aliasTable.map Prod.fst).Nodup ↔ model.NoClash) ∧
    (model.NoClash → ∀ entry ∈ model.namedSchemas, entry.1 ≠ "" →
      ∀ start token : String, '/' ∉ token.toList → unescapeToken token.toList = entry.1 →
        ∀ type, (Schema.referenceName (start ++ "/" ++ token), type) ∈ model.aliasTable ↔
          type = Schema.toType entry.2) := by
  refine ⟨fun width => aliases_eq width model, nodup_aliasTable_iff h, ?_⟩
  intro hclash entry hentry hne start token hslash htoken type
  have htoken' : token ≠ "" := by
    rintro rfl
    exact hne htoken.symm
  rw [Schema.referenceName_append htoken' hslash, htoken]
  constructor
  · intro hmem
    obtain ⟨other, hother, heq⟩ := List.mem_map.mp hmem
    rw [Prod.mk.injEq] at heq
    have hkey : other.1 = entry.1 := model.noClash_iff.mp hclash other hother entry hentry heq.1
    obtain rfl : other = entry := List.inj_on_of_nodup_map h hother hentry hkey
    exact heq.2.symm
  · rintro rfl
    exact List.mem_map.mpr ⟨entry, hentry, rfl⟩

/-- A schema with nothing but a type. -/
def typeSchema (type : String) : Json := .object [("type", .string type)]

/-- A model that has named schemas only. -/
def Model.ofSchemas (schemas : List (String × Json)) : Model := ⟨⟨"T", "1", none⟩, [], some schemas⟩

/-- Keys that are changed and still told apart, one of them escaped in pointers. -/
def apartModel : Model := .ofSchemas
  [("string", typeSchema "string"), ("2fa", typeSchema "boolean"), ("a~b/c", typeSchema "number")]

theorem apartModel_distinct :
    (apartModel.namedSchemas.map Prod.fst).Nodup ∧ apartModel.NoClash ∧
    apartModel.aliasTable.map Prod.fst = ["string_", "_2fa", "a_b_c"] ∧
    ∀ type, (Schema.referenceName ("#/definitions" ++ "/" ++ "a~0b~1c"), type) ∈
      apartModel.aliasTable ↔ type = Schema.toType (typeSchema "number") := by
  have hkeys : (apartModel.namedSchemas.map Prod.fst).Nodup := by decide
  have hnames : apartModel.aliasTable.map Prod.fst = ["string_", "_2fa", "a_b_c"] := by
    rw [Model.aliasTable, List.map_map]
    decide +kernel
  obtain ⟨-, hdistinct, hdenotes⟩ := apartModel.aliases_distinct_iff hkeys
  have hclash : apartModel.NoClash := hdistinct.mp (by rw [hnames]; decide)
  have hentry : ("a~b/c", typeSchema "number") ∈ apartModel.namedSchemas :=
    List.mem_cons_of_mem _ (List.mem_cons_of_mem _ List.mem_cons_self)
  exact ⟨hkeys, hclash, hnames,
    hdenotes hclash _ hentry (by decide) _ _ (by decide +kernel) (by decide +kernel)⟩

/-- Two keys that differ in a character that does not fit into a name. -/
def clashModel : Model := .ofSchemas
  [("a-b", typeSchema "string"), ("a_b", typeSchema "number")]

/-- Different keys are no reason for different aliases, and a reference to a schema may have the
name of the alias of another. -/
theorem clashModel_not_distinct :
    (clashModel.namedSchemas.map Prod.fst).Nodup ∧
    ¬ (clashModel.aliasTable.map Prod.fst).Nodup ∧
    (Schema.referenceName "#/components/schemas/a-b", .literal "number") ∈ clashModel.aliasTable ∧
    aliases 4 clashModel = "export type a_b = string;\nexport type a_b = number;\n" := by
  have htable : clashModel.aliasTable =
      [("a_b", .literal "string"), ("a_b", .literal "number")] := by
    have hname : TypeName.sanitize "a-b" = "a_b" ∧ TypeName.sanitize "a_b" = "a_b" := by
      decide +kernel
    have hstring : Schema.toType (typeSchema "string") = .literal "string" :=
      Schema.toType_of_kind (k := .primitive .string) (by simp [typeSchema]) rfl
    have hnumber : Schema.toType (typeSchema "number") = .literal "number" :=
      Schema.toType_of_kind (k := .primitive .number) (by simp [typeSchema]) rfl
    simp only [Model.aliasTable, clashModel, Model.ofSchemas, Model.namedSchemas, Option.getD_some,
      List.map_cons, List.map_nil, hname, hstring, hnumber]
  have hreference : Schema.referenceName "#/components/schemas/a-b" = "a_b" := by decide +kernel
  refine ⟨by decide, ?_, ?_, ?_⟩
  · rw [htable]
    decide
  · rw [htable, hreference]
    simp
  · rw [aliases_eq, htable]
    decide +kernel

end ApiTypes
