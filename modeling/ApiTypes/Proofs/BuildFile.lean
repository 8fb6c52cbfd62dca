import ApiTypes.BuildFile
import ApiTypes.Proofs.Json.Record
import ApiTypes.Proofs.Keyed
import ApiTypes.Proofs.List
import Mathlib.Tactic.MkIffOfInductiveProp

/-!
Which build files are accepted, and what they say.

A build file is read by three loops that end at the first fault: one over its nodes, one over the
fields of the output and one over the fields of each schema. Here each loop is compared with a
relation between the nodes read so far and what they say. The relation looks at the nodes as a
whole: all of them are of some form, and of those with one name the last counts, or the first, or
all in order.
-/

namespace ApiTypes.BuildFile

open Json (bind_eq_ok)

/-! ### Loops that may fail -/

/-- A loop ends in the states that a relation gives, if the relation begins where the loop begins
and goes on as one step does. -/
lemma foldlM_eq_ok_iff {σ ν ε : Type} {step : σ → ν → Except ε σ} {start : σ}
    {P : List ν → σ → Prop} (hnil : ∀ s, P [] s ↔ s = start)
    (hconcat : ∀ nodes node next,
      P (nodes ++ [node]) next ↔ ∃ s, P nodes s ∧ step s node = .ok next)
    (nodes : List ν) (s : σ) : nodes.foldlM step start = .ok s ↔ P nodes s := by
  induction nodes using List.reverseRecOn generalizing s with
  | nil =>
    rw [hnil, List.foldlM_nil]
    exact ⟨fun h => by cases h; rfl, fun h => h ▸ rfl⟩
  | append_singleton nodes node ih =>
    rw [hconcat, List.foldlM_append, bind_eq_ok]
    simp only [ih, List.foldlM_cons, List.foldlM_nil, bind_pure]

lemma orFault_eq_ok_iff {α : Type} {fault : Fault} {value : Option α} {a : α} :
    orFault fault value = .ok a ↔ value = some a := by
  cases value <;> simp [orFault]

lemma firstString_eq_ok_iff {what text : String} {node : Kdl.Node} :
    firstString what node = .ok text ↔ node.firstString? = some text :=
  orFault_eq_ok_iff

lemma return_eq_ok_iff {α : Type} {a b : α} : (return a : Except Fault α) = .ok b ↔ b = a := by
  rw [eq_comm]
  exact Except.ok.injEq b a ▸ Iff.rfl

lemma bind_return_eq_ok_iff {α β : Type} {x : Except Fault α} {f : α → β} {b : β} :
    (do return f (← x)) = .ok b ↔ ∃ a, x = .ok a ∧ b = f a := by
  simp only [bind_eq_ok, return_eq_ok_iff]

/-! ### Nodes by name -/

/-- The nodes of one name, in order. -/
def named (name : String) (nodes : List Kdl.Node) : List Kdl.Node :=
  nodes.filter fun node => node.name = name

/-- The last node of a name. -/
def lastNamed? (name : String) (nodes : List Kdl.Node) : Option Kdl.Node :=
  (named name nodes).getLast?

lemma mem_named {name : String} {node : Kdl.Node} {nodes : List Kdl.Node} :
    node ∈ named name nodes ↔ node ∈ nodes ∧ node.name = name := by
  simp [named]

lemma named_concat (name : String) (nodes : List Kdl.Node) (node : Kdl.Node) :
    named name (nodes ++ [node]) =
      if node.name = name then named name nodes ++ [node] else named name nodes := by
  rw [named, List.filter_append]
  split
  · next h => simp [named, h]
  · next h => simp [named, h]

lemma lastNamed?_concat (name : String) (nodes : List Kdl.Node) (node : Kdl.Node) :
    lastNamed? name (nodes ++ [node]) =
      if node.name = name then some node else lastNamed? name nodes := by
  rw [lastNamed?, named_concat]
  split
  · exact List.getLast?_concat
  · rfl

lemma lastNamed?_eq_none_iff {name : String} {nodes : List Kdl.Node} :
    lastNamed? name nodes = none ↔ ∀ node ∈ nodes, node.name ≠ name := by
  simp [lastNamed?, named]

lemma mem_of_lastNamed? {name : String} {node : Kdl.Node} {nodes : List Kdl.Node}
    (h : lastNamed? name nodes = some node) : node ∈ nodes ∧ node.name = name :=
  mem_named.mp (List.mem_of_getLast? h)

lemma exists_lastNamed? {name : String} {node : Kdl.Node} {nodes : List Kdl.Node}
    (h : node ∈ nodes) (hname : node.name = name) :
    ∃ last ∈ nodes, last.name = name ∧ lastNamed? name nodes = some last := by
  cases hlast : lastNamed? name nodes with
  | none => exact absurd hname (lastNamed?_eq_none_iff.mp hlast node h)
  | some last =>
    obtain ⟨hmem, hlastName⟩ := mem_of_lastNamed? hlast
    exact ⟨last, hmem, hlastName, rfl⟩

/-! ### The output -/

/-- A folder, or an indent that fits into 64 bits. -/
inductive OutputField (node : Kdl.Node) : Prop where
  | directory (text : String) : node.name = "dir" → node.firstString? = some text →
      OutputField node
  | indent (n : Nat) : node.name = "indent" → node.firstInteger? = some (n : Int) →
      n < UInt64.size → OutputField node

/-- What the last fields of each kind say. -/
def fieldsOf (children : List Kdl.Node) : OutputFields where
  directory := (lastNamed? "dir" children).bind Kdl.Node.firstString?
  indent := ((lastNamed? "indent" children).bind Kdl.Node.firstInteger?).map Int.toNat

lemma indentOf_eq_ok_iff {node : Kdl.Node} {n : Nat} :
    indentOf node = .ok n ↔ node.firstInteger? = some (n : Int) ∧ n < UInt64.size := by
  have hmax : maxIndent = (UInt64.size : Int) - 1 := by decide
  unfold indentOf
  rw [bind_eq_ok]
  constructor
  · rintro ⟨value, hvalue, hn⟩
    split at hn
    · cases hn
      rw [orFault_eq_ok_iff] at hvalue
      rw [hvalue, Option.some.injEq]
      omega
    · cases hn
  · rintro ⟨hvalue, hn⟩
    refine ⟨n, orFault_eq_ok_iff.mpr hvalue, ?_⟩
    rw [if_pos (by omega)]
    rfl

lemma addOutputField_eq_ok_iff {fields next : OutputFields} {node : Kdl.Node} :
    addOutputField fields node = .ok next ↔
      (node.name = "dir" ∧ ∃ text, node.firstString? = some text ∧
        next = { fields with directory := some text }) ∨
      node.name = "indent" ∧ ∃ n : Nat, (node.firstInteger? = some (n : Int) ∧ n < UInt64.size) ∧
        next = { fields with indent := some n } := by
  unfold addOutputField
  split
  · next hname =>
    rw [bind_return_eq_ok_iff]
    simp [hname, firstString_eq_ok_iff]
  · next hname =>
    rw [bind_return_eq_ok_iff]
    simp [hname, indentOf_eq_ok_iff]
  · next hdir hindent =>
    simp only [reduceCtorEq, false_iff]
    rintro (⟨hname, -⟩ | ⟨hname, -⟩)
    · exact hdir hname
    · exact hindent hname

lemma fieldsOf_concat_dir {child : Kdl.Node} {text : String} (children : List Kdl.Node)
    (hname : child.name = "dir") (htext : child.firstString? = some text) :
    fieldsOf (children ++ [child]) = { fieldsOf children with directory := some text } := by
  simp [fieldsOf, lastNamed?_concat, hname, htext]

lemma fieldsOf_concat_indent {child : Kdl.Node} {n : Nat} (children : List Kdl.Node)
    (hname : child.name = "indent") (hn : child.firstInteger? = some (n : Int)) :
    fieldsOf (children ++ [child]) = { fieldsOf children with indent := some n } := by
  simp [fieldsOf, lastNamed?_concat, hname, hn]

lemma foldlM_addOutputField {children : List Kdl.Node} {fields : OutputFields} :
    children.foldlM addOutputField {} = .ok fields ↔
      (∀ child ∈ children, OutputField child) ∧ fields = fieldsOf children := by
  refine foldlM_eq_ok_iff (P := fun children fields =>
    (∀ child ∈ children, OutputField child) ∧ fields = fieldsOf children) ?_ ?_ children fields
  · simp [fieldsOf, lastNamed?, named]
  · intro children child next
    simp only [addOutputField_eq_ok_iff, List.forall_mem_append, List.forall_mem_singleton]
    constructor
    · rintro ⟨⟨hall, hchild⟩, rfl⟩
      refine ⟨fieldsOf children, ⟨hall, rfl⟩, ?_⟩
      cases hchild with
      | directory text hname htext =>
        exact Or.inl ⟨hname, text, htext, fieldsOf_concat_dir children hname htext⟩
      | indent n hname hn hsize =>
        exact Or.inr ⟨hname, n, ⟨hn, hsize⟩, fieldsOf_concat_indent children hname hn⟩
    · rintro ⟨fields, ⟨hall, rfl⟩, ⟨hname, text, htext, rfl⟩ | ⟨hname, n, ⟨hn, hsize⟩, rfl⟩⟩
      · exact ⟨⟨hall, .directory text hname htext⟩,
          (fieldsOf_concat_dir children hname htext).symm⟩
      · exact ⟨⟨hall, .indent n hname hn hsize⟩, (fieldsOf_concat_indent children hname hn).symm⟩

lemma readOutput_eq_ok_iff {node : Kdl.Node} {output : Output} :
    readOutput node = .ok output ↔
      ∃ children, node.children = some children ∧ (∀ child ∈ children, OutputField child) ∧
        fieldsOf children = ⟨some output.directory, output.indent⟩ := by
  unfold readOutput
  simp only [bind_eq_ok, orFault_eq_ok_iff, foldlM_addOutputField]
  constructor
  · rintro ⟨children, hchildren, fields, ⟨hall, rfl⟩, directory, hdirectory, houtput⟩
    cases houtput
    exact ⟨children, hchildren, hall, by rw [← hdirectory]⟩
  · rintro ⟨children, hchildren, hall, hfields⟩
    refine ⟨children, hchildren, _, ⟨hall, rfl⟩, output.directory, ?_, ?_⟩
    · rw [hfields]
    · rw [hfields]
      rfl

/-- A block of such fields, with a folder among them. -/
def IsOutput (node : Kdl.Node) : Prop :=
  ∃ children, node.children = some children ∧ (∀ child ∈ children, OutputField child) ∧
    ∃ child ∈ children, child.name = "dir"

lemma OutputField.exists_firstString? {node : Kdl.Node} (h : OutputField node)
    (hname : node.name = "dir") : ∃ text, node.firstString? = some text := by
  cases h with
  | directory text _ htext => exact ⟨text, htext⟩
  | indent n hindent _ _ => simp [hname] at hindent

lemma exists_readOutput_iff {node : Kdl.Node} :
    (∃ output, readOutput node = .ok output) ↔ IsOutput node := by
  simp only [readOutput_eq_ok_iff]
  constructor
  · rintro ⟨output, children, hchildren, hall, hfields⟩
    refine ⟨children, hchildren, hall, ?_⟩
    obtain ⟨child, hchild, -⟩ :=
      Option.bind_eq_some_iff.mp (congrArg OutputFields.directory hfields)
    exact ⟨child, mem_of_lastNamed? hchild⟩
  · rintro ⟨children, hchildren, hall, child, hmem, hname⟩
    obtain ⟨last, hmem, hname, hlast⟩ := exists_lastNamed? hmem hname
    obtain ⟨text, htext⟩ := (hall last hmem).exists_firstString? hname
    exact ⟨⟨text, (fieldsOf children).indent⟩, children, hchildren, hall, by
      simp [fieldsOf, hlast, htext]⟩

/-! ### Schemas -/

def SchemaField (node : Kdl.Node) : Prop :=
  node.name = "path" ∧ ∃ text, node.firstString? = some text

/-- What the last path says. -/
def pathOf? (children : List Kdl.Node) : Option String :=
  (lastNamed? "path" children).bind Kdl.Node.firstString?

lemma pathOf?_concat {child : Kdl.Node} {text : String} (children : List Kdl.Node)
    (hname : child.name = "path") (htext : child.firstString? = some text) :
    pathOf? (children ++ [child]) = some text := by
  rw [pathOf?, lastNamed?_concat, if_pos hname, Option.bind_some, htext]

lemma addSchemaField_eq_ok_iff {path next : Option String} {node : Kdl.Node} :
    addSchemaField path node = .ok next ↔
      node.name = "path" ∧ ∃ text, node.firstString? = some text ∧ next = some text := by
  unfold addSchemaField
  split
  · next hname =>
    rw [bind_return_eq_ok_iff]
    simp [hname, firstString_eq_ok_iff]
  · next hname =>
    simp only [reduceCtorEq, false_iff]
    exact fun h => hname h.1

lemma foldlM_addSchemaField {children : List Kdl.Node} {path : Option String} :
    children.foldlM addSchemaField none = .ok path ↔
      (∀ child ∈ children, SchemaField child) ∧ path = pathOf? children := by
  refine foldlM_eq_ok_iff (P := fun children path =>
    (∀ child ∈ children, SchemaField child) ∧ path = pathOf? children) ?_ ?_ children path
  · simp [pathOf?, lastNamed?, named]
  · intro children child next
    simp only [addSchemaField_eq_ok_iff, List.forall_mem_append, List.forall_mem_singleton]
    constructor
    · rintro ⟨⟨hall, hname, text, htext⟩, rfl⟩
      exact ⟨_, ⟨hall, rfl⟩, hname, text, htext, pathOf?_concat children hname htext⟩
    · rintro ⟨path, ⟨hall, -⟩, hname, text, htext, rfl⟩
      exact ⟨⟨hall, hname, text, htext⟩, (pathOf?_concat children hname htext).symm⟩

lemma readSchema_eq_ok_iff {node : Kdl.Node} {schema : SchemaSource} :
    readSchema node = .ok schema ↔
      node.firstString? = some schema.name ∧
      ∃ children, node.children = some children ∧ (∀ child ∈ children, SchemaField child) ∧
        pathOf? children = some schema.path := by
  unfold readSchema
  simp only [bind_eq_ok, orFault_eq_ok_iff, foldlM_addSchemaField]
  constructor
  · rintro ⟨name, hname, children, hchildren, _, ⟨hall, rfl⟩, path, hpath, hschema⟩
    cases hschema
    exact ⟨hname, children, hchildren, hall, hpath⟩
  · rintro ⟨hname, children, hchildren, hall, hpath⟩
    exact ⟨_, hname, children, hchildren, _, ⟨hall, rfl⟩, _, hpath, rfl⟩

/-- A name, and a block of paths with at least one. -/
def IsSchema (node : Kdl.Node) : Prop :=
  (∃ name, node.firstString? = some name) ∧
  ∃ children, node.children = some children ∧ (∀ child ∈ children, SchemaField child) ∧
    children ≠ []

lemma exists_readSchema_iff {node : Kdl.Node} :
    (∃ schema, readSchema node = .ok schema) ↔ IsSchema node := by
  simp only [readSchema_eq_ok_iff]
  constructor
  · rintro ⟨schema, hname, children, hchildren, hall, hpath⟩
    refine ⟨⟨_, hname⟩, children, hchildren, hall, ?_⟩
    rintro rfl
    cases hpath
  · rintro ⟨⟨name, hname⟩, children, hchildren, hall, hne⟩
    obtain ⟨child, hmem⟩ := List.exists_mem_of_ne_nil _ hne
    obtain ⟨last, hmem, -, hlast⟩ := exists_lastNamed? hmem (hall child hmem).1
    obtain ⟨path, hpath⟩ := (hall last hmem).2
    exact ⟨⟨name, path⟩, hname, children, hchildren, hall, by simp [pathOf?, hlast, hpath]⟩

/-! ### Targets -/

/-- The node has the name of the framework, whatever the case of its ASCII letters. -/
def Names (node : Kdl.Node) (framework : Framework) : Prop :=
  ∃ text, node.firstString? = some text ∧
    Framework.lowered text = Framework.lowered framework.name

lemma ofName?_eq_some_iff {text : String} {framework : Framework} :
    Framework.ofName? text = some framework ↔
      Framework.lowered text = Framework.lowered framework.name := by
  have hlowered : Framework.lowered framework.name = framework.name.toList := by
    cases framework <;> rfl
  rw [hlowered, Framework.ofName?]
  constructor
  · intro h
    have hfound := List.find?_some h
    exact (of_decide_eq_true hfound).symm
  · intro h
    have hnodup : (Framework.all.map fun f => f.name.toList).Nodup := by decide
    have hmem : framework ∈ Framework.all := by cases framework <;> decide
    rw [h]
    exact Keyed.find?_of_mem hnodup hmem

lemma readTarget_eq_ok_iff {node : Kdl.Node} {framework : Framework} :
    readTarget node = .ok framework ↔ Names node framework := by
  unfold readTarget
  simp only [bind_eq_ok, orFault_eq_ok_iff, firstString_eq_ok_iff, ofName?_eq_some_iff, Names]

/-! ### The whole file -/

/-- The file for the aliases that a node gives. -/
def modelsOf (node : Kdl.Node) : String := node.firstString?.getD defaultModels

lemma addSchema_eq_ok_iff {schemas next : List SchemaSource} {schema : SchemaSource} :
    addSchema schemas schema = .ok next ↔
      schema.name ∉ schemas.map SchemaSource.name ∧ next = schemas ++ [schema] := by
  have hmem : (schemas.any fun s => s.name = schema.name) = true ↔
      schema.name ∈ schemas.map SchemaSource.name := by
    simp
  unfold addSchema
  split
  · next h => simp [-List.mem_map, hmem.mp h]
  · next h =>
    rw [hmem] at h
    exact return_eq_ok_iff.trans (by simp [-List.mem_map, h])

/-- What one node does. -/
lemma addNode_eq_ok_iff {draft next : Draft} {node : Kdl.Node} :
    addNode draft node = .ok next ↔
      (node.name = "output" ∧ draft.output = none ∧ ∃ output, readOutput node = .ok output ∧
        next = { draft with output := some output }) ∨
      (node.name = "target" ∧ ∃ target, readTarget node = .ok target ∧
        next = { draft with targets := addTarget draft.targets target }) ∨
      (node.name = "models" ∧ next = { draft with models := some (modelsOf node) }) ∨
      (node.name = "schema" ∧ ∃ schema, readSchema node = .ok schema ∧
        schema.name ∉ draft.schemas.map SchemaSource.name ∧
        next = { draft with schemas := draft.schemas ++ [schema] }) := by
  unfold addNode
  split
  · next hname =>
    split
    · next hsome =>
      simp [hname, Option.isSome_iff_ne_none.mp hsome]
    · next hnone =>
      rw [bind_return_eq_ok_iff]
      simp [hname, Option.not_isSome_iff_eq_none.mp hnone]
  · next hname =>
    rw [bind_return_eq_ok_iff]
    simp [hname]
  · next hname =>
    rw [return_eq_ok_iff]
    simp [hname, modelsOf]
  · next hname =>
    simp only [bind_eq_ok, return_eq_ok_iff, addSchema_eq_ok_iff]
    simp [hname]
  · next houtput htarget hmodels hschema =>
    simp only [reduceCtorEq, false_iff]
    rintro (⟨hname, -⟩ | ⟨hname, -⟩ | ⟨hname, -⟩ | ⟨hname, -⟩)
    · exact houtput hname
    · exact htarget hname
    · exact hmodels hname
    · exact hschema hname

def nodeNames : List String := ["output", "target", "models", "schema"]

/-- What nodes say that are all as they should be. -/
@[mk_iff]
structure Drafts (nodes : List Kdl.Node) (draft : Draft) : Prop where
  known : ∀ node ∈ nodes, node.name ∈ nodeNames
  output : List.Forall₂ (readOutput · = .ok ·) (named "output" nodes) draft.output.toList
  targets : ∃ frameworks, List.Forall₂ (readTarget · = .ok ·) (named "target" nodes) frameworks ∧
    draft.targets = frameworks.eraseDups
  models : draft.models = (lastNamed? "models" nodes).map modelsOf
  schemas : List.Forall₂ (readSchema · = .ok ·) (named "schema" nodes) draft.schemas
  distinct : (draft.schemas.map SchemaSource.name).Nodup

lemma drafts_nil {draft : Draft} : Drafts [] draft ↔ draft = {} := by
  constructor
  · rintro ⟨-, houtput, ⟨frameworks, htargets, hdraft⟩, hmodels, hschemas, -⟩
    have hnone : draft.output = none := by simpa [named] using houtput
    have hnoTargets : frameworks = [] := by simpa [named] using htargets
    have hnoSchemas : draft.schemas = [] := by simpa [named] using hschemas
    rw [hnoTargets] at hdraft
    obtain ⟨_, _, _, _⟩ := draft
    simp_all [lastNamed?, named]
  · rintro rfl
    exact ⟨List.forall_mem_nil _, .nil, ⟨[], .nil, rfl⟩, rfl, .nil, List.nodup_nil⟩

lemma addTarget_eraseDups (targets : List Framework) (target : Framework) :
    addTarget targets.eraseDups target = (targets ++ [target]).eraseDups := by
  rw [List.eraseDups_concat, addTarget]
  simp only [List.mem_eraseDups]

section

variable {nodes : List Kdl.Node} {node : Kdl.Node} {next : Draft}

lemma drafts_concat_output (hname : node.name = "output") :
    Drafts (nodes ++ [node]) next ↔ ∃ draft, Drafts nodes draft ∧ draft.output = none ∧
      ∃ output, readOutput node = .ok output ∧ next = { draft with output := some output } := by
  simp only [drafts_iff, List.forall_mem_append, List.forall_mem_singleton, named_concat,
    lastNamed?_concat, hname, List.forall₂_concat_iff, reduceIte, String.reduceEq]
  constructor
  · rintro ⟨⟨hknown, -⟩, ⟨outputs, output, houtput, hinit, hread⟩, htargets, hmodels, hschemas,
      hdistinct⟩
    -- a draft has room for one output, so there was none before
    obtain ⟨rfl, hsome⟩ : outputs = [] ∧ next.output = some output := by
      cases hnext : next.output <;> simp_all [List.singleton_eq_append_iff]
    refine ⟨{ next with output := none }, ⟨hknown, hinit, htargets, hmodels, hschemas, hdistinct⟩,
      rfl, output, hread, ?_⟩
    rw [← hsome]
  · rintro ⟨draft, ⟨hknown, houtput, htargets, hmodels, hschemas, hdistinct⟩, hnone, output, hread,
      rfl⟩
    rw [hnone] at houtput
    exact ⟨⟨hknown, by decide⟩, ⟨[], output, rfl, houtput, hread⟩, htargets, hmodels, hschemas,
      hdistinct⟩

lemma drafts_concat_target (hname : node.name = "target") :
    Drafts (nodes ++ [node]) next ↔ ∃ draft, Drafts nodes draft ∧
      ∃ target, readTarget node = .ok target ∧
        next = { draft with targets := addTarget draft.targets target } := by
  simp only [drafts_iff, List.forall_mem_append, List.forall_mem_singleton, named_concat,
    lastNamed?_concat, hname, List.forall₂_concat_iff, reduceIte, String.reduceEq]
  constructor
  · rintro ⟨⟨hknown, -⟩, houtput, ⟨_, ⟨frameworks, target, rfl, hinit, hread⟩, htargets⟩, hmodels,
      hschemas, hdistinct⟩
    refine ⟨{ next with targets := frameworks.eraseDups },
      ⟨hknown, houtput, ⟨frameworks, hinit, rfl⟩, hmodels, hschemas, hdistinct⟩, target, hread, ?_⟩
    rw [addTarget_eraseDups, ← htargets]
  · rintro ⟨draft, ⟨hknown, houtput, ⟨frameworks, hinit, htargets⟩, hmodels, hschemas, hdistinct⟩,
      target, hread, rfl⟩
    refine ⟨⟨hknown, by decide⟩, houtput, ⟨_, ⟨frameworks, target, rfl, hinit, hread⟩, ?_⟩, hmodels,
      hschemas, hdistinct⟩
    rw [htargets, addTarget_eraseDups]

lemma drafts_concat_models (hname : node.name = "models") :
    Drafts (nodes ++ [node]) next ↔ ∃ draft, Drafts nodes draft ∧
      next = { draft with models := some (modelsOf node) } := by
  simp only [drafts_iff, List.forall_mem_append, List.forall_mem_singleton, named_concat,
    lastNamed?_concat, hname, reduceIte, String.reduceEq]
  constructor
  · rintro ⟨⟨hknown, -⟩, houtput, htargets, hmodels, hschemas, hdistinct⟩
    refine ⟨{ next with models := (lastNamed? "models" nodes).map modelsOf },
      ⟨hknown, houtput, htargets, rfl, hschemas, hdistinct⟩, ?_⟩
    rw [← Option.map_some, ← hmodels]
  · rintro ⟨draft, ⟨hknown, houtput, htargets, -, hschemas, hdistinct⟩, rfl⟩
    exact ⟨⟨hknown, by decide⟩, houtput, htargets, rfl, hschemas, hdistinct⟩

lemma drafts_concat_schema (hname : node.name = "schema") :
    Drafts (nodes ++ [node]) next ↔ ∃ draft, Drafts nodes draft ∧
      ∃ schema, readSchema node = .ok schema ∧
        schema.name ∉ draft.schemas.map SchemaSource.name ∧
        next = { draft with schemas := draft.schemas ++ [schema] } := by
  have hnodup : ∀ (schemas : List SchemaSource) (schema : SchemaSource),
      ((schemas ++ [schema]).map SchemaSource.name).Nodup ↔
        schema.name ∉ schemas.map SchemaSource.name ∧
          (schemas.map SchemaSource.name).Nodup := by
    intro schemas schema
    rw [List.map_append, List.nodup_append_comm, List.map_singleton, List.singleton_append,
      List.nodup_cons]
  simp only [drafts_iff, List.forall_mem_append, List.forall_mem_singleton, named_concat,
    lastNamed?_concat, hname, List.forall₂_concat_iff, reduceIte, String.reduceEq]
  constructor
  · rintro ⟨⟨hknown, -⟩, houtput, htargets, hmodels, ⟨schemas, schema, hschemas, hinit, hread⟩,
      hdistinct⟩
    rw [hschemas, hnodup] at hdistinct
    refine ⟨{ next with schemas }, ⟨hknown, houtput, htargets, hmodels, hinit, hdistinct.2⟩,
      schema, hread, hdistinct.1, ?_⟩
    rw [← hschemas]
  · rintro ⟨draft, ⟨hknown, houtput, htargets, hmodels, hschemas, hdistinct⟩, schema, hread, hnew,
      rfl⟩
    exact ⟨⟨hknown, by decide⟩, houtput, htargets, hmodels,
      ⟨draft.schemas, schema, rfl, hschemas, hread⟩, (hnodup _ _).mpr ⟨hnew, hdistinct⟩⟩

/-- Reading one more node is going on by one node. -/
lemma drafts_concat : Drafts (nodes ++ [node]) next ↔
    ∃ draft, Drafts nodes draft ∧ addNode draft node = .ok next := by
  simp only [addNode_eq_ok_iff]
  by_cases hknown : node.name ∈ nodeNames
  · simp only [nodeNames, List.mem_cons, List.not_mem_nil, or_false] at hknown
    rcases hknown with hname | hname | hname | hname
    · rw [drafts_concat_output hname]
      simp [hname]
    · rw [drafts_concat_target hname]
      simp [hname]
    · rw [drafts_concat_models hname]
      simp [hname]
    · rw [drafts_concat_schema hname]
      simp [hname]
  · constructor
    · intro h
      exact absurd (h.known node (by simp)) hknown
    · rintro ⟨draft, -, ⟨hname, -⟩ | ⟨hname, -⟩ | ⟨hname, -⟩ | ⟨hname, -⟩⟩ <;>
        exact absurd (by rw [hname]; decide) hknown

/-- What the loop over all nodes gives. -/
lemma foldlM_addNode {draft : Draft} : nodes.foldlM addNode {} = .ok draft ↔ Drafts nodes draft :=
  foldlM_eq_ok_iff (fun _ => drafts_nil) (fun _ _ _ => drafts_concat) nodes draft

end

lemma finish_eq_ok_iff {draft : Draft} {file : BuildFile} :
    finish draft = .ok file ↔ (draft.targets ≠ [] ∨ draft.models ≠ none) ∧
      ∃ output, draft.output = some output ∧
        file = ⟨output.directory, output.indent, draft.targets, draft.models, draft.schemas⟩ := by
  have hidle : (draft.targets.isEmpty && draft.models.isNone) = true ↔
      ¬ (draft.targets ≠ [] ∨ draft.models ≠ none) := by
    simp
  unfold finish
  rw [bind_eq_ok]
  simp only [orFault_eq_ok_iff]
  constructor
  · rintro ⟨output, houtput, hfile⟩
    split at hfile
    · cases hfile
    · next hbusy =>
      rw [hidle, not_not] at hbusy
      exact ⟨hbusy, output, houtput, return_eq_ok_iff.mp hfile⟩
  · rintro ⟨hbusy, output, houtput, rfl⟩
    refine ⟨output, houtput, ?_⟩
    rw [if_neg (by rwa [hidle, not_not])]
    rfl

lemma ofNodes_eq_ok_iff {nodes : List Kdl.Node} {file : BuildFile} :
    ofNodes nodes = .ok file ↔ ∃ draft, Drafts nodes draft ∧ finish draft = .ok file := by
  rw [ofNodes, bind_eq_ok]
  simp only [foldlM_addNode]

/-- The nodes of a build file that is accepted. -/
structure WellFormed (nodes : List Kdl.Node) : Prop where
  known : ∀ node ∈ nodes, node.name ∈ nodeNames
  output : ∃ node, named "output" nodes = [node] ∧ IsOutput node
  targets : ∀ node ∈ named "target" nodes, ∃ framework, Names node framework
  schemas : ∀ node ∈ named "schema" nodes, IsSchema node
  distinct : ((named "schema" nodes).map Kdl.Node.firstString?).Nodup
  busy : ∃ node ∈ nodes, node.name = "target" ∨ node.name = "models"

/-- What the nodes mean: the last folder, indent, path and file for the aliases count, the targets
stand in the order in which they are first named, and the schemas as they are. -/
structure Means (nodes : List Kdl.Node) (file : BuildFile) : Prop where
  output : ∃ node children, named "output" nodes = [node] ∧ node.children = some children ∧
    fieldsOf children = ⟨some file.directory, file.indent⟩
  targets : ∃ frameworks, List.Forall₂ Names (named "target" nodes) frameworks ∧
    Keyed.FirstSeen frameworks file.targets
  models : file.models = (lastNamed? "models" nodes).map modelsOf
  schemas : List.Forall₂ (fun node schema => node.firstString? = some schema.name ∧
    node.children.bind pathOf? = some schema.path) (named "schema" nodes) file.schemas

section

variable {nodes : List Kdl.Node} {draft : Draft}

lemma map_firstString?_schemas {schemas : List SchemaSource}
    (h : List.Forall₂ (readSchema · = .ok ·) nodes schemas) :
    nodes.map Kdl.Node.firstString? = (schemas.map SchemaSource.name).map some := by
  induction h with
  | nil => rfl
  | cons hread _ ih =>
    rw [List.map_cons, List.map_cons, List.map_cons, ih, (readSchema_eq_ok_iff.mp hread).1]

lemma nodup_names_iff {schemas : List SchemaSource}
    (h : List.Forall₂ (readSchema · = .ok ·) nodes schemas) :
    (nodes.map Kdl.Node.firstString?).Nodup ↔ (schemas.map SchemaSource.name).Nodup := by
  rw [map_firstString?_schemas h, List.nodup_map_iff fun _ _ => Option.some.inj]

lemma Drafts.busy_iff (h : Drafts nodes draft) :
    (draft.targets ≠ [] ∨ draft.models ≠ none) ↔
      ∃ node ∈ nodes, node.name = "target" ∨ node.name = "models" := by
  have htargets : draft.targets ≠ [] ↔ ∃ node ∈ nodes, node.name = "target" := by
    obtain ⟨frameworks, hread, hdraft⟩ := h.targets
    have hnil : draft.targets = [] ↔ named "target" nodes = [] := by
      rw [hdraft, ← List.length_eq_zero_iff (l := named _ _), hread.length_eq,
        List.length_eq_zero_iff]
      simp only [List.eq_nil_iff_forall_not_mem, List.mem_eraseDups]
    rw [Ne, hnil]
    simp [named]
  have hmodels : draft.models ≠ none ↔ ∃ node ∈ nodes, node.name = "models" := by
    rw [h.models, Ne, Option.map_eq_none_iff, lastNamed?_eq_none_iff]
    simp
  rw [htargets, hmodels]
  simp [← exists_or, ← and_or_left]

lemma Drafts.exists_output {output : Output} (h : Drafts nodes draft)
    (houtput : draft.output = some output) :
    ∃ node, named "output" nodes = [node] ∧ readOutput node = .ok output := by
  have hread := h.output
  rw [houtput, Option.toList_some, List.forall₂_cons_right_iff] at hread
  obtain ⟨node, rest, hnode, hrest, hnodes⟩ := hread
  rw [List.forall₂_nil_right_iff] at hrest
  exact ⟨node, hrest ▸ hnodes, hnode⟩

lemma Drafts.wellFormed {output : Output} (h : Drafts nodes draft)
    (houtput : draft.output = some output) (hbusy : draft.targets ≠ [] ∨ draft.models ≠ none) :
    WellFormed nodes where
  known := h.known
  output := by
    obtain ⟨node, hnode, hread⟩ := h.exists_output houtput
    exact ⟨node, hnode, exists_readOutput_iff.mp ⟨output, hread⟩⟩
  targets := by
    obtain ⟨frameworks, hread, -⟩ := h.targets
    simp only [readTarget_eq_ok_iff] at hread
    exact List.exists_forall₂_iff.mp ⟨frameworks, hread⟩
  schemas := fun node hnode =>
    exists_readSchema_iff.mp (List.exists_forall₂_iff.mp ⟨_, h.schemas⟩ node hnode)
  distinct := (nodup_names_iff h.schemas).mpr h.distinct
  busy := h.busy_iff.mp hbusy

lemma WellFormed.exists_drafts (h : WellFormed nodes) :
    ∃ draft output, Drafts nodes draft ∧ draft.output = some output := by
  obtain ⟨node, hnode, hform⟩ := h.output
  obtain ⟨output, hread⟩ := exists_readOutput_iff.mpr hform
  obtain ⟨frameworks, htargets⟩ := List.exists_forall₂_iff.mpr h.targets
  obtain ⟨schemas, hschemas⟩ := List.exists_forall₂_iff.mpr fun node hnode =>
    exists_readSchema_iff.mpr (h.schemas node hnode)
  refine ⟨⟨some output, frameworks.eraseDups, (lastNamed? "models" nodes).map modelsOf, schemas⟩,
    output, ⟨h.known, ?_, ⟨frameworks, ?_, rfl⟩, rfl, hschemas,
      (nodup_names_iff hschemas).mp h.distinct⟩, rfl⟩
  · rw [hnode]
    exact .cons hread .nil
  · simpa only [readTarget_eq_ok_iff] using htargets

lemma Drafts.means {output : Output} (h : Drafts nodes draft)
    (houtput : draft.output = some output) :
    Means nodes ⟨output.directory, output.indent, draft.targets, draft.models, draft.schemas⟩ where
  output := by
    obtain ⟨node, hnode, hread⟩ := h.exists_output houtput
    obtain ⟨children, hchildren, -, hfields⟩ := readOutput_eq_ok_iff.mp hread
    exact ⟨node, children, hnode, hchildren, hfields⟩
  targets := by
    obtain ⟨frameworks, hread, htargets⟩ := h.targets
    simp only [readTarget_eq_ok_iff] at hread
    exact ⟨frameworks, hread, htargets ▸ Keyed.firstSeen_eraseDups frameworks⟩
  models := h.models
  schemas := by
    refine h.schemas.imp fun node schema hread => ?_
    obtain ⟨hname, children, hchildren, -, hpath⟩ := readSchema_eq_ok_iff.mp hread
    exact ⟨hname, by rw [hchildren, Option.bind_some, hpath]⟩

end

/-! ### Build files -/

/-- The nodes leave no choice. -/
lemma Means.unique {nodes : List Kdl.Node} {file file' : BuildFile} (h : Means nodes file)
    (h' : Means nodes file') : file = file' := by
  have hnames : Relator.RightUnique Names := by
    rintro node framework framework' ⟨text, htext, hname⟩ ⟨text', htext', hname'⟩
    rw [htext, Option.some.injEq] at htext'
    subst htext'
    rw [← ofName?_eq_some_iff] at hname hname'
    exact Option.some.inj (hname.symm.trans hname')
  obtain ⟨node, children, hnode, hchildren, hfields⟩ := h.output
  obtain ⟨node', children', hnode', hchildren', hfields'⟩ := h'.output
  obtain ⟨frameworks, hread, hseen⟩ := h.targets
  obtain ⟨frameworks', hread', hseen'⟩ := h'.targets
  have htargets : file.targets = file'.targets := by
    rw [List.right_unique_forall₂' hnames hread hread'] at hseen
    exact hseen.unique hseen'
  have hschemas : file.schemas = file'.schemas := by
    refine List.right_unique_forall₂' ?_ h.schemas h'.schemas
    rintro node ⟨name, path⟩ ⟨name', path'⟩ ⟨hname, hpath⟩ ⟨hname', hpath'⟩
    simp_all
  have hmodels : file.models = file'.models := h.models.trans h'.models.symm
  obtain ⟨directory, indent, targets, models, schemas⟩ := file
  obtain ⟨directory', indent', targets', models', schemas'⟩ := file'
  simp_all

/-- **Build files are accepted for their form.** A list of nodes is accepted just when it is well
formed, and then the build file is the one that the nodes mean. -/
theorem ofNodes_accepts_iff (nodes : List Kdl.Node) :
    ((∃ file, ofNodes nodes = .ok file) ↔ WellFormed nodes) ∧
    ∀ file, ofNodes nodes = .ok file ↔ WellFormed nodes ∧ Means nodes file := by
  have hok : ∀ file, ofNodes nodes = .ok file → WellFormed nodes ∧ Means nodes file := by
    intro file h
    obtain ⟨draft, hdraft, hfinish⟩ := ofNodes_eq_ok_iff.mp h
    obtain ⟨hbusy, output, houtput, rfl⟩ := finish_eq_ok_iff.mp hfinish
    exact ⟨hdraft.wellFormed houtput hbusy, hdraft.means houtput⟩
  have hexists : WellFormed nodes → ∃ file, ofNodes nodes = .ok file := by
    intro h
    obtain ⟨draft, output, hdraft, houtput⟩ := h.exists_drafts
    have hbusy := hdraft.busy_iff.mpr h.busy
    exact ⟨_, ofNodes_eq_ok_iff.mpr
      ⟨draft, hdraft, finish_eq_ok_iff.mpr ⟨hbusy, output, houtput, rfl⟩⟩⟩
  refine ⟨⟨fun ⟨file, h⟩ => (hok file h).1, hexists⟩, fun file => ⟨hok file, ?_⟩⟩
  rintro ⟨hform, hmeans⟩
  obtain ⟨file', h⟩ := hexists hform
  rw [hmeans.unique (hok file' h).2, h]

/-- A node with one argument. -/
def nodeWith (name : String) (value : Kdl.Value) (children : Option (List Kdl.Node)) : Kdl.Node :=
  .mk name [⟨none, value⟩] children

/-- Nodes in no order, with fields, targets and files for the aliases that come twice. -/
def sampleNodes : List Kdl.Node :=
  [nodeWith "schema" (.string "B")
      (some [nodeWith "path" (.string "old.yaml") none, nodeWith "path" (.string "b.yaml") none]),
    nodeWith "target" (.string "Elysia") none, nodeWith "models" (.string "all.ts") none,
    .mk "output" []
      (some [nodeWith "dir" (.string "old") none,
        nodeWith "indent" (.integer 18446744073709551615) none,
        nodeWith "dir" (.string "out") none]),
    nodeWith "target" (.string "HONO") none, nodeWith "target" (.string "elysia") none,
    nodeWith "schema" (.string "A") (some [nodeWith "path" (.string "a.yaml") none]),
    .mk "models" [] none]

def sampleFile : BuildFile :=
  { directory := "out", indent := some 18446744073709551615, targets := [.elysia, .hono],
    models := some "models.ts", schemas := [⟨"B", "b.yaml"⟩, ⟨"A", "a.yaml"⟩] }

theorem sampleNodes_accepted :
    ofNodes sampleNodes = .ok sampleFile ∧ WellFormed sampleNodes ∧
      Means sampleNodes sampleFile := by
  have hok : ofNodes sampleNodes = .ok sampleFile := rfl
  exact ⟨hok, ((ofNodes_accepts_iff sampleNodes).2 sampleFile).mp hok⟩

end ApiTypes.BuildFile
