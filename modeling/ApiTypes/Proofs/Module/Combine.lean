import ApiTypes.Module.App
import ApiTypes.Proofs.List
import ApiTypes.Proofs.Module.Header

/-!
Modules joined into one, line by line.

Without carriage returns the result is told by the lines of the modules alone: every import line
once, and then the bodies with an empty line in front of each. It is a module again, whose imports
and body are those that were joined, so it does not matter in how many steps modules are joined.
-/

namespace ApiTypes

open Text (lines unlines trimEnd)

namespace Combine

variable {line : List Char}

/-! ### Every import once -/

lemma distinct_eq_eraseDups (ls : List (List Char)) : distinct ls = ls.eraseDups := by
  induction ls using List.reverseRecOn with
  | nil => rfl
  | append_singleton ls line ih =>
    rw [distinct, List.foldl_append, ← distinct, ih, List.eraseDups_concat]
    simp only [List.foldl_cons, List.foldl_nil, List.mem_eraseDups]

/-! ### The text of a module -/

/-- The lines of a module: imports, an empty line if something follows, and bodies with an empty
line between any two. A body may have several lines itself. -/
def layoutLines (imports bodies : List (List Char)) : List (List Char) :=
  imports ++ (if imports.isEmpty || bodies.isEmpty then [] else [[]]) ++ bodies.intersperse []

lemma toList_layout (imports bodies : List (List Char)) :
    (layout imports bodies).toList = unlines (layoutLines imports bodies) := by
  rw [layout, layoutLines, Text.unlines_append, Text.unlines_append, Text.unlines_intersperse]
  have hbodies : (bodies.map String.ofList).map String.toList = bodies := by
    simp [Function.comp_def]
  simp only [String.toList_append, Text.toList_join, Text.toList_join_feed, hbodies]
  cases imports <;> cases bodies <;> simp

/-! ### Reading the text again -/

variable {ls bodies : List (List Char)}

/-- The bodies with a blank line between any two are one body. -/
lemma isBody_intercalate (hne : bodies ≠ []) (h : ∀ b ∈ bodies, IsBody b) :
    IsBody (['\n', '\n'].intercalate bodies) := by
  induction bodies with
  | nil => exact absurd rfl hne
  | cons b bodies ih =>
    rw [List.forall_mem_cons] at h
    cases bodies with
    | nil => simpa using h.1
    | cons next bodies =>
      have hrest := ih (List.cons_ne_nil next bodies) h.2
      rw [List.intercalate_cons_cons, List.append_assoc]
      refine ⟨?_, ?_, ?_, ?_⟩
      · simp [h.1.ne_nil]
      · rw [← List.append_assoc]
        exact Text.trimEnd_append _ hrest.ne_nil hrest.trimmed
      · exact h.1.opens.append_feed h.1.ne_nil _
      · simp [h.1.noReturn, hrest.noReturn]

lemma IsBody.header_append_feed (h : IsBody cs) (rest : List Char) :
    header (cs ++ '\n' :: rest) = [] := by
  have hopens := h.opens.append_feed h.ne_nil rest
  obtain ⟨c, cs, rfl⟩ := List.exists_cons_of_ne_nil h.ne_nil
  have hreturn : c ≠ '\r' := by
    rintro rfl
    exact h.noReturn List.mem_cons_self
  exact hopens.header_eq_nil hreturn

/-- The bodies of a module behind its header. -/
lemma read_bodies (h : ∀ b ∈ bodies, IsBody b) :
    imports (unlines (bodies.intersperse [])) = [] ∧
      body (unlines (bodies.intersperse [])) = ['\n', '\n'].intercalate bodies := by
  rw [Text.unlines_intersperse]
  cases bodies with
  | nil => exact ⟨rfl, rfl⟩
  | cons b bodies =>
    have hbody := isBody_intercalate (List.cons_ne_nil b bodies) h
    have hheader := hbody.header_append_feed []
    refine ⟨?_, ?_⟩
    · rw [imports, List.isEmpty_cons, if_neg (by decide), hheader]
      rfl
    · rw [List.isEmpty_cons, if_neg (by decide), body_of_header_eq_nil hheader,
        Text.trimEnd_append_feed, hbody.trimmed]

/-- The module that is written has the imports and bodies it is written from. -/
lemma read_layout (himports : ∀ line ∈ ls, Heads line ∧ line ≠ [])
    (hbodies : ∀ b ∈ bodies, IsBody b) :
    imports (layout ls bodies).toList = ls ∧
      body (layout ls bodies).toList = ['\n', '\n'].intercalate bodies := by
  have hheads : ∀ line ∈ ls ++ (if ls.isEmpty || bodies.isEmpty then [] else [[]]), Heads line := by
    intro line hline
    rcases List.mem_append.mp hline with hline | hline
    · exact (himports line hline).1
    · split at hline
      · cases hline
      · rw [List.mem_singleton.mp hline]
        exact heads_nil
  obtain ⟨hnone, hbody⟩ := read_bodies hbodies
  rw [toList_layout, layoutLines, Text.unlines_append, imports_unlines_append hheads,
    body_unlines_append hheads, hnone, hbody, List.append_nil, List.filter_append]
  refine ⟨?_, rfl⟩
  have hls : ls.filter (fun l => !l.isEmpty) = ls :=
    List.filter_eq_self.mpr fun line hline => by simpa using (himports line hline).2
  rw [hls]
  split <;> simp

end Combine

open Combine

/-! ### Joining -/

/-- The import lines of some modules, as often as they are there. -/
def allImports (modules : List String) : List (List Char) :=
  modules.flatMap fun m => imports m.toList

def allBodies (modules : List String) : List (List Char) :=
  (modules.map fun m => body m.toList).filter fun text => !text.isEmpty

lemma combineModules_eq_layout (modules : List String) :
    combineModules modules = layout (allImports modules).eraseDups (allBodies modules) := by
  rw [combineModules, List.flatMap_map, List.map_map, distinct_eq_eraseDups]
  rfl

/-- Modules that a carriage return stands in nowhere. -/
def NoReturns (modules : List String) : Prop := ∀ m ∈ modules, '\r' ∉ m.toList

section

variable {modules : List String}

lemma heads_of_mem_allImports (h : NoReturns modules) {line : List Char}
    (hline : line ∈ allImports modules) : Heads line ∧ line ≠ [] := by
  rw [allImports, List.mem_flatMap] at hline
  obtain ⟨m, hm, hline⟩ := hline
  exact heads_of_mem_imports (h m hm) hline

lemma isBody_of_mem_allBodies (h : NoReturns modules) {text : List Char}
    (htext : text ∈ allBodies modules) : IsBody text := by
  rw [allBodies, List.mem_filter, List.mem_map] at htext
  obtain ⟨⟨m, hm, rfl⟩, hne⟩ := htext
  exact isBody_body (h m hm) (by simpa using hne)

lemma read_combineModules (h : NoReturns modules) :
    imports (combineModules modules).toList = (allImports modules).eraseDups ∧
      body (combineModules modules).toList = ['\n', '\n'].intercalate (allBodies modules) := by
  rw [combineModules_eq_layout]
  exact read_layout (fun _ hline => heads_of_mem_allImports h (List.mem_eraseDups.mp hline))
    fun _ => isBody_of_mem_allBodies h

end

/-! ### In several steps -/

lemma layout_congr {ls bodies bodies' : List (List Char)} (hnil : bodies = [] ↔ bodies' = [])
    (hjoin : ['\n', '\n'].intercalate bodies = ['\n', '\n'].intercalate bodies') :
    layout ls bodies = layout ls bodies' := by
  have hempty : bodies.isEmpty = bodies'.isEmpty := by
    rw [Bool.eq_iff_iff, List.isEmpty_iff, List.isEmpty_iff, hnil]
  rw [← String.toList_inj, toList_layout, toList_layout]
  simp only [layoutLines, Text.unlines_append, Text.unlines_intersperse, hempty, hjoin]

lemma allImports_flatten (groups : List (List String)) :
    allImports groups.flatten = groups.flatMap allImports := by
  induction groups with
  | nil => rfl
  | cons group groups ih =>
    rw [List.flatMap_cons, ← ih, List.flatten_cons, allImports, List.flatMap_append]
    rfl

lemma allBodies_flatten (groups : List (List String)) :
    allBodies groups.flatten = (groups.map allBodies).flatten := by
  rw [allBodies, List.map_flatten, List.filter_flatten, List.map_map]
  rfl

/-- Modules that are joined group by group give the same as all of them at once. -/
lemma combineModules_map_combineModules (groups : List (List String))
    (h : ∀ group ∈ groups, NoReturns group) :
    combineModules (groups.map combineModules) = combineModules groups.flatten := by
  have himports : allImports (groups.map combineModules) =
      groups.flatMap fun group => (allImports group).eraseDups := by
    rw [allImports, List.flatMap_map]
    exact List.flatMap_congr fun group hgroup => (read_combineModules (h group hgroup)).1
  have hmap : groups.map (fun group => body (combineModules group).toList) =
      groups.map fun group => ['\n', '\n'].intercalate (allBodies group) :=
    List.map_congr_left fun group hgroup => (read_combineModules (h group hgroup)).2
  have hbodies : allBodies (groups.map combineModules) =
      Text.joinGroups ['\n', '\n'] (groups.map allBodies) := by
    simp only [allBodies, Text.joinGroups, List.map_map, Function.comp_def] at hmap ⊢
    rw [hmap]
  have hne : ∀ bodies ∈ groups.map allBodies, ∀ text ∈ bodies, text ≠ [] := by
    refine List.forall_mem_map.mpr fun group hgroup text htext => ?_
    exact (isBody_of_mem_allBodies (h group hgroup) htext).ne_nil
  rw [combineModules_eq_layout, combineModules_eq_layout, himports, hbodies,
    List.eraseDups_flatMap_eraseDups, allImports_flatten, allBodies_flatten]
  exact layout_congr (Text.joinGroups_eq_nil_iff hne) (Text.intercalate_joinGroups hne)

/-- **Joining is associative.** Modules without carriage returns may be joined in two groups and
the two results joined; a module that was joined already stays as it is. -/
theorem combineModules_append {xs ys : List String} (hxs : NoReturns xs) (hys : NoReturns ys) :
    combineModules (xs ++ ys) = combineModules [combineModules xs, combineModules ys] ∧
    combineModules [combineModules xs] = combineModules xs := by
  have htwo := combineModules_map_combineModules [xs, ys]
    (List.forall_mem_cons.mpr ⟨hxs, List.forall_mem_singleton.mpr hys⟩)
  have hone := combineModules_map_combineModules [xs]
    (List.forall_mem_singleton.mpr hxs)
  rw [List.flatten_cons, List.flatten_singleton] at htwo
  rw [List.flatten_singleton] at hone
  exact ⟨htwo.symm, hone⟩

/-- Modules with an import further down, a body of white space and a header that is not ended. -/
def firstModules : List String :=
  ["import a\n\nimport é\nx = 1;  \nimport b\n \n", "\n  \n"]

def secondModules : List String := ["import b", "import a\n\n\n\ty\n", ""]

lemma noReturns_samples : NoReturns firstModules ∧ NoReturns secondModules := by
  unfold NoReturns
  decide +kernel

theorem combineModules_append_samples :
    NoReturns firstModules ∧ NoReturns secondModules ∧
    combineModules [combineModules firstModules, combineModules secondModules] =
      "import a\nimport é\nimport b\n\nx = 1;  \nimport b\n\n\ty\n" ∧
    combineModules (firstModules ++ secondModules) =
      combineModules [combineModules firstModules, combineModules secondModules] := by
  obtain ⟨hfirst, hsecond⟩ := noReturns_samples
  exact ⟨hfirst, hsecond, by decide +kernel, (combineModules_append hfirst hsecond).1⟩

/-! ### Modules of one framework -/

/-- What the module of an app is made from besides its framework. -/
structure AppSource where
  width : Nat
  name : String
  model : Model

namespace AppSource

variable (framework : Framework) (app : AppSource)

def moduleText : String := appModule framework app.width app.name app.model

/-- The statement that exports the app type, with the end of its line. -/
def statement : String := exportType app.width app.name (framework.appType app.model)

end AppSource

/-- The import statements of a framework, one on a line. -/
def Framework.importLines (framework : Framework) : List (List Char) :=
  framework.imports.map fun i => i.render.toList

lemma heads_importLines (framework : Framework) :
    ∀ line ∈ framework.importLines, Heads line ∧ line ≠ [] := by
  have hlines : ∀ line ∈ framework.importLines,
      (isHeaderLine line = true ∧ '\n' ∉ line ∧ '\r' ∉ line) ∧ line ≠ [] := by
    cases framework <;> decide +kernel
  intro line hline
  obtain ⟨⟨hheader, hfeed, hreturn⟩, hne⟩ := hlines line hline
  exact ⟨⟨hheader, hfeed, hreturn⟩, hne⟩

lemma eraseDups_importLines (framework : Framework) :
    framework.importLines.eraseDups = framework.importLines := by
  cases framework <;> decide +kernel

lemma toList_importBlock (framework : Framework) :
    (importBlock framework.imports).toList = unlines (framework.importLines ++ [[]]) := by
  have hne : framework.imports.isEmpty = false := by cases framework <;> rfl
  rw [importBlock, hne, String.toList_append, String.toList_join, List.flatMap_map,
    Text.unlines_append, Framework.importLines, unlines, List.flatMap_map]
  simp

lemma exists_toList_exportType (width : Nat) (name : String) (type : TypeExpr) :
    ∃ cs, (exportType width name type).toList = 'e' :: cs ++ [';'] ++ ['\n'] := by
  have hfirst : "export type ".toList = 'e' :: "xport type ".toList := rfl
  have hlast : ";\n".toList = [';'] ++ ['\n'] := rfl
  delta exportType
  rw [String.toList_append, String.toList_append, String.toList_append, String.toList_append,
    hfirst, hlast, List.cons_append, List.cons_append, List.cons_append, ← List.append_assoc]
  exact ⟨_, rfl⟩

lemma opensBody_export (cs : List Char) : OpensBody ('e' :: cs) := by
  have hword : importWord = 'i' :: "mport ".toList := rfl
  constructor
  · simp
  · rw [hword]
    simp

/-- The statement is the body of its module, up to the end of its line. -/
lemma read_moduleText (framework : Framework) (app : AppSource) :
    imports (app.moduleText framework).toList = framework.importLines ∧
      body (app.moduleText framework).toList ≠ [] ∧
      (app.statement framework).toList = body (app.moduleText framework).toList ++ ['\n'] := by
  obtain ⟨cs, hcs⟩ := exists_toList_exportType app.width app.name (framework.appType app.model)
  have hmodule : (app.moduleText framework).toList =
      unlines (framework.importLines ++ [[]]) ++ ('e' :: cs ++ [';'] ++ ['\n']) := by
    rw [AppSource.moduleText, appModule, appModuleWith, String.toList_append, toList_importBlock,
      hcs]
  have hheads : ∀ line ∈ framework.importLines ++ [[]], Heads line := by
    intro line hline
    rcases List.mem_append.mp hline with hline | hline
    · exact (heads_importLines framework line hline).1
    · rw [List.mem_singleton.mp hline]
      exact heads_nil
  have hheader : header ('e' :: cs ++ [';'] ++ ['\n']) = [] :=
    (opensBody_export _).header_eq_nil (by decide)
  have hbody : body (app.moduleText framework).toList = 'e' :: cs ++ [';'] := by
    have hsemicolon : trimEnd [';'] = [';'] := by decide +kernel
    rw [hmodule, body_unlines_append hheads, body_of_header_eq_nil hheader,
      Text.trimEnd_append_feed, Text.trimEnd_append _ (List.cons_ne_nil _ _) hsemicolon]
  refine ⟨?_, by simp [hbody], by rw [hbody, AppSource.statement, hcs]⟩
  have hkept : framework.importLines.filter (fun l => !l.isEmpty) = framework.importLines :=
    List.filter_eq_self.mpr fun line hline => by
      simpa using (heads_importLines framework line hline).2
  rw [hmodule, imports_unlines_append hheads, imports, hheader, List.filter_append, hkept]
  simp

lemma eraseDups_flatMap_const {α : Type} (ls : List (List Char)) {xs : List α} (hne : xs ≠ []) :
    (xs.flatMap fun _ => ls).eraseDups = ls.eraseDups := by
  obtain ⟨x, xs, rfl⟩ := List.exists_cons_of_ne_nil hne
  rw [List.flatMap_cons]
  refine List.eraseDups_append_of_subset fun line hline => ?_
  obtain ⟨-, -, hline⟩ := List.mem_flatMap.mp hline
  exact hline

lemma combineModules_map_moduleText (framework : Framework) {apps : List AppSource}
    (hne : apps ≠ []) :
    combineModules (apps.map (·.moduleText framework)) =
      importBlock framework.imports ++ Text.join "\n" (apps.map (·.statement framework)) := by
  have himports : allImports (apps.map (·.moduleText framework)) =
      apps.flatMap fun _ => framework.importLines := by
    rw [allImports, List.flatMap_map]
    exact List.flatMap_congr fun app _ => (read_moduleText framework app).1
  have hbodies : allBodies (apps.map (·.moduleText framework)) =
      apps.map fun app => body (app.moduleText framework).toList := by
    have hne : ∀ text ∈ apps.map (fun app => body (app.moduleText framework).toList),
        (!text.isEmpty) = true := by
      refine List.forall_mem_map.mpr fun app _ => ?_
      simpa using (read_moduleText framework app).2.1
    rw [allBodies, List.map_map, Function.comp_def]
    exact List.filter_eq_self.mpr hne
  have hstatements : (apps.map (·.statement framework)).map String.toList =
      (apps.map fun app => body (app.moduleText framework).toList).map (· ++ ['\n']) := by
    rw [List.map_map, List.map_map]
    exact List.map_congr_left fun app _ => (read_moduleText framework app).2.2
  have hblank : framework.importLines.isEmpty = false := by cases framework <;> rfl
  rw [← String.toList_inj, combineModules_eq_layout, himports, hbodies,
    eraseDups_flatMap_const _ hne, eraseDups_importLines, toList_layout, layoutLines,
    Text.unlines_append, Text.unlines_intersperse_eq, String.toList_append, toList_importBlock,
    Text.toList_join, hstatements, hblank]
  simp [hne]

/-- **Joining modules line by line.** The first lines of a module that are empty or start with the
word of an import are its header. Without carriage returns, joining gives the lines of all headers
that are not empty, each once and in order of first appearance, and then what is left of the modules
without white space at its end, where anything is left; an empty line stands between the two and
between what is left of one module and the next. So the modules of one framework become its import
statements, once, and the statements of all modules. -/
theorem combineModules_eq_lines :
    (∀ modules : List String, NoReturns modules →
      (combineModules modules).toList = unlines (layoutLines
        (((modules.flatMap fun m => (lines m.toList).takeWhile isHeaderLine).filter
          fun line => !line.isEmpty).eraseDups)
        ((modules.map fun m => bodyOfLines (lines m.toList)).filter fun text => !text.isEmpty))) ∧
    ∀ (framework : Framework) (apps : List AppSource), apps ≠ [] →
      combineModules (apps.map (·.moduleText framework)) =
        importBlock framework.imports ++ Text.join "\n" (apps.map (·.statement framework)) := by
  refine ⟨fun modules h => ?_,
    fun framework apps hne => combineModules_map_moduleText framework hne⟩
  have himports : allImports modules = (modules.flatMap fun m =>
      (lines m.toList).takeWhile isHeaderLine).filter fun line => !line.isEmpty :=
    List.filter_flatMap.symm
  have hbodies : allBodies modules =
      (modules.map fun m => bodyOfLines (lines m.toList)).filter fun text => !text.isEmpty := by
    rw [allBodies, List.map_congr_left fun m hm => body_eq_bodyOfLines (h m hm)]
  rw [combineModules_eq_layout, toList_layout, himports, hbodies]

/-- Two apps without routes that are written with different widths. -/
def sampleApps : List AppSource :=
  [⟨4, "first", ⟨⟨"T", "1", none⟩, [], none⟩⟩, ⟨2, "second", ⟨⟨"T", "1", none⟩, [], none⟩⟩]

theorem combineModules_eq_lines_samples :
    NoReturns firstModules ∧
    (combineModules firstModules).toList = unlines (layoutLines
      ["import a".toList, "import é".toList] ["x = 1;  \nimport b".toList]) ∧
    sampleApps ≠ [] ∧
    combineModules (sampleApps.map (·.moduleText .hono)) =
      importBlock Framework.hono.imports ++
        Text.join "\n" (sampleApps.map (·.statement .hono)) := by
  have hlines := combineModules_eq_lines.1 firstModules noReturns_samples.1
  have hne : sampleApps ≠ [] := List.cons_ne_nil _ _
  exact ⟨noReturns_samples.1, hlines.trans (by decide +kernel), hne,
    combineModules_eq_lines.2 .hono sampleApps hne⟩

end ApiTypes
