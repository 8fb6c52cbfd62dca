import ApiTypes.Command.Program
import ApiTypes.Proofs.BuildFile
import ApiTypes.Proofs.Files.Write
import ApiTypes.Proofs.Json.Record

/-!
Builds keep failures apart.

A schema is usable if its file can be read and decoded and holds a valid description. Three loops
drop schemas on their own: the one that reads the sources, the one for each target and the one for
the aliases. They agree on what is dropped, so every output is made from the usable schemas, in
order. Hence a schema that fails leaves no trace, and a build fails only if it has schemas and none
of them is usable.
-/

namespace ApiTypes

open Json (bind_eq_ok)

namespace BuildFile

/-! ### Build files that are accepted -/

/-- No target stands twice, and there is something to generate. -/
structure Accepted (file : BuildFile) : Prop where
  nodup_targets : file.targets.Nodup
  not_idle : file.targets ≠ [] ∨ file.models.isSome

lemma accepted_of_ofNodes {nodes : List Kdl.Node} {file : BuildFile}
    (h : ofNodes nodes = .ok file) : file.Accepted := by
  obtain ⟨draft, hdraft, hfinish⟩ := ofNodes_eq_ok_iff.mp h
  obtain ⟨hbusy, output, -, rfl⟩ := finish_eq_ok_iff.mp hfinish
  obtain ⟨frameworks, -, htargets⟩ := hdraft.targets
  refine ⟨?_, hbusy.imp_right Option.isSome_iff_ne_none.mpr⟩
  rw [htargets]
  exact List.nodup_eraseDups frameworks

/-! ### Usable schemas -/

/-- The schemas that can be read, decoded and validated, in order, with their models. -/
def usable (file : BuildFile) (files : Files) : List (String × Model) :=
  file.schemas.filterMap fun schema => do
    let text ← files.read? schema.path
    let root ← Json.decode? text
    let description ← (Description.validate true root).toOption
    return (schema.name, description.model .concatenate)

/-- A schema that is not usable can be left out. -/
lemma usable_append (file : BuildFile) (files : Files) (schemas schemas' : List SchemaSource) :
    usable { file with schemas := schemas ++ schemas' } files =
      usable { file with schemas := schemas } files ++
        usable { file with schemas := schemas' } files :=
  List.filterMap_append

/-- The sources that have a model, with it. -/
def withModels (file : BuildFile) (sources : List (String × String)) : List (String × Model) :=
  sources.filterMap fun (name, text) =>
    (Model.ofText file.options text).toOption.map fun model => (name, model)

lemma toOption_ofText (options : Options) (text : String) :
    (Model.ofText options text).toOption = do
      let root ← Json.decode? text
      let description ← (Description.validate options.dereference root).toOption
      return description.model options.merge := by
  unfold Model.ofText
  cases Json.decode? text with
  | none => rfl
  | some root =>
    cases hvalid : Description.validate options.dereference root with
    | error fault => simp [hvalid, Except.toOption]
    | ok description => simp [hvalid, Except.toOption]

/-- The sources of some schemas in files that are known in full. -/
def sources (files : Files) (schemas : List SchemaSource) : List (String × String) :=
  @Command.readSources Id _ files.read? schemas

lemma sources_cons (files : Files) (schema : SchemaSource) (rest : List SchemaSource) :
    sources files (schema :: rest) =
      ((files.read? schema.path).map (schema.name, ·)).toList ++ sources files rest :=
  rfl

lemma sources_eq (files : Files) (schemas : List SchemaSource) :
    sources files schemas = schemas.filterMap fun schema =>
      (files.read? schema.path).map fun text => (schema.name, text) := by
  induction schemas with
  | nil => rfl
  | cons schema rest ih =>
    rw [sources_cons, ih]
    cases hread : files.read? schema.path <;> simp [hread]

/-- Reading drops a schema for its file, and generating for its text: together they keep the usable
ones. -/
lemma usable_eq (file : BuildFile) (files : Files) :
    file.usable files = file.withModels (sources files file.schemas) := by
  rw [usable, withModels, sources_eq, List.filterMap_filterMap]
  refine List.filterMap_congr fun schema _ => ?_
  cases hread : files.read? schema.path with
  | none => rfl
  | some text =>
    simp [toOption_ofText, options]

/-- Whatever is generated, the sources that succeed are those with a model. -/
lemma successes_eq (file : BuildFile) (generate : String → Model → String)
    (sources : List (String × String)) :
    successes (sources.map fun (name, text) =>
        (name, (Model.ofText file.options text).map (generate name))) =
      (file.withModels sources).map fun (name, model) => (name, generate name model) := by
  rw [successes, withModels, List.filterMap_map, List.map_filterMap]
  refine List.filterMap_congr fun source _ => ?_
  cases hmodel : Model.ofText file.options source.2 <;> simp [hmodel, Except.map, Except.toOption]

lemma appModules_eq (file : BuildFile) (sources : List (String × String)) (target : Framework) :
    file.appModules sources target = (file.withModels sources).map fun (name, model) =>
      (name, appModule target file.width name model) :=
  file.successes_eq (appModule target file.width) sources

lemma namespaces_eq (file : BuildFile) (sources : List (String × String)) :
    file.namespaces sources = (file.withModels sources).map fun (name, model) =>
      (name, namespacedAliases file.width name model) :=
  file.successes_eq (namespacedAliases file.width) sources

/-- With something to generate, all loops together succeed if there is a model. -/
lemma Accepted.succeeded_eq_nil_iff {file : BuildFile} (h : file.Accepted)
    (sources : List (String × String)) :
    file.succeeded sources = [] ↔ file.withModels sources = [] := by
  rw [succeeded, List.append_eq_nil_iff, List.flatMap_eq_nil_iff, namespaces_eq]
  constructor
  · rintro ⟨htargets, hmodels⟩
    rcases h.not_idle with hsome | hsome
    · obtain ⟨target, htarget⟩ := List.exists_mem_of_ne_nil _ hsome
      simpa [appModules_eq] using htargets target htarget
    · simpa [hsome] using hmodels
  · intro hnil
    simp [appModules_eq, hnil]

/-! ### Outputs -/

/-- Where the outputs go, in order. -/
def paths (file : BuildFile) : List String :=
  file.targets.map file.targetPath ++ file.modelsPath?.toList

/-- The module that a target has of some models. -/
def moduleOf (file : BuildFile) (models : List (String × Model)) (target : Framework) : String :=
  combineModules (models.map fun (name, model) => appModule target file.width name model)

/-- The namespaces that the aliases of some models have. -/
def aliasesOf (file : BuildFile) (models : List (String × Model)) : String :=
  Text.join "\n" (models.map fun (name, model) => namespacedAliases file.width name model)

lemma outputs_eq (file : BuildFile) (sources : List (String × String)) :
    file.outputs sources =
      (file.targets.map fun target =>
        (file.targetPath target, file.moduleOf (file.withModels sources) target)) ++
      (file.modelsPath?.map fun path =>
        (path, file.aliasesOf (file.withModels sources))).toList := by
  simp only [outputs, targetText, modelsText, appModules_eq, namespaces_eq, List.map_map, moduleOf,
    aliasesOf]
  rfl

lemma map_fst_outputs (file : BuildFile) (sources : List (String × String)) :
    (file.outputs sources).map Prod.fst = file.paths := by
  rw [outputs, paths, List.map_append, List.map_map]
  cases file.modelsPath? <;> rfl

lemma isName_target (target : Framework) : Path.IsName (target.name ++ ".ts") := by
  cases target <;> exact ⟨by decide +kernel, by decide +kernel, by decide +kernel⟩

/-- The modules of two targets are different files. -/
lemma eq_of_place?_targetPath {file : BuildFile} {files : Files} {target target' : Framework}
    (h : files.CanWrite (file.targetPath target))
    (heq : files.place? (file.targetPath target) = files.place? (file.targetPath target')) :
    target = target' := by
  obtain ⟨place, hplace⟩ := h.exists_place?
  have hlast := Files.getLast?_of_place? (isName_target target) hplace
  have hlast' := Files.getLast?_of_place? (isName_target target') (heq.symm.trans hplace)
  have hname : target.name ++ ".ts" = target'.name ++ ".ts" :=
    Option.some.inj (hlast.symm.trans hlast')
  cases target <;> cases target' <;> first | rfl | exact absurd hname (by decide)

end BuildFile

/-! ### Builds -/

namespace Command

open BuildFile (sources)

/-- The build file that a command line leads to. -/
def buildFile? (args : List String) (files : Files) : Option BuildFile :=
  match parse buildSwitches args with
  | .ok found =>
    let config := (found.lookup "config").getD defaultConfig
    (files.read? config).bind (loadBuildFile? config)
  | .error _ => none

variable {args : List String} {files made : Files} {file : BuildFile}

lemma accepted_of_buildFile? (h : buildFile? args files = some file) : file.Accepted := by
  unfold buildFile? at h
  split at h
  · obtain ⟨text, -, hload⟩ := Option.bind_eq_some_iff.mp h
    unfold loadBuildFile? at hload
    split at hload
    · rename_i loaded hloaded
      cases hload
      obtain ⟨nodes, -, hnodes⟩ := Option.map_eq_some_iff.mp hloaded
      exact ⟨(BuildFile.accepted_of_ofNodes hnodes).nodup_targets,
        (BuildFile.accepted_of_ofNodes hnodes).not_idle⟩
    · cases hload
  · cases h

lemma run_build (h : buildFile? args files = some file) :
    Program.run .build args files = (buildPlan file (sources files file.schemas)).run files := by
  unfold buildFile? at h
  split at h
  · rename_i found hfound
    have hplan : @planBuild Id _ files.read? ((found.lookup "config").getD defaultConfig) =
        buildPlan file (sources files file.schemas) := by
      unfold planBuild
      simp only [bind, h]
      rfl
    have hrun : @Program.plan Id _ .build files.read? args =
        .ok (buildPlan file (sources files file.schemas)) := by
      rw [Program.plan, hfound]
      exact congrArg Except.ok hplan
    rw [Program.run, hrun]
  · cases h

/-- A build that finds this build file and can write all outputs, the aliases to another place than
any module. The folder for them is there in `made`. -/
structure Builds (args : List String) (files made : Files) (file : BuildFile) : Prop where
  loaded : buildFile? args files = some file
  folder : files.makeFolder? file.directory = some made
  writable : ∀ path ∈ file.paths, made.CanWrite path
  apart : ∀ path ∈ file.modelsPath?, ∀ target ∈ file.targets,
    made.place? (file.targetPath target) ≠ made.place? path

namespace Builds

lemma pairwise_paths (h : Builds args files made file) :
    file.paths.Pairwise fun p q => made.place? p ≠ made.place? q := by
  rw [BuildFile.paths, List.pairwise_append]
  refine ⟨?_, ?_, ?_⟩
  · rw [List.pairwise_map]
    refine (accepted_of_buildFile? h.loaded).nodup_targets.imp_of_mem ?_
    intro target target' htarget _ hne heq
    have hmem : file.targetPath target ∈ file.paths :=
      List.mem_append_left _ (List.mem_map_of_mem htarget)
    exact hne (BuildFile.eq_of_place?_targetPath (h.writable _ hmem) heq)
  · cases file.modelsPath? <;> simp
  · intro path hpath path' hpath'
    obtain ⟨target, htarget, rfl⟩ := List.mem_map.mp hpath
    exact h.apart path' (Option.mem_toList.mp hpath') target htarget

/-- The outputs of a build can be read where they go, and its exit code tells whether any of its
sources gave something. -/
lemma exists_outcome (h : Builds args files made file) :
    ∃ after, Program.run .build args files =
        ⟨if file.succeeds (sources files file.schemas) then 0 else 1, "", after⟩ ∧
      ∀ w ∈ file.outputs (sources files file.schemas), after.read? w.1 = some w.2 := by
  have hpaths := file.map_fst_outputs (sources files file.schemas)
  have hwritable : ∀ w ∈ file.outputs (sources files file.schemas), made.CanWrite w.1 :=
    fun w hw => h.writable _ (hpaths ▸ List.mem_map_of_mem hw)
  obtain ⟨after, hrun, -, -, hread⟩ := perform_writes "" hwritable
  refine ⟨after, ?_, hread ?_⟩
  · rw [run_build h.loaded, Plan.run, buildPlan]
    simp only [perform, h.folder, hrun, Bool.true_and]
  · have hpairs := h.pairwise_paths
    rw [← hpaths, List.pairwise_map] at hpairs
    exact hpairs

lemma read?_targetPath (h : Builds args files made file) :
    ∀ target ∈ file.targets,
      (Program.run .build args files).files.read? (file.targetPath target) =
        some (file.moduleOf (file.usable files) target) := by
  intro target htarget
  obtain ⟨after, hrun, hread⟩ := h.exists_outcome
  rw [BuildFile.outputs_eq, ← BuildFile.usable_eq] at hread
  rw [hrun]
  exact hread (file.targetPath target, _) (List.mem_append_left _ (List.mem_map_of_mem htarget))

lemma read?_modelsPath (h : Builds args files made file) :
    ∀ path ∈ file.modelsPath?,
      (Program.run .build args files).files.read? path =
        some (file.aliasesOf (file.usable files)) := by
  intro path hpath
  obtain ⟨after, hrun, hread⟩ := h.exists_outcome
  rw [BuildFile.outputs_eq, ← BuildFile.usable_eq] at hread
  rw [hrun]
  exact hread (path, _) (List.mem_append_right _
    (Option.mem_toList.mpr (Option.mem_map_of_mem _ hpath)))

lemma exit_ne_zero_iff (h : Builds args files made file) :
    (Program.run .build args files).exit ≠ 0 ↔ file.schemas ≠ [] ∧ file.usable files = [] := by
  obtain ⟨after, hrun, -⟩ := h.exists_outcome
  have hnil := (accepted_of_buildFile? h.loaded).succeeded_eq_nil_iff (sources files file.schemas)
  rw [hrun, BuildFile.usable_eq, ← hnil]
  simp [BuildFile.succeeds]

/-- **A schema that fails leaves no trace.** Of a build whose outputs can be written, every module
and the aliases are those of the usable schemas, in order, and the build fails just if it has
schemas and none of them is usable. So another build with the same outputs and the same usable
schemas, whatever else it is to build from, writes the same. -/
theorem isolates_failures (h : Builds args files made file) :
    (∀ target ∈ file.targets,
      (Program.run .build args files).files.read? (file.targetPath target) =
        some (file.moduleOf (file.usable files) target)) ∧
    (∀ path ∈ file.modelsPath?,
      (Program.run .build args files).files.read? path =
        some (file.aliasesOf (file.usable files))) ∧
    ((Program.run .build args files).exit ≠ 0 ↔ file.schemas ≠ [] ∧ file.usable files = []) ∧
    ∀ {args' files' made' schemas'}, Builds args' files' made' { file with schemas := schemas' } →
      BuildFile.usable { file with schemas := schemas' } files' = file.usable files →
      ∀ path ∈ file.paths, (Program.run .build args' files').files.read? path =
        (Program.run .build args files).files.read? path := by
  refine ⟨h.read?_targetPath, h.read?_modelsPath, h.exit_ne_zero_iff, ?_⟩
  intro args' files' made' schemas' h' husable path hpath
  rcases List.mem_append.mp hpath with hpath | hpath
  · obtain ⟨target, htarget, rfl⟩ := List.mem_map.mp hpath
    have hread := h'.read?_targetPath target htarget
    rw [husable] at hread
    exact hread.trans (h.read?_targetPath target htarget).symm
  · have hread := h'.read?_modelsPath path (Option.mem_toList.mp hpath)
    rw [husable] at hread
    exact hread.trans (h.read?_modelsPath path (Option.mem_toList.mp hpath)).symm

end Builds

/-! ### Three builds -/

deriving instance DecidableEq for Files

/-- One schema is usable, one is no description, and one is not there; a second build file has the
first of them only. The paths lead from the root, or out of the folder of the build file. The third
build file gives the aliases another path to the file of a module. -/
def sampleFiles : Files :=
  .ofTexts ["home", "app"]
    [("all.kdl", "output \x7b dir \"/out\" \x7d; target \"hono\"; target \"elysia\"; models\n" ++
        "schema \"A\" \x7b path \"/home/app/a.yaml\" \x7d\n" ++
        "schema \"B\" \x7b path \"../app/b.yaml\" \x7d\n" ++
        "schema \"C\" \x7b path \"../../../c.yaml\" \x7d"),
      ("one.kdl", "output \x7b dir \"/out\" \x7d; target \"hono\"; target \"elysia\"; models\n" ++
        "schema \"A\" \x7b path \"/home/app/a.yaml\" \x7d"),
      ("over.kdl", "output \x7b dir \"out\" \x7d; target \"hono\"; models \"../out/hono.ts\"\n" ++
        "schema \"A\" \x7b path \"a.yaml\" \x7d"),
      ("a.yaml", "openapi: '3'\ninfo:\n  title: T\n  version: '1'\n"), ("b.yaml", "b")]

/-- The same with one folder more. -/
def sampleWith (folder : List String) : Files :=
  { sampleFiles with folders := [["home"], ["home", "app"], folder] }

def sampleMade : Files := sampleWith ["out"]

def goodSchemas : List SchemaSource := [⟨"A", "/home/app/a.yaml"⟩]

def badSchemas : List SchemaSource := [⟨"B", "../app/b.yaml"⟩, ⟨"C", "../../../c.yaml"⟩]

/-- What the first two build files say, apart from their schemas. -/
def sampleBuild (schemas : List SchemaSource) : BuildFile :=
  { directory := "/out", indent := none, targets := [.hono, .elysia], models := some "models.ts",
    schemas }

lemma builds_sampleBuild {args : List String} {schemas : List SchemaSource}
    (h : buildFile? args sampleFiles = some (sampleBuild schemas)) :
    Builds args sampleFiles sampleMade (sampleBuild schemas) := by
  refine ⟨h, ?_, ?_, ?_⟩
  · show sampleFiles.makeFolder? "/out" = some sampleMade
    decide +kernel
  · show ∀ path ∈ (sampleBuild []).paths, sampleMade.CanWrite path
    decide +kernel
  · show ∀ path ∈ (sampleBuild []).modelsPath?, ∀ target ∈ [Framework.hono, .elysia],
      sampleMade.place? ((sampleBuild []).targetPath target) ≠ sampleMade.place? path
    decide +kernel

lemma buildFile?_all : buildFile? ["-c", "all.kdl"] sampleFiles =
    some (sampleBuild (goodSchemas ++ badSchemas)) := by
  decide +kernel

lemma buildFile?_one : buildFile? ["-c", "one.kdl"] sampleFiles =
    some (sampleBuild goodSchemas) := by
  decide +kernel

theorem sampleBuild_isolated :
    Builds ["-c", "all.kdl"] sampleFiles sampleMade (sampleBuild (goodSchemas ++ badSchemas)) ∧
    Builds ["-c", "one.kdl"] sampleFiles sampleMade (sampleBuild goodSchemas) ∧
    (∃ model, (Program.run .build ["-c", "all.kdl"] sampleFiles).files.read? "/out/hono.ts" =
      some (combineModules [appModule .hono 4 "A" model])) ∧
    (Program.run .build ["-c", "all.kdl"] sampleFiles).exit = 0 ∧
    ∀ path ∈ ["/out/hono.ts", "/out/elysia.ts", "/out/models.ts"],
      (Program.run .build ["-c", "one.kdl"] sampleFiles).files.read? path =
        (Program.run .build ["-c", "all.kdl"] sampleFiles).files.read? path := by
  have hall := builds_sampleBuild buildFile?_all
  have hone := builds_sampleBuild buildFile?_one
  obtain ⟨model, hgood⟩ :
      ∃ model, (sampleBuild goodSchemas).usable sampleFiles = [("A", model)] := by
    have hnames : ((sampleBuild goodSchemas).usable sampleFiles).map Prod.fst = ["A"] := by
      decide +kernel
    obtain ⟨⟨name, model⟩, hgood, rfl⟩ := List.map_eq_singleton_iff.mp hnames
    exact ⟨model, hgood⟩
  have hbad : (sampleBuild badSchemas).usable sampleFiles = [] := by
    rw [← List.length_eq_zero_iff]
    decide +kernel
  have hsame :=
    calc (sampleBuild (goodSchemas ++ badSchemas)).usable sampleFiles
      _ = (sampleBuild goodSchemas).usable sampleFiles ++
          (sampleBuild badSchemas).usable sampleFiles :=
        (sampleBuild []).usable_append sampleFiles goodSchemas badSchemas
      _ = (sampleBuild goodSchemas).usable sampleFiles := by rw [hbad, List.append_nil]
  obtain ⟨htargets, -, hexit, hsecond⟩ := Builds.isolates_failures hall
  rw [hsame, hgood] at htargets hexit
  refine ⟨hall, hone, ⟨model, htargets .hono List.mem_cons_self⟩, ?_, hsecond hone hsame.symm⟩
  by_contra hne
  exact absurd (hexit.mp hne).2 (List.cons_ne_nil _ _)

/-- A path that differs from that of a module can lead to the same file, and then the aliases are
written over the module. -/
theorem aliases_over_module :
    ∃ file made, buildFile? ["-c", "over.kdl"] sampleFiles = some file ∧
      sampleFiles.makeFolder? file.directory = some made ∧
      (∀ path ∈ file.paths, made.CanWrite path) ∧
      (∀ path ∈ file.modelsPath?, ∀ target ∈ file.targets, file.targetPath target ≠ path) ∧
      ∃ target ∈ file.targets,
        (Program.run .build ["-c", "over.kdl"] sampleFiles).files.read? (file.targetPath target) ≠
          some (file.moduleOf (file.usable sampleFiles) target) := by
  refine ⟨{ directory := "out", indent := none, targets := [.hono],
            models := some "../out/hono.ts", schemas := [⟨"A", "a.yaml"⟩] },
    sampleWith ["home", "app", "out"], ?_, ?_, ?_, ?_, .hono, List.mem_cons_self, ?_⟩
  all_goals decide +kernel

end Command

end ApiTypes
