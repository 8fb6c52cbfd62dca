import ApiTypes.Proofs.Description.Paths
import ApiTypes.Proofs.Model.Declared

/-!
Where the pointers of faults lead.

A check blames a path, an operation of a path or the responses of an operation, and the pointer of
the fault is written from the keys under which these stand, each as one token, whatever characters a
path has. They were all read from the value, so the keys are there as long as the records on the way
are written as objects. A record may also be written as an array of its fields. No key leads to a
field of such a record, and the pointer then leads nowhere.
-/

namespace ApiTypes

open Json

/-! ### Following keys -/

namespace Json

/-- Whether following the keys leads into an array. -/
def entersArray : List String → Json → Bool
  | [], _ => false
  | _ :: _, .array _ => true
  | key :: rest, json => (child? key json).any (entersArray rest)

/-- The keys lead to a node, unless they lead into an array. -/
def Leads (keys : List String) (json : Json) : Prop :=
  (descend? keys json).isSome = true ↔ entersArray keys json = false

lemma leads_nil (json : Json) : Leads [] json := by
  simp [Leads, descend?, entersArray]

lemma Leads.entry {entries : List (String × Json)} {key : String} {rest : List String}
    {child : Json} (h : Leads rest child) (hc : entries.lookup key = some child) :
    Leads (key :: rest) (.object entries) := by
  simpa [Leads, descend?, child?, entersArray, hc] using h

lemma leads_array {key : String} (hkey : tokenIndex? key = none) (rest : List String)
    (items : List Json) : Leads (key :: rest) (.array items) := by
  simp [Leads, descend?, child?, entersArray, hkey]

/-- The key of a field leads to the field, if the record that was read has something in it. -/
lemma Shape.IsField.leads {δ α β : Type} {shape : Shape δ α} {key : String} {read : Reader β}
    {get : δ → β} {part : α → β} (hf : shape.IsField key read get part)
    (hkey : tokenIndex? key = none) {rest : List String} {json : Json} {x : α} (hd : json.Distinct)
    (h : shape.read json = .ok x) (hne : part x ≠ get shape.start)
    (inner : ∀ value, value.Distinct → read value = .ok (part x) → Leads rest value) :
    Leads (key :: rest) json := by
  cases json with
  | object entries =>
    obtain ⟨value, hl, hread⟩ := hf.exists_lookup hd h hne
    have hvalue : value.Distinct := (everyObject_object_iff.mp hd).2 _ (Keyed.mem_of_lookup hl)
    exact (inner value hvalue hread).entry hl
  | array items => exact leads_array hkey rest items
  | _ => cases h

end Json

/-! ### Parts of a description -/

section

variable {rest : List String} {value : Json}

lemma leads_readCore {α : Type} {read : Reader α} {xs : List (String × α)} {key : String} {x : α}
    (hd : value.Distinct) (h : readCore read value = .ok xs) (hx : (key, x) ∈ xs)
    (inner : ∀ v, v.Distinct → read v = .ok x → Leads rest v) : Leads (key :: rest) value := by
  cases value with
  | object entries =>
    obtain ⟨hnodup, hvalues⟩ := everyObject_object_iff.mp hd
    obtain ⟨v, hv, hread⟩ := Reader.exists_of_mem_readEntries h hx
    have hmem := List.mem_of_mem_filter hv
    exact (inner v (hvalues _ hmem) hread).entry (Keyed.lookup_of_mem hnodup hmem)
  | _ => cases h

lemma Method.tokenIndex?_name (m : Method) : tokenIndex? m.name = none := by
  cases m <;> decide +kernel

/-- The verb of an operation leads to the operation. -/
lemma PathItem.leads_operation {ω π : Type} {operation : Reader ω} {parameter : Reader π}
    {item : PathItem ω π} {m : Method} {op : ω} (hd : value.Distinct)
    (h : (PathItem.shape operation parameter).read value = .ok item)
    (hop : item.operations.at? m = some op)
    (inner : ∀ v, v.Distinct → operation v = .ok op → Leads rest v) :
    Leads (m.name :: rest) value := by
  refine (isField_operation operation parameter m).leads m.tokenIndex?_name hd h ?_ ?_
  · rw [hop]
    cases m <;> exact Option.some_ne_none op
  · intro v hv hread
    rw [hop] at hread
    rcases Reader.optional_cases hread with ⟨-, hnone⟩ | ⟨found, hfound, hsome⟩
    · cases hnone
    · cases hsome
      exact inner v hv hfound

/-- The keys of a path lead to its path item, whatever record has the paths in it. -/
lemma leads_path {δ α ω π : Type} {shape : Shape δ α} {readItem : Reader (PathItem ω π)}
    {get : δ → List (String × PathItem ω π)} {paths : α → List (String × PathItem ω π)} {x : α}
    {path : String} {item : PathItem ω π}
    (hf : shape.IsField "paths" (readCore readItem) get paths) (hstart : get shape.start = [])
    (hd : value.Distinct) (h : shape.read value = .ok x) (hitem : (path, item) ∈ paths x)
    (inner : ∀ v, v.Distinct → readItem v = .ok item → Leads rest v) :
    Leads ("paths" :: path :: rest) value := by
  refine hf.leads (by decide +kernel) hd h ?_ ?_
  · rw [hstart]
    exact List.ne_nil_of_mem hitem
  · intro v hv hread
    exact leads_readCore hv hread hitem inner

end

/-! ### Keys of the parts -/

/-- The keys of a path, of an operation, or of responses that are not empty. -/
inductive Outline.HasPart (paths : List Path) : List String → Prop where
  | path {path : Path} : path ∈ paths → HasPart paths ["paths", path.path]
  | operation {path : Path} {op : Operation} : path ∈ paths → op ∈ path.operations →
      HasPart paths ["paths", path.path, op.method.name]
  | responses {path : Path} {op : Operation} : path ∈ paths → op ∈ path.operations →
      op.codes ≠ [] → HasPart paths ["paths", path.path, op.method.name, "responses"]

/-- The parts of an outline are where their keys lead, in either format: `outline` and `operation`
are what the format makes of a path item and of an operation. -/
lemma Outline.HasPart.leads {ω π : Type} {readOperation : Reader ω} {readParameter : Reader π}
    {outline : String × PathItem ω π → Outline.Path} {operation : Method → ω → Outline.Operation}
    {paths : List (String × PathItem ω π)} {keys : List String} {json : Json}
    (hcodes : ∀ v m op, v.Distinct → readOperation v = .ok op → (operation m op).codes ≠ [] →
      Leads ["responses"] v)
    (hmethod : ∀ m op, (operation m op).method = m)
    (houtline : ∀ e, (outline e).path = e.1 ∧
      (outline e).operations = e.2.operations.list.map fun x => operation x.1 x.2)
    (hitems : ∀ path item rest, (path, item) ∈ paths →
      (∀ v, v.Distinct → (PathItem.shape readOperation readParameter).read v = .ok item →
        Leads rest v) → Leads ("paths" :: path :: rest) json)
    (h : HasPart (paths.map outline) keys) : Leads keys json := by
  have hoperation : ∀ path op rest, path ∈ paths.map outline → op ∈ path.operations →
      (∀ v m o, v.Distinct → readOperation v = .ok o → operation m o = op → Leads rest v) →
      Leads ("paths" :: path.path :: op.method.name :: rest) json := by
    intro path op rest hpath hop inner
    obtain ⟨⟨key, item⟩, hitem, rfl⟩ := List.mem_map.mp hpath
    rw [(houtline _).2] at hop
    obtain ⟨⟨m, o⟩, ho, rfl⟩ := List.mem_map.mp hop
    rw [(houtline _).1, hmethod]
    refine hitems key item _ hitem fun v hv hread => ?_
    exact PathItem.leads_operation hv hread (Operations.mem_list.mp ho) fun w hw hread' =>
      inner w m o hw hread' rfl
  cases h with
  | path hpath =>
    obtain ⟨⟨key, item⟩, hitem, rfl⟩ := List.mem_map.mp hpath
    rw [(houtline _).1]
    exact hitems key item _ hitem fun _ _ _ => leads_nil _
  | operation hpath hop => exact hoperation _ _ _ hpath hop fun _ _ _ _ _ _ => leads_nil _
  | responses hpath hop hne =>
    refine hoperation _ _ _ hpath hop fun v m o hv ho heq => hcodes v m o hv ho ?_
    rwa [heq]

lemma Description.leads_of_read {format : Format} {value : Json} {description : Description}
    {keys : List String} (hd : value.Distinct) (h : read format value = .ok description)
    (hpart : Outline.HasPart description.outline keys) : Leads keys value := by
  have hkey : tokenIndex? "responses" = none := by decide +kernel
  cases format with
  | openApi3 =>
    obtain ⟨doc, hdoc, rfl⟩ := map_eq_ok.mp (mapError_eq_ok.mp h)
    have hcodes : ∀ v m op, v.Distinct → OpenApi.Operation.shape.read v = .ok op →
        (op.outline m).codes ≠ [] → Leads ["responses"] v := fun v m op hv hop hne =>
      OpenApi.Operation.isField_responses.leads hkey hv hop (List.map_eq_nil_iff.not.mp hne)
        fun _ _ _ => leads_nil _
    exact Outline.HasPart.leads hcodes (fun _ _ => rfl) (fun _ => ⟨rfl, rfl⟩)
      (fun _ _ _ => leads_path OpenApi.Document.isField_paths rfl hd hdoc) hpart
  | swagger2 =>
    obtain ⟨doc, hdoc, rfl⟩ := map_eq_ok.mp (mapError_eq_ok.mp h)
    have hcodes : ∀ v m op, v.Distinct → Swagger.Operation.shape.read v = .ok op →
        (op.outline m).codes ≠ [] → Leads ["responses"] v := fun v m op hv hop hne =>
      Swagger.Operation.isField_responses.leads hkey hv hop (List.map_eq_nil_iff.not.mp hne)
        fun _ _ _ => leads_nil _
    exact Outline.HasPart.leads hcodes (fun _ _ => rfl) (fun _ => ⟨rfl, rfl⟩)
      (fun _ _ _ => leads_path Swagger.Document.isField_paths rfl hd hdoc) hpart

/-! ### What the check blames -/

def Place.keys (place : Place) : List String := ["paths", place.path, place.method.name]

namespace Fault

/-- The fault is one of the version under the key of a format. -/
def isOfVersion : Fault → Bool
  | .versionNotText _ => true
  | .unsupportedVersion _ _ => true
  | _ => false

/-- The keys of the part that a check blames. -/
def keys? : Fault → Option (List String)
  | .noLeadingSlash path => some ["paths", path]
  | .strayParameter place _ => some place.keys
  | .optionalPathParameter place _ => some place.keys
  | .undeclaredPlaceholder place _ => some place.keys
  | .invalidCode place _ => some (place.keys ++ ["responses"])
  | .repeatedOperationId place _ => some place.keys
  | _ => none

end Fault

lemma pointerKeys?_pathPointer (path : String) :
    pointerKeys? (pathPointer path) = some ["paths", path] := by
  have hpaths : pointerKeys? "/paths" = some ["paths"] := by decide +kernel
  exact Reference.pointerKeys?_entryLocation hpaths path

lemma Place.pointerKeys?_pointer (place : Place) :
    pointerKeys? place.pointer = some place.keys := by
  have hslash : '/' ∉ place.method.name.toList := by cases place.method <;> decide
  have hplain : unescapeToken place.method.name.toList = place.method.name := by
    cases place.method <;> decide +kernel
  rw [Place.pointer, pointerKeys?_push (pointerKeys?_pathPointer place.path) hslash, hplain]
  rfl

lemma Fault.isOfVersion_of_keys? {fault : Fault} {keys : List String}
    (h : fault.keys? = some keys) : fault.isOfVersion = false := by
  cases fault <;> first | rfl | cases h

lemma Fault.pointerKeys?_of_keys? {fault : Fault} {keys : List String} {pointer : String}
    (hk : fault.keys? = some keys) (hp : fault.pointer? = some pointer) :
    pointerKeys? pointer = some keys := by
  cases fault with
  | noLeadingSlash path =>
    cases hk
    cases hp
    exact pointerKeys?_pathPointer path
  | invalidCode place code =>
    cases hk
    cases hp
    have hslash : '/' ∉ "responses".toList := by decide
    have hplain : unescapeToken "responses".toList = "responses" := by decide +kernel
    have htext : place.pointer ++ "/responses" = place.pointer ++ "/" ++ "responses" := by
      rw [String.append_assoc]
      rfl
    rw [htext, pointerKeys?_push place.pointerKeys?_pointer hslash, hplain]
  | strayParameter place _ | optionalPathParameter place _
  | undeclaredPlaceholder place _ | repeatedOperationId place _ =>
    cases hk
    cases hp
    exact place.pointerKeys?_pointer
  | _ => cases hk

namespace Outline

variable {path : Path} {op : Operation} {fault : Fault}

lemma exists_of_checkEach {α : Type} {check : α → Except Fault Unit} {xs : List α}
    (h : checkEach check xs = .error fault) : ∃ x ∈ xs, check x = .error fault := by
  induction xs with
  | nil => cases h
  | cons x rest ih =>
    rw [checkEach] at h
    split at h
    · next e he =>
      cases h
      exact ⟨x, List.mem_cons_self, he⟩
    · obtain ⟨y, hy, hfault⟩ := ih h
      exact ⟨y, List.mem_cons_of_mem _ hy, hfault⟩

/-- A fault in the parts of an operation is one of the operation, or of a response it has. -/
lemma keys?_of_checkParts (h : checkParts path op = .error fault) :
    fault.keys? = some (Place.keys ⟨path.path, op.method⟩) ∨
      op.codes ≠ [] ∧ fault.keys? = some (Place.keys ⟨path.path, op.method⟩ ++ ["responses"]) := by
  rcases bind_eq_error.mp h with h | ⟨_, -, h⟩
  · obtain ⟨p, -, h⟩ := exists_of_checkEach h
    unfold checkParameter at h
    split at h
    · cases h
      exact Or.inl rfl
    · split at h
      · cases h
        exact Or.inl rfl
      · cases h
  · rcases bind_eq_error.mp h with h | ⟨_, -, h⟩
    · obtain ⟨name, -, h⟩ := exists_of_checkEach h
      unfold checkPlaceholder at h
      split at h
      · cases h
      · split at h
        · cases h
        · cases h
          exact Or.inl rfl
    · obtain ⟨code, hcode, h⟩ := exists_of_checkEach h
      unfold checkCode at h
      split at h
      · cases h
      · cases h
        exact Or.inr ⟨List.ne_nil_of_mem hcode, rfl⟩

lemma HasPart.of_checkOperation {paths : List Path} {ids : List String} (hpath : path ∈ paths)
    (hop : op ∈ path.operations) (h : checkOperation path ids op = .error fault) :
    ∃ keys, fault.keys? = some keys ∧ HasPart paths keys := by
  rcases bind_eq_error.mp h with h | ⟨_, -, h⟩
  · rcases keys?_of_checkParts h with hkeys | ⟨hcodes, hkeys⟩
    · exact ⟨_, hkeys, .operation hpath hop⟩
    · exact ⟨_, hkeys, .responses hpath hop hcodes⟩
  · split at h
    · cases h
    · split at h
      · cases h
        exact ⟨_, rfl, .operation hpath hop⟩
      · cases h

lemma exists_of_checkOperations {ops : List Operation} {ids : List String}
    (h : checkOperations path ids ops = .error fault) :
    ∃ op ∈ ops, ∃ ids', checkOperation path ids' op = .error fault := by
  induction ops generalizing ids with
  | nil => cases h
  | cons op rest ih =>
    rw [checkOperations] at h
    split at h
    · next e he =>
      cases h
      exact ⟨op, List.mem_cons_self, ids, he⟩
    · obtain ⟨found, hfound, hfault⟩ := ih h
      exact ⟨found, List.mem_cons_of_mem _ hfound, hfault⟩

lemma exists_of_checkPaths {paths : List Path} {ids : List String}
    (h : checkPaths ids paths = .error fault) :
    ∃ path ∈ paths, ∃ ids', checkPath ids' path = .error fault := by
  induction paths generalizing ids with
  | nil => cases h
  | cons path rest ih =>
    rw [checkPaths] at h
    split at h
    · next e he =>
      cases h
      exact ⟨path, List.mem_cons_self, ids, he⟩
    · obtain ⟨found, hfound, hfault⟩ := ih h
      exact ⟨found, List.mem_cons_of_mem _ hfound, hfault⟩

end Outline

namespace Description

variable {fault : Fault} {pointer : String} {root : Json}

/-- What a check blames is a part of the description. -/
lemma hasPart_of_check {description : Description} (h : description.check = .error fault) :
    ∃ keys, fault.keys? = some keys ∧ Outline.HasPart description.outline keys := by
  obtain ⟨path, hpath, ids, h⟩ := Outline.exists_of_checkPaths (map_eq_error.mp h)
  unfold Outline.checkPath at h
  split at h
  · obtain ⟨op, hop, ids', h⟩ := Outline.exists_of_checkOperations h
    exact Outline.HasPart.of_checkOperation hpath hop h
  · cases h
    exact ⟨_, rfl, .path hpath⟩

lemma lookup?_of_ofVersion (format : Format) {version : Json}
    (hget : root.get? format.key = some version) (h : format.ofVersion version = .error fault)
    (hp : fault.pointer? = some pointer) :
    fault.isOfVersion = true ∧ root.lookup? pointer = some version := by
  have hkeys : pointerKeys? ("/" ++ format.key) = some [format.key] := by
    cases format <;> decide +kernel
  have hlookup : root.lookup? ("/" ++ format.key) = some version := by
    cases root with
    | object entries =>
      have hfound : entries.lookup format.key = some version := hget
      simp [lookup?, hkeys, descend?, child?, hfound]
    | _ => cases hget
  unfold Format.ofVersion at h
  split at h
  · cases h
    cases hp
    exact ⟨rfl, hlookup⟩
  · split at h
    · cases h
    · cases h
      cases hp
      exact ⟨rfl, hlookup⟩

/-- A fault of the version points at the version. -/
lemma lookup?_of_detect (h : Format.detect root = .error fault)
    (hp : fault.pointer? = some pointer) :
    fault.isOfVersion = true ∧ (root.lookup? pointer).isSome = true := by
  unfold Format.detect at h
  split at h
  · next version hget =>
    obtain ⟨hversion, hl⟩ := lookup?_of_ofVersion .openApi3 hget h hp
    exact ⟨hversion, by rw [hl, Option.isSome_some]⟩
  · split at h
    · next version hget =>
      obtain ⟨hversion, hl⟩ := lookup?_of_ofVersion .swagger2 hget h hp
      exact ⟨hversion, by rw [hl, Option.isSome_some]⟩
    · cases h
      cases hp

/-- A fault with a pointer is one of the version, or was found by a check of what was read. -/
lemma exists_of_validate_error {dereference : Bool}
    (h : validate dereference root = .error fault) (hp : fault.pointer? = some pointer) :
    Format.detect root = .error fault ∨
      ∃ format unfolded description, unfold dereference root = .ok unfolded ∧
        read format unfolded = .ok description ∧ description.check = .error fault := by
  unfold validate at h
  split at h
  · rcases bind_eq_error.mp h with h | ⟨format, -, h⟩
    · exact Or.inl h
    rcases bind_eq_error.mp h with h | ⟨unfolded, hunfolded, h⟩
    · unfold unfold at h
      split at h
      · obtain ⟨_, -, rfl⟩ := mapError_eq_error.mp h
        cases hp
      · cases h
    rcases bind_eq_error.mp h with h | ⟨description, hread, h⟩
    · cases format with
      | openApi3 | swagger2 =>
        obtain ⟨_, -, rfl⟩ := mapError_eq_error.mp h
        cases hp
    rcases bind_eq_error.mp h with h | ⟨_, -, h⟩
    · exact Or.inr ⟨format, unfolded, description, hunfolded, hread, h⟩
    · cases h
  · cases h
    cases hp

/-- **Pointers of faults.** A fault of the version points at a node of the value itself. Any other
fault that has a pointer is found in what was read after unfolding; its pointer leads to a node
there exactly if it does not lead into an array on its way. -/
theorem pointer_of_fault (dereference : Bool) (root : Json) (hd : root.Distinct) (fault : Fault)
    (pointer : String) (h : validate dereference root = .error fault)
    (hp : fault.pointer? = some pointer) :
    (fault.isOfVersion = true → (root.lookup? pointer).isSome = true) ∧
    (fault.isOfVersion = false → ∃ unfolded keys, unfold dereference root = .ok unfolded ∧
      pointerKeys? pointer = some keys ∧
      ((unfolded.lookup? pointer).isSome = true ↔ entersArray keys unfolded = false)) := by
  rcases exists_of_validate_error h hp with h | ⟨format, unfolded, description, hunfold, hread, h⟩
  · obtain ⟨hversion, hl⟩ := lookup?_of_detect h hp
    refine ⟨fun _ => hl, fun hother => ?_⟩
    rw [hversion] at hother
    cases hother
  · obtain ⟨keys, hkeys, hpart⟩ := hasPart_of_check h
    have hother := Fault.isOfVersion_of_keys? hkeys
    have hpointer := Fault.pointerKeys?_of_keys? hkeys hp
    have hleads := leads_of_read (distinct_of_unfold hd hunfold) hread hpart
    constructor
    · intro hversion
      rw [hother] at hversion
      cases hversion
    · refine fun _ => ⟨unfolded, keys, hunfold, hpointer, ?_⟩
      rw [lookup?, hpointer]
      exact hleads

/-- An operation on a path whose characters are escaped in a pointer. -/
def tildeRoot : Json :=
  .object [("openapi", .string "3.0.0"),
    ("info", .object [("title", .string "T"), ("version", .string "1")]),
    ("paths", .object [("/a~b/\x7bid\x7d", .object [("get", .object [
      ("responses", .object [("200", .object [])])])])])]

theorem tildeRoot_pointer :
    tildeRoot.Distinct ∧ ∃ fault pointer unfolded, validate true tildeRoot = .error fault ∧
      fault.pointer? = some pointer ∧ pointer = "/paths/~1a~0b~1\x7bid\x7d/get" ∧
      unfold true tildeRoot = .ok unfolded ∧ (unfolded.lookup? pointer).isSome = true := by
  have hd : tildeRoot.Distinct := by
    simp [tildeRoot, Distinct, EveryObject, EveryObjectOfEntries]
  have hfault : validate true tildeRoot =
      .error (.undeclaredPlaceholder ⟨"/a~b/\x7bid\x7d", .get⟩ "id") := rfl
  obtain ⟨unfolded, keys, hunfold, hkeys, hiff⟩ :=
    (pointer_of_fault true tildeRoot hd _ _ hfault rfl).2 rfl
  obtain rfl : tildeRoot = unfolded := Except.ok.inj hunfold
  refine ⟨hd, _, _, _, hfault, rfl, by decide +kernel, hunfold, hiff.mpr ?_⟩
  have hnames : ["paths", "/a~b/\x7bid\x7d", "get"] = keys := Option.some.inj hkeys
  rw [← hnames]
  decide +kernel

/-- The path item is an array of its fields; the second one is an operation. -/
def fieldsRoot : Json :=
  .object [("openapi", .string "3.0.0"),
    ("info", .object [("title", .string "T"), ("version", .string "1")]),
    ("paths", .object [("/a/\x7bid\x7d", .array [.array [], .object [], .null, .null, .null,
      .null, .null, .null, .null])])]

/-- The operation of a path item that is an array is not under the name of its verb. -/
theorem fieldsRoot_pointer_dangles :
    fieldsRoot.Distinct ∧ ∃ fault, validate false fieldsRoot = .error fault ∧
      fault.isOfVersion = false ∧ fault.pointer? = some "/paths/~1a~1\x7bid\x7d/get" ∧
      unfold false fieldsRoot = .ok fieldsRoot ∧
      fieldsRoot.lookup? "/paths/~1a~1\x7bid\x7d/get" = none := by
  have hd : fieldsRoot.Distinct := by
    simp [fieldsRoot, Distinct, EveryObject, EveryObjectOfItems, EveryObjectOfEntries]
  have hfault : validate false fieldsRoot =
      .error (.undeclaredPlaceholder ⟨"/a/\x7bid\x7d", .get⟩ "id") := rfl
  exact ⟨hd, _, hfault, rfl, by decide +kernel, rfl, by decide +kernel⟩

end Description

end ApiTypes
