import ApiTypes.Proofs.Model.Declared

/-!
A Swagger description written in the OpenAPI format.

The two formats say the same in different places. A Swagger body is a parameter, and its media type
is listed on the operation or on the document; an OpenAPI body stands by itself, with its schema
under the media type. A Swagger parameter carries the keywords of its schema itself. Named schemas
are definitions here and components there.

Both formats have their own way to a model. Unless some parameter is a form field, which only the
Swagger way gathers into a body, the description and its upgrade end in the same model.
-/

namespace ApiTypes

namespace Operations

variable {ω ω' : Type}

def map (f : ω → ω') (ops : Operations ω) : Operations ω' where
  get := ops.get.map f
  post := ops.post.map f
  put := ops.put.map f
  patch := ops.patch.map f
  delete := ops.delete.map f
  head := ops.head.map f
  options := ops.options.map f
  trace := ops.trace.map f

@[simp] lemma at?_map (f : ω → ω') (ops : Operations ω) (m : Method) :
    (ops.map f).at? m = (ops.at? m).map f := by
  cases m <;> rfl

lemma list_map (f : ω → ω') (ops : Operations ω) :
    (ops.map f).list = ops.list.map fun (m, op) => (m, f op) := by
  rw [list, list, List.map_filterMap]
  refine congrArg (List.filterMap · Method.all) (funext fun m => ?_)
  rw [at?_map, Option.map_map, Option.map_map]
  rfl

end Operations

namespace Swagger

/-! ### The upgrade -/

/-- The media type of bodies or of responses: the first in the operation's own list if it has one,
and else in the document's. A list without a first says JSON. -/
def mediaType : (own : Option (List String)) → (shared : List String) → String
  | some own, _ => own.headD Model.jsonContent
  | none, shared => shared.headD Model.jsonContent

/-- A parameter outside the body, with its keywords as its schema. -/
def Parameter.upgrade (p : Parameter) : OpenApi.Parameter where
  name := p.name
  location := p.location
  required := p.required
  description := p.description
  schema := some p.inlineSchema
  content := none

/-- References stay as they are, and what is in the body goes elsewhere. -/
def upgradeParameter? : RefOr Parameter → Option (RefOr OpenApi.Parameter)
  | .reference text => some (.reference text)
  | .item p => if p.location = "body" then none else some (.item p.upgrade)

def upgradeParameters (parameters : List (RefOr Parameter)) : List (RefOr OpenApi.Parameter) :=
  parameters.filterMap upgradeParameter?

def Parameter.upgradeBody (contentType : String) (p : Parameter) : OpenApi.RequestBody where
  description := p.description
  content := [(contentType, ⟨p.schema⟩)]
  required := p.required

def Response.upgrade (contentType : String) (response : Response) : OpenApi.Response where
  description := response.description
  content := (response.schema.map fun schema => (contentType, ⟨some schema⟩)).toList
  headers := response.headers

def upgradeResponse (contentType : String) : RefOr Response → RefOr OpenApi.Response
  | .reference text => .reference text
  | .item response => .item (response.upgrade contentType)

def Operation.upgrade (doc : Document) (shared : List (RefOr Parameter)) (op : Operation) :
    OpenApi.Operation where
  operationId := op.operationId
  summary := op.summary
  description := op.description
  parameters := upgradeParameters op.parameters
  requestBody := (inBody? (op.declared shared)).map fun p =>
    .item (p.upgradeBody (mediaType op.consumes doc.consumes))
  responses := op.responses.map fun (code, response) =>
    (code, upgradeResponse (mediaType op.produces doc.produces) response)

def upgradePath (doc : Document) (item : PathItem Operation Parameter) :
    PathItem OpenApi.Operation OpenApi.Parameter where
  parameters := upgradeParameters item.parameters
  operations := item.operations.map (Operation.upgrade doc item.parameters)

/-- The description in the OpenAPI format. -/
def Document.upgrade (doc : Document) : OpenApi.Document where
  openapi := "3.0.0"
  info := doc.info
  paths := doc.paths.map fun (path, item) => (path, upgradePath doc item)
  components := some ⟨doc.definitions⟩

/-! ### Parameters -/

/-- None of the parameters is a form field. -/
def NoFormFields (parameters : List (RefOr Parameter)) : Prop :=
  ∀ p, .item p ∈ parameters → p.location ≠ "formData"

/-- No parameter of a path or of an operation is a form field. -/
def Document.NoForm (doc : Document) : Prop :=
  ∀ entry ∈ doc.paths, NoFormFields entry.2.parameters ∧
    ∀ op ∈ entry.2.operations.list, NoFormFields op.2.parameters

lemma NoFormFields.append {ps qs : List (RefOr Parameter)} (hp : NoFormFields ps)
    (hq : NoFormFields qs) : NoFormFields (ps ++ qs) := by
  intro p h
  rcases List.mem_append.mp h with h | h
  · exact hp p h
  · exact hq p h

lemma Parameter.model?_upgrade (p : Parameter) : p.upgrade.model? = p.model? := rfl

/-- The body is no place of its own in a model. -/
lemma Parameter.model?_of_body {p : Parameter} (h : p.location = "body") : p.model? = none := by
  rw [model?, h]
  rfl

lemma model?_upgradeParameter? (p : RefOr Parameter) :
    ((upgradeParameter? p).bind fun q => q.item?.bind OpenApi.Parameter.model?) =
      p.item?.bind Parameter.model? := by
  cases p with
  | reference text => rfl
  | item p =>
    by_cases h : p.location = "body"
    · simp [upgradeParameter?, RefOr.item?, h, Parameter.model?_of_body]
    · simp [upgradeParameter?, RefOr.item?, h, Parameter.model?_upgrade]

/-- The parameters of a model do not miss those in the body. -/
lemma models_upgradeParameters (parameters : List (RefOr Parameter)) :
    ((upgradeParameters parameters).filterMap RefOr.item?).filterMap OpenApi.Parameter.model? =
      (parameters.filterMap RefOr.item?).filterMap Parameter.model? := by
  rw [upgradeParameters, List.filterMap_filterMap, List.filterMap_filterMap,
    List.filterMap_filterMap]
  exact congrArg (List.filterMap · parameters) (funext model?_upgradeParameter?)

/-! ### Bodies and responses -/

lemma mediaType_eq (own : Option (List String)) (shared : List String) :
    mediaType own shared = (firstMediaType own shared).getD Model.jsonContent := by
  cases own <;> rw [mediaType, firstMediaType, List.headD_eq_head?_getD] <;> rfl

lemma formFields_eq_nil {parameters : List (RefOr Parameter)} (h : NoFormFields parameters) :
    formFields (parameters.filterMap RefOr.item?) = [] := by
  refine List.filter_eq_nil_iff.mpr fun p hp => ?_
  obtain ⟨parameter, hmem, hitem⟩ := List.mem_filterMap.mp hp
  cases parameter with
  | reference text => cases hitem
  | item q =>
    cases hitem
    simpa using h p hmem

/-- The body that stands by itself and the one among the parameters. A body without a schema is no
body in a model. -/
lemma body_upgrade {parameters : List Parameter} (h : formFields parameters = [])
    (own : Option (List String)) (shared : List String) :
    (inBody? parameters).bind (fun p => (p.upgradeBody (mediaType own shared)).model?) =
      body? parameters (firstMediaType own shared) := by
  cases hbody : inBody? parameters with
  | none => rw [body?_of_nothing hbody h, Option.bind_none]
  | some p =>
    rw [body?_of_inBody hbody, mediaType_eq, Option.bind_some]
    rfl

lemma Response.model_upgrade (contentType code : String) (response : Response) :
    (response.upgrade contentType).model code = response.model contentType code := by
  cases h : response.schema <;> simp [upgrade, OpenApi.Response.model, Response.model, h]

lemma responses_upgrade (contentType : String) (responses : List (String × RefOr Response)) :
    (responses.map fun (code, response) => (code, upgradeResponse contentType response)).filterMap
        (fun (code, response) => response.item?.map (OpenApi.Response.model code)) =
      responses.filterMap fun (code, response) =>
        response.item?.map (Response.model contentType code) := by
  rw [List.filterMap_map]
  refine congrArg (List.filterMap · responses) (funext fun ⟨code, response⟩ => ?_)
  cases response with
  | reference text => rfl
  | item response => exact congrArg some (response.model_upgrade contentType code)

/-! ### Operations and routes -/

lemma Operation.model_upgrade (merge : Merge) (doc : Document) {shared : List (RefOr Parameter)}
    (m : Method) {op : Operation} (hshared : NoFormFields shared)
    (hop : NoFormFields op.parameters) :
    (op.upgrade doc shared).model merge (upgradeParameters shared) m =
      op.model merge doc shared m := by
  have hparameters : upgradeParameters shared ++ upgradeParameters op.parameters =
      upgradeParameters (shared ++ op.parameters) := by
    rw [upgradeParameters, upgradeParameters, upgradeParameters, List.filterMap_append]
  have hbody : ((op.upgrade doc shared).requestBody.bind RefOr.item?).bind
        OpenApi.RequestBody.model? =
      body? (op.declared shared) (firstMediaType op.consumes doc.consumes) := by
    have hform : formFields (op.declared shared) = [] := formFields_eq_nil (hshared.append hop)
    rw [← body_upgrade hform]
    cases h : inBody? (op.declared shared) <;> simp [Operation.upgrade, h, RefOr.item?]
  rw [OpenApi.Operation.model, hbody, Operation.model]
  simp only [Operation.upgrade, Operation.declared, hparameters, models_upgradeParameters,
    responses_upgrade, mediaType_eq]

lemma route_upgrade (merge : Merge) (doc : Document) (path : String)
    {item : PathItem Operation Parameter} (hshared : NoFormFields item.parameters)
    (hops : ∀ op ∈ item.operations.list, NoFormFields op.2.parameters) :
    Model.route? path ((upgradePath doc item).operations.list.map fun (m, op) =>
        op.model merge (upgradePath doc item).parameters m) =
      Model.route? path (item.operations.list.map fun (m, op) =>
        op.model merge doc item.parameters m) := by
  refine congrArg (Model.route? path) ?_
  rw [upgradePath, Operations.list_map, List.map_map]
  exact List.map_congr_left fun op hop => op.2.model_upgrade merge doc op.1 hshared (hops op hop)

/-- **The two formats agree.** A Swagger description without form fields and its upgrade to the
OpenAPI format have the same model, whichever way parameters are merged. -/
theorem Document.model_of_upgrade (merge : Merge) (doc : Document) (h : doc.NoForm) :
    doc.upgrade.model merge = doc.model merge := by
  have hroutes : (doc.upgrade.model merge).routes = (doc.model merge).routes := by
    rw [OpenApi.Document.model, Document.upgrade, List.filterMap_map]
    refine List.filterMap_congr fun entry hentry => ?_
    obtain ⟨hshared, hops⟩ := h entry hentry
    exact route_upgrade merge doc entry.1 hshared hops
  exact congrArg (fun routes => { doc.model merge with routes }) hroutes

def petSchema : Json := .object [("type", .string "object")]

/-- An operation that lists no media type. -/
def postPet : Operation where
  consumes := some []
  parameters :=
    [.item ⟨"tag", "query", false, none, none, some (.string "string"), none, none, none⟩]
  responses := [("200", .item { schema := some petSchema }), ("404", .item {}),
    ("default", .reference "#/responses/Error")]

/-- The operations of a path with a body for both. -/
def petPath : PathItem Operation Parameter where
  parameters := [.reference "#/parameters/page",
    .item ⟨"pet", "body", true, none, some petSchema, none, none, none, none⟩]
  operations := { post := some postPet, put := some {} }

def petDocument : Document where
  swagger := "2.0"
  info := ⟨"Pets", "1", none⟩
  consumes := ["application/xml"]
  produces := []
  paths := [("/pets", petPath)]
  definitions := [("Pet", petSchema)]

theorem petDocument_upgraded :
    petDocument.NoForm ∧
    petDocument.upgrade.model .override = petDocument.model .override ∧
    (petDocument.model .override).routes.map (fun route =>
        route.endpoints.map fun endpoint => endpoint.body.map Model.Body.contentType) =
      [[some "application/json", some "application/xml"]] := by
  have hlist : petPath.operations.list = [(.post, postPet), (.put, {})] := rfl
  have h : petDocument.NoForm := by
    refine List.forall_mem_singleton.mpr ⟨?_, ?_⟩
    · simp [NoFormFields, petPath]
    · rw [hlist]
      simp [NoFormFields, postPet]
  exact ⟨h, petDocument.model_of_upgrade .override h, rfl⟩

end Swagger

end ApiTypes
