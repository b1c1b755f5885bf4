/-
Paths, operations, what they exchange, and whole documents, read again from what is written of them.

* `Spec.RefOr.roundTrips`: an item that is written without `$ref` is not taken for a reference;
* `Spec.Parameter.roundTrips`, `Spec.RequestBody.roundTrips`, `Spec.Response.roundTrips`,
  `Spec.Operation.roundTrips`, `Spec.PathItem.roundTrips`: whatever is read as one of these, from an
  object or from an array, is read again from the object that is written of it;
* `Spec.ofJson?_toJson_of_ofJson?`: so is whatever references can lead to;
* `Spec.SecurityScheme.ofJson?_toJson`: a security scheme is written with all members of its kind,
  those without a value as null, and is read again;
* `Spec.Document.roundTrips`: whatever is read as a document is read again.
-/
import OpenApiTypes.Proofs.Spec.SchemaRoundTrip
import OpenApiTypes.Spec.Document
import OpenApiTypes.Spec.OperationReader
import OpenApiTypes.Spec.OperationWriter

namespace OpenApiTypes.Spec

open Json (RoundTrips memberIf bind_eq_some_iff ne_null_of_optional? required?_of_get?
  required?_string optional?_of_get? optional?_string optional?_bool optional?_any
  defaulted?_of_get? defaulted?_bool defaulted?_entries defaulted?_flag defaulted?_list
  defaulted?_strings)

/-! ### References -/

namespace RefOr

variable {α : Type} {read : Json → Option α} {write : α → Json}

/-- An item that is written without `$ref` is not taken for a reference. -/
lemma roundTrips (h : RoundTrips read write) (href : ∀ x, (write x).member? "$ref" = none) :
    RoundTrips (RefOr.ofJson? read) (RefOr.toJson write) := by
  intro v r hr
  unfold RefOr.ofJson? at hr
  split at hr
  · obtain rfl := Option.some.inj hr
    rfl
  · obtain ⟨x, hx, rfl⟩ := Option.map_eq_some_iff.mp hr
    simp [RefOr.toJson, RefOr.ofJson?, href, h v x hx]

lemma toJson_ne_null (hnull : ∀ x, write x ≠ .null) (r : RefOr α) : r.toJson write ≠ .null := by
  cases r with
  | ref pointer => nofun
  | item x => exact hnull x

end RefOr

/-! ### What operations exchange -/

lemma MediaType.roundTrips : RoundTrips MediaType.ofJson? MediaType.toJson := by
  intro v m hm
  simp only [ofJson?, ↓bind_eq_some_iff, Option.some.injEq] at hm ⊢
  obtain ⟨fields, -, schema, hschema, example_, hexample, rfl⟩ := hm
  exact ⟨_, rfl,
    schema, Position.roundTrips.optional? Position.toJson_ne_null hschema (by simp),
    example_, optional?_any (by simp) (ne_null_of_optional? hexample),
    rfl⟩

/-- A `content` map that is left out when it is empty. -/
lemma content?_written {fields written : Entries String Json} {content : Entries String MediaType}
    (hcontent : content? fields = some content)
    (hget : written.get? "content" = if contentMembers content = [] then none
      else some (.obj (contentMembers content))) : content? written = some content :=
  MediaType.roundTrips.entries? hcontent hget

lemma ParameterPlace.variant?_name (place : ParameterPlace) :
    Json.variant? ofName? (.str place.name) = some place := by
  cases place <;> decide

lemma Parameter.roundTrips : RoundTrips Parameter.ofJson? Parameter.toJson := by
  intro v p hp
  simp only [ofJson?, ↓bind_eq_some_iff, Option.some.injEq] at hp ⊢
  obtain ⟨fields, -, name, -, place, -, description, -, required, -, deprecated, -, schema, hschema,
    content, hcontent, style, -, explode, -, allowReserved, -, rfl⟩ := hp
  exact ⟨_, rfl,
    name, required?_string (by simp),
    place, required?_of_get? (by simp) place.variant?_name,
    description, optional?_string (by simp),
    required, defaulted?_bool (by simp),
    deprecated, defaulted?_bool (by simp),
    schema, Position.roundTrips.optional? Position.toJson_ne_null hschema (by simp),
    content, content?_written hcontent (by simp),
    style, optional?_string (by simp),
    explode, optional?_bool (by simp),
    allowReserved, defaulted?_bool (by simp),
    rfl⟩

lemma RequestBody.roundTrips : RoundTrips RequestBody.ofJson? RequestBody.toJson := by
  intro v b hb
  simp only [ofJson?, ↓bind_eq_some_iff, Option.some.injEq] at hb ⊢
  obtain ⟨fields, -, description, -, content, hcontent, required, -, rfl⟩ := hb
  have hentries : Json.entries? MediaType.ofJson? (.obj (contentMembers content)) = some content :=
    Json.entries?_map (Json.forall_of_defaulted?_entries hcontent MediaType.roundTrips)
  exact ⟨_, rfl,
    description, optional?_string (by simp),
    content, defaulted?_of_get? (.inr (by simp)) hentries,
    required, defaulted?_bool (by simp),
    rfl⟩

lemma Response.toJson_eq (r : Response) : r.toJson
    = .obj (memberIf "description" (if r.description = "" then none else some (.str r.description))
      ++ entriesMember "content" (contentMembers r.content)) := by
  by_cases h : r.description = "" <;> simp [toJson, memberIf, h]

lemma Response.roundTrips : RoundTrips Response.ofJson? Response.toJson := by
  intro v r hr
  simp only [ofJson?, toJson_eq, ↓bind_eq_some_iff, Option.some.injEq] at hr ⊢
  obtain ⟨fields, -, description, -, content, hcontent, rfl⟩ := hr
  exact ⟨_, rfl,
    description, defaulted?_of_get? (v := .str description)
      (by by_cases h : description = "" <;> simp [h]) rfl,
    content, content?_written hcontent (by simp),
    rfl⟩

/-! ### References to what operations exchange -/

lemma Parameter.reference_roundTrips :
    RoundTrips (RefOr.ofJson? Parameter.ofJson?) (RefOr.toJson Parameter.toJson) :=
  RefOr.roundTrips Parameter.roundTrips fun p => by simp [toJson, Json.member?]

lemma RequestBody.reference_roundTrips :
    RoundTrips (RefOr.ofJson? RequestBody.ofJson?) (RefOr.toJson RequestBody.toJson) :=
  RefOr.roundTrips RequestBody.roundTrips fun b => by simp [toJson, Json.member?]

lemma Response.reference_roundTrips :
    RoundTrips (RefOr.ofJson? Response.ofJson?) (RefOr.toJson Response.toJson) :=
  RefOr.roundTrips Response.roundTrips fun r => by simp [toJson_eq, Json.member?]

/-! ### Operations -/

lemma server?_toJson (s : Server) : server? (serverToJson s) = some s := by
  simp only [server?, ↓bind_eq_some_iff]
  exact ⟨_, rfl, s.url, required?_string (by simp), s.description, optional?_string (by simp), rfl⟩

lemma servers?_written {written : Entries String Json} {servers : List Server}
    (hget : written.get? "servers" = if servers.map serverToJson = [] then none
      else some (.arr (servers.map serverToJson))) : servers? written = some servers :=
  defaulted?_list hget fun s _ => server?_toJson s

lemma requirements?_toJson (rs : List Requirement) :
    requirements? (requirementsToJson rs) = some rs :=
  Json.list?_map fun _ _ => Json.entries?_map fun _ _ => Json.list?_map fun _ _ => rfl

lemma requirements?_written {written : Entries String Json} {security : Option (List Requirement)}
    (hget : written.get? "security" = security.map requirementsToJson) :
    Json.optional? written "security" requirements? = some security :=
  optional?_of_get? hget fun rs _ => ⟨requirements?_toJson rs, nofun⟩

lemma parameters?_written {fields written : Entries String Json}
    {parameters : List (RefOr Parameter)} (hparameters : parameters? fields = some parameters)
    (hget : written.get? "parameters"
      = if parameters.map (RefOr.toJson Parameter.toJson) = [] then none
        else some (.arr (parameters.map (RefOr.toJson Parameter.toJson)))) :
    parameters? written = some parameters :=
  Parameter.reference_roundTrips.list? hparameters hget

lemma Operation.roundTrips : RoundTrips Operation.ofJson? Operation.toJson := by
  intro v o ho
  simp only [ofJson?, ↓bind_eq_some_iff, Option.some.injEq] at ho ⊢
  obtain ⟨fields, -, operationId, -, summary, -, description, -, deprecated, -, tags, -, parameters,
    hparameters, requestBody, hrequestBody, responses, hresponses, security, -, servers, -, rfl⟩ :=
    ho
  exact ⟨_, rfl,
    operationId, optional?_string (by simp),
    summary, optional?_string (by simp),
    description, optional?_string (by simp),
    deprecated, defaulted?_flag (by simp),
    tags, defaulted?_strings (by simp),
    parameters, parameters?_written hparameters (by simp),
    requestBody, RequestBody.reference_roundTrips.optional? (RefOr.toJson_ne_null fun _ => nofun)
      hrequestBody (by simp),
    responses, Response.reference_roundTrips.entries? hresponses (by simp [Entries.mapValues]),
    security, requirements?_written (by simp),
    servers, servers?_written (by simp),
    rfl⟩

namespace PathItem

lemma operations_map (item : PathItem) :
    item.operations.map (fun (method, op) => (method.lower, op.toJson))
      = HttpMethod.all.flatMap fun method =>
          memberIf method.lower ((item.operation? method).map Operation.toJson) := by
  rw [operations]
  induction HttpMethod.all with
  | nil => rfl
  | cons method methods ih => cases h : item.operation? method <;> simp [h, memberIf, ih]

lemma toJson_eq (item : PathItem) : item.toJson
    = .obj (memberIf "$ref" (item.pointer.map .str)
      ++ (listMember "parameters" (item.parameters.map (RefOr.toJson Parameter.toJson))
      ++ (listMember "servers" (item.servers.map serverToJson)
      ++ (memberIf "get" (item.get.map Operation.toJson)
      ++ (memberIf "put" (item.put.map Operation.toJson)
      ++ (memberIf "post" (item.post.map Operation.toJson)
      ++ (memberIf "delete" (item.delete.map Operation.toJson)
      ++ (memberIf "options" (item.options.map Operation.toJson)
      ++ (memberIf "head" (item.head.map Operation.toJson)
      ++ (memberIf "patch" (item.patch.map Operation.toJson)
      ++ memberIf "trace" (item.trace.map Operation.toJson))))))))))) := by
  rw [toJson, operations_map]
  simp [HttpMethod.all, HttpMethod.lower, operation?]

theorem roundTrips : RoundTrips ofJson? toJson := by
  intro v item hitem
  simp only [ofJson?, toJson_eq, ↓bind_eq_some_iff, Option.some.injEq] at hitem ⊢
  obtain ⟨fields, -, pointer, -, parameters, hparameters, servers, -, get, hget, put, hput, post,
    hpost, delete, hdelete, options, hoptions, head, hhead, patch, hpatch, trace, htrace, rfl⟩ :=
    hitem
  have hoperation {name : String} {written : Entries String Json} {o : Option Operation}
      (ho : Json.optional? fields name Operation.ofJson? = some o)
      (hwritten : written.get? name = o.map Operation.toJson) :
      Json.optional? written name Operation.ofJson? = some o :=
    Operation.roundTrips.optional? (fun _ => nofun) ho hwritten
  exact ⟨_, rfl,
    pointer, optional?_string (by simp),
    parameters, parameters?_written hparameters (by simp),
    servers, servers?_written (by simp),
    get, hoperation hget (by simp),
    put, hoperation hput (by simp),
    post, hoperation hpost (by simp),
    delete, hoperation hdelete (by simp),
    options, hoperation hoptions (by simp),
    head, hoperation hhead (by simp),
    patch, hoperation hpatch (by simp),
    trace, hoperation htrace (by simp),
    rfl⟩

end PathItem

/-! ### What references can lead to -/

/-- **What references can lead to round-trips**: whatever is read where a schema is expected, or as
a parameter, a request body, a response or a path item, is read again, just as it was, from what is
written of it. -/
theorem ofJson?_toJson_of_ofJson? :
    RoundTrips Position.ofJson? Position.toJson
      ∧ RoundTrips Parameter.ofJson? Parameter.toJson
      ∧ RoundTrips RequestBody.ofJson? RequestBody.toJson
      ∧ RoundTrips Response.ofJson? Response.toJson
      ∧ RoundTrips PathItem.ofJson? PathItem.toJson :=
  ⟨Position.roundTrips, Parameter.roundTrips, RequestBody.roundTrips, Response.roundTrips,
    PathItem.roundTrips⟩

/-- A schema that spells things in ways in which they are not written: a reference that is no text, a
kind that is a key, a kind that is not known, a boolean for required names, an integer for a bound,
null for a constant, and a reference beside another member. -/
def looseSchemaNode : Json := .obj [("$ref", .bool true),
  ("type", .arr [.obj [("integer", .null)], .str "file"]), ("required", .bool true),
  ("minimum", .number (.int 1)), ("const", .null), ("additionalProperties", .bool false),
  ("items", .obj [("type", .null), ("$ref", .str "#/components/schemas/Item")])]

/-- What is read from it. -/
def looseSchema : Position Schema := .inline {
  types := some (.several [.integer, .unknown])
  additionalProperties := some (.bool false)
  items := some (.ref "#/components/schemas/Item")
  bounds := { minimum := some (Number.int 1).toBinary64 } }

/-- A parameter that is an array, with such a schema and a place that is a key. -/
def looseParameterNode : Json := .arr [.str "limit", .obj [("query", .null)], .null, .bool true,
  .bool false, looseSchemaNode, .obj [], .null, .bool true]

/-- What is read from it. -/
def looseParameter : Parameter where
  name := "limit"
  place := .query
  description := none
  required := true
  deprecated := false
  schema := some looseSchema
  content := []
  style := none
  explode := some true
  allowReserved := false

/-- A path item with such a parameter, a null reference and empty lists. -/
def looseNode : Json := .obj [("$ref", .null), ("servers", .arr []),
  ("parameters", .arr [looseParameterNode,
    .obj [("name", .str "skip"), ("$ref", .str "#/components/parameters/Skip")]])]

/-- What is read from it. -/
def looseItem : PathItem where
  pointer := none
  parameters := [.item looseParameter, .ref "#/components/parameters/Skip"]
  servers := []
  get := none
  put := none
  post := none
  delete := none
  options := none
  head := none
  patch := none
  trace := none

theorem ofJson?_toJson_looseItem :
    PathItem.ofJson? looseNode = some looseItem
      ∧ PathItem.ofJson? looseItem.toJson = some looseItem := by
  have hschema : Position.ofJson? looseSchemaNode = some looseSchema := by
    simp [looseSchemaNode, looseSchema, Position.ofJson?, Schema.ofMembers?, Schema.takeFlat?,
      Types.ofJson?, Kind.ofName, Kind.named, Kind.name, Bounds.take?, Annotations.take?,
      requiredNames?, Position.nullable?, Json.nullable?, Json.float?, Json.list?, Json.variant?]
  have hparameter : Parameter.ofJson? looseParameterNode = some looseParameter := by
    have hnull : looseSchemaNode ≠ .null := by simp [looseSchemaNode]
    have hfield : Json.nullable? Position.ofJson? looseSchemaNode = some (some looseSchema) := by
      rw [Json.nullable?_of_ne_null hnull, hschema, Option.map_some]
    simp only [Parameter.ofJson?, ↓bind_eq_some_iff]
    exact ⟨_, rfl, _, rfl, _, rfl, _, rfl, _, rfl, _, rfl, _, hfield, _, rfl, _, rfl, _, rfl, _,
      rfl, rfl⟩
  have hlimit : RefOr.ofJson? Parameter.ofJson? looseParameterNode
      = some (.item looseParameter) := by
    have href : looseParameterNode.member? "$ref" = none := rfl
    simp [RefOr.ofJson?, href, hparameter]
  have hparameters : Json.list? (RefOr.ofJson? Parameter.ofJson?) (.arr [looseParameterNode,
      .obj [("name", .str "skip"), ("$ref", .str "#/components/parameters/Skip")]])
      = some looseItem.parameters :=
    Json.mapM_eq_some_iff.mpr (.cons hlimit (.cons rfl .nil))
  have hread : PathItem.ofJson? looseNode = some looseItem := by
    simp only [PathItem.ofJson?, ↓bind_eq_some_iff]
    exact ⟨_, rfl, _, rfl, _, hparameters, _, rfl, _, rfl, _, rfl, _, rfl, _, rfl, _, rfl, _, rfl,
      _, rfl, _, rfl, rfl⟩
  exact ⟨hread, ofJson?_toJson_of_ofJson?.2.2.2.2 _ _ hread⟩

/-! ### Security schemes -/

namespace SecurityScheme

theorem ofJson?_toJson (s : SecurityScheme) : ofJson? s.toJson = some s := by
  obtain ⟨kind, description⟩ := s
  cases kind with
  | apiKey name place =>
    rcases name with _ | name <;> rcases place with _ | _ | _ | _ <;> cases description <;> rfl
  | http scheme bearerFormat => cases scheme <;> cases bearerFormat <;> cases description <;> rfl
  | oauth2 => cases description <;> rfl
  | openIdConnect url => cases url <;> cases description <;> rfl
  | mutualTls => cases description <;> rfl

end SecurityScheme

lemma Info.ofJson?_toJson (i : Info) : ofJson? i.toJson = some i := by
  obtain ⟨title, version, description⟩ := i
  cases description <;> rfl

lemma Components.roundTrips : RoundTrips Components.ofJson? Components.toJson := by
  intro v c hc
  simp only [ofJson?, ↓bind_eq_some_iff, Option.some.injEq] at hc ⊢
  obtain ⟨fields, -, schemas, hschemas, parameters, hparameters, requestBodies, hrequestBodies,
    responses, hresponses, securitySchemes, -, rfl⟩ := hc
  exact ⟨_, rfl,
    schemas, Position.roundTrips.entries? hschemas (by simp [Position.entriesToMembers_eq]),
    parameters, Parameter.reference_roundTrips.entries? hparameters (by simp [Entries.mapValues]),
    requestBodies, RequestBody.reference_roundTrips.entries? hrequestBodies
      (by simp [Entries.mapValues]),
    responses, Response.reference_roundTrips.entries? hresponses (by simp [Entries.mapValues]),
    securitySchemes, defaulted?_entries (by simp [Entries.mapValues])
      fun p _ => p.2.ofJson?_toJson,
    rfl⟩

theorem Document.roundTrips : RoundTrips Document.ofJson? Document.toJson := by
  intro v d hd
  simp only [ofJson?, ↓bind_eq_some_iff, Option.some.injEq] at hd ⊢
  obtain ⟨fields, -, openapi, -, info, -, servers, -, paths, hpaths, webhooks, hwebhooks,
    components, hcomponents, security, -, rfl⟩ := hd
  exact ⟨_, rfl,
    openapi, required?_string (by simp),
    info, required?_of_get? (by simp) info.ofJson?_toJson,
    servers, servers?_written (by simp),
    paths, PathItem.roundTrips.entries? hpaths (by simp [Entries.mapValues]),
    webhooks, PathItem.roundTrips.entries? hwebhooks (by simp [Entries.mapValues]),
    components, Components.roundTrips.optional? (fun _ => nofun) hcomponents (by simp),
    security, requirements?_written (by simp),
    rfl⟩

end OpenApiTypes.Spec
