import ApiCompiler.Document.Normalise

/-!
# The sample document

The description of a fleet service: vehicles, their treatments, and sessions. It is the document
that is read where no other one is named.
-/

namespace ApiCompiler.Document.Sample

/-- A mapping with textual keys. -/
def object (entries : List (String × Value)) : Value :=
  .map (entries.map fun (key, value) ↦ (.text key, value))

/-- A reference to a component schema. -/
def ref (component : String) : Value :=
  object [("$ref", .text ("#/components/schemas/" ++ component))]

/-- A schema of a type. -/
def typed (type : String) : Value :=
  object [("type", .text type)]

/-- A schema of a type in a format. -/
def formatted (type format : String) : Value :=
  object [("type", .text type), ("format", .text format)]

/-- A schema of lists. -/
def listOf (items : Value) : Value :=
  object [("type", .text "array"), ("items", items)]

/-- The operations at `/`. -/
def pathRoot : Value :=
  object [
    ("get", object [
      ("summary", .text "API root"),
      ("responses", object [("200", object [("description", .text "OK")])])])]

/-- The operations at `/health`. -/
def pathHealth : Value :=
  object [
    ("get", object [
      ("operationId", .text "getHealth"),
      ("summary", .text "Service health"),
      ("responses", object [
        ("200", object [
          ("description", .text "OK"),
          ("content", jsonContent <|
            object [
              ("type", .text "object"),
              ("properties", object [("status", typed "string")])])])])])]

/-- The operations at `/{tenant}/info`. -/
def pathTenantInfo : Value :=
  object [
    ("get", object [
      ("summary", .text "Tenant information"),
      ("responses", object [("200", object [("description", .text "OK")])])])]

/-- The operations at `/auth/login`. -/
def pathAuthLogin : Value :=
  object [
    ("post", object [
      ("tags", .list [.text "auth"]),
      ("summary", .text "Log in with e-mail and password"),
      ("requestBody", object [("$ref", .text "#/components/requestBodies/LoginBody")]),
      ("responses", object [
        ("200", object [
          ("description", .text "Token issued"),
          ("content", jsonContent (ref "LoginResponse"))])])])]

/-- The operations at `/auth/login/verify`. -/
def pathAuthLoginVerify : Value :=
  object [
    ("post", object [
      ("tags", .list [.text "auth"]),
      ("summary", .text "Verify the <b>one-time</b> login code"),
      ("requestBody", object [
        ("required", .bool true),
        ("content", jsonContent (ref "VerifyRequest"))]),
      ("responses", object [
        ("200", object [
          ("description", .text "Verified"),
          ("content", jsonContent (ref "LoginResponse"))])])])]

/-- The operations at `/auth/terminate/all`. -/
def pathAuthTerminateAll : Value :=
  object [
    ("post", object [
      ("tags", .list [.text "auth"]),
      ("summary", .text "Terminate every session of the current user"),
      ("responses", object [("204", object [("description", .text "Terminated")])])])]

/-- The operations at `/categories`. -/
def pathCategories : Value :=
  object [
    ("get", object [
      ("tags", .list [.text "categories"]),
      ("summary", .text "List vehicle categories"),
      ("responses", object [
        ("200", object [
          ("description", .text "OK"),
          ("content", jsonContent (listOf (ref "Category")))])])])]

/-- The operations at `/manufacturers`. -/
def pathManufacturers : Value :=
  object [
    ("get", object [
      ("tags", .list [.text "manufacturers"]),
      ("summary", .text "Search manufacturers"),
      ("parameters", .list [
        object [("name", .text "search"), ("in", .text "query"), ("schema", typed "string")],
        object [("$ref", .text "#/components/parameters/Page")],
        object [
          ("name", .text "X-Request-Id"),
          ("in", .text "header"),
          ("schema", typed "string")]]),
      ("responses", object [
        ("200", object [
          ("description", .text "OK"),
          ("content", jsonContent (listOf (ref "Manufacturer")))])])])]

/-- The operations at `/vehicles/count`. -/
def pathVehiclesCount : Value :=
  object [
    ("get", object [
      ("tags", .list [.text "vehicles"]),
      ("summary", .text "Count vehicles"),
      ("parameters", .list [
        object [("name", .text "status"), ("in", .text "query"), ("schema", ref "VehicleStatus")]]),
      ("responses", object [
        ("200", object [
          ("description", .text "OK"),
          ("content", jsonContent <|
            object [
              ("type", .text "object"),
              ("required", .list [.text "count"]),
              ("properties", object [
                ("count", object [("type", .text "integer"), ("minimum", .int 0)])])])])])])]

/-- The operations at `/vehicles/list`. -/
def pathVehiclesList : Value :=
  object [
    ("post", object [
      ("tags", .list [.text "vehicles"]),
      ("summary", .text "List vehicles with filters and pagination"),
      ("requestBody", object [("content", jsonContent (ref "VehicleListRequest"))]),
      ("responses", object [
        ("200", object [
          ("description", .text "OK"),
          ("content", jsonContent (ref "VehicleListResponse"))])])])]

/-- The operations at `/vehicles/create`. -/
def pathVehiclesCreate : Value :=
  object [
    ("post", object [
      ("tags", .list [.text "vehicles"]),
      ("summary", .text "Create a vehicle"),
      ("requestBody", object [
        ("required", .bool true),
        ("content", jsonContent (ref "CreateVehicleRequest"))]),
      ("responses", object [
        ("201", object [
          ("description", .text "Created"),
          ("content", jsonContent (ref "Vehicle"))])])])]

/-- The operations at `/vehicles/bulk-edit`. -/
def pathVehiclesBulkEdit : Value :=
  object [
    ("put", object [
      ("tags", .list [.text "vehicles"]),
      ("summary", .text "Edit several vehicles at once"),
      ("requestBody", object [
        ("required", .bool true),
        ("content", jsonContent (ref "BulkEditRequest"))]),
      ("responses", object [("204", object [("description", .text "Updated")])])])]

/-- The operations at `/vehicles/process-excel`. -/
def pathVehiclesProcessExcel : Value :=
  object [
    ("post", object [
      ("tags", .list [.text "vehicles"]),
      ("summary", .text "Import vehicles from an Excel sheet"),
      ("requestBody", object [
        ("content", object [
          ("multipart/form-data", object [
            ("schema", object [
              ("type", .text "object"),
              ("properties", object [("file", formatted "string" "binary")])])])])]),
      ("responses", object [("202", object [("description", .text "Accepted")])])])]

/-- The operations at `/vehicles/treatments/{treatment_id}`. -/
def pathVehiclesTreatmentsTreatmentId : Value :=
  object [
    ("get", object [
      ("tags", .list [.text "vehicles"]),
      ("summary", .text "Get a treatment"),
      ("responses", object [
        ("200", object [
          ("description", .text "OK"),
          ("content", jsonContent (ref "Treatment"))])])])]

/-- The operations at `/vehicles/{id}`. -/
def pathVehiclesId : Value :=
  object [
    ("parameters", .list [
      object [
        ("name", .text "id"),
        ("in", .text "path"),
        ("required", .bool true),
        ("schema", typed "integer")]]),
    ("get", object [
      ("tags", .list [.text "vehicles"]),
      ("summary", .text "Get a vehicle"),
      ("responses", object [
        ("200", object [("description", .text "OK"), ("content", jsonContent (ref "Vehicle"))]),
        ("404", object [("description", .text "Not found")])])]),
    ("put", object [
      ("tags", .list [.text "vehicles"]),
      ("summary", .text "Update a vehicle"),
      ("requestBody", object [
        ("required", .bool true),
        ("content", jsonContent (ref "UpdateVehicleRequest"))]),
      ("responses", object [
        ("200", object [("description", .text "OK"), ("content", jsonContent (ref "Vehicle"))])])]),
    ("delete", object [
      ("tags", .list [.text "vehicles"]),
      ("summary", .text "Delete a vehicle"),
      ("responses", object [("204", object [("description", .text "Deleted")])])])]

/-- The operations at `/vehiclesData/getFieldOptions/{field}/options`. -/
def pathVehiclesDataGetFieldOptionsFieldOptions : Value :=
  object [
    ("post", object [
      ("tags", .list [.text "vehiclesData"]),
      ("summary", .text "Options for a vehicle form field"),
      ("requestBody", object [
        ("required", .bool false),
        ("content", jsonContent (ref "FieldOptionsRequest"))]),
      ("responses", object [
        ("200", object [
          ("description", .text "OK"),
          ("content", jsonContent (listOf (ref "FieldOption")))])])])]

/-- The component `VehicleStatus`. -/
def vehicleStatusSchema : Value :=
  object [
    ("type", .text "string"),
    ("enum", .list [.text "active", .text "inactive", .text "maintenance"])]

/-- The component `Manufacturer`. -/
def manufacturerSchema : Value :=
  object [
    ("type", .text "object"),
    ("required", .list [.text "id", .text "name"]),
    ("properties", object [("id", typed "integer"), ("name", typed "string")])]

/-- The component `Category`. -/
def categorySchema : Value :=
  object [
    ("type", .text "object"),
    ("required", .list [.text "id", .text "name"]),
    ("properties", object [
      ("id", typed "integer"),
      ("name", typed "string"),
      ("parent_id", object [("type", .text "integer"), ("nullable", .bool true)])])]

/-- The component `Vehicle`. -/
def vehicleSchema : Value :=
  object [
    ("type", .text "object"),
    ("required", .list [.text "id", .text "plate", .text "status"]),
    ("properties", object [
      ("id", typed "integer"),
      ("plate", object [("type", .text "string"), ("minLength", .int 1), ("maxLength", .int 16)]),
      ("status", ref "VehicleStatus"),
      ("manufacturer", ref "Manufacturer"),
      ("mileage", object [("type", .text "number"), ("minimum", .int 0)]),
      ("tags", listOf (typed "string")),
      ("registered_at", formatted "string" "date-time")])]

/-- The component `VehicleList`. -/
def vehicleListSchema : Value :=
  listOf (ref "Vehicle")

/-- The component `CreateVehicleRequest`. -/
def createVehicleRequestSchema : Value :=
  object [
    ("type", .text "object"),
    ("required", .list [.text "plate", .text "manufacturer_id"]),
    ("properties", object [
      ("plate", object [("type", .text "string"), ("minLength", .int 1), ("maxLength", .int 16)]),
      ("manufacturer_id", typed "integer"),
      ("status", ref "VehicleStatus"),
      ("tags", listOf (typed "string"))])]

/-- The component `UpdateVehicleRequest`. -/
def updateVehicleRequestSchema : Value :=
  object [
    ("type", .text "object"),
    ("properties", object [
      ("plate", object [("type", .text "string"), ("minLength", .int 1), ("maxLength", .int 16)]),
      ("status", ref "VehicleStatus")])]

/-- The component `BulkEditRequest`. -/
def bulkEditRequestSchema : Value :=
  object [
    ("type", .text "object"),
    ("required", .list [.text "ids", .text "changes"]),
    ("properties", object [
      ("ids", listOf (typed "integer")),
      ("changes", ref "UpdateVehicleRequest")])]

/-- The component `VehicleListRequest`. -/
def vehicleListRequestSchema : Value :=
  object [
    ("type", .text "object"),
    ("properties", object [
      ("page", object [("type", .text "integer"), ("minimum", .int 1)]),
      ("page_size", object [("type", .text "integer"), ("minimum", .int 1), ("maximum", .int 100)]),
      ("filters", object [
        ("type", .text "object"),
        ("properties", object [("status", ref "VehicleStatus"), ("search", typed "string")])])])]

/-- The component `VehicleListResponse`. -/
def vehicleListResponseSchema : Value :=
  object [
    ("type", .text "object"),
    ("required", .list [.text "items", .text "total"]),
    ("properties", object [("items", ref "VehicleList"), ("total", typed "integer")])]

/-- The component `Treatment`. -/
def treatmentSchema : Value :=
  object [
    ("type", .text "object"),
    ("required", .list [.text "id", .text "vehicle_id"]),
    ("properties", object [
      ("id", typed "integer"),
      ("vehicle_id", typed "integer"),
      ("description", typed "string"),
      ("performed_at", formatted "string" "date-time")])]

/-- The component `LoginRequest`. -/
def loginRequestSchema : Value :=
  object [
    ("type", .text "object"),
    ("required", .list [.text "email", .text "password"]),
    ("properties", object [
      ("email", typed "string"),
      ("password", object [
        ("type", .text "string"),
        ("minLength", .int 8),
        ("pattern", .text "^(?=.*[0-9]).\x7b8,\x7d$")])])]

/-- The component `LoginResponse`. -/
def loginResponseSchema : Value :=
  object [
    ("type", .text "object"),
    ("required", .list [.text "token"]),
    ("properties", object [
      ("token", typed "string"),
      ("expires_at", formatted "string" "date-time")])]

/-- The component `VerifyRequest`. -/
def verifyRequestSchema : Value :=
  object [
    ("type", .text "object"),
    ("required", .list [.text "code"]),
    ("properties", object [
      ("code", object [("type", .text "string"), ("pattern", .text "^[0-9]\x7b6\x7d$")])])]

/-- The component `FieldOptionsRequest`. -/
def fieldOptionsRequestSchema : Value :=
  object [("type", .text "object"), ("properties", object [("search", typed "string")])]

/-- The component `FieldOption`. -/
def fieldOptionSchema : Value :=
  object [
    ("type", .text "object"),
    ("required", .list [.text "value", .text "label"]),
    ("properties", object [("value", typed "string"), ("label", typed "string")])]

/-- The operations by path. -/
def paths : Value :=
  object [
    ("/", pathRoot),
    ("/health", pathHealth),
    ("/\x7btenant\x7d/info", pathTenantInfo),
    ("/auth/login", pathAuthLogin),
    ("/auth/login/verify", pathAuthLoginVerify),
    ("/auth/terminate/all", pathAuthTerminateAll),
    ("/categories", pathCategories),
    ("/manufacturers", pathManufacturers),
    ("/vehicles/count", pathVehiclesCount),
    ("/vehicles/list", pathVehiclesList),
    ("/vehicles/create", pathVehiclesCreate),
    ("/vehicles/bulk-edit", pathVehiclesBulkEdit),
    ("/vehicles/process-excel", pathVehiclesProcessExcel),
    ("/vehicles/treatments/\x7btreatment_id\x7d", pathVehiclesTreatmentsTreatmentId),
    ("/vehicles/\x7bid\x7d", pathVehiclesId),
    ("/vehiclesData/getFieldOptions/\x7bfield\x7d/options",
      pathVehiclesDataGetFieldOptionsFieldOptions)]

/-- The component schemas. -/
def schemas : Value :=
  object [
    ("VehicleStatus", vehicleStatusSchema),
    ("Manufacturer", manufacturerSchema),
    ("Category", categorySchema),
    ("Vehicle", vehicleSchema),
    ("VehicleList", vehicleListSchema),
    ("CreateVehicleRequest", createVehicleRequestSchema),
    ("UpdateVehicleRequest", updateVehicleRequestSchema),
    ("BulkEditRequest", bulkEditRequestSchema),
    ("VehicleListRequest", vehicleListRequestSchema),
    ("VehicleListResponse", vehicleListResponseSchema),
    ("Treatment", treatmentSchema),
    ("LoginRequest", loginRequestSchema),
    ("LoginResponse", loginResponseSchema),
    ("VerifyRequest", verifyRequestSchema),
    ("FieldOptionsRequest", fieldOptionsRequestSchema),
    ("FieldOption", fieldOptionSchema)]

/-- The document. -/
def document : Value :=
  object [
    ("openapi", .text "3.0.3"),
    ("info", object [
      ("title", .text "Fleet API"),
      ("version", .text "1.4.0"),
      ("description", .text "Vehicles, treatments and authentication for the fleet back office.")]),
    ("servers", .list [object [("url", .text "https://fleet.example.com/api")]]),
    ("paths", paths),
    ("components", object [
      ("parameters", object [
        ("Page", object [
          ("name", .text "page"),
          ("in", .text "query"),
          ("required", .bool false),
          ("schema", object [("type", .text "integer"), ("minimum", .int 1)])])]),
      ("requestBodies", object [
        ("LoginBody", object [
          ("required", .bool true),
          ("content", jsonContent (ref "LoginRequest"))])]),
      ("schemas", schemas)])]

end ApiCompiler.Document.Sample
