import ModelServing.Shape

/-!
# Shapes of resource definitions

`Shape.schemaFields` are the fields of a schema, which hold schemas again; `Shape.definition` is a resource definition.
-/

namespace ModelServing.Shape

/-- The fields of a schema. -/
def schemaFields : List (String × Shape) :=
  each text ["$ref", "$schema", "description", "format", "id", "pattern", "title", "type", "x-kubernetes-list-type",
    "x-kubernetes-map-type"] ++
  each flag ["exclusiveMaximum", "exclusiveMinimum", "nullable", "uniqueItems", "x-kubernetes-embedded-resource",
    "x-kubernetes-int-or-string", "x-kubernetes-preserve-unknown-fields"] ++
  each int64 ["maxItems", "maxLength", "maxProperties", "minItems", "minLength", "minProperties"] ++
  each number ["maximum", "minimum", "multipleOf"] ++
  each (list text) ["required", "x-kubernetes-list-map-keys"] ++
  each data ["default", "example"] ++
  each (selfOr flag) ["additionalItems", "additionalProperties"] ++
  each (list self) ["allOf", "anyOf", "oneOf"] ++
  each (map self) ["definitions", "patternProperties", "properties"] ++ [
  ("dependencies", map (selfOr (list text))),
  ("enum", list data),
  ("externalDocs", record (each text ["description", "url"])),
  ("items", selfOr (list self)),
  ("not", self),
  ("x-kubernetes-validations", list (record (("optionalOldSelf", flag) ::
    each text ["fieldPath", "message", "messageExpression", "reason", "rule"])))]

/-- How a client is asked to convert between versions. -/
def conversion : Shape :=
  record [
    ("strategy", text),
    ("webhook", record [
      ("clientConfig", record [
        ("caBundle", bytes),
        ("service", record (("port", int32) :: each text ["name", "namespace", "path"])),
        ("url", text)]),
      ("conversionReviewVersions", list text)])]

/-- The names of a type. -/
def typeNames : Shape :=
  record (each text ["kind", "listKind", "plural", "singular"] ++ each (list text) ["categories", "shortNames"])

/-- A version of a type. -/
def typeVersion : Shape :=
  record (each text ["deprecationWarning", "name"] ++ each flag ["deprecated", "served", "storage"] ++ [
    ("additionalPrinterColumns",
      list (record (("priority", int32) :: each text ["description", "format", "jsonPath", "name", "type"]))),
    ("schema", record [("openAPIV3Schema", self)]),
    ("selectableFields", list (record [("jsonPath", text)])),
    ("subresources", record [
      ("scale", record (each text ["labelSelectorPath", "specReplicasPath", "statusReplicasPath"])),
      ("status", data)])])

/-- A resource definition; its schemas describe themselves. -/
def definition : Shape :=
  record [
    ("metadata", metadata),
    ("spec", record [
      ("conversion", conversion),
      ("group", text),
      ("names", typeNames),
      ("preserveUnknownFields", flag),
      ("scope", text),
      ("versions", list typeVersion)]),
    ("status", record [
      ("acceptedNames", typeNames),
      ("conditions",
        list (record (("lastTransitionTime", instant) :: each text ["message", "reason", "status", "type"]))),
      ("storedVersions", list text)])]

end ModelServing.Shape
