import ClusterGraph.Json.Basic

/-!
# Shapes of Kubernetes objects

The declared types of the objects that are read field by field: object metadata, custom resource
definitions, and the lists of resource types that an API server gives, as of Kubernetes 1.29. A
record lists its fields in the order in which they are written.
-/
namespace ClusterGraph

inductive RecordType where
  | objectMeta
  | ownerReference
  | managedFields
  | definition
  | definitionSpec
  | definitionNames
  | definitionVersion
  | definitionStatus
  | definitionCondition
  | conversion
  | webhookConversion
  | webhookClientConfig
  | serviceReference
  | printerColumn
  | validation
  | schemaProps
  | externalDocs
  | validationRule
  | subresources
  | scale
  | listMeta
  | resourceType
  | resourceTypeList
  deriving DecidableEq, Repr

/-- The type of a value. -/
inductive Shape where
  | any
  | text
  | boolean
  | int32
  | int64
  | double
  | time
  | bytes
  /-- One text and no other. -/
  | exactly (text : String)
  | list (item : Shape)
  | map (item : Shape)
  | record (type : RecordType)
  | schemaOrBool
  | schemaOrList
  | schemaOrTexts
  deriving DecidableEq, Repr

/-- A field of a record. A required field that is absent holds the empty text. -/
structure RecordField where
  name : String
  shape : Shape
  required : Bool
  deriving DecidableEq, Repr

namespace RecordType

def title : RecordType → String
  | objectMeta => "ObjectMeta"
  | ownerReference => "OwnerReference"
  | managedFields => "ManagedFieldsEntry"
  | definition => "CustomResourceDefinition"
  | definitionSpec => "CustomResourceDefinitionSpec"
  | definitionNames => "CustomResourceDefinitionNames"
  | definitionVersion => "CustomResourceDefinitionVersion"
  | definitionStatus => "CustomResourceDefinitionStatus"
  | definitionCondition => "CustomResourceDefinitionCondition"
  | conversion => "CustomResourceConversion"
  | webhookConversion => "WebhookConversion"
  | webhookClientConfig => "WebhookClientConfig"
  | serviceReference => "ServiceReference"
  | printerColumn => "CustomResourceColumnDefinition"
  | validation => "CustomResourceValidation"
  | schemaProps => "JSONSchemaProps"
  | externalDocs => "ExternalDocumentation"
  | validationRule => "ValidationRule"
  | subresources => "CustomResourceSubresources"
  | scale => "CustomResourceSubresourceScale"
  | listMeta => "ListMeta"
  | resourceType => "APIResource"
  | resourceTypeList => "APIResourceList"

private def opt (name : String) (shape : Shape) : RecordField := ⟨name, shape, false⟩

private def req (name : String) : RecordField := ⟨name, .text, true⟩

def fields : RecordType → List RecordField
  | objectMeta =>
    [opt "annotations" (.map .text), opt "creationTimestamp" .time,
     opt "deletionGracePeriodSeconds" .int64, opt "deletionTimestamp" .time,
     opt "finalizers" (.list .text), opt "generateName" .text, opt "generation" .int64,
     opt "labels" (.map .text), opt "managedFields" (.list (.record managedFields)),
     opt "name" .text, opt "namespace" .text,
     opt "ownerReferences" (.list (.record ownerReference)), opt "resourceVersion" .text,
     opt "selfLink" .text, opt "uid" .text]
  | ownerReference =>
    [req "apiVersion", opt "blockOwnerDeletion" .boolean, opt "controller" .boolean, req "kind",
     req "name", req "uid"]
  | managedFields =>
    [opt "apiVersion" .text, opt "fieldsType" .text, opt "fieldsV1" .any, opt "manager" .text,
     opt "operation" .text, opt "subresource" .text, opt "time" .time]
  | definition =>
    [opt "apiVersion" (.exactly "apiextensions.k8s.io/v1"),
     opt "kind" (.exactly "CustomResourceDefinition"), opt "metadata" (.record objectMeta),
     opt "spec" (.record definitionSpec), opt "status" (.record definitionStatus)]
  | definitionSpec =>
    [opt "conversion" (.record conversion), req "group", opt "names" (.record definitionNames),
     opt "preserveUnknownFields" .boolean, req "scope",
     opt "versions" (.list (.record definitionVersion))]
  | definitionNames =>
    [opt "categories" (.list .text), req "kind", opt "listKind" .text, req "plural",
     opt "shortNames" (.list .text), opt "singular" .text]
  | definitionVersion =>
    [opt "additionalPrinterColumns" (.list (.record printerColumn)), opt "deprecated" .boolean,
     opt "deprecationWarning" .text, req "name", opt "schema" (.record validation),
     opt "served" .boolean, opt "storage" .boolean, opt "subresources" (.record subresources)]
  | definitionStatus =>
    [opt "acceptedNames" (.record definitionNames),
     opt "conditions" (.list (.record definitionCondition)), opt "storedVersions" (.list .text)]
  | definitionCondition =>
    [opt "lastTransitionTime" .time, opt "message" .text, opt "reason" .text, req "status",
     req "type"]
  | conversion => [req "strategy", opt "webhook" (.record webhookConversion)]
  | webhookConversion =>
    [opt "clientConfig" (.record webhookClientConfig),
     opt "conversionReviewVersions" (.list .text)]
  | webhookClientConfig =>
    [opt "caBundle" .bytes, opt "service" (.record serviceReference), opt "url" .text]
  | serviceReference => [req "name", req "namespace", opt "path" .text, opt "port" .int32]
  | printerColumn =>
    [opt "description" .text, opt "format" .text, req "jsonPath", req "name",
     opt "priority" .int32, req "type"]
  | validation => [opt "openAPIV3Schema" (.record schemaProps)]
  | schemaProps =>
    [opt "$ref" .text, opt "$schema" .text, opt "additionalItems" .schemaOrBool,
     opt "additionalProperties" .schemaOrBool, opt "allOf" (.list (.record schemaProps)),
     opt "anyOf" (.list (.record schemaProps)), opt "default" .any,
     opt "definitions" (.map (.record schemaProps)), opt "dependencies" (.map .schemaOrTexts),
     opt "description" .text, opt "enum" (.list .any), opt "example" .any,
     opt "exclusiveMaximum" .boolean, opt "exclusiveMinimum" .boolean,
     opt "externalDocs" (.record externalDocs), opt "format" .text, opt "id" .text,
     opt "items" .schemaOrList, opt "maxItems" .int64, opt "maxLength" .int64,
     opt "maxProperties" .int64, opt "maximum" .double, opt "minItems" .int64,
     opt "minLength" .int64, opt "minProperties" .int64, opt "minimum" .double,
     opt "multipleOf" .double, opt "not" (.record schemaProps), opt "nullable" .boolean,
     opt "oneOf" (.list (.record schemaProps)), opt "pattern" .text,
     opt "patternProperties" (.map (.record schemaProps)),
     opt "properties" (.map (.record schemaProps)), opt "required" (.list .text),
     opt "title" .text, opt "type" .text, opt "uniqueItems" .boolean,
     opt "x-kubernetes-embedded-resource" .boolean, opt "x-kubernetes-int-or-string" .boolean,
     opt "x-kubernetes-list-map-keys" (.list .text), opt "x-kubernetes-list-type" .text,
     opt "x-kubernetes-map-type" .text, opt "x-kubernetes-preserve-unknown-fields" .boolean,
     opt "x-kubernetes-validations" (.list (.record validationRule))]
  | externalDocs => [opt "description" .text, opt "url" .text]
  | validationRule =>
    [opt "fieldPath" .text, opt "message" .text, opt "messageExpression" .text,
     opt "reason" .text, req "rule"]
  | subresources => [opt "scale" (.record scale), opt "status" .any]
  | scale => [opt "labelSelectorPath" .text, req "specReplicasPath", req "statusReplicasPath"]
  | listMeta =>
    [opt "continue" .text, opt "remainingItemCount" .int64, opt "resourceVersion" .text,
     opt "selfLink" .text]
  | resourceType =>
    [opt "categories" (.list .text), opt "group" .text, req "kind", req "name",
     opt "namespaced" .boolean, opt "shortNames" (.list .text), req "singularName",
     opt "storageVersionHash" .text, opt "verbs" (.list .text), opt "version" .text]
  | resourceTypeList =>
    [opt "apiVersion" (.exactly "v1"), req "groupVersion", opt "kind" (.exactly "APIResourceList"),
     opt "resources" (.list (.record resourceType))]

end RecordType
end ClusterGraph
