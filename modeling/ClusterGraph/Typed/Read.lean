import ClusterGraph.Json.Fault
import ClusterGraph.Time.Rfc3339
import ClusterGraph.Typed.Base64
import ClusterGraph.Typed.Shape

/-!
# Reading values by their shape

Reads a value as a shape demands and gives it back in the written order of the shape: unknown
fields are dropped, null counts as an absent field, maps are sorted by key, times are written in
whole seconds of universal time. Fields are read in the order of the document and the first one
that does not fit decides the refusal.
-/
namespace ClusterGraph

/-- A value stands where something else was expected. -/
def Json.unexpected (v : Json) (expected : String) : String :=
  "invalid type: " ++ v.shown ++ ", expected " ++ expected

/-- A value of the right type is out of range or otherwise not the expected one. -/
def Json.unacceptable (v : Json) (expected : String) : String :=
  "invalid value: " ++ v.shown ++ ", expected " ++ expected

namespace Shape

private def readInteger (lo hi : Int) (title : String) (v : Json) : Except String Json :=
  match v with
  | .number (.integer n) =>
    if lo ≤ n && n ≤ hi then .ok v else .error (v.unacceptable title)
  | _ => .error (v.unexpected title)

private def readTime (v : Json) : Except String Json :=
  match v with
  | .string s =>
    match Time.Instant.parseLenient s with
    | .ok t => .ok (.string t.secondsText)
    | .error e => .error e.message
  | _ => .error (v.unexpected "an RFC 3339 formatted date and time string")

private def readLeaf (v : Json) : Shape → Except String Json
  | any => .ok v
  | text => if v.isString then .ok v else .error (v.unexpected "a string")
  | boolean =>
    match v with
    | .bool _ => .ok v
    | _ => .error (v.unexpected "a boolean")
  | int32 => readInteger (-(Nat.pow 2 31)) (Nat.pow 2 31 - 1) "i32" v
  | int64 => readInteger (-(Nat.pow 2 63)) (Nat.pow 2 63 - 1) "i64" v
  | double =>
    match v with
    | .number _ => .ok v
    | _ => .error (v.unexpected "f64")
  | time => readTime v
  | bytes =>
    match v with
    | .string s =>
      match Base64.refusal? s with
      | none => .ok v
      | some r => .error r.message
    | _ => .error (v.unexpected "base64-encoded string")
  | exactly wanted =>
    match v with
    | .string s => if s = wanted then .ok v else .error (v.unacceptable wanted)
    | _ => .error (v.unexpected "a string")
  | list _ => .error (v.unexpected "a sequence")
  | map _ => .error (v.unexpected "a map")
  | record type => .error (v.unexpected type.title)
  | schemaOrBool =>
    match v with
    | .bool _ => .ok v
    | _ => .error (v.unexpected "enum JSONSchemaPropsOrBool")
  | schemaOrList => .error (v.unexpected "enum JSONSchemaPropsOrArray")
  | schemaOrTexts => .error (v.unexpected "enum JSONSchemaPropsOrStringArray")

private def itemShape? : Shape → Option Shape
  | list item => some item
  | schemaOrList => some (record .schemaProps)
  | schemaOrTexts => some text
  | _ => none

private def recordType? : Shape → Option RecordType
  | record type => some type
  | schemaOrBool | schemaOrList | schemaOrTexts => some .schemaProps
  | _ => none

/-- The fields of a record in their written order, from the values read under each name. -/
private def arrange (fields : List RecordField) (found : Entries Json) : Entries Json :=
  fields.filterMap fun f =>
    match found.get? f.name with
    | some v => some (f.name, v)
    | none => if f.required then some (f.name, .string "") else none

mutual

def read (shape : Shape) : Json → Except String Json
  | .array items =>
    match shape with
    | any => .ok (.array items)
    | _ =>
      match itemShape? shape with
      | some item => (readItems item items).map .array
      | none => readLeaf (.array items) shape
  | .object entries =>
    match shape with
    | any => .ok (.object entries)
    | map item =>
      (readMap item entries).map fun es => .object (es.mergeSort fun a b => a.1 ≤ b.1)
    | _ =>
      match recordType? shape with
      | some type => (readFields type.fields entries).map fun es => .object (arrange type.fields es)
      | none => readLeaf (.object entries) shape
  | v => readLeaf v shape

def readItems (item : Shape) : List Json → Except String (List Json)
  | [] => .ok []
  | v :: rest => do
    let v' ← read item v
    let rest' ← readItems item rest
    return v' :: rest'

def readMap (item : Shape) : List (String × Json) → Except String (List (String × Json))
  | [] => .ok []
  | (k, v) :: rest => do
    let v' ← read item v
    let rest' ← readMap item rest
    return (k, v') :: rest'

def readFields (fields : List RecordField) :
    List (String × Json) → Except String (List (String × Json))
  | [] => .ok []
  | (k, v) :: rest =>
    match v, fields.find? fun f => f.name = k with
    | .null, some _ => readFields fields rest
    | _, none => readFields fields rest
    | _, some f => do
      let v' ← read f.shape v
      let rest' ← readFields fields rest
      return (k, v') :: rest'

end
end Shape
end ClusterGraph
