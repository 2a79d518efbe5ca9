import CodeReading.Graph.Draft
import CodeReading.Json.Decode
import CodeReading.Json.Parser
import CodeReading.Json.Printer

set_option autoImplicit false

namespace CodeReading

structure Document where
  nodes : List Node
  edges : List Edge := []
  entryPoints : List NodeId := []
  deriving DecidableEq, Repr

open Json

def IdSet.toJson (s : IdSet) : Json :=
  .strings s.ids

def optionalField (field : String) (value : Option String) : List (String × Json) :=
  (value.map fun text => (field, Json.text text)).toList

def Parameter.toJson (p : Parameter) : Json :=
  .record (("name", .text p.name) :: optionalField "type" p.typeHint
    ++ optionalField "default" p.defaultValue)

def Node.toJson (node : Node) : Json :=
  .record [
    ("id", .text node.id),
    ("name", .text node.name),
    ("kind", .text node.kind.name),
    ("file_path", .text node.filePath),
    ("line_start", .nat node.lineStart.toNat),
    ("line_end", .nat node.lineEnd.toNat),
    ("parameters", .arr (node.parameters.map Parameter.toJson)),
    ("return_type", .optional node.returnType),
    ("decorators", .strings node.decorators),
    ("calls", node.calls.toJson),
    ("called_by", node.calledBy.toJson),
    ("depends_on", node.dependsOn.toJson),
    ("docstring", .optional node.docstring),
    ("is_async", .bool node.isAsync),
    ("is_generator", .bool node.isGenerator),
    ("complexity", .nat node.complexity.toNat),
    ("loc", .nat node.loc.toNat)]

def Edge.toJson (edge : Edge) : Json :=
  .record [
    ("from_node", .text edge.caller),
    ("to_node", .text edge.callee),
    ("call_count", .nat edge.count.toNat)]

def Document.toJson (doc : Document) : Json :=
  .record [
    ("nodes", .arr (doc.nodes.map Node.toJson)),
    ("edges", .arr (doc.edges.map Edge.toJson)),
    ("entry_points", .strings doc.entryPoints)]

def IdSet.ofJson : Decoder IdSet :=
  fun value => (asList text? value).map IdSet.ofList

def Parameter.ofJson : Decoder Parameter := fun value => do
  let record ← asRecord ["name", "type", "default"] value
  pure {
    name := ← required text? "name" record
    typeHint := ← defaulted none (asOption text?) "type" record
    defaultValue := ← defaulted none (asOption text?) "default" record }

def nodeFields : List String :=
  ["id", "name", "kind", "file_path", "line_start", "line_end", "parameters", "return_type",
    "decorators", "calls", "called_by", "depends_on", "docstring", "is_async", "is_generator",
    "complexity", "loc"]

def Node.ofJson : Decoder Node := fun value => do
  let record ← asRecord nodeFields value
  pure {
    id := ← required text? "id" record
    name := ← required text? "name" record
    kind := ← required (asChoice NodeKind.all NodeKind.name) "kind" record
    filePath := ← defaulted "" text? "file_path" record
    lineStart := ← defaulted 0 asUInt64 "line_start" record
    lineEnd := ← defaulted 0 asUInt64 "line_end" record
    parameters := ← defaulted [] (asList Parameter.ofJson) "parameters" record
    returnType := ← defaulted none (asOption text?) "return_type" record
    decorators := ← defaulted [] (asList text?) "decorators" record
    calls := ← defaulted ∅ IdSet.ofJson "calls" record
    calledBy := ← defaulted ∅ IdSet.ofJson "called_by" record
    dependsOn := ← defaulted ∅ IdSet.ofJson "depends_on" record
    docstring := ← defaulted none (asOption text?) "docstring" record
    isAsync := ← defaulted false asBool "is_async" record
    isGenerator := ← defaulted false asBool "is_generator" record
    complexity := ← defaulted 1 asUInt32 "complexity" record
    loc := ← defaulted 0 asUInt32 "loc" record }

def Edge.ofJson : Decoder Edge := fun value => do
  let record ← asRecord ["from_node", "to_node", "call_count"] value
  pure {
    caller := ← required text? "from_node" record
    callee := ← required text? "to_node" record
    count := ← defaulted 1 asUInt32 "call_count" record }

namespace Document

def ofJson : Decoder Document := fun value => do
  let record ← asRecord ["nodes", "edges", "entry_points"] value
  pure {
    nodes := ← required (asList Node.ofJson) "nodes" record
    edges := ← defaulted [] (asList Edge.ofJson) "edges" record
    entryPoints := ← defaulted [] (asList text?) "entry_points" record }

def parse (text : String) : Option Document :=
  (Json.parse text).bind ofJson

def render (doc : Document) : String :=
  Json.compact doc.toJson

def toDraft (doc : Document) : Draft :=
  { nodes := doc.nodes, edges := doc.edges, entryPoints := doc.entryPoints }

def ofGraph (g : CallGraph) : Document :=
  { nodes := g.nodes, edges := g.edges, entryPoints := g.entryPoints.ids }

end Document
end CodeReading
