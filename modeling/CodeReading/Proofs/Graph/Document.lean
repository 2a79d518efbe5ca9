import CodeReading.Graph.Document
import CodeReading.Proofs.Json.Decode
import CodeReading.Proofs.Json.RoundTrip

set_option autoImplicit false

namespace CodeReading

open Json

theorem isWritable_of_mem_optionalField {field : String} {value : Option String}
    {member : String × Json} (mem : member ∈ optionalField field value) :
    member.2.IsWritable := by
  cases value with
  | none => cases mem
  | some s =>
    rw [List.mem_singleton.1 mem]
    exact isWritable_text s

@[simp] theorem Parameter.isWritable_toJson (p : Parameter) : p.toJson.IsWritable := by
  simp only [toJson, isWritable_record_iff, List.forall_mem_cons, List.forall_mem_append]
  exact ⟨⟨isWritable_text _, fun _ => isWritable_of_mem_optionalField⟩,
    fun _ => isWritable_of_mem_optionalField⟩

@[simp] theorem IdSet.isWritable_toJson (s : IdSet) : s.toJson.IsWritable :=
  isWritable_strings s.ids

@[simp] theorem Node.isWritable_toJson (node : Node) : node.toJson.IsWritable := by
  simp [toJson]

@[simp] theorem Edge.isWritable_toJson (edge : Edge) : edge.toJson.IsWritable := by
  simp [toJson]

@[simp] theorem Document.isWritable_toJson (doc : Document) : doc.toJson.IsWritable := by
  simp [toJson]

theorem NodeKind.asChoice_name (kind : NodeKind) :
    asChoice NodeKind.all NodeKind.name (.text kind.name) = some kind := by
  cases kind <;> rfl

theorem IdSet.ofJson_toJson (s : IdSet) : IdSet.ofJson s.toJson = some s := by
  rw [IdSet.ofJson, IdSet.toJson, asList_strings, Option.map_some, s.ofList_ids]

theorem Parameter.ofJson_toJson (p : Parameter) : Parameter.ofJson p.toJson = some p := by
  obtain ⟨name, typeHint, defaultValue⟩ := p
  -- an absent field is left out, so the record has one to three members
  cases typeHint <;> cases defaultValue <;>
    simp [Parameter.ofJson, Parameter.toJson, optionalField, asRecord_record, required_self,
      defaulted_self, defaulted_of_ne, defaulted_nil, text?_text, asOption_text]

theorem nodeFields_nodup : nodeFields.Nodup := by
  decide

theorem Node.ofJson_toJson (node : Node) : Node.ofJson node.toJson = some node := by
  rw [Node.ofJson, Node.toJson, asRecord_full nodeFields_nodup (by rfl)]
  dsimp only [Option.bind_eq_bind, Option.bind_some]
  simp only [required_self, required_of_ne, defaulted_self, defaulted_of_ne, ne_eq,
    String.reduceEq, not_false_eq_true, text?_text, asBool, asOption_optional, asUInt32_nat,
    asUInt64_nat, asList_strings, asList_map Parameter.ofJson_toJson, NodeKind.asChoice_name,
    IdSet.ofJson_toJson, Option.bind_some, Option.pure_def]

theorem Edge.ofJson_toJson (edge : Edge) : Edge.ofJson edge.toJson = some edge := by
  rw [Edge.ofJson, Edge.toJson, asRecord_full (by decide) (by rfl)]
  simp only [required_self, required_of_ne, defaulted_self, defaulted_of_ne, ne_eq,
    String.reduceEq, not_false_eq_true, text?_text, asUInt32_nat, Option.bind_eq_bind,
    Option.bind_some, Option.pure_def]

namespace Document

theorem ofJson_toJson (doc : Document) : Document.ofJson doc.toJson = some doc := by
  rw [Document.ofJson, Document.toJson, asRecord_full (by decide) (by rfl)]
  simp only [required_self, defaulted_self, defaulted_of_ne, ne_eq, String.reduceEq,
    not_false_eq_true, asList_strings, asList_map Node.ofJson_toJson,
    asList_map Edge.ofJson_toJson, Option.bind_eq_bind, Option.bind_some, Option.pure_def]

theorem json_render (doc : Document) : Json.parse doc.render = some doc.toJson :=
  parse_compact doc.isWritable_toJson

theorem parse_render (doc : Document) : Document.parse doc.render = some doc := by
  rw [Document.parse, doc.json_render, Option.bind_some, doc.ofJson_toJson]

end Document

def nodeItems? (value : Json) : Option (List Json) :=
  (asRecord ["nodes", "edges", "entry_points"] value).bind (required items? "nodes")

def listed? (field : String) (item : Json) : Option (List NodeId) :=
  (asRecord nodeFields item).bind (defaulted [] (asList text?) field)

/-- Whether a node is written with all its fields, and each of its sets in order and without
    repetitions, where an item says the same in its own way. -/
structure NormalizesTo (item written : Json) : Prop where
  full : ∃ members, written = .record members ∧ members.map (·.1) = nodeFields
  sets : ∀ field ∈ ["calls", "called_by", "depends_on"], ∃ listed ids,
    listed? field item = some listed ∧ listed? field written = some ids ∧
      ids.Pairwise (· < ·) ∧ ∀ id, id ∈ ids ↔ id ∈ listed

def Node.sets (node : Node) : List (String × IdSet) :=
  [("calls", node.calls), ("called_by", node.calledBy), ("depends_on", node.dependsOn)]

theorem Node.listed?_toJson (node : Node) :
    ∀ set ∈ node.sets, listed? set.1 node.toJson = some set.2.ids := by
  unfold listed? Node.toJson
  rw [asRecord_full nodeFields_nodup (by rfl)]
  simp only [Node.sets, List.forall_mem_cons, Option.bind_some, defaulted_self, defaulted_of_ne,
    ne_eq, String.reduceEq, not_false_eq_true, IdSet.toJson, asList_strings, true_and,
    List.not_mem_nil, false_implies, implies_true]

theorem Node.defaulted_of_ofJson {item : Json} {node : Node} (h : Node.ofJson item = some node) :
    ∃ record, asRecord nodeFields item = some record ∧
      ∀ set ∈ node.sets, defaulted ∅ IdSet.ofJson set.1 record = some set.2 := by
  obtain ⟨record, known, h⟩ := Option.bind_eq_some_iff.1 h
  -- nine fields come before the sets
  iterate 9 obtain ⟨_, -, h⟩ := Option.bind_eq_some_iff.1 h
  obtain ⟨calls, callsEq, h⟩ := Option.bind_eq_some_iff.1 h
  obtain ⟨calledBy, calledByEq, h⟩ := Option.bind_eq_some_iff.1 h
  obtain ⟨dependsOn, dependsOnEq, h⟩ := Option.bind_eq_some_iff.1 h
  iterate 5 obtain ⟨_, -, h⟩ := Option.bind_eq_some_iff.1 h
  cases h
  refine ⟨record, known, ?_⟩
  simp only [Node.sets, List.forall_mem_cons, callsEq, calledByEq, dependsOnEq, true_and,
    List.not_mem_nil, false_implies, implies_true]

theorem IdSet.listed_of_defaulted {field : String} {record : List (String × Json)} {s : IdSet}
    (h : defaulted ∅ IdSet.ofJson field record = some s) :
    ∃ listed, defaulted [] (asList text?) field record = some listed ∧
      ∀ id, id ∈ s.ids ↔ id ∈ listed := by
  unfold defaulted at h ⊢
  split at h
  · obtain ⟨listed, ok, rfl⟩ := Option.map_eq_some_iff.1 h
    exact ⟨listed, ok, fun _ => IdSet.mem_ofList⟩
  · cases h
    exact ⟨[], rfl, fun _ => Iff.rfl⟩

theorem Node.normalizesTo_toJson {item : Json} {node : Node} (h : Node.ofJson item = some node) :
    NormalizesTo item node.toJson := by
  obtain ⟨record, known, decoded⟩ := Node.defaulted_of_ofJson h
  refine ⟨⟨_, rfl, rfl⟩, fun field mem => ?_⟩
  obtain ⟨set, inSets, rfl⟩ : ∃ set ∈ node.sets, set.1 = field :=
    List.mem_map.1 (show field ∈ node.sets.map (·.1) from mem)
  obtain ⟨listed, ok, members⟩ := IdSet.listed_of_defaulted (decoded set inSets)
  refine ⟨listed, set.2.ids, ?_, node.listed?_toJson set inSets, set.2.sorted, members⟩
  rw [listed?, known]
  exact ok

namespace Document

theorem nodeItems?_toJson (doc : Document) :
    nodeItems? doc.toJson = some (doc.nodes.map Node.toJson) := by
  rw [nodeItems?, Document.toJson, asRecord_full (by decide) (by rfl), Option.bind_some,
    required_self]
  rfl

theorem nodeItems?_of_ofJson {value : Json} {doc : Document}
    (h : Document.ofJson value = some doc) : ∃ items, nodeItems? value = some items ∧
      List.Forall₂ (fun item node => Node.ofJson item = some node) items doc.nodes := by
  obtain ⟨record, known, h⟩ := Option.bind_eq_some_iff.1 h
  obtain ⟨nodes, nodesEq, h⟩ := Option.bind_eq_some_iff.1 h
  iterate 2 obtain ⟨_, -, h⟩ := Option.bind_eq_some_iff.1 h
  cases h
  obtain ⟨field, found, decoded⟩ := Option.bind_eq_some_iff.1 nodesEq
  cases field with
  | arr items =>
    refine ⟨items, ?_, forall₂_of_asList decoded⟩
    rw [nodeItems?, known, Option.bind_some, required, found]
    rfl
  | _ => cases decoded

/-- Every document is read back from its text. So is what was read from any other text, and then
    each node is written in normal form: with all fields, and the identifiers that its calls, its
    callers and its dependencies list in order and once each. -/
theorem round_trips :
    (∀ doc : Document, Document.parse doc.render = some doc) ∧
      ∀ text doc, Document.parse text = some doc →
        Document.parse doc.render = some doc ∧
        ∃ read items written nodes,
          Json.parse text = some read ∧ nodeItems? read = some items ∧
          Json.parse doc.render = some written ∧ nodeItems? written = some nodes ∧
          List.Forall₂ NormalizesTo items nodes := by
  refine ⟨parse_render, fun text doc h => ⟨doc.parse_render, ?_⟩⟩
  obtain ⟨read, parsed, decoded⟩ := Option.bind_eq_some_iff.1 h
  obtain ⟨items, listed, nodes⟩ := nodeItems?_of_ofJson decoded
  refine ⟨read, items, doc.toJson, doc.nodes.map Node.toJson, parsed, listed, doc.json_render,
    doc.nodeItems?_toJson, ?_⟩
  rw [List.forall₂_map_right_iff]
  exact nodes.imp fun _ _ => Node.normalizesTo_toJson

/-- A function whose callees come out of order and twice, with an escape in its name, a field that
    is null and a field that no node has. -/
def untidyText : String :=
  "\x7b\"nodes\": [\x7b\"id\":\"f\",\"kind\":\"function\",\"name\":\"caf\\u00e9\","
    ++ "\"calls\":[\"h\",\"g\",\"h\"],\"docstring\":null,\"color\":1.5\x7d]\x7d"

def untidyDocument : Document where
  nodes := [{ id := "f", name := "café", kind := .function, calls := IdSet.ofList ["g", "h"] }]

theorem round_trips_untidy :
    Document.parse untidyText = some untidyDocument ∧
      Document.parse untidyDocument.render = some untidyDocument ∧
      ∃ items nodes, List.Forall₂ NormalizesTo items nodes ∧
        items.map (listed? "calls") = [some ["h", "g", "h"]] ∧
        nodes.map (listed? "calls") = [some ["g", "h"]] := by
  have parsed : Document.parse untidyText = some untidyDocument := by decide +kernel
  obtain ⟨back, read, items, written, nodes, readEq, itemsEq, writtenEq, nodesEq, normal⟩ :=
    round_trips.2 untidyText untidyDocument parsed
  have told : ((Json.parse untidyText).bind nodeItems?).map (·.map (listed? "calls"))
      = some [some ["h", "g", "h"]] := by decide +kernel
  have retold : (untidyDocument.nodes.map Node.toJson).map (listed? "calls")
      = [some ["g", "h"]] := by decide +kernel
  rw [readEq, Option.bind_some, itemsEq, Option.map_some, Option.some.injEq] at told
  rw [untidyDocument.json_render, Option.some.injEq] at writtenEq
  rw [← writtenEq, untidyDocument.nodeItems?_toJson, Option.some.injEq] at nodesEq
  exact ⟨parsed, back, items, nodes, normal, told, nodesEq ▸ retold⟩

end Document

end CodeReading
