import CodeReading.Challenge.Hints
import CodeReading.Challenge.Options

set_option autoImplicit false

namespace CodeReading.Architecture

def factoryPrefixes : List String := ["create_", "make_", "build_", "new_", "from_"]

/-- Calls from the nodes of a chain to themselves or to nodes before them, in words. -/
def backCalls (g : CallGraph) (chain : Chain) (nodes : List Node) : List String :=
  nodes.zipIdx.flatMap fun (node, i) =>
    ((chain.ids.take (i + 1)).filter fun earlier => earlier ∈ node.calls).map fun earlier =>
      node.name ++ " calls " ++ g.nodeName earlier

def decoratedNodes (nodes : List Node) : List String :=
  (nodes.filter fun node => !node.decorators.isEmpty).map fun node =>
    node.name ++ " is decorated with @" ++ ", @".intercalate node.decorators

def facade (node : Node) : List String :=
  if 3 ≤ node.calls.size then
    [node.name ++ " calls " ++ node.calls.size.repr ++ " different functions"]
  else []

/-- Why a node looks like a factory: its name, or a return type that is a class of the graph. -/
def factoryEvidence? (g : CallGraph) (node : Node) : Option String :=
  match factoryPrefixes.find? fun start => start.toList.isPrefixOf node.name.toList with
  | some start => some (node.name ++ " is named like a constructor (" ++ start ++ "...)")
  | none =>
    match node.returnType with
    | some returns =>
      if g.nodes.any fun other => other.kind = .classDef && other.name == returns then
        some (node.name ++ " returns a new " ++ returns)
      else none
    | none => none

def generatorNodes (nodes : List Node) : List String :=
  (nodes.filter (·.isGenerator)).map fun node => node.name ++ " is a generator"

def coroutines (nodes : List Node) : List String :=
  if nodes.all (·.isAsync) then
    ["all " ++ nodes.length.repr ++ " functions on the path are async"]
  else []

def pipeline (nodes : List Node) : List String :=
  if 3 ≤ nodes.length then ["work flows through " ++ " -> ".intercalate (nodes.map (·.name))]
  else []

def delegation (nodes : List Node) : List String :=
  match nodes with
  | [first, second] => [first.name ++ " forwards to " ++ second.name]
  | _ => []

/-- Evidence for each pattern that can be detected, the strongest pattern first. -/
def evidence (g : CallGraph) (chain : Chain) (entry : Node) (nodes : List Node) :
    List (DesignPattern × List String) :=
  [(.recursion, backCalls g chain nodes),
    (.decorator, decoratedNodes nodes),
    (.facade, facade entry),
    (.factory, nodes.filterMap (factoryEvidence? g)),
    (.iterator, generatorNodes nodes),
    (.coroutineChain, coroutines nodes),
    (.pipeline, pipeline nodes),
    (.delegation, delegation nodes)]

def detected (g : CallGraph) (chain : Chain) (entry : Node) (nodes : List Node) :
    List (DesignPattern × List String) :=
  (evidence g chain entry nodes).filter fun found => !found.2.isEmpty

/-- Patterns that are not among those found, in an order that depends on the entry. -/
def absent (entry : NodeId) (found : List DesignPattern) : List DesignPattern :=
  Text.shuffle entry DesignPattern.label (DesignPattern.all.filter fun pattern => pattern ∉ found)

def generate (m : Material) (chain : Chain) : Except GapReason Challenge :=
  let nodes := m.nodes chain
  if chain.length < 2 ∨ nodes.length ≠ chain.length then .error .tooFewNodes
  else
    match nodes.head? with
    | none => .error .tooFewNodes
    | some entry =>
      let found := detected m.graph chain entry nodes
      match found with
      | [] => .error .noPattern
      | (pattern, evidence) :: _ =>
        let wrong := ((absent chain.entry (found.map (·.1))).take 3).map DesignPattern.label
        let seed := Text.fingerprint [chain.entry, "architecture"]
        let (options, answerKey) := Options.arrange pattern.label wrong seed
        let spec := {
          prompt := "Which design pattern best describes the path starting at `" ++ entry.name
            ++ "`?"
          chain := nodes.map (·.name)
          code := m.texts nodes
          options
          answerKey
          pattern
          evidence }
        let hint := "Evidence: " ++ "; ".intercalate evidence
        .ok (m.challenge chain (.architecture spec) (Hints.ladder entry [hint]))

end CodeReading.Architecture
