import CodeReading.Challenge.Basic
import CodeReading.Challenge.Hints

set_option autoImplicit false

namespace CodeReading.CodeTracing

def steps (nodes : List Node) : List TraceStep :=
  nodes.zipIdx.map fun (node, i) =>
    { step := i + 1
      function := if i = 0 ∧ 1 < nodes.length then some node.name else none
      location := node.lineRange }

def generate (m : Material) (chain : Chain) : Except GapReason Challenge :=
  let nodes := m.nodes chain
  if nodes.length ≠ chain.length then .error .unknownNodes
  else
    match nodes.head?, nodes.getLast? with
    | some entry, some last =>
      let ending := "The path has " ++ nodes.length.repr ++ " steps and ends in " ++ last.name
      let handOff := (chain.second?.map (Hints.handOff m.graph entry)).toList
      let spec := {
        prompt := "Trace the execution starting at `" ++ entry.name
          ++ "`: which function runs at each step?"
        code := m.texts nodes
        steps := steps nodes
        sequence := nodes.map (·.name) }
      .ok (m.challenge chain (.codeTracing spec) (Hints.ladder entry (ending :: handOff)))
    | _, _ => .error .unknownNodes

end CodeReading.CodeTracing
