import CodeReading.Graph.IdSet

set_option autoImplicit false

namespace CodeReading

structure Chain where
  ids : List NodeId
  nonempty : ids ≠ []
  distinct : ids.Nodup
  deriving DecidableEq, Repr

namespace Chain

def ofList? (ids : List NodeId) : Option Chain :=
  if nonempty : ids ≠ [] then
    if distinct : ids.Nodup then some ⟨ids, nonempty, distinct⟩ else none
  else none

def entry (chain : Chain) : NodeId :=
  chain.ids.head chain.nonempty

def last (chain : Chain) : NodeId :=
  chain.ids.getLast chain.nonempty

def second? (chain : Chain) : Option NodeId :=
  chain.ids[1]?

def length (chain : Chain) : Nat :=
  chain.ids.length

def contains (chain : Chain) (id : NodeId) : Bool :=
  id ∈ chain.ids

theorem ofList?_ids (chain : Chain) : ofList? chain.ids = some chain := by
  simp [ofList?, chain.nonempty, chain.distinct]

theorem ofList?_eq_some_iff {ids : List NodeId} {chain : Chain} :
    ofList? ids = some chain ↔ chain.ids = ids := by
  constructor
  · unfold ofList?
    intro h
    split at h
    · split at h
      · cases h; rfl
      · simp at h
    · simp at h
  · rintro rfl
    exact ofList?_ids chain

end Chain
end CodeReading
