import CodeReading.Graph.Dot
import CodeReading.Proofs.Graph.Coherence
import CodeReading.Proofs.Text.Lowercase

set_option autoImplicit false

namespace CodeReading.Dot

variable {a b : String} {rest rest' : List Char} {entries entries' : IdSet} {node node' : Node}
  {edge edge' : Edge}

theorem escapeChar_append_inj {c d : Char} (h : escapeChar c ++ rest = escapeChar d ++ rest') :
    c = d ∧ rest = rest' := by
  unfold escapeChar at h
  split_ifs at h with escaped escaped' escaped'
  · simpa using h
  · -- A character that is not escaped is no backslash.
    obtain ⟨rfl, -⟩ := List.cons.inj h
    exact absurd (Or.inl rfl) escaped'
  · obtain ⟨rfl, -⟩ := List.cons.inj h
    exact absurd (Or.inl rfl) escaped
  · exact List.cons.inj h

theorem escapeChar_append_ne (c : Char) : escapeChar c ++ rest ≠ '"' :: rest' := by
  unfold escapeChar
  intro h
  split_ifs at h with escaped
  · cases h
  · obtain ⟨rfl, -⟩ := List.cons.inj h
    exact escaped (Or.inr rfl)

theorem escaped_append_inj {text text' : List Char}
    (h : text.flatMap escapeChar ++ '"' :: rest = text'.flatMap escapeChar ++ '"' :: rest') :
    text = text' ∧ rest = rest' := by
  induction text generalizing text' with
  | nil =>
    cases text' with
    | nil => exact ⟨rfl, (List.cons.inj h).2⟩
    | cons d text' =>
      rw [List.flatMap_cons, List.append_assoc] at h
      exact absurd h.symm (escapeChar_append_ne d)
  | cons c text ih =>
    cases text' with
    | nil =>
      rw [List.flatMap_cons, List.append_assoc] at h
      exact absurd h (escapeChar_append_ne c)
    | cons d text' =>
      rw [List.flatMap_cons, List.append_assoc, List.flatMap_cons, List.append_assoc] at h
      obtain ⟨first, later⟩ := escapeChar_append_inj h
      obtain ⟨others, same⟩ := ih later
      exact ⟨by rw [first, others], same⟩

theorem toList_quote_append (text : String) (rest : List Char) :
    (quote text).toList ++ rest = '"' :: (text.toList.flatMap escapeChar ++ '"' :: rest) := by
  simp [quote]

theorem quote_append_inj (h : (quote a).toList ++ rest = (quote b).toList ++ rest') :
    a = b ∧ rest = rest' := by
  rw [toList_quote_append, toList_quote_append] at h
  obtain ⟨same, rests⟩ := escaped_append_inj (List.cons.inj h).2
  exact ⟨String.toList_inj.1 same, rests⟩

/-- What a drawing shows of a node: its id, its name, and whether it is an entry point. -/
def shown (entries : IdSet) (node : Node) : NodeId × String × Bool :=
  (node.id, node.name, decide (node.id ∈ entries))

theorem shown_eq_iff : shown entries node = shown entries' node' ↔
    node.id = node'.id ∧ node.name = node'.name ∧ (node.id ∈ entries ↔ node'.id ∈ entries') := by
  simp only [shown, Prod.mk.injEq, decide_eq_decide]

theorem nodeLine_append_inj
    (h : (nodeLine entries node).toList ++ rest = (nodeLine entries' node').toList ++ rest') :
    shown entries node = shown entries' node' ∧ rest = rest' := by
  simp only [nodeLine, String.toList_append, List.append_assoc] at h
  obtain ⟨id, h⟩ := quote_append_inj (List.append_cancel_left h)
  obtain ⟨name, h⟩ := quote_append_inj (List.append_cancel_left h)
  rw [shown_eq_iff]
  by_cases entry : node.id ∈ entries
  · by_cases entry' : node'.id ∈ entries'
    · rw [if_pos entry, if_pos entry'] at h
      exact ⟨⟨id, name, iff_of_true entry entry'⟩,
        List.append_cancel_left (List.append_cancel_left h)⟩
    · rw [if_pos entry, if_neg entry'] at h
      cases h
  · by_cases entry' : node'.id ∈ entries'
    · rw [if_neg entry, if_pos entry'] at h
      cases h
    · rw [if_neg entry, if_neg entry'] at h
      exact ⟨⟨id, name, iff_of_false entry entry'⟩,
        List.append_cancel_left (List.append_cancel_left h)⟩

theorem nodeLine_congr (h : shown entries node = shown entries' node') :
    nodeLine entries node = nodeLine entries' node' := by
  obtain ⟨id, name, entry⟩ := shown_eq_iff.1 h
  have marked : node'.id ∈ entries ↔ node'.id ∈ entries' := id ▸ entry
  unfold nodeLine
  rw [id, name]
  simp only [marked]

theorem eq_one_of_not_lt {count : UInt32} (nonzero : count ≠ 0) (small : ¬1 < count) :
    count = 1 := by
  rw [UInt32.lt_iff_toNat_lt] at small
  have positive : count.toNat ≠ 0 := fun zero => nonzero (UInt32.toNat_inj.1 zero)
  have one : (1 : UInt32).toNat = 1 := rfl
  exact UInt32.toNat_inj.1 (by omega)

theorem edgeLine_append_inj (counted : edge.count ≠ 0) (counted' : edge'.count ≠ 0)
    (h : (edgeLine edge).toList ++ rest = (edgeLine edge').toList ++ rest') :
    edge = edge' ∧ rest = rest' := by
  obtain ⟨caller, callee, count⟩ := edge
  obtain ⟨caller', callee', count'⟩ := edge'
  simp only [edgeLine, String.toList_append, List.append_assoc] at h
  obtain ⟨sameCaller, h⟩ := quote_append_inj (List.append_cancel_left h)
  obtain ⟨sameCallee, h⟩ := quote_append_inj (List.append_cancel_left h)
  have same : count = count' → Edge.mk caller callee count = ⟨caller', callee', count'⟩ := by
    intro sameCount
    exact Edge.mk.injEq .. ▸ ⟨sameCaller, sameCallee, sameCount⟩
  by_cases many : 1 < count
  · by_cases many' : 1 < count'
    · rw [if_pos many, if_pos many'] at h
      simp only [String.toList_append, List.append_assoc] at h
      obtain ⟨digits, h⟩ := quote_append_inj (List.append_cancel_left h)
      rw [← String.toList_inj, Nat.toList_repr, Nat.toList_repr] at digits
      exact ⟨same (UInt32.toNat_inj.1 (Text.toDigits_inj digits)),
        List.append_cancel_left (List.append_cancel_left h)⟩
    · rw [if_pos many, if_neg many'] at h
      simp only [String.toList_append, List.append_assoc] at h
      cases h
  · by_cases many' : 1 < count'
    · rw [if_neg many, if_pos many'] at h
      simp only [String.toList_append, List.append_assoc] at h
      cases h
    · rw [if_neg many, if_neg many'] at h
      have ones : count = count' :=
        (eq_one_of_not_lt counted many).trans (eq_one_of_not_lt counted' many').symm
      exact ⟨same ones, List.append_cancel_left (List.append_cancel_left h)⟩

theorem nodeLine_append_ne_edgeLine_append :
    (nodeLine entries node).toList ++ rest ≠ (edgeLine edge).toList ++ rest' := by
  intro h
  simp only [nodeLine, edgeLine, String.toList_append, List.append_assoc] at h
  obtain ⟨-, h⟩ := quote_append_inj (List.append_cancel_left h)
  cases h

/-- Texts of the members of two lists, one after the other, are told apart member by member when
    each member ends where it can be seen, and nothing that follows the lists starts like one. -/
theorem flatMap_append_inj {α γ : Type} (key key' : α → γ) {line line' : α → List Char}
    {xs ys : List α}
    (ends : ∀ x ∈ xs, ∀ y ∈ ys, ∀ r s, line x ++ r = line' y ++ s → key x = key' y ∧ r = s)
    (stops : ∀ x ∈ xs, ∀ r, line x ++ r ≠ rest') (stops' : ∀ y ∈ ys, ∀ r, line' y ++ r ≠ rest)
    (h : xs.flatMap line ++ rest = ys.flatMap line' ++ rest') :
    xs.map key = ys.map key' ∧ rest = rest' := by
  induction xs generalizing ys with
  | nil =>
    cases ys with
    | nil => exact ⟨rfl, h⟩
    | cons y ys =>
      rw [List.flatMap_cons, List.append_assoc] at h
      exact absurd h.symm (stops' y List.mem_cons_self _)
  | cons x xs ih =>
    cases ys with
    | nil =>
      rw [List.flatMap_cons, List.append_assoc] at h
      exact absurd h (stops x List.mem_cons_self _)
    | cons y ys =>
      rw [List.flatMap_cons, List.append_assoc, List.flatMap_cons, List.append_assoc] at h
      obtain ⟨first, later⟩ := ends x List.mem_cons_self y List.mem_cons_self _ _ h
      have others := ih
        (fun x mem y mem' => ends x (List.mem_cons_of_mem _ mem) y (List.mem_cons_of_mem _ mem'))
        (fun x mem => stops x (List.mem_cons_of_mem _ mem))
        (fun y mem => stops' y (List.mem_cons_of_mem _ mem)) later
      exact ⟨by rw [List.map_cons, List.map_cons, first, others.1], others.2⟩

def edgeLines (edges : List Edge) : List Char :=
  edges.flatMap fun edge => (edgeLine edge).toList

def nodeLines (entries : IdSet) (nodes : List Node) : List Char :=
  nodes.flatMap fun node => (nodeLine entries node).toList

def closing : List Char :=
  "\x7d\n".toList

theorem toList_render (g : CallGraph) : (render g).toList
    = opening.toList ++ (nodeLines g.entryPoints g.nodes ++ (edgeLines g.edges ++ closing)) := by
  simp only [render, String.toList_append, String.toList_join, List.flatMap_map, List.append_assoc]
  rfl

theorem edgeLine_append_ne_closing (edge : Edge) (rest : List Char) :
    (edgeLine edge).toList ++ rest ≠ closing := by
  intro h
  simp only [edgeLine, String.toList_append, List.append_assoc] at h
  cases h

theorem nodeLine_append_ne (entries : IdSet) (node : Node) (edges : List Edge) (rest : List Char) :
    (nodeLine entries node).toList ++ rest ≠ edgeLines edges ++ closing := by
  cases edges with
  | nil =>
    intro h
    simp only [nodeLine, String.toList_append, List.append_assoc] at h
    cases h
  | cons edge edges =>
    rw [edgeLines, List.flatMap_cons, List.append_assoc]
    exact nodeLine_append_ne_edgeLine_append

theorem edgeLines_inj {edges edges' : List Edge} (counted : ∀ edge ∈ edges, edge.count ≠ 0)
    (counted' : ∀ edge ∈ edges', edge.count ≠ 0)
    (h : edgeLines edges ++ closing = edgeLines edges' ++ closing) : edges = edges' := by
  have same := (flatMap_append_inj id id
    (fun edge mem edge' mem' r s => edgeLine_append_inj (counted edge mem) (counted' edge' mem'))
    (fun edge _ => edgeLine_append_ne_closing edge) (fun edge _ => edgeLine_append_ne_closing edge)
    h).1
  rwa [List.map_id, List.map_id] at same

variable {g h : CallGraph}

def shownNodes (g : CallGraph) : List (NodeId × String × Bool) :=
  g.nodes.map (shown g.entryPoints)

theorem nodeLines_congr {nodes nodes' : List Node}
    (same : nodes.map (shown entries) = nodes'.map (shown entries')) :
    nodeLines entries nodes = nodeLines entries' nodes' := by
  unfold nodeLines
  induction nodes generalizing nodes' with
  | nil =>
    rw [List.map_nil, eq_comm, List.map_eq_nil_iff] at same
    rw [same, List.flatMap_nil, List.flatMap_nil]
  | cons node nodes ih =>
    obtain ⟨node', others, rfl, first, rest⟩ := List.map_eq_cons_iff.1 same.symm
    rw [List.flatMap_cons, List.flatMap_cons, nodeLine_congr first, ih rest.symm]

theorem render_eq_iff (counted : ∀ edge ∈ g.edges, edge.count ≠ 0)
    (counted' : ∀ edge ∈ h.edges, edge.count ≠ 0) :
    render g = render h ↔ shownNodes g = shownNodes h ∧ g.edges = h.edges := by
  rw [← String.toList_inj, toList_render, toList_render, List.append_cancel_left_eq]
  constructor
  · intro same
    obtain ⟨nodes, others⟩ := flatMap_append_inj (shown g.entryPoints) (shown h.entryPoints)
      (fun node _ node' _ r s => nodeLine_append_inj)
      (fun node _ => nodeLine_append_ne g.entryPoints node h.edges)
      (fun node _ => nodeLine_append_ne h.entryPoints node g.edges) same
    exact ⟨nodes, edgeLines_inj counted counted' others⟩
  · rintro ⟨nodes, edges⟩
    rw [nodeLines_congr nodes, edges]

def named (g : CallGraph) : List (NodeId × String) :=
  g.nodes.map fun node => (node.id, node.name)

theorem mem_of_shownNodes_eq {id : NodeId} (same : shownNodes g = shownNodes h) (mem : id ∈ g.ids)
    (entry : id ∈ g.entryPoints) : id ∈ h.entryPoints := by
  obtain ⟨node, isNode, rfl⟩ := List.mem_map.1 mem
  have listed : shown g.entryPoints node ∈ shownNodes h :=
    same ▸ List.mem_map_of_mem isNode
  obtain ⟨node', -, alike⟩ := List.mem_map.1 listed
  obtain ⟨sameId, -, marked⟩ := shown_eq_iff.1 alike
  exact sameId ▸ marked.2 entry

theorem shownNodes_eq_iff (known : ∀ id ∈ g.entryPoints, id ∈ g.ids)
    (known' : ∀ id ∈ h.entryPoints, id ∈ h.ids) :
    shownNodes g = shownNodes h ↔ named g = named h ∧ g.entryPoints = h.entryPoints := by
  constructor
  · intro same
    refine ⟨?_, IdSet.ext fun id => ⟨?_, ?_⟩⟩
    · have names := congrArg (List.map fun parts => (parts.1, parts.2.1)) same
      unfold shownNodes at names
      rwa [List.map_map, List.map_map] at names
    · intro entry
      exact mem_of_shownNodes_eq same (known id entry) entry
    · intro entry
      exact mem_of_shownNodes_eq same.symm (known' id entry) entry
  · rintro ⟨names, entries⟩
    have marked := congrArg
      (List.map fun parts => (parts.1, parts.2, decide (parts.1 ∈ g.entryPoints))) names
    unfold named at marked
    rw [List.map_map, List.map_map] at marked
    unfold shownNodes
    rw [← entries]
    exact marked

/-- Two built graphs are drawn alike only if they have the same nodes, by id and name and in this
    order, the same entry points and the same edges. -/
theorem render_tells (builtG : g.Built) (builtH : h.Built) : render g = render h ↔
    named g = named h ∧ g.entryPoints = h.entryPoints ∧ g.edges = h.edges := by
  rw [render_eq_iff builtG.counted builtH.counted,
    shownNodes_eq_iff builtG.closed.entries_known builtH.closed.entries_known, and_assoc]

/-- A node whose id goes on like the line of a node, up to the id of another one. -/
def forgedDraft : Draft where
  nodes := [{ id := "a\" [label=\"a\"];\n  \"b", name := "b", kind := .function }]

def plainDraft : Draft where
  nodes := [{ id := "a", name := "a", kind := .function },
    { id := "b", name := "b", kind := .function }]

theorem render_tells_forged : ∃ forged plain : CallGraph,
    forgedDraft.build = .ok forged ∧ plainDraft.build = .ok plain ∧
      forged.Built ∧ plain.Built ∧ render forged ≠ render plain := by
  obtain ⟨forged, buildsForged⟩ : ∃ g, forgedDraft.build = .ok g := ⟨_, rfl⟩
  obtain ⟨plain, buildsPlain⟩ : ∃ g, plainDraft.build = .ok g := ⟨_, rfl⟩
  have builtForged : forged.Built := ⟨forgedDraft, buildsForged⟩
  have builtPlain : plain.Built := ⟨plainDraft, buildsPlain⟩
  refine ⟨forged, plain, buildsForged, buildsPlain, builtForged, builtPlain, fun same => ?_⟩
  obtain ⟨names, -⟩ := (render_tells builtForged builtPlain).1 same
  cases buildsForged
  cases buildsPlain
  exact absurd names (by decide +kernel)

end CodeReading.Dot
