/-
The data in a YAML text. All nodes that can be reached are read, those of a collection before those
of the collections in it, and the first node without data decides the error. A mapping has its
merges done when it is looked into; a scalar is read the first time that it is met, and keeps its
data.

The data is then told down to a given depth, below which only the kind of a collection is told; so a
node that holds itself is no obstacle.
-/
import ClusterPilot.Yaml.Merge
import ClusterPilot.Yaml.ScalarData

namespace ClusterPilot.Yaml

namespace Graph

/-! ## Scalars -/

/-- The text of a scalar. A mapping stands for the text under its key of a default value. -/
def text (g : Graph) (room i : Nat) : Except Error (List Char) :=
  match room, g.content? i with
  | 0, _ => .error .tooDeep
  | _, some (.scalar cs) => .ok cs
  | room + 1, some (.mapping es) =>
    match es.find? fun e => g.tag e.1 = .value with
    | some e => g.text room e.2
    | none => .error .mismatchedTag
  | _, _ => .error .mismatchedTag

/-- The data of a node that stands for a scalar. A date is looked for in the node itself. -/
def scalar (g : Graph) (i : Nat) : Except Error Data :=
  match g.tag i with
  | .merge | .value | .unknown => .error .unknownTag
  | tag => do
    let cs ← g.text maxCalls i
    if tag = .date ∧ g.isMapping i then throw .dateOfMapping
    ScalarData.ofText tag cs

end Graph

/-! ## Walking -/

/-- A walk through a graph. -/
structure Walk where
  /-- The graph with the merges that were done so far. -/
  graph : Graph
  /-- The data of the scalars that were found. -/
  values : List (Nat × Data)
  /-- The collections found and not yet looked into, in order, and all collections found. -/
  pending : List Nat
  found : List Nat

namespace Walk

/-- A walk that has not started. -/
def start (g : Graph) : Walk := ⟨g, [], [], []⟩

/-- The walk after a node was found: a scalar is read, a collection waits. -/
def visit (w : Walk) (i : Nat) : Except Error Walk :=
  if (w.graph.tag i).isCollection then
    if w.found.contains i then .ok w
    else .ok { w with pending := w.pending ++ [i], found := i :: w.found }
  else if (w.values.lookup i).isSome then .ok w
  else (w.graph.scalar i).map fun d => { w with values := (i, d) :: w.values }

/-- The walk after an entry of a mapping was found. -/
def visitEntry (w : Walk) (e : Nat × Nat) : Except Error Walk := do
  let w ← w.visit e.1
  if (w.graph.tag e.1).isCollection then throw .collectionKey
  w.visit e.2

/-- The walk after a pair in a list of pairs was found. -/
def visitPair (w : Walk) (i : Nat) : Except Error Walk :=
  match w.graph.content? i with
  | some (.mapping [e]) => do (← w.visit e.1).visit e.2
  | _ => .error .mismatchedTag

/-- The walk after a collection was looked into. -/
def enter (w : Walk) (i : Nat) : Except Error Walk :=
  match w.graph.tag i, w.graph.content? i with
  | .sequence, some (.sequence items) => items.foldlM visit w
  | .mapping, some (.mapping _) | .set, some (.mapping _) => do
    let graph ← w.graph.flatten maxCalls i
    (graph.entries i).foldlM visitEntry { w with graph }
  | .pairs, some (.sequence items) => items.foldlM visitPair w
  | _, _ => .error .mismatchedTag

/-- Looks into collections, in the order in which they were found, until none is left. -/
def run (fuel : Nat) (w : Walk) : Except Error Walk :=
  match fuel, w.pending with
  | fuel + 1, i :: rest => do run fuel (← enter { w with pending := rest } i)
  | _, _ => .ok w

/-! ## Telling -/

/-- The data of a scalar that was found. -/
def value (w : Walk) (i : Nat) : Data := (w.values.lookup i).getD .null

/-- The data of a node that was found, down to a depth. -/
def data (w : Walk) (depth i : Nat) : Data :=
  match w.graph.tag i, w.graph.content? i with
  | .sequence, some (.sequence items) =>
    match depth with
    | 0 => .sequence []
    | depth + 1 => .sequence (items.map (w.data depth))
  | .pairs, some (.sequence items) => .sequence (items.map fun _ => .sequence [])
  | .mapping, some (.mapping es) =>
    match depth with
    | 0 => .mapping []
    | depth + 1 => .mapping (es.map fun e => (w.value e.1, w.data depth e.2))
  | .set, some (.mapping es) => .set es.isEmpty
  | _, _ => w.value i

end Walk

/-- The walk through all nodes of a graph that can be reached. -/
def Graph.walk (g : Graph) : Except Error Walk := do
  (← (Walk.start g).visit g.root).run (g.nodes.size + 1)

/-- The data in a YAML text, down to a depth; a text without a document says nothing. -/
def read (depth : Nat) (src : Source) : Except Error Data := do
  match ← Graph.ofScan (Scan.ofSource src) with
  | none => pure .null
  | some g => pure ((← g.walk).data depth g.root)

end ClusterPilot.Yaml
