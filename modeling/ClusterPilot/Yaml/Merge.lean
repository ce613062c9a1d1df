/-
Merging mappings into those that ask for it. What stands under the merge keys of a mapping is put in
front of its own entries, so that its own count more; of several mappings under one key the first
one counts most. A mapping that is merged in has its own merges done first, and each is done once:
its key is taken out before what stands under it is looked at, so a mapping merged into itself adds
its own entries only. The keys of default values become texts where they are met.
-/
import ClusterPilot.Yaml.Graph

namespace ClusterPilot.Yaml

namespace Graph

/-- What a node holds. -/
def content? (g : Graph) (i : Nat) : Option Content := g.nodes[i]?.map Node.content

/-- What a node stands for. -/
def tag (g : Graph) (i : Nat) : Tag := (g.nodes[i]?.map Node.tag).getD .unknown

/-- Whether a node is a mapping, whatever it stands for. -/
def isMapping (g : Graph) (i : Nat) : Bool :=
  match g.content? i with
  | some (.mapping _) => true
  | _ => false

/-- The entries of a mapping. -/
def entries (g : Graph) (i : Nat) : List (Nat × Nat) :=
  match g.content? i with
  | some (.mapping es) => es
  | _ => []

/-- Whether an entry asks for a merge. -/
def isMerge (g : Graph) (e : Nat × Nat) : Bool := g.tag e.1 = .merge

/-- The graph with other entries in a mapping. -/
def setEntries (g : Graph) (i : Nat) (es : List (Nat × Nat)) : Graph :=
  { g with nodes := g.nodes.modify i ({ · with content := .mapping es }) }

/-- The graph with a text in the place of a key of a default value. -/
def settleKey (g : Graph) (e : Nat × Nat) : Graph :=
  if g.tag e.1 = .value then { g with nodes := g.nodes.modify e.1 ({ · with tag := .text }) } else g

section

-- what does the merges of a mapping that is merged in
variable (prepare : Nat → Graph → Except Error Graph)

/-- The entries of a mapping that is merged in. -/
def absorb (g : Graph) (i : Nat) : Except Error (List (Nat × Nat) × Graph) :=
  if g.isMapping i then do
    let g ← prepare i g
    pure (g.entries i, g)
  else .error .badMerge

/-- The entries of what stands under a merge key: a mapping, or several, the last one first. -/
def absorbAll (g : Graph) (i : Nat) : Except Error (List (Nat × Nat) × Graph) :=
  match g.content? i with
  | some (.sequence items) =>
    items.foldlM (fun r j => (absorb prepare r.2 j).map fun next => (next.1 ++ r.1, next.2)) ([], g)
  | _ => absorb prepare g i

/-- The entries under the merge keys of a mapping, of which there are at most `fuel`. -/
def takeMerges (i fuel : Nat) (merged : List (Nat × Nat)) (g : Graph) :
    Except Error (List (Nat × Nat) × Graph) :=
  match fuel, (g.entries i).find? g.isMerge with
  | fuel + 1, some e => do
    let without := g.setEntries i ((g.entries i).eraseP g.isMerge)
    let (more, g) ← absorbAll prepare without e.2
    takeMerges i fuel (merged ++ more) g
  | _, _ => .ok (merged, g)

end

/-- The graph after the merges of a mapping are done. `room` is how many mappings may be merged one
inside the other. -/
def flatten : (room : Nat) → Nat → Graph → Except Error Graph
  | 0 => fun _ _ => .error .tooDeep
  | room + 1 => fun i g => do
    let (merged, g) ← takeMerges (flatten room) i (g.entries i).length [] g
    let own := g.entries i
    let g := own.foldl settleKey g
    pure (if merged.isEmpty then g else g.setEntries i (merged ++ own))

end Graph

end ClusterPilot.Yaml
