/-
The data of graphs without merges. A node is settled when it is a scalar, or a mapping of scalars
with data to settled nodes. What such a node tells can be said without walking: it is told entry by
entry. A walk from a settled node finds all nodes below it, and comes to an end exactly where each
of them has data; what it tells then is what they tell.
-/
import ClusterPilot.Proofs.Checked
import ClusterPilot.Proofs.Yaml.Promise
import ClusterPilot.Yaml.Document
import Mathlib.Data.List.Perm.Subperm

namespace ClusterPilot.Yaml

namespace Graph

variable {g : Graph}

theorem tag_of_node {i : Nat} {node : Node} (h : g.nodes[i]? = some node) : g.tag i = node.tag := by
  unfold tag
  rw [h]
  rfl

theorem content?_of_node {i : Nat} {node : Node} (h : g.nodes[i]? = some node) :
    g.content? i = some node.content := by
  unfold content?
  rw [h]
  rfl

theorem entries_of_node {i : Nat} {tag : Tag} {es : List (Nat × Nat)}
    (h : g.nodes[i]? = some ⟨tag, .mapping es⟩) : g.entries i = es := by
  unfold entries
  rw [content?_of_node h]

theorem scalar_of_node {i : Nat} {tag : Tag} {text : List Char}
    (h : g.nodes[i]? = some ⟨tag, .scalar text⟩) : g.scalar i = ScalarData.ofText tag text := by
  have htext : g.text maxCalls i = .ok text := by
    unfold Graph.text
    rw [content?_of_node h]
    rfl
  have hmapping : g.isMapping i = false := by
    unfold isMapping
    rw [content?_of_node h]
  unfold scalar
  rw [tag_of_node h, htext, hmapping]
  cases tag <;> simp [bind, Except.bind, ScalarData.ofText]

/-! ## Settled nodes -/

/-- A scalar with data, which asks for no merge and is no default value. -/
structure IsKey (g : Graph) (i : Nat) : Prop where
  noCollection : (g.tag i).isCollection = false
  hasData : ∃ d, g.scalar i = .ok d

theorem IsKey.plain {i : Nat} (h : g.IsKey i) : g.tag i ≠ .merge ∧ g.tag i ≠ .value := by
  obtain ⟨d, hd⟩ := h.hasData
  unfold scalar at hd
  constructor
  all_goals
    intro htag
    rw [htag] at hd
    cases hd

/-- A node that is at most so many mappings high, and asks for no merges. -/
inductive Settled (g : Graph) : Nat → Nat → Prop
  | scalar {height i : Nat} (noCollection : (g.tag i).isCollection = false) : Settled g height i
  | mapping {height i : Nat} {es : List (Nat × Nat)}
    (node : g.nodes[i]? = some ⟨.mapping, .mapping es⟩) (keys : ∀ e ∈ es, g.IsKey e.1)
    (values : ∀ e ∈ es, Settled g height e.2) : Settled g (height + 1) i

/-- What a settled node tells down to a depth. -/
def tell (g : Graph) (depth i : Nat) : Except Error Data :=
  match g.tag i, g.content? i with
  | .mapping, some (.mapping es) =>
    match depth with
    | 0 => .ok (.mapping [])
    | depth + 1 => .mapping <$> es.mapM fun e => do pure (← g.scalar e.1, ← g.tell depth e.2)
  | _, _ => g.scalar i

theorem tell_scalar {i : Nat} (h : (g.tag i).isCollection = false) (depth : Nat) :
    g.tell depth i = g.scalar i := by
  rw [tell.eq_def]
  cases htag : g.tag i <;> first | rfl | (rw [htag] at h; cases h)

theorem tell_mapping {i : Nat} {es : List (Nat × Nat)}
    (node : g.nodes[i]? = some ⟨.mapping, .mapping es⟩) (depth : Nat) :
    g.tell (depth + 1) i =
      .mapping <$> (es.mapM fun e => do pure (← g.scalar e.1, ← g.tell depth e.2)) := by
  rw [tell.eq_def, tag_of_node node, content?_of_node node]

/-- The merges of a mapping without merges change nothing. -/
theorem flatten_eq {i : Nat} {es : List (Nat × Nat)}
    (node : g.nodes[i]? = some ⟨.mapping, .mapping es⟩) (keys : ∀ e ∈ es, g.IsKey e.1)
    (room : Nat) : g.flatten (room + 1) i = .ok g := by
  have hentries := entries_of_node node
  have hnone : es.find? g.isMerge = none := by
    rw [List.find?_eq_none]
    intro e he
    unfold isMerge
    simpa using (keys e he).plain.1
  have htake : takeMerges (flatten room) i es.length [] g = .ok ([], g) := by
    unfold takeMerges
    rw [hentries, hnone]
    cases es.length <;> rfl
  have hsettle : ∀ es : List (Nat × Nat), (∀ e ∈ es, g.IsKey e.1) → es.foldl settleKey g = g := by
    intro es keys
    induction es with
    | nil => rfl
    | cons e es ih =>
      have hkey := (keys e List.mem_cons_self).plain.2
      rw [List.foldl_cons, settleKey, if_neg hkey]
      exact ih fun x hx => keys x (List.mem_cons_of_mem e hx)
  rw [flatten]
  simp only [hentries, htake, bind, Except.bind, hsettle es keys]
  rfl

end Graph

/-! ## Walking -/

namespace Walk

variable {g : Graph} {whole : Prop} {w w' : Walk} {i : Nat}

/-- A node was found: a collection by its number, and a scalar with its data. -/
def Met (g : Graph) (w : Walk) (i : Nat) : Prop :=
  if (g.tag i).isCollection then i ∈ w.found else (w.values.lookup i).isSome = true

theorem met_collection (h : (g.tag i).isCollection = true) : w.Met g i ↔ i ∈ w.found := by
  unfold Met
  rw [if_pos h]

theorem met_scalar (h : (g.tag i).isCollection = false) :
    w.Met g i ↔ (w.values.lookup i).isSome = true := by
  unfold Met
  rw [if_neg (by simp [h])]

/-- A walk that has gone on. What it found in the meantime waits to be looked into. -/
structure Grows (w w' : Walk) : Prop where
  values : ∀ i, (w.values.lookup i).isSome = true → (w'.values.lookup i).isSome = true
  found : ∀ i ∈ w.found, i ∈ w'.found
  pending : ∀ i ∈ w.pending, i ∈ w'.pending
  waiting : ∀ i ∈ w'.found, i ∈ w.found ∨ i ∈ w'.pending
  count : w'.pending.length + w.found.length = w.pending.length + w'.found.length

theorem Grows.refl (w : Walk) : w.Grows w :=
  ⟨fun _ => id, fun _ => id, fun _ => id, fun _ => .inl, rfl⟩

theorem Grows.trans {w'' : Walk} (h : w.Grows w') (h' : w'.Grows w'') : w.Grows w'' where
  values i hi := h'.values i (h.values i hi)
  found i hi := h'.found i (h.found i hi)
  pending i hi := h'.pending i (h.pending i hi)
  waiting i hi := by
    rcases h'.waiting i hi with hi | hi
    · exact (h.waiting i hi).imp id (h'.pending i)
    · exact .inr hi
  count := by
    have := h.count
    have := h'.count
    omega

theorem Met.mono (h : w.Met g i) (hgrows : w.Grows w') : w'.Met g i := by
  unfold Met at *
  split at h
  · rw [if_pos ‹_›]
    exact hgrows.found i h
  · rw [if_neg ‹_›]
    exact hgrows.values i h

/-- A settled node, which has data where the whole has. -/
def Expects (g : Graph) (whole : Prop) (i : Nat) : Prop :=
  ∃ height, g.Settled height i ∧ (whole → ∃ d, g.tell height i = .ok d)

theorem expects_key (h : g.IsKey i) : Expects g whole i :=
  ⟨0, .scalar h.noCollection, fun _ => by
    rw [Graph.tell_scalar h.noCollection]
    exact h.hasData⟩

/-- A walk through settled nodes of a graph. -/
structure Follows (g : Graph) (whole : Prop) (w : Walk) : Prop where
  graph : w.graph = g
  values : ∀ i d, w.values.lookup i = some d → g.scalar i = .ok d
  pending : ∀ i ∈ w.pending, (g.tag i).isCollection = true ∧ Expects g whole i
  nodup : w.found.Nodup
  bound : ∀ i ∈ w.found, i < g.nodes.size

/-- A walk goes on until it has found what it looks for, or fails where data is missing. -/
def Goes (g : Graph) (whole : Prop) (w : Walk) (x : Except Error Walk) (Q : Walk → Prop) : Prop :=
  Meets (fun _ => ¬whole) (fun w' => w'.Follows g whole ∧ w.Grows w' ∧ Q w') x

theorem Goes.bind {x : Except Error Walk} {f : Walk → Except Error Walk} {Q R : Walk → Prop}
    (h : Goes g whole w x Q)
    (hf : ∀ w', w'.Follows g whole → w.Grows w' → Q w' → Goes g whole w' (f w') R) :
    Goes g whole w (x >>= f) R := by
  refine Meets.bind h ?_
  rintro w' ⟨hw', hgrows, hQ⟩
  refine (hf w' hw' hgrows hQ).weaken ?_
  rintro w'' ⟨hw'', hgrows', hR⟩
  exact ⟨hw'', hgrows.trans hgrows', hR⟩

/-- A collection is found once, and then waits. -/
theorem goes_collection (hw : w.Follows g whole) (hcollection : (g.tag i).isCollection = true)
    (hsize : i < g.nodes.size) (h : Expects g whole i) :
    Goes g whole w (if w.found.contains i then .ok w
      else .ok { w with pending := w.pending ++ [i], found := i :: w.found }) (·.Met g i) := by
  split
  · rename_i hfound
    exact ⟨hw, .refl w, (met_collection hcollection).2 (List.contains_iff_mem.1 hfound)⟩
  · rename_i hfound
    have hnew : i ∉ w.found := fun hmem => hfound (List.contains_iff_mem.2 hmem)
    refine ⟨⟨hw.graph, hw.values, fun j hj => ?_, List.nodup_cons.2 ⟨hnew, hw.nodup⟩,
      List.forall_mem_cons.2 ⟨hsize, hw.bound⟩⟩, ⟨fun _ => id, fun j => List.mem_cons_of_mem i,
        fun j => List.mem_append_left _, fun j hj => ?_, ?_⟩,
      (met_collection hcollection).2 List.mem_cons_self⟩
    · rcases List.mem_append.1 hj with hj | hj
      · exact hw.pending j hj
      · rw [List.mem_singleton.1 hj]
        exact ⟨hcollection, h⟩
    · rcases List.mem_cons.1 hj with rfl | hj
      · exact .inr (List.mem_append_right _ (List.mem_singleton_self _))
      · exact .inl hj
    · simp only [List.length_append, List.length_cons, List.length_nil]
      omega

/-- A scalar is read the first time that it is met. -/
theorem goes_scalar (hw : w.Follows g whole) (hscalar : (g.tag i).isCollection = false)
    (h : whole → ∃ d, g.scalar i = .ok d) :
    Goes g whole w (if (w.values.lookup i).isSome then .ok w
      else (g.scalar i).map fun d => { w with values := (i, d) :: w.values }) (·.Met g i) := by
  split
  · exact ⟨hw, .refl w, (met_scalar hscalar).2 ‹_›⟩
  cases hdata : g.scalar i with
  | error e =>
    intro hwhole
    obtain ⟨d, hd⟩ := h hwhole
    rw [hdata] at hd
    cases hd
  | ok d =>
    refine ⟨⟨hw.graph, fun j d' hj => ?_, hw.pending, hw.nodup, hw.bound⟩,
      ⟨fun j hj => ?_, fun _ => id, fun _ => id, fun _ => .inl, rfl⟩,
      (met_scalar hscalar).2 (by simp)⟩
    · rw [List.lookup_cons] at hj
      split at hj
      · rename_i heq
        obtain rfl : j = i := by simpa using heq
        cases hj
        exact hdata
      · exact hw.values j d' hj
    · rw [List.lookup_cons]
      split
      · rfl
      · exact hj

theorem goes_visit (hw : w.Follows g whole) (h : Expects g whole i) :
    Goes g whole w (w.visit i) (·.Met g i) := by
  obtain ⟨height, hsettled, hdata⟩ := h
  obtain rfl := hw.graph
  unfold visit
  cases hsettled with
  | scalar noCollection =>
    rw [if_neg (by simp [noCollection])]
    rw [Graph.tell_scalar noCollection] at hdata
    exact goes_scalar hw noCollection hdata
  | @mapping height _ es node keys values =>
    have hcollection : (w.graph.tag i).isCollection = true := by
      rw [Graph.tag_of_node node]
      rfl
    rw [if_pos hcollection]
    exact goes_collection hw hcollection (Array.getElem?_eq_some_iff.1 node).1
      ⟨height + 1, .mapping node keys values, hdata⟩

theorem goes_visitEntry {e : Nat × Nat} (hw : w.Follows g whole) (hkey : g.IsKey e.1)
    (hvalue : Expects g whole e.2) :
    Goes g whole w (w.visitEntry e) fun w' => w'.Met g e.1 ∧ w'.Met g e.2 := by
  unfold visitEntry
  refine (goes_visit hw (expects_key hkey)).bind fun w₁ hw₁ _ hmet => ?_
  rw [hw₁.graph, if_neg (by simp [hkey.noCollection])]
  refine (goes_visit hw₁ hvalue).weaken ?_
  rintro w₂ ⟨hw₂, hgrows, hmet'⟩
  exact ⟨hw₂, hgrows, hmet.mono hgrows, hmet'⟩

theorem goes_visitEntries {es : List (Nat × Nat)} (hw : w.Follows g whole)
    (keys : ∀ e ∈ es, g.IsKey e.1) (values : ∀ e ∈ es, Expects g whole e.2) :
    Goes g whole w (es.foldlM visitEntry w) fun w' => ∀ e ∈ es, w'.Met g e.1 ∧ w'.Met g e.2 := by
  induction es generalizing w with
  | nil => exact ⟨hw, .refl w, nofun⟩
  | cons e es ih =>
    rw [List.foldlM_cons]
    refine (goes_visitEntry hw (keys e List.mem_cons_self) (values e List.mem_cons_self)).bind
      fun w₁ hw₁ _ hmet => ?_
    refine (ih hw₁ (fun x hx => keys x (List.mem_cons_of_mem e hx))
      fun x hx => values x (List.mem_cons_of_mem e hx)).weaken ?_
    rintro w₂ ⟨hw₂, hgrows, hmore⟩
    exact ⟨hw₂, hgrows, List.forall_mem_cons.2 ⟨⟨hmet.1.mono hgrows, hmet.2.mono hgrows⟩, hmore⟩⟩

/-- The values of a mapping have data where the mapping has. -/
theorem expects_values {height : Nat} {es : List (Nat × Nat)}
    (node : g.nodes[i]? = some ⟨.mapping, .mapping es⟩) (values : ∀ e ∈ es, g.Settled height e.2)
    (hdata : whole → ∃ d, g.tell (height + 1) i = .ok d) : ∀ e ∈ es, Expects g whole e.2 := by
  refine fun e he => ⟨height, values e he, fun hwhole => ?_⟩
  obtain ⟨d, hd⟩ := hdata hwhole
  rw [Graph.tell_mapping node] at hd
  obtain ⟨ds, hds, -⟩ := map_ok hd
  obtain ⟨p, hp⟩ := exists_of_mapM_ok hds he
  obtain ⟨k, -, hp⟩ := bind_ok hp
  obtain ⟨v, hv, -⟩ := bind_ok hp
  exact ⟨v, hv⟩

theorem goes_enter (hw : w.Follows g whole) (hcollection : (g.tag i).isCollection = true)
    (h : Expects g whole i) :
    Goes g whole w (w.enter i) fun w' => ∀ e ∈ g.entries i, w'.Met g e.1 ∧ w'.Met g e.2 := by
  obtain ⟨height, hsettled, hdata⟩ := h
  cases hsettled with
  | scalar noCollection =>
    rw [hcollection] at noCollection
    cases noCollection
  | @mapping height _ es node keys values =>
    have hgo := goes_visitEntries hw keys (expects_values node values hdata)
    unfold enter
    rw [hw.graph, Graph.tag_of_node node, Graph.content?_of_node node, Graph.entries_of_node node]
    simp only [maxCalls, Graph.flatten_eq node keys, bind, Except.bind, Graph.entries_of_node node]
    have hsame : { w with graph := g } = w := by
      rw [← hw.graph]
    rw [hsame]
    exact hgo

/-- What was found and looked into has all its parts found. -/
def Closed (g : Graph) (w : Walk) : Prop :=
  ∀ i ∈ w.found, i ∈ w.pending ∨ ∀ e ∈ g.entries i, w.Met g e.1 ∧ w.Met g e.2

/-- Each round looks into one collection, and there are no more of them than nodes. -/
theorem run_meets {fuel : Nat} (hw : w.Follows g whole) (hclosed : w.Closed g)
    (hfuel : w.pending.length + g.nodes.size ≤ fuel + w.found.length) :
    Meets (fun _ => ¬whole) (fun w' => w'.Follows g whole ∧ w'.Closed g ∧ w'.pending = [] ∧
      ∀ i, w.Met g i → w'.Met g i) (run fuel w) := by
  induction fuel generalizing w with
  | zero =>
    have hlength : w.found.length ≤ g.nodes.size := by
      have hrange : w.found ⊆ List.range g.nodes.size := fun i hi =>
        List.mem_range.2 (hw.bound i hi)
      have hle := (hw.nodup.subperm hrange).length_le
      rwa [List.length_range] at hle
    have hpending : w.pending = [] := List.eq_nil_of_length_eq_zero (by omega)
    unfold run
    exact ⟨hw, hclosed, hpending, fun _ => id⟩
  | succ fuel ih =>
    unfold run
    cases hpending : w.pending with
    | nil => exact ⟨hw, hclosed, hpending, fun _ => id⟩
    | cons i rest =>
      simp only
      have hrest : Follows g whole { w with pending := rest } :=
        ⟨hw.graph, hw.values, fun j hj => hw.pending j (hpending ▸ List.mem_cons_of_mem i hj),
          hw.nodup, hw.bound⟩
      obtain ⟨hcollection, hi⟩ := hw.pending i (hpending ▸ List.mem_cons_self)
      refine Meets.bind (goes_enter hrest hcollection hi) ?_
      rintro w' ⟨hw', hgrows, hmet⟩
      have hcount := hgrows.count
      have hmono : ∀ j, w.Met g j → w'.Met g j := fun j hj =>
        Met.mono (w := { w with pending := rest }) hj hgrows
      have hclosed' : w'.Closed g := by
        intro j hj
        rcases hgrows.waiting j hj with hold | hnew
        · rcases hclosed j hold with hwaits | hparts
          · rw [hpending] at hwaits
            rcases List.mem_cons.1 hwaits with rfl | hwaits
            · exact .inr hmet
            · exact .inl (hgrows.pending j hwaits)
          · exact .inr fun e he => (hparts e he).imp (hmono _) (hmono _)
        · exact .inl hnew
      rw [hpending, List.length_cons] at hfuel
      simp only at hcount
      refine (ih hw' hclosed' (by omega)).weaken ?_
      rintro w'' ⟨hw'', hclosed'', hdone, hkeeps⟩
      exact ⟨hw'', hclosed'', hdone, fun j hj => hkeeps j (hmono j hj)⟩

/-! ## Telling -/

theorem data_scalar (hw : w.Follows g whole) (hscalar : (g.tag i).isCollection = false)
    (depth : Nat) : w.data depth i = w.value i := by
  rw [data.eq_def, hw.graph]
  cases htag : g.tag i <;> first | rfl | (rw [htag] at hscalar; cases hscalar)

theorem data_mapping {es : List (Nat × Nat)} (hw : w.Follows g whole)
    (node : g.nodes[i]? = some ⟨.mapping, .mapping es⟩) (depth : Nat) :
    w.data (depth + 1) i = .mapping (es.map fun e => (w.value e.1, w.data depth e.2)) := by
  rw [data.eq_def, hw.graph, Graph.tag_of_node node, Graph.content?_of_node node]

theorem scalar_eq (hw : w.Follows g whole) (hscalar : (g.tag i).isCollection = false)
    (hmet : w.Met g i) : g.scalar i = .ok (w.value i) := by
  obtain ⟨d, hd⟩ := Option.isSome_iff_exists.1 ((met_scalar hscalar).1 hmet)
  unfold value
  rw [hd]
  exact hw.values i d hd

/-- A walk that came to an end tells what the nodes tell. -/
theorem tell_eq {depth : Nat} (hw : w.Follows g whole) (hclosed : w.Closed g)
    (hdone : w.pending = []) (hsettled : g.Settled depth i) (hmet : w.Met g i) :
    g.tell depth i = .ok (w.data depth i) := by
  induction hsettled with
  | scalar noCollection =>
    rw [Graph.tell_scalar noCollection, data_scalar hw noCollection, scalar_eq hw noCollection hmet]
  | @mapping height i es node keys values ih =>
    have hcollection : (g.tag i).isCollection = true := by
      rw [Graph.tag_of_node node]
      rfl
    have hparts : ∀ e ∈ es, w.Met g e.1 ∧ w.Met g e.2 := by
      have := hclosed i ((met_collection hcollection).1 hmet)
      rw [hdone, Graph.entries_of_node node] at this
      exact this.resolve_left (List.not_mem_nil)
    rw [Graph.tell_mapping node, data_mapping hw node]
    have hentries : (es.mapM fun e => do pure (← g.scalar e.1, ← g.tell height e.2)) =
        .ok (es.map fun e => (w.value e.1, w.data height e.2)) := by
      clear node values
      induction es with
      | nil => rfl
      | cons e es ihes =>
        have hkey := keys e List.mem_cons_self
        obtain ⟨hmetKey, hmetValue⟩ := hparts e List.mem_cons_self
        rw [List.mapM_cons, ihes (fun x hx => keys x (List.mem_cons_of_mem e hx))
          (fun x hx => ih x (List.mem_cons_of_mem e hx))
          (fun x hx => hparts x (List.mem_cons_of_mem e hx)),
          scalar_eq hw hkey.noCollection hmetKey, ih e List.mem_cons_self hmetValue]
        rfl
    rw [hentries]
    rfl

end Walk

namespace Graph

variable {g : Graph}

/-- A node that is settled, and what it tells. -/
structure Gives (g : Graph) (depth i : Nat) (data : Except Error Data) : Prop where
  settled : g.Settled depth i
  tell_eq : g.tell depth i = data

/-- Entries of scalars with data and settled nodes, and what they tell. -/
structure GivesEntries (g : Graph) (depth : Nat) (es : List (Nat × Nat))
    (data : Except Error (List (Data × Data))) : Prop where
  keys : ∀ e ∈ es, g.IsKey e.1
  values : ∀ e ∈ es, g.Settled depth e.2
  tell_eq : (es.mapM fun e => do pure (← g.scalar e.1, ← g.tell depth e.2)) = data

/-- A walk from the root tells what the root does, and comes to no end where that is an error. -/
theorem walk_data {depth : Nat} {data : Except Error Data} (h : g.Gives depth g.root data)
    (d : Data) : (g.walk.map fun w => w.data depth g.root) = .ok d ↔ data = .ok d := by
  have hstart : Walk.Follows g (∃ d, data = .ok d) (.start g) :=
    ⟨rfl, nofun, nofun, List.nodup_nil, nofun⟩
  have hroot : Walk.Expects g (∃ d, data = .ok d) g.root :=
    ⟨depth, h.settled, fun ⟨d, hd⟩ => ⟨d, h.tell_eq.trans hd⟩⟩
  have hwalk : Meets (fun _ => ¬∃ d, data = .ok d)
      (fun w => data = .ok (w.data depth g.root)) g.walk := by
    unfold walk
    refine Meets.bind (Walk.goes_visit hstart hroot) ?_
    rintro w ⟨hw, hgrows, hmet⟩
    have hcount := hgrows.count
    have hclosed : w.Closed g := fun i hi =>
      .inl ((hgrows.waiting i hi).resolve_left (by simp [Walk.start]))
    refine (Walk.run_meets hw hclosed ?_).weaken ?_
    · simp [Walk.start] at hcount
      omega
    · rintro w' ⟨hw', hclosed', hdone, hkeeps⟩
      exact h.tell_eq.symm.trans (Walk.tell_eq hw' hclosed' hdone h.settled (hkeeps _ hmet))
  cases hg : g.walk with
  | error e =>
    rw [hg] at hwalk
    exact iff_of_false nofun fun hd => hwalk ⟨d, hd⟩
  | ok w =>
    rw [hg] at hwalk
    rw [show data = _ from hwalk]
    rfl

/-! ## What nodes give -/

theorem gives_scalar {i : Nat} {tag : Tag} {text : List Char} (depth : Nat)
    (node : g.nodes[i]? = some ⟨tag, .scalar text⟩) (h : tag.isCollection = false) :
    Gives g depth i (ScalarData.ofText tag text) := by
  have hscalar : (g.tag i).isCollection = false := by
    rw [tag_of_node node]
    exact h
  exact ⟨.scalar hscalar, (tell_scalar hscalar depth).trans (scalar_of_node node)⟩

theorem isKey_scalar {i : Nat} {tag : Tag} {text : List Char} {d : Data}
    (node : g.nodes[i]? = some ⟨tag, .scalar text⟩) (h : ScalarData.ofText tag text = .ok d) :
    g.IsKey i ∧ g.scalar i = .ok d := by
  have hscalar : g.scalar i = .ok d := (scalar_of_node node).trans h
  refine ⟨⟨?_, d, hscalar⟩, hscalar⟩
  rw [tag_of_node node]
  cases tag <;> first | rfl | cases h

theorem givesEntries_nil (depth : Nat) : GivesEntries g depth [] (.ok []) where
  keys := nofun
  values := nofun
  tell_eq := rfl

theorem givesEntries_cons {depth : Nat} {e : Nat × Nat} {es : List (Nat × Nat)} {k : Data}
    {data : Except Error Data} {more : Except Error (List (Data × Data))} (hkey : g.IsKey e.1)
    (hk : g.scalar e.1 = .ok k) (hvalue : Gives g depth e.2 data)
    (hmore : GivesEntries g depth es more) :
    GivesEntries g depth (e :: es) (do pure ((k, ← data) :: (← more))) where
  keys := List.forall_mem_cons.2 ⟨hkey, hmore.keys⟩
  values := List.forall_mem_cons.2 ⟨hvalue.settled, hmore.values⟩
  tell_eq := by
    rw [List.mapM_cons, hk, hvalue.tell_eq, hmore.tell_eq]
    cases data <;> rfl

theorem gives_mapping {depth i : Nat} {es : List (Nat × Nat)}
    {data : Except Error (List (Data × Data))} (node : g.nodes[i]? = some ⟨.mapping, .mapping es⟩)
    (h : GivesEntries g depth es data) : Gives g (depth + 1) i (.mapping <$> data) where
  settled := .mapping node h.keys h.values
  tell_eq := by rw [tell_mapping node, h.tell_eq]

end Graph

end ClusterPilot.Yaml
