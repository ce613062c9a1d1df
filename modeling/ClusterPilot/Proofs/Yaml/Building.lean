/-
The data of block mappings. The nodes of an entry are numbered after all nodes that started before
it, and nothing that is read later changes them; so what they say about the data holds for every
graph that has them from their first number on.
-/
import ClusterPilot.Proofs.Yaml.Block
import ClusterPilot.Proofs.Yaml.Graph
import ClusterPilot.Proofs.Yaml.Values

namespace ClusterPilot.Yaml

/-! ## Nodes in a row -/

/-- The graph has some nodes from a number on. -/
def Graph.Has (g : Graph) (n : Nat) (nodes : List Node) : Prop :=
  ∀ k, k < nodes.length → g.nodes[n + k]? = nodes[k]?

namespace Graph.Has

variable {g : Graph} {n : Nat} {node : Node} {nodes more : List Node}

theorem head (h : g.Has n (node :: nodes)) : g.nodes[n]? = some node :=
  h 0 (Nat.zero_lt_succ _)

theorem tail (h : g.Has n (node :: nodes)) : g.Has (n + 1) nodes := by
  intro k hk
  have := h (k + 1) (Nat.succ_lt_succ hk)
  rwa [List.getElem?_cons_succ, Nat.add_comm k, ← Nat.add_assoc] at this

theorem left (h : g.Has n (nodes ++ more)) : g.Has n nodes := by
  intro k hk
  have := h k (by rw [List.length_append]; omega)
  rwa [List.getElem?_append_left hk] at this

theorem right (h : g.Has n (nodes ++ more)) : g.Has (n + nodes.length) more := by
  intro k hk
  have := h (nodes.length + k) (by rw [List.length_append]; omega)
  rwa [List.getElem?_append_right (Nat.le_add_right ..), Nat.add_sub_cancel_left,
    ← Nat.add_assoc] at this

end Graph.Has

/-! ## Reading tokens -/

namespace Builder

/-- A reader before some tokens of a text without anchors. -/
def reading (ts : List Token) (nodes : List Node) : Builder :=
  ⟨⟨ts, none⟩, nodes, [], standardHandles⟩

variable {fuel depth : Nat} {ts ts' : List Token} {nodes nodes' : List Node}
  {es : List (Nat × Nat)}

theorem run_bind_ok {α β : Type} {b b' : Builder} {x : Build α} {f : α → Build β} {a : α}
    (h : x.run b = .ok (a, b')) : (x >>= f).run b = (f a).run b' := by
  rw [StateT.run_bind, h]
  rfl

theorem run_isNext (kinds : List Token) (t : Token) :
    (isNext kinds).run (reading (t :: ts) nodes) = .ok (kinds.contains t, reading (t :: ts) nodes) :=
  rfl

theorem run_take (t : Token) :
    (take t).run (reading (t :: ts) nodes) = .ok (true, reading ts nodes) := by
  have hnext : (isNext [t]).run (reading (t :: ts) nodes) = .ok (true, reading (t :: ts) nodes) := by
    rw [run_isNext]
    simp
  exact run_bind_ok hnext

theorem node_scalar (fuel : Nat) (inBlock compact : Bool) (depth : Nat) (text : List Char)
    (plain : Bool) (ts : List Token) (nodes : List Node) :
    (node (fuel + 1) inBlock compact depth).run (reading (.scalar text plain :: ts) nodes) =
      .ok (nodes.length, reading ts (⟨scalarTag text plain none, .scalar text⟩ :: nodes)) := by
  rw [node]
  rfl

theorem modify_append (xs : List Node) (y : Node) (ys : List Node) (f : Node → Node) :
    (xs ++ y :: ys).modify xs.length f = xs ++ f y :: ys := by
  induction xs with
  | nil => rfl
  | cons x xs ih => simp [ih]

/-- A mapping starts before its entries and is filled after them. -/
theorem node_mapping (compact : Bool) {added : List Node}
    (h : (blockEntries fuel depth).run (reading ts (⟨.mapping, .mapping []⟩ :: nodes)) =
      .ok (es, reading ts' (added.reverse ++ ⟨.mapping, .mapping []⟩ :: nodes))) :
    (node (fuel + 1) true compact (depth + 1)).run (reading (.blockMappingStart :: ts) nodes) =
      .ok (nodes.length, reading ts' (added.reverse ++ ⟨.mapping, .mapping es⟩ :: nodes)) := by
  have hplace : (added.reverse ++ (⟨.mapping, .mapping []⟩ : Node) :: nodes).length - 1 -
      nodes.length = added.reverse.length := by
    simp
  have hfill : (blockEntries fuel depth >>= fun es => do
      fill nodes.length (.mapping es); pure nodes.length).run
        (reading ts (⟨.mapping, .mapping []⟩ :: nodes)) =
      .ok (nodes.length, reading ts' (added.reverse ++ ⟨.mapping, .mapping es⟩ :: nodes)) := by
    rw [run_bind_ok h, ← modify_append added.reverse ⟨.mapping, .mapping []⟩ nodes
      ({ · with content := .mapping es }), ← hplace]
    rfl
  rw [node]
  cases compact <;> exact hfill

theorem blockEntries_nil (fuel depth : Nat) (ts : List Token) (nodes : List Node) :
    (blockEntries (fuel + 1) depth).run (reading (.blockEnd :: ts) nodes) =
      .ok ([], reading ts nodes) := by
  rw [blockEntries]
  rfl

/-- The tokens that stand for a part that is not written. -/
def absent : List Token := [.key, .value, .blockEnd]

theorem blockEntries_cons {key : List Char} {i : Nat} {rest more : List Token} {first : Token}
    {nodes'' : List Node} (hfirst : first ∉ absent)
    (hvalue : (node (fuel + 1) true true depth).run
      (reading (first :: more) (⟨Tag.ofPlain key, .scalar key⟩ :: nodes)) =
      .ok (i, reading rest nodes'))
    (hmore : (blockEntries (fuel + 1) depth).run (reading rest nodes') =
      .ok (es, reading ts' nodes'')) :
    (blockEntries (fuel + 2) depth).run
      (reading (.key :: .scalar key true :: .value :: first :: more) nodes) =
      .ok ((nodes.length, i) :: es, reading ts' nodes'') := by
  have hpart : ∀ {t ts ts' nodes nodes' i}, t ∉ absent →
      (node (fuel + 1) true true depth).run (reading (t :: ts) nodes) = .ok (i, reading ts' nodes') →
      (isNext [.key, .value, .blockEnd] >>= fun missing =>
        if missing then emptyScalar else node (fuel + 1) true true depth).run
          (reading (t :: ts) nodes) = .ok (i, reading ts' nodes') := by
    intro t ts ts' nodes nodes' i ht h
    refine (run_bind_ok (run_isNext _ _)).trans ?_
    rw [if_neg (by simpa [absent] using ht)]
    exact h
  rw [blockEntries]
  refine (run_bind_ok (run_take _)).trans ?_
  refine (run_bind_ok (hpart (by simp [absent]) (node_scalar ..))).trans ?_
  refine (run_bind_ok (run_take _)).trans ?_
  refine (run_bind_ok (hpart hfirst hvalue)).trans ?_
  exact run_bind_ok hmore

/-- A document that is one mapping. -/
theorem document_mapping {i : Nat}
    (h : (node fuel true false maxNesting).run (reading (.blockMappingStart :: ts) []) =
      .ok (i, reading [] nodes)) :
    (document fuel).run (reading (.blockMappingStart :: ts) []) =
      .ok (some i, reading [] nodes) := by
  have hends : (skipEnds fuel).run (reading [] nodes) = .ok ((), reading [] nodes) := by
    cases fuel <;> rfl
  have hpeek : peek.run (reading (.blockMappingStart :: ts) []) =
      .ok (some .blockMappingStart, reading (.blockMappingStart :: ts) []) := rfl
  unfold document
  refine (run_bind_ok hpeek).trans ((run_bind_ok h).trans ?_)
  exact run_bind_ok hends

end Builder

/-! ## Building data -/

open Builder (reading)

/-- The tokens of a node build data that is at most `height` collections high. -/
structure Builds (height : Nat) (tokens : List Token) (data : Except Error Data) : Prop where
  starts : ∃ first more, tokens = first :: more ∧ first ∉ Builder.absent
  node : ∀ ⦃fuel depth : Nat⦄ (compact : Bool) (ts : List Token) (nodes : List Node),
    tokens.length ≤ fuel → height ≤ depth → ∃ added,
      (Builder.node fuel true compact depth).run (reading (tokens ++ ts) nodes) =
        .ok (nodes.length, reading ts (added.reverse ++ nodes)) ∧
      ∀ ⦃g : Graph⦄ ⦃depth' : Nat⦄, height ≤ depth' → g.Has nodes.length added →
        g.Gives depth' nodes.length data

/-- The data of the entries of a mapping. -/
def Entry.mappingData (es : List Entry) : Except Error (List (Data × Data)) :=
  es.mapM fun e => do pure (← ScalarData.ofText (Tag.ofPlain e.key) e.key, ← e.bodyData)

/-- An entry whose key has data and whose body builds its data. -/
structure Entry.Stands (height : Nat) (e : Entry) : Prop where
  key : ∃ d, ScalarData.ofText (Tag.ofPlain e.key) e.key = .ok d
  body : Builds height e.bodyTokens e.bodyData

theorem Builds.mono {height height' : Nat} {tokens : List Token} {data : Except Error Data}
    (h : Builds height tokens data) (hle : height ≤ height') : Builds height' tokens data where
  starts := h.starts
  node fuel depth compact ts nodes hfuel hdepth := by
    obtain ⟨added, hnode, hgives⟩ := h.node compact ts nodes hfuel (Nat.le_trans hle hdepth)
    exact ⟨added, hnode, fun g depth' hdepth' => hgives (Nat.le_trans hle hdepth')⟩

theorem builds_scalar (text : List Char) (plain : Bool) :
    Builds 0 [.scalar text plain]
      (ScalarData.ofText (if plain then Tag.ofPlain text else .text) text) where
  starts := ⟨_, _, rfl, by simp [Builder.absent]⟩
  node fuel depth compact ts nodes hfuel _ := by
    obtain ⟨fuel, rfl⟩ : ∃ k, fuel = k + 1 := ⟨fuel - 1, by simp at hfuel; omega⟩
    refine ⟨[_], Builder.node_scalar .., fun g depth' _ hg => ?_⟩
    refine Graph.gives_scalar depth' hg.head ?_
    cases plain
    · rfl
    · exact Tag.isCollection_ofPlain text

theorem blockEntries_builds {height : Nat} {es : List Entry} (h : ∀ e ∈ es, e.Stands height)
    {fuel depth : Nat} (ts : List Token) (nodes : List Node)
    (hfuel : (es.flatMap Entry.tokens).length < fuel) (hdepth : height ≤ depth) :
    ∃ ids added, (Builder.blockEntries fuel depth).run
        (reading (es.flatMap Entry.tokens ++ .blockEnd :: ts) nodes) =
        .ok (ids, reading ts (added.reverse ++ nodes)) ∧
      ∀ ⦃g : Graph⦄ ⦃depth' : Nat⦄, height ≤ depth' → g.Has nodes.length added →
        g.GivesEntries depth' ids (Entry.mappingData es) := by
  induction es generalizing fuel nodes with
  | nil =>
    obtain ⟨fuel, rfl⟩ : ∃ k, fuel = k + 1 := ⟨fuel - 1, by omega⟩
    exact ⟨[], [], Builder.blockEntries_nil .., fun g depth' _ _ => Graph.givesEntries_nil depth'⟩
  | cons e es ih =>
    have hlength : e.tokens.length = e.bodyTokens.length + 3 := by
      simp [Entry.tokens]
    rw [List.flatMap_cons, List.length_append, hlength] at hfuel
    obtain ⟨fuel, rfl⟩ : ∃ k, fuel = k + 2 := ⟨fuel - 2, by omega⟩
    obtain ⟨⟨k, hk⟩, hbody⟩ := h e List.mem_cons_self
    obtain ⟨first, more, hfirst, habsent⟩ := hbody.starts
    let keyNode : Node := ⟨Tag.ofPlain e.key, .scalar e.key⟩
    let rest := es.flatMap Entry.tokens ++ .blockEnd :: ts
    have hfirstFuel : e.bodyTokens.length ≤ fuel + 1 := by omega
    have hmoreFuel : (es.flatMap Entry.tokens).length < fuel + 1 := by omega
    obtain ⟨value, hvalue, hgives⟩ := hbody.node true rest (keyNode :: nodes) hfirstFuel hdepth
    obtain ⟨ids, added, hmore, hentries⟩ := ih (fun x hx => h x (List.mem_cons_of_mem e hx))
      (value.reverse ++ keyNode :: nodes) hmoreFuel
    refine ⟨(nodes.length, nodes.length + 1) :: ids, keyNode :: (value ++ added), ?_, ?_⟩
    · rw [hfirst, List.cons_append] at hvalue
      have hall := Builder.blockEntries_cons habsent hvalue hmore
      simpa [Entry.tokens, hfirst, keyNode, rest] using hall
    · intro g depth' hdepth' hg
      obtain ⟨hkey, hget⟩ := Graph.isKey_scalar hg.head hk
      have hnumber : (value.reverse ++ keyNode :: nodes).length =
          nodes.length + 1 + value.length := by
        simp
        omega
      have hmoreNodes : g.Has (value.reverse ++ keyNode :: nodes).length added := by
        rw [hnumber]
        exact hg.tail.right
      have hcons := Graph.givesEntries_cons (e := (nodes.length, nodes.length + 1)) hkey hget
        (hgives hdepth' hg.tail.left) (hentries hdepth' hmoreNodes)
      rw [Entry.mappingData, List.mapM_cons, hk]
      generalize e.bodyData = data at hcons ⊢
      cases data <;> exact hcons

theorem builds_mapping {height : Nat} {es : List Entry} (h : ∀ e ∈ es, e.Stands height) :
    Builds (height + 1) (Entry.mapping es) (.mapping <$> Entry.mappingData es) where
  starts := ⟨_, _, rfl, by simp [Builder.absent]⟩
  node fuel depth compact ts nodes hfuel hdepth := by
    have hlength : (Entry.mapping es).length = (es.flatMap Entry.tokens).length + 2 := by
      simp [Entry.mapping]
    obtain ⟨fuel, rfl⟩ : ∃ k, fuel = k + 1 := ⟨fuel - 1, by omega⟩
    obtain ⟨depth, rfl⟩ : ∃ k, depth = k + 1 := ⟨depth - 1, by omega⟩
    have hfuel : (es.flatMap Entry.tokens).length < fuel := by omega
    have hdepth : height ≤ depth := by omega
    obtain ⟨ids, added, hentries, hgives⟩ :=
      blockEntries_builds h ts (⟨.mapping, .mapping []⟩ :: nodes) hfuel hdepth
    refine ⟨⟨.mapping, .mapping ids⟩ :: added, ?_, ?_⟩
    · simpa [Entry.mapping] using Builder.node_mapping compact hentries
    · intro g depth' hdepth' hg
      obtain ⟨depth', rfl⟩ : ∃ k, depth' = k + 1 := ⟨depth' - 1, by omega⟩
      exact Graph.gives_mapping hg.head (hgives (by omega) hg.tail)

/-- The data in a text that is one mapping. -/
theorem read_mapping {height : Nat} {src : Source} {es : List Entry}
    (h : ∀ e ∈ es, e.Stands height) (hscan : Scan.ofSource src = ⟨Entry.mapping es, none⟩)
    (hheight : height < maxNesting) (d : Data) :
    read (height + 1) src = .ok d ↔ .mapping <$> Entry.mappingData es = .ok d := by
  have hfuel : (Entry.mapping es).length ≤ 2 * (Entry.mapping es).length + 4 := by omega
  obtain ⟨added, hnode, hgives⟩ := (builds_mapping h).node false [] [] hfuel hheight
  let g : Graph := ⟨added.toArray, 0⟩
  have hg : g.Gives (height + 1) g.root (.mapping <$> Entry.mappingData es) := by
    refine hgives (Nat.le_refl _) fun k hk => ?_
    simp [g]
  have hofScan : Graph.ofScan ⟨Entry.mapping es, none⟩ = .ok (some g) := by
    rw [List.append_nil] at hnode
    have hdocument := Builder.document_mapping hnode
    have hstart : (⟨⟨Entry.mapping es, none⟩, [], [], Builder.standardHandles⟩ : Builder) =
        reading (Entry.mapping es) [] := rfl
    unfold Graph.ofScan
    simp only [hstart]
    rw [show (Builder.document (2 * (Entry.mapping es).length + 4)).run
      (reading (Entry.mapping es) []) = _ from hdocument]
    simp [g, reading, bind, Except.bind, pure, Except.pure]
  have hread : read (height + 1) src = g.walk.map fun w => w.data (height + 1) g.root := by
    unfold read
    rw [hscan, hofScan]
    show (do pure ((← g.walk).data (height + 1) g.root)) = _
    cases g.walk <;> rfl
  rw [hread]
  exact Graph.walk_data hg d

end ClusterPilot.Yaml
