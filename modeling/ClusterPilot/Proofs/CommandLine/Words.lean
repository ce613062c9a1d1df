/-
The command line that spells a request out: the name of its action, then a piece for each field, an
option with the values of the field after it, and the switch if the run is to be dry. A text that is
missing and a list that is empty have no piece. The pieces may come in any order: each is taken up
by the draft as a whole, since no value is taken for an option and a list ends at the next option,
and as no two fields share a name it does not matter which of them was taken up first. So the
request is read back as it was.
-/
import ClusterPilot.CommandLine.Arguments
import ClusterPilot.Proofs.OrderedMap

namespace ClusterPilot.CommandLine

/-! ## The words of a request -/

/-- The name of an action. -/
def Action.name : Action → String
  | .create .. => "create"
  | .delete .. => "delete"
  | .submit .. => "submit"
  | .list .. => "list"
  | .master .. => "master"
  | .updateMetadata .. => "update-metadata"

/-- The fields of an action with what they hold: one value for a text, one or none for a text that
may be missing, and all values of a list. -/
def Action.entries : Action → List (Field × List String)
  | .create name region options =>
    [(⟨"name", .text⟩, [name]), (⟨"region", .nullable⟩, region.toList),
      (⟨"options", .many⟩, options)]
  | .delete name region options =>
    [(⟨"name", .text⟩, [name]), (⟨"region", .nullable⟩, region.toList),
      (⟨"options", .many⟩, options)]
  | .submit kind file region options arguments =>
    [(⟨"job-type", .text⟩, [kind]), (⟨"file", .nullable⟩, file.toList),
      (⟨"region", .nullable⟩, region.toList), (⟨"options", .many⟩, options),
      (⟨"job-args", .many⟩, arguments)]
  | .list project region filters =>
    [(⟨"project", .nullable⟩, project.toList), (⟨"region", .nullable⟩, region.toList),
      (⟨"filters", .many⟩, filters)]
  | .master cluster project region =>
    [(⟨"cluster", .text⟩, [cluster]), (⟨"project", .nullable⟩, project.toList),
      (⟨"region", .nullable⟩, region.toList)]
  | .updateMetadata node key value options =>
    [(⟨"node", .text⟩, [node]), (⟨"key", .text⟩, [key]), (⟨"value", .text⟩, [value]),
      (⟨"options", .many⟩, options)]

/-- The fields of a request with what they hold. -/
def Request.entries (r : Request) : List (Field × List String) :=
  r.action.entries ++ [(⟨"config", .text⟩, [r.config])]

/-- A piece of a command line: an option with its values, or the switch. -/
inductive Piece where
  | field (f : Field) (values : List String)
  | dryRun
  deriving DecidableEq

/-- The words of a piece. -/
def Piece.words : Piece → List String
  | .field f values => ("--" ++ f.name) :: values
  | .dryRun => [dryRunName]

/-- The pieces of a request, in the order of its fields. -/
def Request.pieces (r : Request) : List Piece :=
  (r.entries.filter fun e => e.2 ≠ []).map (fun e => .field e.1 e.2)
    ++ if r.dryRun then [.dryRun] else []

/-- A word that does not start with a dash. -/
def IsPlain (w : String) : Prop := w.toList.head? ≠ some '-'

instance (w : String) : Decidable (IsPlain w) := inferInstanceAs (Decidable (_ ≠ _))

/-- A request whose values can be written as they are: none starts with a dash, and where a text may
be missing it is not the word for none. -/
structure Request.Plain (r : Request) : Prop where
  values : ∀ e ∈ r.entries, ∀ v ∈ e.2, IsPlain v
  present : ∀ e ∈ r.entries, e.1.kind = .nullable → "None" ∉ e.2

/-! ## Fields -/

/-- Fields that can be told apart by their names, each the name of an option that is spelled with
dashes. -/
structure Apart (fields : List Field) : Prop where
  nodup : (fields.map Field.name).Nodup
  option : ∀ f ∈ fields, f.name ≠ "" ∧ "--" ++ f.name ≠ dryRunName ∧ '_' ∉ ("--" ++ f.name).toList

theorem fields_eq (r : Request) :
    actionFields.lookup r.action.name = some (r.entries.map Prod.fst) := by
  obtain ⟨action, config, dryRun⟩ := r
  cases action <;> rfl

theorem apart_fields (r : Request) : Apart (r.entries.map Prod.fst) := by
  have hall : ∀ e ∈ actionFields, (e.2.map Field.name).Nodup ∧
      ∀ f ∈ e.2, f.name ≠ "" ∧ "--" ++ f.name ≠ dryRunName ∧ '_' ∉ ("--" ++ f.name).toList := by
    decide
  have hmem := mem_of_lookup (fields_eq r)
  exact ⟨(hall _ hmem).1, (hall _ hmem).2⟩

theorem find?_field {fields : List Field} (apart : Apart fields) {f : Field} (hf : f ∈ fields) :
    fields.find? (fun f' => "--" ++ f'.name = "--" ++ f.name) = some f := by
  rcases h : fields.find? (fun f' => "--" ++ f'.name = "--" ++ f.name) with _ | f'
  · rw [List.find?_eq_none] at h
    exact absurd (decide_eq_true rfl) (h f hf)
  · have hname : f'.name = f.name := by simpa using List.find?_some h
    have heq : f' = f :=
      List.inj_on_of_nodup_map apart.nodup (List.mem_of_find?_eq_some h) hf hname
    rw [← heq] at h ⊢
    exact h

theorem find?_dryRun {fields : List Field} (apart : Apart fields) :
    fields.find? (fun f => "--" ++ f.name = dryRunName) = none := by
  rw [List.find?_eq_none]
  intro f hf h
  exact (apart.option f hf).2.1 (of_decide_eq_true h)

/-- Two entries of a request with one name hold the same. -/
theorem entry_unique {r : Request} {e e' : Field × List String} (he : e ∈ r.entries)
    (he' : e' ∈ r.entries) (h : e.1.name = e'.1.name) : e = e' := by
  have hnd := (apart_fields r).nodup
  rw [List.map_map] at hnd
  exact List.inj_on_of_nodup_map hnd he he' h

/-- A field that is no list holds one value at most. -/
theorem length_le_one {r : Request} :
    ∀ e ∈ r.entries, e.1.kind ≠ .many → e.2.length ≤ 1 := by
  have hnull : ∀ o : Option String, o.toList.length ≤ 1 := by
    intro o
    cases o <;> simp
  obtain ⟨action, config, dryRun⟩ := r
  cases action <;> simp [Request.entries, Action.entries, hnull]

theorem field_mem_pieces {r : Request} {f : Field} {values : List String} :
    .field f values ∈ r.pieces ↔ (f, values) ∈ r.entries ∧ values ≠ [] := by
  unfold Request.pieces
  cases r.dryRun <;> simp

theorem dryRun_mem_pieces {r : Request} : .dryRun ∈ r.pieces ↔ r.dryRun = true := by
  unfold Request.pieces
  cases r.dryRun <;> simp

/-! ## What a word is -/

theorem ofString_of_plain {w : String} (h : IsPlain w) (options : List String) (shortened : Bool) :
    Word.ofString options shortened w = .value := by
  unfold Word.ofString
  exact if_pos (.inl h)

/-- The name of an option is that option, with no value attached. -/
theorem ofString_option {w : String} (dashes : ['-', '-'] <+: w.toList) (long : w ≠ "--")
    {options : List String} (h : w ∈ options) (shortened : Bool) :
    Word.ofString options shortened w = .option w none := by
  have hword : ¬(w.toList.head? ≠ some '-' ∨ w.toList.length = 1) := by
    obtain ⟨rest, hrest⟩ := dashes
    rw [← hrest]
    simp
  unfold Word.ofString
  simp only
  rw [if_neg hword, if_neg long, if_pos (List.contains_iff_mem.2 h)]

theorem respell_of_plain {w : String} (h : IsPlain w) : respell w = w := by
  unfold respell
  simp only
  rw [if_neg]
  intro hdashes
  obtain ⟨rest, hrest⟩ := List.isPrefixOf_iff_prefix.1 hdashes
  exact h (by rw [← hrest]; rfl)

theorem respell_of_not_mem {w : String} (h : '_' ∉ w.toList) : respell w = w := by
  have hdashed : dashed (w.toList.takeWhile (· ≠ '=')) = w.toList.takeWhile (· ≠ '=') := by
    unfold dashed
    rw [List.map_congr_left (g := id), List.map_id]
    intro c hc
    rw [if_neg, id]
    rintro rfl
    exact h ((List.takeWhile_prefix _).subset hc)
  unfold respell
  simp only
  rw [hdashed, List.prefix_iff_eq_append.1 (List.takeWhile_prefix _), String.ofList_toList, ite_self]

/-! ## Taking up a piece -/

/-- The draft with a piece taken up. -/
def Draft.add (d : Draft) : Piece → Draft
  | .field f values =>
    { d with values := setEntry f.name values d.values,
             taking := if f.kind = .many then some f else none }
  | .dryRun => { d with dryRun := true, taking := none }

theorem waits_add (d : Draft) (p : Piece) : (d.add p).waits = false := by
  cases p with
  | dryRun => rfl
  | field f values =>
    unfold Draft.add Draft.waits
    by_cases many : f.kind = .many <;> simp [many]

theorem stopped_add (d : Draft) (p : Piece) : (d.add p).stopped = d.stopped := by
  cases p <;> rfl

theorem stray_add (d : Draft) (p : Piece) : (d.add p).stray = d.stray := by
  cases p <;> rfl

/-- A piece that can be taken up among given fields: its field is one of them, it has as many values
as the field takes, and none of them looks like an option. -/
def Piece.Fits (fields : List Field) : Piece → Prop
  | .field f values =>
    f ∈ fields ∧ (f.kind ≠ .many → values.length = 1) ∧ ∀ v ∈ values, IsPlain v
  | .dryRun => True

section Steps

variable {fields : List Field} {d : Draft} {f : Field}

theorem step_value {v : String} (plain : IsPlain v) (going : d.stopped = false) :
    d.step fields v = .ok (d.value v) := by
  unfold Draft.step
  rw [going, ofString_of_plain plain]
  rfl

theorem step_option {w : String} (dashes : ['-', '-'] <+: w.toList) (long : w ≠ "--")
    (h : w ∈ Draft.names fields) (going : d.stopped = false) (settled : d.waits = false) :
    d.step fields w = d.option fields w none := by
  unfold Draft.step
  rw [going, ofString_option dashes long h, settled]
  rfl

/-- An option is now taking: a list starts anew, and a text keeps what it has until its value. -/
theorem step_field (apart : Apart fields) (hf : f ∈ fields) (going : d.stopped = false)
    (settled : d.waits = false) :
    d.step fields ("--" ++ f.name) =
      .ok (if f.kind = .many then d.add (.field f []) else { d with taking := some f }) := by
  have hmem : "--" ++ f.name ∈ Draft.names fields :=
    List.mem_append_left _ (List.mem_append_left _ (List.mem_map.2 ⟨f, hf, rfl⟩))
  have hdashes : ['-', '-'] <+: ("--" ++ f.name).toList := by
    rw [String.toList_append]
    exact List.prefix_append _ _
  have hlong : "--" ++ f.name ≠ "--" := fun h =>
    (apart.option f hf).1 (String.append_eq_left_iff.1 h)
  rw [step_option hdashes hlong hmem going settled]
  unfold Draft.option Draft.add
  rw [find?_field apart hf]
  by_cases many : f.kind = .many <;> simp only [many, ↓reduceIte]

theorem step_dryRun (apart : Apart fields) (going : d.stopped = false) (settled : d.waits = false) :
    d.step fields dryRunName = .ok (d.add .dryRun) := by
  have hmem : dryRunName ∈ Draft.names fields :=
    List.mem_append_left _ (List.mem_append_right _ List.mem_cons_self)
  rw [step_option (by decide) (by decide) hmem going settled]
  unfold Draft.option
  rw [find?_dryRun apart]
  rfl

theorem step_one {v : String} (taking : d.taking = some f) (one : f.kind ≠ .many)
    (plain : IsPlain v) (going : d.stopped = false) :
    d.step fields v = .ok (d.add (.field f [v])) := by
  rw [step_value plain going]
  unfold Draft.value Draft.add
  simp only [taking, one, ↓reduceIte]

/-- A list that is taken up gets one more value. -/
theorem step_many {v : String} (many : f.kind = .many) (before : List String) (plain : IsPlain v)
    (going : d.stopped = false) :
    (d.add (.field f before)).step fields v = .ok (d.add (.field f (before ++ [v]))) := by
  rw [step_value plain ((stopped_add d _).trans going)]
  unfold Draft.value Draft.add
  simp only [many, ↓reduceIte, lookup_setEntry, Option.getD_some, setEntry_setEntry]

/-- A list takes all values up to the next option. -/
theorem foldlM_values (many : f.kind = .many) (going : d.stopped = false) {values : List String}
    (plain : ∀ v ∈ values, IsPlain v) (before : List String) :
    values.foldlM (Draft.step fields) (d.add (.field f before)) =
      .ok (d.add (.field f (before ++ values))) := by
  induction values generalizing before with
  | nil => rw [List.append_nil]; rfl
  | cons v values ih =>
    have hrest := ih (fun w hw => plain w (List.mem_cons_of_mem v hw)) (before ++ [v])
    rw [List.append_assoc, List.singleton_append] at hrest
    rw [List.foldlM_cons, step_many many before (plain v List.mem_cons_self) going]
    exact hrest

theorem foldlM_piece (apart : Apart fields) {p : Piece} (fits : p.Fits fields)
    (going : d.stopped = false) (settled : d.waits = false) :
    p.words.foldlM (Draft.step fields) d = .ok (d.add p) := by
  cases p with
  | dryRun =>
    unfold Piece.words
    rw [List.foldlM_cons, step_dryRun apart going settled]
    rfl
  | field f values =>
    obtain ⟨hf, hone, plain⟩ := fits
    unfold Piece.words
    rw [List.foldlM_cons, step_field apart hf going settled]
    by_cases many : f.kind = .many
    · rw [if_pos many]
      exact foldlM_values many going plain []
    · obtain ⟨v, rfl⟩ := List.length_eq_one_iff.1 (hone many)
      rw [if_neg many]
      have hstep : Draft.step fields { d with taking := some f } v =
          .ok (Draft.add { d with taking := some f } (.field f [v])) :=
        step_one rfl many (plain v List.mem_cons_self) going
      exact congrArg (· >>= pure) hstep

end Steps

/-! ## Taking up all pieces -/

theorem foldlM_pieces {fields : List Field} (apart : Apart fields) {pieces : List Piece}
    (fits : ∀ p ∈ pieces, p.Fits fields) {d : Draft} (going : d.stopped = false)
    (settled : d.waits = false) :
    (pieces.flatMap Piece.words).foldlM (Draft.step fields) d = .ok (pieces.foldl Draft.add d) := by
  induction pieces generalizing d with
  | nil => rfl
  | cons p pieces ih =>
    -- a list may still take values after its piece, but no draft waits there for one it has to have
    rw [List.flatMap_cons, List.foldlM_append,
      foldlM_piece apart (fits p List.mem_cons_self) going settled]
    exact ih (fun q hq => fits q (List.mem_cons_of_mem p hq)) ((stopped_add d p).trans going)
      (waits_add d p)

/-- What a draft holds when all pieces of a request are taken up. -/
structure Draft.Holds (d : Draft) (r : Request) : Prop where
  settled : d.waits = false
  known : d.stray = false
  dryRun : d.dryRun = r.dryRun
  lookup : ∀ e ∈ r.entries, d.values.lookup e.1.name = if e.2 = [] then none else some e.2

theorem waits_foldl (pieces : List Piece) {d : Draft} (settled : d.waits = false) :
    (pieces.foldl Draft.add d).waits = false := by
  induction pieces generalizing d with
  | nil => exact settled
  | cons p pieces ih => exact ih (waits_add d p)

theorem stray_foldl (pieces : List Piece) (d : Draft) :
    (pieces.foldl Draft.add d).stray = d.stray := by
  induction pieces generalizing d with
  | nil => rfl
  | cons p pieces ih => exact (ih (d.add p)).trans (stray_add d p)

theorem dryRun_foldl (pieces : List Piece) (d : Draft) :
    (pieces.foldl Draft.add d).dryRun = (d.dryRun || decide (.dryRun ∈ pieces)) := by
  induction pieces generalizing d with
  | nil => simp
  | cons p pieces ih =>
    rw [List.foldl_cons, ih]
    cases p <;> simp [Draft.add]

/-- The values of a field are those of its pieces, wherever they stand, if these agree. -/
theorem lookup_foldl {name : String} {values : Option (List String)} {pieces : List Piece}
    (agree : ∀ f vs, .field f vs ∈ pieces → f.name = name → some vs = values) {d : Draft}
    (found : d.values.lookup name = values ∨ ∃ f vs, .field f vs ∈ pieces ∧ f.name = name) :
    (pieces.foldl Draft.add d).values.lookup name = values := by
  induction pieces generalizing d with
  | nil =>
    rcases found with h | ⟨f, vs, hmem, -⟩
    · exact h
    · cases hmem
  | cons p pieces ih =>
    -- once the values are found, the pieces after it can only set them again
    have hagree : ∀ f vs, .field f vs ∈ pieces → f.name = name → some vs = values :=
      fun f vs hmem => agree f vs (List.mem_cons_of_mem p hmem)
    refine ih hagree ?_
    cases p with
    | dryRun =>
      rcases found with h | ⟨f, vs, hmem, hname⟩
      · exact .inl h
      · rcases List.mem_cons.1 hmem with h | h
        · cases h
        · exact .inr ⟨f, vs, h, hname⟩
    | field f vs =>
      unfold Draft.add
      simp only
      rw [lookup_setEntry]
      by_cases hname : name = f.name
      · rw [if_pos hname]
        exact .inl (agree f vs List.mem_cons_self hname.symm)
      · rw [if_neg hname]
        rcases found with h | ⟨f', vs', hmem, hname'⟩
        · exact .inl h
        · rcases List.mem_cons.1 hmem with h | h
          · cases h
            exact absurd hname'.symm hname
          · exact .inr ⟨f', vs', h, hname'⟩

theorem holds_foldl {r : Request} {pieces : List Piece} (order : pieces.Perm r.pieces) :
    (pieces.foldl Draft.add {}).Holds r := by
  refine ⟨waits_foldl pieces rfl, stray_foldl pieces {}, ?_, ?_⟩
  · rw [dryRun_foldl]
    simp [order.mem_iff, dryRun_mem_pieces]
  · intro e he
    have hagree : ∀ f vs, .field f vs ∈ pieces → f.name = e.1.name →
        some vs = if e.2 = [] then none else some e.2 := by
      intro f vs hmem hname
      obtain ⟨hentry, hne⟩ := field_mem_pieces.1 (order.mem_iff.1 hmem)
      have heq : (f, vs) = e := entry_unique hentry he hname
      rw [← heq, if_neg hne]
    refine lookup_foldl hagree ?_
    by_cases hempty : e.2 = []
    · rw [if_pos hempty]
      exact .inl rfl
    · exact .inr ⟨e.1, e.2, order.mem_iff.2 (field_mem_pieces.2 ⟨he, hempty⟩), rfl⟩

/-! ## Reading the request back -/

section Holds

variable {d : Draft} {r : Request}

theorem Draft.Holds.required (h : d.Holds r) {name v : String} {kind : FieldKind}
    (he : (⟨name, kind⟩, [v]) ∈ r.entries) : d.required name = .ok v := by
  have hlookup : d.values.lookup name = some [v] := h.lookup _ he
  unfold Draft.required
  rw [hlookup]

theorem Draft.Holds.nullable (h : d.Holds r) (plain : r.Plain) {name : String} {o : Option String}
    (he : (⟨name, .nullable⟩, o.toList) ∈ r.entries) : d.nullable name = o := by
  have hlookup := h.lookup _ he
  have hpresent := plain.present _ he rfl
  unfold Draft.nullable
  simp only at hlookup hpresent
  rw [hlookup]
  cases o with
  | none => rfl
  | some v =>
    have hne : v ≠ "None" := by
      rintro rfl
      exact hpresent List.mem_cons_self
    simp [hne]

theorem Draft.Holds.many (h : d.Holds r) {name : String} {values : List String} {kind : FieldKind}
    (he : (⟨name, kind⟩, values) ∈ r.entries) : d.many name = values := by
  have hlookup := h.lookup _ he
  unfold Draft.many
  simp only at hlookup
  rw [hlookup]
  by_cases hempty : values = []
  · rw [if_pos hempty, hempty]
    rfl
  · rw [if_neg hempty, Option.getD_some]

theorem Draft.Holds.action (h : d.Holds r) (plain : r.Plain) :
    d.action r.action.name = .ok r.action := by
  obtain ⟨action, config, dryRun⟩ := r
  cases action with
  | create name region options | delete name region options =>
    have hname : d.required "name" = .ok name := h.required (.head _)
    have hregion : d.nullable "region" = region := h.nullable plain (.tail _ (.head _))
    have hoptions : d.many "options" = options := h.many (.tail _ (.tail _ (.head _)))
    simp only [Action.name, Draft.action, hname, hregion, hoptions]
    rfl
  | submit kind file region options arguments =>
    have hkind : d.required "job-type" = .ok kind := h.required (.head _)
    have hfile : d.nullable "file" = file := h.nullable plain (.tail _ (.head _))
    have hregion : d.nullable "region" = region := h.nullable plain (.tail _ (.tail _ (.head _)))
    have hoptions : d.many "options" = options := h.many (.tail _ (.tail _ (.tail _ (.head _))))
    have harguments : d.many "job-args" = arguments :=
      h.many (.tail _ (.tail _ (.tail _ (.tail _ (.head _)))))
    simp only [Action.name, Draft.action, hkind, hfile, hregion, hoptions, harguments]
    rfl
  | list project region filters =>
    have hproject : d.nullable "project" = project := h.nullable plain (.head _)
    have hregion : d.nullable "region" = region := h.nullable plain (.tail _ (.head _))
    have hfilters : d.many "filters" = filters := h.many (.tail _ (.tail _ (.head _)))
    simp only [Action.name, Draft.action, hproject, hregion, hfilters]
  | master cluster project region =>
    have hcluster : d.required "cluster" = .ok cluster := h.required (.head _)
    have hproject : d.nullable "project" = project := h.nullable plain (.tail _ (.head _))
    have hregion : d.nullable "region" = region := h.nullable plain (.tail _ (.tail _ (.head _)))
    simp only [Action.name, Draft.action, hcluster, hproject, hregion]
    rfl
  | updateMetadata node key value options =>
    have hnode : d.required "node" = .ok node := h.required (.head _)
    have hkey : d.required "key" = .ok key := h.required (.tail _ (.head _))
    have hvalue : d.required "value" = .ok value := h.required (.tail _ (.tail _ (.head _)))
    have hoptions : d.many "options" = options := h.many (.tail _ (.tail _ (.tail _ (.head _))))
    simp only [Action.name, Draft.action, hnode, hkey, hvalue, hoptions]
    rfl

theorem Draft.Holds.request (h : d.Holds r) (plain : r.Plain) :
    d.request r.action.name = .ok r := by
  have hconfig : d.values.lookup "config" = some [r.config] :=
    h.lookup (⟨"config", .text⟩, [r.config]) (List.mem_append_right _ List.mem_cons_self)
  unfold Draft.request
  rw [h.settled, h.known, hconfig, h.action plain, h.dryRun]
  rfl

end Holds

/-! ## Command lines -/

theorem fits_of_mem_pieces {r : Request} (plain : r.Plain) {p : Piece} (h : p ∈ r.pieces) :
    p.Fits (r.entries.map Prod.fst) := by
  cases p with
  | dryRun => trivial
  | field f values =>
    obtain ⟨hentry, hne⟩ := field_mem_pieces.1 h
    refine ⟨List.mem_map.2 ⟨_, hentry, rfl⟩, fun one => ?_, plain.values _ hentry⟩
    have hle : values.length ≤ 1 := length_le_one _ hentry one
    have hpos : 0 < values.length := List.length_pos_iff.2 hne
    omega

theorem respell_words {fields : List Field} (apart : Apart fields) {p : Piece}
    (fits : p.Fits fields) : p.words.map respell = p.words := by
  cases p with
  | dryRun => rfl
  | field f values =>
    obtain ⟨hf, -, plain⟩ := fits
    unfold Piece.words
    rw [List.map_cons, respell_of_not_mem (apart.option f hf).2.2,
      List.map_congr_left fun v hv => respell_of_plain (plain v hv), List.map_id']

theorem name_spelled (r : Request) :
    IsPlain r.action.name ∧ String.ofList (dashed r.action.name.toList) = r.action.name := by
  have hall : ∀ e ∈ actionFields, IsPlain e.1 ∧ String.ofList (dashed e.1.toList) = e.1 := by
    decide
  have hspelled := hall _ (mem_of_lookup (fields_eq r))
  exact hspelled

theorem findAction_name (r : Request) (words : List String) :
    findAction false (r.action.name :: words) = .ok (r.action.name, words, false) := by
  obtain ⟨plain, hname⟩ := name_spelled r
  unfold findAction
  rw [ofString_of_plain plain]
  simp only
  rw [hname]

theorem ofWords_pieces {r : Request} (plain : r.Plain) {pieces : List Piece}
    (order : pieces.Perm r.pieces) :
    Request.ofWords (r.action.name :: pieces.flatMap Piece.words) = .ok r := by
  have hapart := apart_fields r
  have hfits : ∀ p ∈ pieces, p.Fits (r.entries.map Prod.fst) :=
    fun p hp => fits_of_mem_pieces plain (order.mem_iff.1 hp)
  have hwords : (pieces.flatMap Piece.words).map respell = pieces.flatMap Piece.words := by
    rw [List.map_flatMap]
    exact List.flatMap_congr fun p hp => respell_words hapart (hfits p hp)
  have hread : (pieces.flatMap Piece.words).foldlM (Draft.step (r.entries.map Prod.fst)) {} =
      .ok (pieces.foldl Draft.add {}) := foldlM_pieces hapart hfits rfl rfl
  unfold Request.ofWords
  rw [List.map_cons, respell_of_plain (name_spelled r).1, hwords, findAction_name]
  simp only [fields_eq, bind, Except.bind]
  rw [hread]
  exact (holds_foldl order).request plain

/-- The command line of a request does what the request does, in whatever order its options come. -/
theorem answer_pieces (r : Request) (plain : r.Plain) (pieces : List Piece)
    (order : pieces.Perm r.pieces) (files : Config.Files) (runner : Tool.Runner) :
    answer (r.action.name :: pieces.flatMap Piece.words) files runner =
      .ok (r.run files runner) := by
  unfold answer
  rw [ofWords_pieces plain order]
  rfl

/-- A request with all its options in the reverse order, whose values are empty, have blanks, name
an action or come twice. -/
theorem answer_pieces_reversed :
    let files : Config.Files := fun _ => .missing
    let runner : Tool.Runner := fun _ => .ok { status := 0, output := "" }
    let r : Request :=
      { action := .submit "pyspark" (some "job.py") (some "") ["async", "labels=a=b"]
          ["create", "", "two words", "create"]
        config := "no such.yaml"
        dryRun := true }
    answer ["submit", "--dry-run", "--config", "no such.yaml",
        "--job-args", "create", "", "two words", "create", "--options", "async", "labels=a=b",
        "--region", "", "--file", "job.py", "--job-type", "pyspark"] files runner =
      .ok (r.run files runner) := by
  intro files runner r
  exact answer_pieces r ⟨by decide, by decide⟩ r.pieces.reverse (List.reverse_perm _) files runner

end ClusterPilot.CommandLine
