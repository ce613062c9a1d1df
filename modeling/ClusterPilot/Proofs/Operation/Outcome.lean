/-
What a live operation comes to. One that a caller got wrong leaves no trace. Any other is one run,
which is not repeated: when the run cannot be started, that failure is the result, and when it has
ended, its status and its output decide between the possible results. For each of these the laws
below say when it is the result and what it holds.
-/
import ClusterPilot.Proofs.Operation.Plans
import ClusterPilot.Proofs.Tool.Session

namespace ClusterPilot.Operation

open Tool (Exit Plan Run Runner)

/-! ## Results -/

/-- What an ended run tells about the creation of a cluster. -/
structure TellsCreation (e : Exit) (c : Creation) : Prop where
  created : c.status = .created ↔ e.status = 0 ∧ ∃ cluster, readCluster e.output = .ok cluster
  cluster : ∀ cluster, c.cluster = some cluster ↔ e.status = 0 ∧ readCluster e.output = .ok cluster
  unreadable : c.status = .unreadable ↔ e.status = 0 ∧ ∃ f, readCluster e.output = .error f
  error : ∀ f, c.error = some f ↔ e.status = 0 ∧ readCluster e.output = .error f
  errorText : ∀ f, c.error = some f → ∃ message faults, f = .unreadable message e.output faults
  unsuccessful : c.status = .unsuccessful ↔ e.status ≠ 0
  output : c.output = e.output
  ok_iff : c.ok = true ↔ c.status = .created
  get_some : ∀ cluster, c.get = .ok (some cluster) ↔ c.status = .created ∧ c.cluster = some cluster
  get_none : c.get = .ok none ↔ c.status = .unsuccessful
  get_error : ∀ f, c.get = .error f ↔ c.status = .unreadable ∧ c.error = some f

/-- What an ended run tells where an answer is read: a reply that is `good`, a failure to read the
output that is `bad`, or a failure of the tool. -/
structure TellsAnswer (message : String) (command : List String) (e : Exit) (good : Reply → Prop)
    (bad : Failure → Prop) (result : Except Failure Reply) : Prop where
  reply : ∀ x, result = .ok x ↔ e.status = 0 ∧ good x
  unreadable : ∀ m text faults, result = .error (.unreadable m text faults) ↔
    e.status = 0 ∧ text = e.output ∧ bad (.unreadable m text faults)
  unsuccessful : ∀ m words status output,
    result = .error (.unsuccessful m words status output) ↔
      e.status ≠ 0 ∧ m = message ∧ words = command ∧ status = some e.status ∧ output = e.output
  only : ∀ f, result = .error f → (∃ m text faults, f = .unreadable m text faults) ∨
    ∃ m words status output, f = .unsuccessful m words status output

/-- What an ended run of a command tells about an operation. -/
def Tells (op : Operation) (command : List String) (e : Exit) (result : Except Failure Reply) :
    Prop :=
  match op with
  | create .. => ∃ c, result = .ok (.creation c) ∧ TellsCreation e c
  | delete .. | submit .. | updateMetadata .. => result = .ok (.done (decide (e.status = 0)))
  | list .. =>
    TellsAnswer "Failed to list clusters. gcloud call failed." command e
      (fun x => ∃ cs, readClusters e.output = .ok cs ∧ x = .clusters cs)
      (fun f => readClusters e.output = .error f) result
  | find _ _ name =>
    TellsAnswer "Failed to list clusters. gcloud call failed." command e
      (fun x => ∃ cs, readClusters e.output = .ok cs ∧
        x = .cluster (cs.find? fun c => c.name = name))
      (fun f => readClusters e.output = .error f) result
  | master _ _ name =>
    TellsAnswer "Failed to get master node name." command e
      (fun x => ∃ c node others, readCluster e.output = .ok c ∧ c.masters = node :: others ∧
        x = .node (some node))
      (fun f => readCluster e.output = .error f ∨
        ∃ c, readCluster e.output = .ok c ∧ c.masters = [] ∧
          f = .unreadable ("Cluster " ++ Text.quoted name ++ " lists no master instances")
            e.output none) result

/-! ## Reading an answer -/

theorem ok_iff (e : Exit) : e.ok = true ↔ e.status = 0 := beq_iff_eq

/-- Output that cannot be read is kept in the failure. -/
theorem unreadable_of_ofChecked {α : Type} {what subject text : String} {c : Checked α}
    {f : Failure} (h : ofChecked what subject text c = .error f) :
    ∃ message faults, f = .unreadable message text faults := by
  cases c with
  | ok a => cases h
  | faulty first rest =>
    cases h
    exact ⟨_, _, rfl⟩

theorem unreadable_of_readCluster {text : String} {f : Failure}
    (h : readCluster text = .error f) : ∃ message faults, f = .unreadable message text faults :=
  unreadable_of_ofChecked h

theorem unreadable_of_readClusters {text : String} {f : Failure}
    (h : readClusters text = .error f) : ∃ message faults, f = .unreadable message text faults :=
  unreadable_of_ofChecked h

theorem firstMaster_eq (name text : String) :
    firstMaster name text =
      match readCluster text with
      | .error f => .error f
      | .ok c =>
        match c.masters with
        | node :: _ => .ok node
        | [] => .error (.unreadable ("Cluster " ++ Text.quoted name ++ " lists no master instances")
            text none) := by
  unfold firstMaster
  cases readCluster text with
  | error f => rfl
  | ok c => cases hm : c.masters <;> simp only [bind, Except.bind, hm] <;> rfl

theorem firstMaster_ok_iff (name text node : String) :
    firstMaster name text = .ok node ↔
      ∃ c others, readCluster text = .ok c ∧ c.masters = node :: others := by
  rw [firstMaster_eq]
  cases readCluster text with
  | error f => simp
  | ok c => cases hm : c.masters <;> simp [hm]

theorem firstMaster_error_iff (name text : String) (f : Failure) :
    firstMaster name text = .error f ↔ readCluster text = .error f ∨
      ∃ c, readCluster text = .ok c ∧ c.masters = [] ∧
        f = .unreadable ("Cluster " ++ Text.quoted name ++ " lists no master instances") text
          none := by
  rw [firstMaster_eq]
  cases readCluster text with
  | error f' => simp
  | ok c =>
    cases hm : c.masters with
    | cons node others => simp [hm]
    | nil =>
      simp only [hm]
      constructor
      · intro h
        exact .inr ⟨c, rfl, hm, (Except.error.inj h).symm⟩
      · rintro (h | ⟨_, _, _, rfl⟩)
        · cases h
        · rfl

theorem unreadable_of_firstMaster {name text : String} {f : Failure}
    (h : firstMaster name text = .error f) :
    ∃ message faults, f = .unreadable message text faults := by
  rcases (firstMaster_error_iff name text f).1 h with h | ⟨c, _, _, rfl⟩
  · exact unreadable_of_readCluster h
  · exact ⟨_, _, rfl⟩

/-- An answer that is read only when the run did what it should. -/
theorem tellsAnswer_ifOk {α : Type} (message : String) (command : List String)
    (read : String → Except Failure α) (reply : α → Reply) (e : Exit)
    (hread : ∀ f, read e.output = .error f → ∃ m faults, f = .unreadable m e.output faults) :
    TellsAnswer message command e (fun x => ∃ a, read e.output = .ok a ∧ x = reply a)
      (fun f => read e.output = .error f) ((ifOk message command read e).map reply) := by
  unfold ifOk
  by_cases he : e.status = 0
  · -- the tool did what it should, and the output decides
    rw [if_pos ((ok_iff e).2 he)]
    cases hr : read e.output with
    | ok a =>
      exact ⟨by simp [Except.map, he, eq_comm], by simp [Except.map], by simp [Except.map, he],
        by simp [Except.map]⟩
    | error f =>
      obtain ⟨m, faults, rfl⟩ := hread f hr
      refine ⟨by simp [Except.map], ?_, by simp [Except.map, he], ?_⟩
      · intro m' text faults'
        simp only [Except.map, Except.error.injEq, Failure.unreadable.injEq, he, true_and]
        constructor
        · rintro ⟨rfl, rfl, rfl⟩
          exact ⟨rfl, rfl, rfl, rfl⟩
        · rintro ⟨-, h⟩
          exact h
      · intro f hf
        cases hf
        exact .inl ⟨_, _, _, rfl⟩
  · rw [if_neg (mt (ok_iff e).1 he)]
    refine ⟨by simp [Except.map, he], by simp [Except.map, he], ?_, ?_⟩
    · intro m words status output
      simp only [Except.map, Except.error.injEq, Failure.unsuccessful.injEq]
      constructor
      · rintro ⟨rfl, rfl, rfl, rfl⟩
        exact ⟨he, rfl, rfl, rfl, rfl⟩
      · rintro ⟨-, rfl, rfl, rfl, rfl⟩
        exact ⟨rfl, rfl, rfl, rfl⟩
    · intro f hf
      cases hf
      exact .inr ⟨_, _, _, _, rfl⟩

theorem TellsAnswer.congr {message : String} {command : List String} {e : Exit}
    {good good' : Reply → Prop} {bad bad' : Failure → Prop} {result : Except Failure Reply}
    (h : TellsAnswer message command e good bad result) (hgood : ∀ x, good x ↔ good' x)
    (hbad : ∀ f, bad f ↔ bad' f) : TellsAnswer message command e good' bad' result := by
  refine ⟨fun x => ?_, fun m text faults => ?_, h.unsuccessful, h.only⟩
  · rw [h.reply, hgood]
  · rw [h.unreadable, hbad]

/-! ## The creation of a cluster -/

theorem tellsCreation_creation (e : Exit) : TellsCreation e (creation e) := by
  unfold creation
  by_cases he : e.status = 0
  · rw [if_pos ((ok_iff e).2 he)]
    cases hr : readCluster e.output with
    | ok cluster => constructor <;> simp [he, hr, Creation.ok, Creation.get]
    | error f =>
      obtain ⟨m, faults, rfl⟩ := unreadable_of_readCluster hr
      constructor <;> simp [he, hr, Creation.ok, Creation.get, eq_comm]
  · rw [if_neg (mt (ok_iff e).1 he)]
    constructor <;> simp [he, Creation.ok, Creation.get]

/-! ## All operations -/

theorem map_map {α β γ : Type} (f : α → β) (g : β → γ) (r : Except Failure α) :
    (r.map f).map g = r.map fun a => g (f a) := by
  cases r <;> rfl

theorem some_map_ok_iff {α : Type} (r : Except Failure α) (a : Option α) :
    some <$> r = .ok a ↔ ∃ b, r = .ok b ∧ a = some b := by
  cases r <;> simp [Functor.map, Except.map, eq_comm]

theorem some_map_error_iff {α : Type} (r : Except Failure α) (f : Failure) :
    some <$> r = .error f ↔ r = .error f := by
  cases r <;> simp [Functor.map, Except.map]

/-- The list is read as a whole before the cluster is looked for. -/
theorem tells_find (s : Settings) (project region name : String) (e : Exit) :
    Tells (.find project region name)
      ((findPlan s project region name).map Reply.cluster).run.command e
      (((findPlan s project region name).map Reply.cluster).read e) := by
  have h := tellsAnswer_ifOk "Failed to list clusters. gcloud call failed."
    (findPlan s project region name).run.command readClusters
    (fun cs => .cluster (cs.find? fun c => c.name = name)) e fun f => unreadable_of_readClusters
  rw [← map_map (fun cs : List Cluster => cs.find? fun c => c.name = name) Reply.cluster] at h
  exact h

/-- The first master is the answer, and a cluster without one has none. -/
theorem tells_master (s : Settings) (project region name : String) (e : Exit) :
    Tells (.master project region name)
      ((masterPlan s project region name).map Reply.node).run.command e
      (((masterPlan s project region name).map Reply.node).read e) := by
  have h := tellsAnswer_ifOk "Failed to get master node name."
    (masterPlan s project region name).run.command (fun text => some <$> firstMaster name text)
    .node e fun f hf => unreadable_of_firstMaster ((some_map_error_iff _ f).1 hf)
  refine h.congr (fun x => ?_) (fun f => ?_)
  · constructor
    · rintro ⟨a, ha, rfl⟩
      obtain ⟨node, hn, rfl⟩ := (some_map_ok_iff _ a).1 ha
      obtain ⟨c, others, hc, hm⟩ := (firstMaster_ok_iff name _ node).1 hn
      exact ⟨c, node, others, hc, hm, rfl⟩
    · rintro ⟨c, node, others, hc, hm, rfl⟩
      have hn := (firstMaster_ok_iff name _ node).2 ⟨c, others, hc, hm⟩
      exact ⟨some node, (some_map_ok_iff _ _).2 ⟨node, hn, rfl⟩, rfl⟩
  · rw [some_map_error_iff, firstMaster_error_iff]

theorem tells_plan (s : Settings) {op : Operation} (h : op.misuse? = none) {p : Plan Reply}
    (hp : op.plan s = .ok p) (e : Exit) : Tells op p.run.command e (p.read e) := by
  cases op with
  | create name region options =>
    cases hp
    exact ⟨creation e, rfl, tellsCreation_creation e⟩
  | delete name region options =>
    cases hp
    rfl
  | submit kind file region options arguments =>
    rw [misuse?] at h
    split at h
    · cases h
    · rename_i hf
      rw [plan, submitPlan_of_file s region options arguments hf] at hp
      cases hp
      rfl
  | list project region filters =>
    cases hp
    exact tellsAnswer_ifOk _ _ readClusters .clusters e fun f => unreadable_of_readClusters
  | master project region name =>
    cases hp
    exact tells_master s project region name e
  | updateMetadata node options key value =>
    cases hp
    rfl
  | find project region name =>
    cases hp
    exact tells_find s project region name e

/-- What a live operation comes to, by what the caller asked for and by what the tool answered. -/
theorem live_outcome (s : Settings) (live : s.dryRun = false) (runner : Runner) (op : Operation) :
    (∀ m, op.misuse? = some m →
      op.perform s runner = { result := .error (.misuse m.message) }) ∧
    (op.misuse? = none → ∃ run : Run,
      (op.perform s runner).runs = [run] ∧ (op.perform s runner).announced = [] ∧
      run.capture = op.captures ∧
      (∀ failure, runner run = .error failure →
        (op.perform s runner).result = .error failure) ∧
      ∀ e, runner run = .ok e → Tells op run.command e (op.perform s runner).result) := by
  refine ⟨fun m hm => perform_of_misuse s runner hm, fun hnone => ?_⟩
  obtain ⟨p, hp, isPlan⟩ := exists_plan s hnone
  have htrace := p.perform_live_trace (show s.mode.dryRun = false from live) runner
  rw [perform_of_plan hp]
  refine ⟨p.run, htrace.1, htrace.2, isPlan.capture, ?_, ?_⟩
  · intro failure hfailure
    exact p.perform_live_error live hfailure
  · intro e he
    rw [p.perform_live_ok live isPlan.command he]
    exact tells_plan s hnone hp e

/-- A tool that ends well with a list where a cluster should be: the creation says so, and keeps
the text. -/
theorem live_outcome_unreadable :
    ({ verbose := true } : Settings).dryRun = false ∧ ∃ c m faults,
      ((create "c" "r" none).perform { verbose := true } (Tool.Stub.exits 0 "[]").runner).result =
        .ok (.creation c) ∧
      c.status = .unreadable ∧ c.get = .error (.unreadable m "[]" faults) := by
  obtain ⟨run, -, -, hcapture, -, h⟩ :=
    (live_outcome { verbose := true } rfl (Tool.Stub.exits 0 "[]").runner
      (create "c" "r" none)).2 rfl
  obtain ⟨c, hc, tells⟩ := h ⟨0, "[]"⟩ (by rw [Tool.Stub.runner, hcapture]; rfl)
  have hread : readCluster "[]" =
      .error (.ofFaults "cluster response" "Cluster" "[]" [⟨.notRecord, []⟩]) := by rfl
  have herror := (tells.error _).2 ⟨rfl, hread⟩
  have hstatus := tells.unreadable.2 ⟨rfl, _, hread⟩
  exact ⟨rfl, c, _, _, hc, hstatus, (tells.get_error _).2 ⟨hstatus, herror⟩⟩

end ClusterPilot.Operation
