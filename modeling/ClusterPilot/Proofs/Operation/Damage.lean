/-
Output that is not UTF-8. Each damaged stretch of it becomes one replacement character, and a
response that is read as JSON can hold that character in its quoted texts and nowhere else. So
output with a damaged stretch at any other place is told as unreadable by every operation that reads
it. Damage inside a quoted text is not noticed: it is read as a text with the replacement character.
-/
import ClusterPilot.Host.Machine
import ClusterPilot.Proofs.Json.Quoting
import ClusterPilot.Proofs.Operation.Outcome
import ClusterPilot.Proofs.Text.Newline

namespace ClusterPilot

open Json (Quoting quoting)

/-! ## Line ends -/

/-- Line ends are neither quotes nor backslashes, in whatever spelling. -/
theorem quoting_unifyNewlines (cs : List Char) : quoting (Text.unifyNewlines cs) = quoting cs := by
  have lone : ∀ q : Quoting, q.step '\r' = q.step '\n' := by
    intro q
    cases q <;> rfl
  have pair : ∀ q : Quoting, (q.step '\r').step '\n' = q.step '\n' := by
    intro q
    cases q <;> rfl
  exact Text.foldl_unifyNewlines lone pair .outside cs

/-! ## Damaged stretches -/

open Text.Utf8 (pieces replacement decode? decodeAfter? decodeLossy)

/-- Some stretch is damaged that does not stand in the quoted texts, or that stands right after a
backslash in one. -/
def StrayDamage (bytes : List UInt8) : Prop :=
  ∃ before after, pieces none bytes = before ++ none :: after ∧
    quoting (before.map (·.getD replacement)) ≠ .inside

/-- Output with such damage is no UTF-8. -/
theorem StrayDamage.decode?_eq_none {bytes : List UInt8} (h : StrayDamage bytes) :
    decode? bytes = none := by
  obtain ⟨before, after, hpieces, -⟩ := h
  unfold decode? decodeAfter?
  rw [hpieces, List.mapM_append]
  cases before.mapM id with
  | none => rfl
  | some cs => rw [List.mapM_cons]; rfl

/-- The text of such output is no JSON text. -/
theorem StrayDamage.read?_eq_none {bytes : List UInt8} (h : StrayDamage bytes) :
    Json.Value.read? (Host.captured bytes) = none := by
  obtain ⟨before, after, hpieces, hstray⟩ := h
  have hdecode : decodeLossy bytes = before.map (·.getD replacement) ++
      replacement :: after.map (·.getD replacement) := by
    rw [decodeLossy, hpieces, List.map_append, List.map_cons]
    rfl
  have htext : (Host.captured bytes).toList =
      Text.unifyNewlines (before.map (·.getD replacement)) ++
        replacement :: Text.unifyNewlines (after.map (·.getD replacement)) := by
    rw [Host.captured, String.toList_ofList, hdecode,
      Text.unifyNewlines_append_cons (by decide) (by decide)]
  have hquoting : quoting (Text.unifyNewlines (before.map (·.getD replacement))) ≠ .inside := by
    rwa [quoting_unifyNewlines]
  rw [Json.Value.read?, htext, Json.tokens?_of_isForeign (by decide) hquoting]
  rfl

namespace Operation

open Tool (Runner)

/-- The failure of a response that is no JSON text. -/
def malformed (what subject text : String) : Failure :=
  .unreadable ("Unexpected " ++ what ++ ": 1 validation error for " ++ subject) text
    (some [⟨.malformed, []⟩])

theorem readCluster_of_read? {text : String} (h : Json.Value.read? text = none) :
    readCluster text = .error (malformed "cluster response" "Cluster" text) := by
  rw [readCluster, Response.one, Response.ofText, h]
  rfl

theorem readClusters_of_read? {text : String} (h : Json.Value.read? text = none) :
    readClusters text = .error (malformed "cluster list response" "list[Cluster]" text) := by
  rw [readClusters, Response.many, Response.ofText, h]
  rfl

/-- A tool that prints some bytes and ends well. -/
def printing (bytes : List UInt8) : Runner := fun run =>
  .ok ⟨0, if run.capture then Host.captured bytes else ""⟩

/-- An operation tells that the output of its run is no JSON text. -/
def TellsMalformed (text : String) (result : Except Failure Reply) : Operation → Prop
  | create .. => ∃ c, result = .ok (.creation c) ∧ c.status = .unreadable ∧ c.cluster = none ∧
      c.get = .error (malformed "cluster response" "Cluster" text)
  | list .. | find .. => result = .error (malformed "cluster list response" "list[Cluster]" text)
  | master .. => result = .error (malformed "cluster response" "Cluster" text)
  | delete .. | submit .. | updateMetadata .. => True

theorem tellsMalformed_of_read? {text : String} (h : Json.Value.read? text = none)
    {op : Operation} {command : List String} {result : Except Failure Reply}
    (tells : Tells op command ⟨0, text⟩ result) : TellsMalformed text result op := by
  cases op with
  | create name region options =>
    obtain ⟨c, hc, tells⟩ := tells
    have hread := readCluster_of_read? h
    have hstatus := tells.unreadable.2 ⟨rfl, _, hread⟩
    refine ⟨c, hc, hstatus, ?_, (tells.get_error _).2 ⟨hstatus, (tells.error _).2 ⟨rfl, hread⟩⟩⟩
    rw [Option.eq_none_iff_forall_ne_some]
    intro cluster hcluster
    have hok := ((tells.cluster cluster).1 hcluster).2
    rw [hread] at hok
    cases hok
  | list project region filters => exact (tells.unreadable _ _ _).2 ⟨rfl, rfl, readClusters_of_read? h⟩
  | find project region name => exact (tells.unreadable _ _ _).2 ⟨rfl, rfl, readClusters_of_read? h⟩
  | master project region name =>
    exact (tells.unreadable _ _ _).2 ⟨rfl, rfl, .inl (readCluster_of_read? h)⟩
  | delete | submit | updateMetadata => trivial

/-- Damage outside the quoted texts is told by every operation that reads output, and no cluster is
read from such output. -/
theorem stray_damage_unreadable {bytes : List UInt8} (h : StrayDamage bytes) {s : Settings}
    (live : s.dryRun = false) (op : Operation) :
    TellsMalformed (Host.captured bytes) (op.perform s (printing bytes)).result op := by
  cases hmisuse : op.misuse? with
  | some m =>
    cases op with
    | submit => trivial
    | _ => cases hmisuse
  | none =>
    obtain ⟨run, -, -, hcapture, -, tells⟩ := (live_outcome s live (printing bytes) op).2 hmisuse
    cases hop : op.captures with
    | true =>
      refine tellsMalformed_of_read? h.read?_eq_none (tells ⟨0, Host.captured bytes⟩ ?_)
      rw [printing, hcapture, hop]
      rfl
    | false => cases op <;> trivial

/-- A list of two bytes that begin no character. -/
theorem stray_damage_unreadable_list :
    StrayDamage [0x5b, 0xff, 0xfe, 0x5d] ∧ ({} : Settings).dryRun = false ∧
      ((list "p" "r" none).perform {} (printing [0x5b, 0xff, 0xfe, 0x5d])).result =
        .error (.unreadable "Unexpected cluster list response: 1 validation error for list[Cluster]"
          "[\ufffd\ufffd]" (some [⟨.malformed, []⟩])) := by
  have hstray : StrayDamage [0x5b, 0xff, 0xfe, 0x5d] :=
    ⟨[some '['], [none, some ']'], by decide +kernel, by decide⟩
  exact ⟨hstray, rfl, stray_damage_unreadable hstray rfl (list "p" "r" none)⟩

/-- A cluster whose name is one byte that begins no character. -/
def damagedName : List UInt8 :=
  "\x7b\"clusterName\":\"".toUTF8.toList ++ 0xff ::
    "\",\"config\":\x7b\"masterConfig\":\x7b\x7d\x7d\x7d".toUTF8.toList

/-- Damage in a quoted text is not told: the cluster is created with another name. -/
theorem damaged_name_created :
    decode? damagedName = none ∧ ∃ c,
      ((create "c" "r" none).perform {} (printing damagedName)).result = .ok (.creation c) ∧
      c.status = .created ∧ c.cluster.map Cluster.name = some "\ufffd" := by
  have hname : (readCluster (Host.captured damagedName)).map Cluster.name = .ok "\ufffd" := by
    decide +kernel
  refine ⟨by decide +kernel, creation ⟨0, Host.captured damagedName⟩, rfl, ?_⟩
  have tells := tellsCreation_creation ⟨0, Host.captured damagedName⟩
  cases hread : readCluster (Host.captured damagedName) with
  | error f =>
    rw [hread] at hname
    cases hname
  | ok cluster =>
    rw [hread] at hname
    refine ⟨tells.created.2 ⟨rfl, cluster, hread⟩, ?_⟩
    rw [(tells.cluster cluster).2 ⟨rfl, hread⟩, Option.map_some, Except.ok.inj hname]

end Operation

end ClusterPilot
