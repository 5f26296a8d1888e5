import ReplicaSetOperator.Proofs.Operator.Upkeep

/-!
# Documents that are recognised

A uniform document is what its text says it is:

* `Document.parse_text`: it is read back from its text, whatever its names, versions and settings
  are, and whichever of them are left out because they are empty;
* `Document.eq_of_text`: so two of them with one text are one document;
* `Document.same_iff`: and the comparison that decides about a write, which forgets the sign of a
  zero priority, is equality on them.

A push therefore recognises a stored document that equals the built one, and writes any other
(`Configuration.stored_document_recognised`).
-/

namespace ReplicaSetOperator

namespace Document

variable {d e : Document}

/-- A uniform document is read back from its text. -/
theorem parse_text (uniform : d.Uniform) : parse d.text = .ok d := by
  have fromOctets := ofBytes_ofText uniform
  -- octets that are a text are read as that text
  rw [ofBytes, Bytes.text?_ofText] at fromOctets
  exact fromOctets

/-- The text of a uniform document determines it. -/
theorem eq_of_text (uniform : d.Uniform) (uniform' : e.Uniform) (same : e.text = d.text) :
    e = d := by
  have read : parse e.text = .ok d := by rw [same, parse_text uniform]
  rw [parse_text uniform'] at read
  exact Except.ok.inj read

/-- A priority of one has no sign to forget. -/
theorem Uniform.unsigned (uniform : d.Uniform) : d.unsigned = d := by
  have members : ∀ r ∈ d.replicaSets,
      { r with members := r.members.map fun m => { m with priority := m.priority.unsigned } } =
        r := by
    intro r inDocument
    have each : ∀ m ∈ r.members, { m with priority := m.priority.unsigned } = m := by
      intro m inSet
      have one := uniform r inDocument m inSet
      obtain ⟨id, host, priority, arbiterOnly, votes⟩ := m
      obtain rfl : priority = .one := one
      rfl
    rw [List.map_congr_left each, List.map_id']
  rw [Document.unsigned, List.map_congr_left members, List.map_id']

/-- On uniform documents the comparison is equality. -/
theorem same_iff (uniform : d.Uniform) (uniform' : e.Uniform) : d.same e = true ↔ e = d := by
  rw [same, uniform.isDefinite, Bool.true_and, decide_eq_true_eq, uniform.unsigned,
    uniform'.unsigned, eq_comm]

end Document

namespace Configuration

/-- A uniform document is read back from its text and from the octets of it, no other uniform
document has that text, and a push that finds it stored asks for a write exactly if the document
that it builds is another one. -/
theorem stored_document_recognised {d : Document} (uniform : d.Uniform) :
    Document.parse d.text = .ok d ∧ Document.ofBytes (Bytes.ofText d.text) = .ok d ∧
    (∀ e : Document, e.Uniform → e.text = d.text → e = d) ∧
    ∀ (c : Cluster) («namespace» : String) (m : Document → Document) (s : Server)
      (secret : Secret) (built : Document),
      c.metadata.namespace = some «namespace» →
      Request.Addressable Secret.objectType «namespace» c.configSecretName →
      KeptUnder «namespace» c.configSecretName
        (s.objects.find? (secretKey «namespace» c.configSecretName)) →
      seen (s.objects.find? (secretKey «namespace» c.configSecretName)) = .ok (some secret) →
      secret.data? documentKey = some (Bytes.ofText d.text) →
      (builder c «namespace» (some d) m).build = .ok built → built.Uniform →
      (push c m).Ensures Exchange.Served s fun es o s' =>
        (built = d →
          es.map (·.request) = [reading «namespace» c.configSecretName] ∧ o = .done d ∧ s' = s) ∧
        (built ≠ d → ∃ e ∈ es, e.request = writing c «namespace» (some secret) built) := by
  have fromOctets := Document.ofBytes_ofText uniform
  refine ⟨Document.parse_text uniform, fromOctets,
    fun e uniform' => Document.eq_of_text uniform uniform', ?_⟩
  intro c «namespace» m s secret d' inNamespace plain kept isSeen entry build uniform'
  -- what the push reads is the stored document, so that it builds the next one from it
  have isStored : stored (some secret) = .ok (some d) := by
    rw [stored, Option.bind_some, entry]
    dsimp only
    rw [fromOctets]
  have isBuilt : Configuration.built (builder c «namespace» (some d) m) = .done d' := by
    rw [Configuration.built, build]
  rw [push_eq inNamespace plain]
  refine .request fun response after served => ?_
  obtain ⟨unchanged, found⟩ := serve_reading s «namespace» c.configSecretName
  have served : s.serve (reading «namespace» c.configSecretName) = (after, response) := served
  rw [served] at unchanged found
  obtain rfl : after = s := unchanged
  rw [found, isSeen, continued_ok isStored, isBuilt]
  show Program.Ensures _ (if d.same d' then _ else _) _ _
  by_cases equal : d' = d
  · rw [if_pos ((Document.same_iff uniform uniform').2 equal)]
    exact .done ⟨fun _ => ⟨rfl, congrArg Outcome.done equal, rfl⟩, fun other => absurd equal other⟩
  · -- anything but the stored document is written
    have named := (names_of_seen kept isSeen).1
    obtain ⟨refusal, writes⟩ := write_eq d' plain named
    rw [if_neg fun same => equal ((Document.same_iff uniform uniform').1 same), writes]
    intro es o s' run
    cases run with
    | request met rest =>
      exact ⟨fun same => absurd same equal, fun _ => ⟨_, .tail _ (.head _), rfl⟩⟩

/-! ### A document with much to escape -/

/-- A cluster, in an example, whose versions hold quotes, blanks and characters of all lengths. -/
def quoting : Cluster where
  metadata := { name := some "db", «namespace» := some "prod" }
  spec :=
    { members := 2, version := "6.0 \"\\/\u0000\n\u001fü€😀",
      featureCompatibilityVersion := some "" }

/-- The change of its documents. -/
def quotingChange : Change := .tls .preferred "\"file\".pem"

/-- Its first document. -/
def quoted : Document :=
  { (builder quoting "prod" none quotingChange.apply).modified with version := 1 }

/-- A server that holds the document. -/
def quotingServer : Server where
  objects := [(secretKey "prod" "db-config", storedAs quoting "prod" quoted none none)]

/-- The document of the example is built. -/
theorem build_quoted : (builder quoting "prod" none quotingChange.apply).build = .ok quoted := by
  rw [quotingChange, build_eq]
  rfl

/-- The document is read back from its text, and is not written a second time. -/
theorem quoted_document_recognised :
    quoted.Uniform ∧ Document.parse quoted.text = .ok quoted ∧
    ∃ es, (push quoting quotingChange.apply).Runs Exchange.Served quotingServer es (.done quoted)
        quotingServer ∧ es.map (·.request) = [reading "prod" "db-config"] := by
  have uniform : quoted.Uniform := uniform_of_build build_quoted
  obtain ⟨parsed, -, -, pushes⟩ := stored_document_recognised uniform
  -- the secret that holds the document can be read, and it has the names of its key
  have legible : Legible "prod" "db-config" (some (storedAs quoting "prod" quoted none none)) :=
    legible_storedAs (c := quoting) quoted (fun _ mem => (Option.not_mem_none _ mem).elim)
      (fun _ mem => (Option.not_mem_none _ mem).elim) none
  have entry : (Secret.format.read (storedAs quoting "prod" quoted none none)).reread.data?
      documentKey = some (Bytes.ofText quoted.text) := by
    have data := @data_storedAs quoting "prod" quoted none none
    have data : (Secret.format.read (storedAs quoting "prod" quoted none none)).reread.data =
        some (entries quoted) := data
    rw [Secret.data?, data, Option.bind_some, entries]
    exact List.lookup_cons_self
  obtain ⟨es, o, s', run⟩ := Program.exists_runs
    (fun s r => ⟨_, _, Exchange.served_exchange s r⟩) (push quoting quotingChange.apply)
    quotingServer
  obtain ⟨recognised, -⟩ := pushes quoting "prod" quotingChange.apply quotingServer _ quoted rfl
    (by decide) legible.kept legible.seen_eq entry (build_again uniform.isDefinite build_quoted)
    uniform es o s' run
  obtain ⟨requests, rfl, rfl⟩ := recognised rfl
  exact ⟨uniform, parsed, es, run, requests⟩

end Configuration

end ReplicaSetOperator
