import ReplicaSetOperator.Operator.Configuration
import ReplicaSetOperator.Proofs.Automation.Versions
import ReplicaSetOperator.Proofs.Server.Objects

/-!
# What a push does

A push reads the secret with the document (`Configuration.push_eq`), and then it fails, keeps what
is there, or sends one request that writes the document that follows
(`Configuration.continued_cases`). The server accepts the write only if the secret is still the one
that was read (`Configuration.serve_writing`).
-/

namespace ReplicaSetOperator

namespace Configuration

/-! ### The reading -/

/-- What a push does once it has read the secret, or has failed to. -/
def continued (c : Cluster) («namespace» : String) (m : Document → Document)
    (read : Except Failure (Option Secret)) : Program Failure Document := do
  let existing ← .ofExcept read
  let previous ← .ofExcept (stored existing)
  let d ← built (builder c «namespace» previous m)
  if previous.any (·.same d) then pure d
  else
    write c «namespace» existing d
    pure d

/-- The request that reads the secret of a cluster. -/
def reading («namespace» name : String) : Request :=
  .about .get Secret.objectType «namespace» name .none

variable {c : Cluster} {«namespace» : String} {m : Document → Document}

/-- A push reads the secret of the cluster, and goes on with what has been found. -/
theorem push_eq (inNamespace : c.metadata.namespace = some «namespace»)
    (plain : Request.Addressable Secret.objectType «namespace» c.configSecretName) :
    push c m =
      .request (reading «namespace» c.configSecretName) fun r =>
        continued c «namespace» m (Secret.stored.found r) := by
  have named : c.namespaced = .ok «namespace» := by rw [Cluster.namespaced, inNamespace]
  rw [push, named]
  show (Program.read Secret.stored «namespace» c.configSecretName).bind _ = _
  rw [Storable.read_eq (t := Secret.stored) plain]
  rfl

/-! ### The writing -/

/-- The secret with a document in the place of the one that was read, if there was one. -/
def updated (c : Cluster) («namespace» : String) (d : Document) : Option Secret → Secret
  | some secret => { secret with data := some (entries d) }
  | none => newSecret c «namespace» d

/-- How the secret is written: in the place of the one that was read, if there was one. -/
def writingVerb : Option Secret → Verb
  | some _ => .replace
  | none => .create

/-- The request that writes a document. -/
def writing (c : Cluster) («namespace» : String) (existing : Option Secret) (d : Document) :
    Request :=
  .about (writingVerb existing) Secret.objectType «namespace» c.configSecretName
    (.value (Client.sent Secret.stored.toResource (updated c «namespace» d existing)))

/-- What a push comes to once its writing is answered. -/
def concluded (d : Document) (refusal : ClientError → StoreError) (r : Response) :
    Program Failure Document :=
  match r.decode Secret.stored.toResource with
  | .ok _ => .done d
  | .error e => .fail (.plain (.writeFailed (refusal e)))

/-- The names of a secret that has been read are those under which it was looked for. -/
def Named («namespace» name : String) (existing : Option Secret) : Prop :=
  ∀ secret ∈ existing, secret.metadata.namespace = some «namespace» ∧
    secret.metadata.name = some name

/-- A document is written in one request, and the answer decides what comes of it. -/
theorem write_eq {existing : Option Secret} (d : Document)
    (plain : Request.Addressable Secret.objectType «namespace» c.configSecretName)
    (named : Named «namespace» c.configSecretName existing) :
    ∃ refusal, ((write c «namespace» existing d).bind fun _ => .done d) =
      .request (writing c «namespace» existing d) (concluded d refusal) := by
  -- without a secret it is created, and else replaced under its own names
  cases existing with
  | none =>
    refine ⟨Store.createError Secret.objectType.kind «namespace» c.configSecretName, ?_⟩
    rw [write, Storable.create_eq (t := Secret.stored) plain rfl rfl]
    refine congrArg (Program.request _) (funext fun r => ?_)
    rw [concluded]
    dsimp only
    cases r.decode Secret.stored.toResource <;> rfl
  | some secret =>
    obtain ⟨inNamespace, name⟩ := named secret rfl
    refine ⟨Store.updateError Secret.objectType.kind «namespace» c.configSecretName, ?_⟩
    rw [write, Storable.update_eq (t := Secret.stored)
      (a := { secret with data := some (entries d) }) plain inNamespace name]
    refine congrArg (Program.request _) (funext fun r => ?_)
    rw [concluded]
    dsimp only
    cases r.decode Secret.stored.toResource <;> rfl

/-- What a push does once it has read the secret: it stops without a document, or keeps the stored
one, or writes the one that follows. -/
inductive Course (c : Cluster) («namespace» : String) (m : Document → Document)
    (read : Except Failure (Option Secret)) : Program Failure Document → Prop
  | fails (f : Failure) : Course c «namespace» m read (.fail f)
  | overflows : Course c «namespace» m read .overflow
  | keeps {existing : Option Secret} {p d : Document} (isRead : read = .ok existing)
    (held : stored existing = .ok (some p)) (same : p.same d = true)
    (build : (builder c «namespace» (some p) m).build = .ok d) :
    Course c «namespace» m read (.done d)
  | writes {existing : Option Secret} {previous : Option Document} {d : Document}
    (refusal : ClientError → StoreError) (isRead : read = .ok existing)
    (held : stored existing = .ok previous) (follows : d.Follows previous)
    (build : (builder c «namespace» previous m).build = .ok d) :
    Course c «namespace» m read
      (.request (writing c «namespace» existing d) (concluded d refusal))

/-- A push that has read a document, or that there is none, builds the next one. -/
theorem continued_ok {existing : Option Secret} {previous : Option Document}
    (held : stored existing = .ok previous) :
    continued c «namespace» m (.ok existing) =
      (built (builder c «namespace» previous m)).bind fun d =>
        if previous.any (·.same d) then .done d
        else (write c «namespace» existing d).bind fun _ => .done d := by
  show (Program.ofExcept (stored existing)).bind _ = _
  rw [held]
  rfl

/-- Of the courses of a push one is taken, whatever has been read. -/
theorem continued_cases {read : Except Failure (Option Secret)}
    (plain : Request.Addressable Secret.objectType «namespace» c.configSecretName)
    (named : ∀ existing, read = .ok existing → Named «namespace» c.configSecretName existing) :
    Course c «namespace» m read (continued c «namespace» m read) := by
  -- a reading that has failed, a document that cannot be read, or one to go on from
  cases read with
  | error f => exact .fails f
  | ok existing =>
    cases held : stored existing with
    | error f =>
      have whole : continued c «namespace» m (.ok existing) = .fail f := by
        show (Program.ofExcept (stored existing)).bind _ = _
        rw [held]
        rfl
      rw [whole]
      exact .fails f
    | ok previous =>
      rw [continued_ok held, built]
      -- the next document is built from the stored one
      cases build : (builder c «namespace» previous m).build with
      | error e =>
        cases e with
        | versionOverflow => exact .overflows
        | inconsistent i => exact .fails _
      | ok d =>
        show Course c «namespace» m _ (if previous.any (·.same d) then .done d
          else (write c «namespace» existing d).bind fun _ => .done d)
        split
        · next unchanged =>
          obtain ⟨p, rfl, same⟩ := (Option.any_eq_true _ _).1 unchanged
          exact .keeps rfl held same build
        · next changed =>
          -- a document that is not the stored one takes the next version
          have follows : d.Follows previous := by
            rcases Builder.follows_of_build build with ⟨p, there, same⟩ | follows
            · have there : previous = some p := there
              rw [there] at changed
              exact absurd same changed
            · exact follows
          obtain ⟨refusal, same⟩ := write_eq d plain (named existing rfl)
          rw [same]
          exact .writes refusal rfl held follows build

/-! ### What the server holds -/

/-- The key of the secret with the document. -/
def secretKey («namespace» name : String) : ObjectKey :=
  ⟨Secret.objectType.kind, «namespace», name⟩

/-- What the secret is read as when the server has a given object, or none. -/
def seen : Option Json → Except Failure (Option Secret)
  | none => .ok none
  | some object =>
    if (Secret.format.fault .value object).isNone then
      .ok (some (Secret.format.read object).reread)
    else .error (.plain (.readFailed (.client .undecodable)))

/-- The document that an object of the server holds, or that there is none. -/
def held (object : Option Json) : Except Failure (Option Document) :=
  match seen object with
  | .ok existing => stored existing
  | .error f => .error f

/-- How often an object has been written; nothing has not been. -/
def age : Option Json → Nat
  | none => 0
  | some object => object.stamp + 1

/-- An object of the server, or none, as it is kept. -/
def KeptUnder («namespace» name : String) (object : Option Json) : Prop :=
  ∀ j ∈ object, j.Kept (secretKey «namespace» name)

/-- Reading the secret changes nothing, and shows what is there. -/
theorem serve_reading (s : Server) («namespace» name : String) :
    (s.serve (reading «namespace» name)).1 = s ∧
    Secret.stored.found (s.serve (reading «namespace» name)).2 =
      seen (s.objects.find? (secretKey «namespace» name)) := by
  have stored : Secret.objectType.kind ≠ "Event" := by simp [Secret.objectType]
  rw [reading, Server.serve_get stored]
  refine ⟨rfl, ?_⟩
  have same : secretKey «namespace» name = ⟨Secret.objectType.kind, «namespace», name⟩ := rfl
  rw [same]
  cases s.objects.find? ⟨Secret.objectType.kind, «namespace», name⟩ with
  | none => exact Storable.found_absent Secret.stored name
  | some object => exact Storable.found_holding Secret.stored (by omega) object

/-- A secret that has been read says what it is called and which version it has. -/
theorem names_of_seen {name : String} {object : Option Json} {existing : Option Secret}
    (kept : KeptUnder «namespace» name object) (h : seen object = .ok existing) :
    Named «namespace» name existing ∧
    (∀ secret ∈ existing, secret.metadata.Tidy) ∧
    existing.map (·.metadata.resourceVersion) = object.map Json.resourceVersion? := by
  cases object with
  | none =>
    obtain rfl : none = existing := Except.ok.inj h
    exact ⟨fun _ mem => (Option.not_mem_none _ mem).elim,
      fun _ mem => (Option.not_mem_none _ mem).elim, rfl⟩
  | some j =>
    rw [seen] at h
    split at h
    · obtain rfl := Except.ok.inj h
      obtain ⟨inNamespace, named, version⟩ := (kept j rfl).secret
      refine ⟨?_, ?_, congrArg some version⟩
      · rintro secret ⟨⟩
        exact ⟨inNamespace, named⟩
      · rintro secret ⟨⟩
        -- metadata are tidy as soon as they have been read
        have tidy : (Secret.format.read j).metadata.Tidy := by
          show (ObjectMeta.format.presentD "metadata" {} j).Tidy
          rw [Format.presentD, Format.present?]
          cases Lenient.present? "metadata" j with
          | none => exact ObjectMeta.tidy_of_other_eq_nil rfl
          | some metadata => exact ObjectMeta.tidy_read metadata
        exact tidy.reread
    · cases h

/-- What is written has the names of the secret that was read. -/
theorem updated_metadata {name : String} {existing : Option Secret} (d : Document)
    (cluster : c.configSecretName = name) (named : Named «namespace» name existing)
    (tidy : ∀ secret ∈ existing, secret.metadata.Tidy) :
    (updated c «namespace» d existing).metadata.namespace = some «namespace» ∧
    (updated c «namespace» d existing).metadata.name = some name ∧
    (updated c «namespace» d existing).metadata.Tidy := by
  cases existing with
  | none => exact ⟨rfl, congrArg some cluster, ObjectMeta.tidy_of_other_eq_nil rfl⟩
  | some secret => exact ⟨(named secret rfl).1, (named secret rfl).2, tidy secret rfl⟩

/-- The object that the server stores for a document, over an old one or none. -/
def storedAs (c : Cluster) («namespace» : String) (d : Document) (existing : Option Secret)
    (old : Option Json) : Json :=
  (Client.sent Secret.stored.toResource (updated c «namespace» d existing)).stamped old

/-- So it is kept under them. -/
theorem kept_storedAs {name : String} {existing : Option Secret} (d : Document)
    (cluster : c.configSecretName = name) (named : Named «namespace» name existing)
    (tidy : ∀ secret ∈ existing, secret.metadata.Tidy) (old : Option Json) :
    (storedAs c «namespace» d existing old).Kept (secretKey «namespace» name) := by
  obtain ⟨inNamespace, isNamed, isTidy⟩ := updated_metadata d cluster named tidy
  exact Json.kept_secret (s := (updated c «namespace» d existing).reread) isTidy.reread inNamespace
    isNamed old

/-- Its only entry is the document. -/
theorem data_storedAs (d : Document) (existing : Option Secret) (old : Option Json) :
    (Secret.format.read (storedAs c «namespace» d existing old)).data = some (entries d) := by
  have data := Json.data_stamped (updated c «namespace» d existing).reread old
  cases existing with
  | none => exact data
  | some secret => exact data

/-- The document that is read from a secret with a document as its entry. -/
theorem stored_entries {s : Secret} {d : Document} (h : s.data = some (entries d)) :
    stored (some s) =
      match Document.ofBytes (Bytes.ofText d.text) with
      | .ok e => .ok (some e)
      | .error e => .error (.plain (.json e)) := by
  have there : (some s : Option Secret).bind (·.data? documentKey) =
      some (Bytes.ofText d.text) := by
    rw [Option.bind_some, Secret.data?, h, Option.bind_some, entries]
    exact List.lookup_cons_self
  cases decoded : Document.ofBytes (Bytes.ofText d.text) with
  | ok e => simp only [stored, there, decoded]
  | error e => simp only [stored, there, decoded]

/-- The server accepts a document only over the object that was read, and refuses it otherwise. -/
theorem serve_writing {s : Server} {name : String} {read : Option Json}
    {existing : Option Secret} (d : Document) (cluster : c.configSecretName = name)
    (kept : KeptUnder «namespace» name read) (isRead : seen read = .ok existing) :
    (age (s.objects.find? (secretKey «namespace» name)) = age read ∧
      ∃ code, 200 ≤ code ∧ code < 400 ∧ s.serve (writing c «namespace» existing d) =
        s.accept code (secretKey «namespace» name)
          (Client.sent Secret.stored.toResource (updated c «namespace» d existing))) ∨
    s.objects.find? (secretKey «namespace» name) ≠ read ∧
      ∃ r : Response, r.isFailure = true ∧ s.serve (writing c «namespace» existing d) = (s, r) := by
  -- what is sent has the version of what was read, or none if there was nothing
  obtain ⟨named, tidy, versions⟩ := names_of_seen kept isRead
  obtain ⟨-, -, isTidy⟩ := updated_metadata d cluster named tidy
  have isStored : Secret.objectType.kind ≠ "Event" := by simp [Secret.objectType]
  have version : (Client.sent Secret.stored.toResource
      (updated c «namespace» d existing)).resourceVersion? =
      (updated c «namespace» d existing).metadata.resourceVersion :=
    Json.resourceVersion?_secret (s := (updated c «namespace» d existing).reread) isTidy.reread
  -- without a secret it is created, which needs that there is none by now
  cases existing with
  | none =>
    have absent : read = none := by
      cases read with
      | none => rfl
      | some j => cases versions
    rw [writing, writingVerb, cluster, Server.serve_create isStored]
    change (age (s.objects.find? (secretKey «namespace» name)) = _ ∧ _) ∨ _
    cases now : s.objects.find? (secretKey «namespace» name) with
    | none =>
      rw [secretKey] at now
      rw [now, absent]
      exact .inl ⟨rfl, 201, by omega, by omega, rfl⟩
    | some old =>
      rw [secretKey] at now
      rw [now, absent]
      exact .inr ⟨by rintro ⟨⟩, _, Response.isFailure_failing (by omega) _ _, rfl⟩
  | some secret =>
    cases read with
    | none => cases versions
    | some j =>
      -- with one it is replaced, which needs the version that has been read
      have readVersion : secret.metadata.resourceVersion = j.resourceVersion? :=
        Option.some.inj versions
      obtain ⟨v, isVersion⟩ := (kept j rfl).versioned
      have sentVersion : (Client.sent Secret.stored.toResource
          (updated c «namespace» d (some secret))).resourceVersion? = some v := by
        rw [version, ← isVersion, ← readVersion]
        rfl
      rw [writing, writingVerb, cluster, Server.serve_replace isStored, sentVersion]
      change (age (s.objects.find? (secretKey «namespace» name)) = _ ∧ _) ∨ _
      cases now : s.objects.find? (secretKey «namespace» name) with
      | none =>
        rw [secretKey] at now
        rw [now]
        exact .inr ⟨by rintro ⟨⟩, _, Response.isFailure_failing (by omega) _ _, rfl⟩
      | some old =>
        rw [secretKey] at now
        rw [now]
        by_cases same : old.resourceVersion? = some v
        · refine .inl ⟨?_, 200, by omega, by omega, ?_⟩
          · rw [age, age, Json.stamp, Json.stamp, same, isVersion]
          · simp [same, secretKey]
        · refine .inr ⟨?_, .failing 409 "Conflict" (name ++ " has been modified"),
            Response.isFailure_failing (by omega) _ _, by simp [same]⟩
          rintro ⟨⟩
          exact same isVersion

end Configuration

end ReplicaSetOperator
