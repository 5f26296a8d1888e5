import ReplicaSetOperator.Proofs.Automation.DocumentText
import ReplicaSetOperator.Proofs.Automation.Switches
import ReplicaSetOperator.Proofs.Operator.Provision

/-!
# A push by itself

What a push of the TLS settings leaves behind, whatever is refused: the secret with the document is
left as it was, or it holds the document that was built (`Configuration.push_ensures`), in which
every process has the settings that were asked for (`Configuration.settings_of_build`).
-/

namespace ReplicaSetOperator

/-- Settings say which mode they are for. -/
theorem TlsSettings.mode_running (mode : TlsMode) (file : String) :
    (running mode file).mode = mode := by
  cases mode <;> rfl

namespace Configuration

variable {c : Cluster} {«namespace» : String} {mode : TlsMode} {file : String}
  {previous : Option Document} {d : Document}

/-! ### The document that is built -/

/-- A document for the TLS mode of all members, with the certificate in a given file. -/
abbrev tlsBuilder (c : Cluster) («namespace» : String) (previous : Option Document)
    (mode : TlsMode) (file : String) : Builder :=
  builder c «namespace» previous (Change.apply (.tls mode file))

/-- Every process of the document has the same settings, so that it is uniform. -/
theorem uniform_of_build (h : (tlsBuilder c «namespace» previous mode file).build = .ok d) :
    d.Uniform := by
  rw [Builder.eq_of_build h]
  intro r mem m member
  obtain rfl := List.mem_singleton.1 mem
  obtain ⟨i, lt, rfl⟩ := List.mem_iff_getElem.1 member
  rw [List.getElem_mapIdx]
  rfl

/-- The document to be built is consistent. -/
theorem validate_modified :
    (tlsBuilder c «namespace» previous mode file).modified.validate = .ok () :=
  Document.validate_switchTls mode file (tlsBuilder c «namespace» previous mode file).base

/-- Only the versions can run out. -/
theorem build_eq : (tlsBuilder c «namespace» previous mode file).build =
    (Builder.nextVersion previous (tlsBuilder c «namespace» previous mode file).modified).map
      fun version =>
        { (tlsBuilder c «namespace» previous mode file).modified with version := version } := by
  have follows : (tlsBuilder c «namespace» previous mode file).previous = previous := rfl
  rw [Builder.build, follows]
  cases Builder.nextVersion previous (tlsBuilder c «namespace» previous mode file).modified with
  | error e => rfl
  | ok version =>
    have valid : ({ (tlsBuilder c «namespace» previous mode file).modified with
        version := version } : Document).validate = .ok () :=
      @validate_modified c «namespace» mode file previous
    simp only [valid]
    rfl

/-- In a list with an item for every rank, the place of an item is its rank. -/
theorem mapIdx_map_range {α β : Type} (f : Nat → α → β) (g : Nat → α) (n : Nat) :
    ((List.range n).map g).mapIdx f = (List.range n).map fun i => f i (g i) := by
  refine List.ext_getElem ?_ fun i _ _ => ?_
  · rw [List.length_mapIdx, List.length_map, List.length_map]
  · rw [List.getElem_mapIdx, List.getElem_map, List.getElem_map, List.getElem_range]

/-- Every process of the document has the settings that were asked for. -/
theorem settings_of_build (h : (tlsBuilder c «namespace» previous mode file).build = .ok d) :
    ∀ p ∈ d.processes, p.tls = .running mode file := by
  rw [Builder.eq_of_build h]
  intro p mem
  obtain ⟨q, -, rfl⟩ := List.mem_map.1 mem
  rfl

/-- There is a process for each member, on its host. -/
theorem processes_of_build (h : (tlsBuilder c «namespace» previous mode file).build = .ok d) :
    d.processes = (List.range c.spec.members.toInt.toNat).map fun i =>
      ((tlsBuilder c «namespace» previous mode file).process i (c.host «namespace» i)).withTls
        (.running mode file) := by
  have shape : d.processes = (((c.hosts «namespace»).mapIdx
      (tlsBuilder c «namespace» previous mode file).process).map
        (·.withTls (.running mode file))) := congrArg Document.processes (Builder.eq_of_build h)
  rw [shape, Cluster.hosts, mapIdx_map_range, List.map_map]
  rfl

/-- There are as many processes as members. -/
theorem length_processes_of_build
    (h : (tlsBuilder c «namespace» previous mode file).build = .ok d) :
    d.processes.length = c.spec.members.toInt.toNat := by
  rw [processes_of_build h, List.length_map, List.length_range]

/-! ### The secret that holds it -/

variable {m : Document → Document}

/-- A uniform document is read from the secret that it was put into. -/
theorem stored_of_uniform {secret : Secret} {d : Document} (uniform : d.Uniform)
    (h : secret.data = some (entries d)) : stored (some secret) = .ok (some d) := by
  rw [stored_entries h, Document.ofBytes_ofText uniform]

/-- The document that is held once one has been stored, if the secret can be read. -/
theorem held_storedAs {d e : Document} {existing : Option Secret} {old : Option Json}
    (uniform : d.Uniform)
    (h : held (some (storedAs c «namespace» d existing old)) = .ok (some e)) : e = d := by
  rw [held, seen] at h
  split at h
  · next existing isRead =>
    split at isRead
    · obtain rfl := Except.ok.inj isRead
      have data := @data_storedAs c «namespace» d existing old
      have stored := @stored_of_uniform (Secret.format.read _).reread d uniform data
      rw [stored] at h
      exact (Option.some.inj (Except.ok.inj h)).symm
    · cases isRead
  · cases h

/-- The document that is held once one has been stored in a secret that can be read. -/
theorem held_of_legible {d : Document} {existing : Option Secret} {old : Option Json}
    {name : String} (uniform : d.Uniform)
    (legible : Legible «namespace» name (some (storedAs c «namespace» d existing old))) :
    held (some (storedAs c «namespace» d existing old)) = .ok (some d) := by
  rw [held, legible.seen_eq]
  exact stored_of_uniform uniform (data_storedAs d existing old)

/-- Metadata that have been read from the server are sound. -/
theorem sound_of_seen {object : Option Json} {existing : Option Secret}
    (h : seen object = .ok existing) : ∀ secret ∈ existing, secret.metadata.Sound := by
  cases object with
  | none =>
    obtain rfl : none = existing := Except.ok.inj h
    exact fun _ mem => (Option.not_mem_none _ mem).elim
  | some j =>
    rw [seen] at h
    split at h
    · next fine =>
      obtain rfl := Except.ok.inj h
      rintro secret ⟨⟩
      exact (Secret.sound_read (Option.isNone_iff_eq_none.1 fine)).reread
    · cases h

/-- The secret that a document is stored in can be read, if the one before could be. -/
theorem legible_storedAs (d : Document) {existing : Option Secret}
    (named : Named «namespace» c.configSecretName existing)
    (sound : ∀ secret ∈ existing, secret.metadata.Sound) (old : Option Json) :
    Legible «namespace» c.configSecretName (some (storedAs c «namespace» d existing old)) := by
  cases existing with
  | none =>
    exact .of_sent (x := newSecret c «namespace» d) (ObjectMeta.sound_of_new rfl rfl rfl) rfl rfl
      old
  | some secret =>
    obtain ⟨inNamespace, isNamed⟩ := named secret rfl
    exact .of_sent (x := { secret with data := some (entries d) }) (sound secret rfl) inNamespace
      isNamed old

/-! ### Runs of a push -/

/-- What a push leaves behind, and what follows it: the secret as it was, with the document in it if
there is a result, or the document that was built. No other secret is touched. -/
def Pushed {α : Type} (c : Cluster) («namespace» : String) (m : Document → Document) (s : Server)
    (es : List Exchange) (o : Outcome Failure α) (s' : Server) : Prop :=
  (∀ other : ObjectKey, other.kind = Secret.objectType.kind →
      other ≠ secretKey «namespace» c.configSecretName → Untouched other s es s') ∧
    (Untouched (secretKey «namespace» c.configSecretName) s es s' ∧
        (∀ a, o = .done a → ∃ p d,
          held (s.objects.find? (secretKey «namespace» c.configSecretName)) = .ok (some p) ∧
          p.same d = true ∧ (builder c «namespace» (some p) m).build = .ok d) ∨
      Written (secretKey «namespace» c.configSecretName) es ∧ ∃ previous d existing old,
        (builder c «namespace» previous m).build = .ok d ∧
        s'.objects.find? (secretKey «namespace» c.configSecretName) =
          some (storedAs c «namespace» d existing old))

/-- What leaves the secrets alone makes no difference afterwards. -/
theorem Pushed.followed {α β : Type} {s s₁ s' : Server} {es es' : List Exchange}
    {o : Outcome Failure α} {o' : Outcome Failure β} (h : Pushed c «namespace» m s es o s₁)
    (rest : ∀ k : ObjectKey, k.kind = Secret.objectType.kind → Untouched k s₁ es' s')
    (result : ∀ b, o' = .done b → ∃ a, o = .done a) :
    Pushed c «namespace» m s (es ++ es') o' s' := by
  obtain ⟨others, ⟨untouched, done⟩ | ⟨wrote, previous, d, existing, old, build, holds⟩⟩ := h
  · refine ⟨fun other isSecret apart =>
      (others other isSecret apart).append (rest other isSecret),
      .inl ⟨untouched.append (rest _ rfl), fun b h => ?_⟩⟩
    obtain ⟨a, there⟩ := result b h
    exact done a there
  · refine ⟨fun other isSecret apart =>
      (others other isSecret apart).append (rest other isSecret),
      .inr ⟨written_append.2 (.inl wrote), previous, d, existing, old, build, ?_⟩⟩
    rw [(rest _ rfl).same]
    exact holds

/-- Without a result only what has happened to the secrets counts. -/
theorem Pushed.fails {α β : Type} {s s' : Server} {es : List Exchange} {o : Outcome Failure α}
    {o' : Outcome Failure β} (h : Pushed c «namespace» m s es o s') (fails : ∀ b, o' ≠ .done b) :
    Pushed c «namespace» m s es o' s' := by
  have whole : Pushed c «namespace» m s (es ++ []) o' s' :=
    h.followed (fun k _ => .nil k s') fun b done => absurd done (fails b)
  rwa [List.append_nil] at whole

/-- What has been read is what the server has, or nothing. -/
theorem read_of_answered {s after : Server} {name : String} {response : Response}
    {existing : Option Secret}
    (met : Exchange.Answered ⟨s, reading «namespace» name, response, after⟩)
    (isRead : Secret.stored.found response = .ok existing) :
    existing = none ∨ seen (s.objects.find? (secretKey «namespace» name)) = .ok existing := by
  rcases met with served | ⟨fails, -⟩
  · have answer : response = (s.serve (reading «namespace» name)).2 := served.response_eq
    rw [← (serve_reading s «namespace» name).2, ← answer]
    exact .inr isRead
  · rw [Storable.found_of_isFailure _ fails] at isRead
    split at isRead
    · exact .inl (Except.ok.inj isRead).symm
    · cases isRead

/-- What the requests of a push come to: it has read the secret and has no result, or finds there
what it would write; or it has asked to write a document, and that has been refused or granted. -/
inductive Pushing (c : Cluster) («namespace» : String) (m : Document → Document) (s : Server) :
    List Exchange → Outcome Failure Document → Server → Prop
  | stopped {r : Exchange} {o : Outcome Failure Document}
    (reads : r.request = reading «namespace» c.configSecretName) (fails : ∀ d, o ≠ .done d) :
    Pushing c «namespace» m s [r] o s
  | kept {r : Exchange} {p d : Document}
    (reads : r.request = reading «namespace» c.configSecretName)
    (isHeld : held (s.objects.find? (secretKey «namespace» c.configSecretName)) = .ok (some p))
    (same : p.same d = true) (build : (builder c «namespace» (some p) m).build = .ok d) :
    Pushing c «namespace» m s [r] (.done d) s
  | refused {r w : Exchange} {o : Outcome Failure Document}
    (reads : r.request = reading «namespace» c.configSecretName)
    (about : Server.key w.request = secretKey «namespace» c.configSecretName)
    (failure : w.response.isFailure = true) (fails : ∀ d, o ≠ .done d) :
    Pushing c «namespace» m s [r, w] o s
  | wrote {r w : Exchange} {o : Outcome Failure Document} {previous : Option Document}
    {d : Document} {existing : Option Secret}
    (reads : r.request = reading «namespace» c.configSecretName) (writes : w.Writes)
    (about : Server.key w.request = secretKey «namespace» c.configSecretName)
    (build : (builder c «namespace» previous m).build = .ok d)
    (now : w.after.objects.find? (secretKey «namespace» c.configSecretName) =
      some (storedAs c «namespace» d existing
        (s.objects.find? (secretKey «namespace» c.configSecretName))))
    (legible : Legible «namespace» c.configSecretName
      (w.after.objects.find? (secretKey «namespace» c.configSecretName)))
    (others : ∀ k, k ≠ secretKey «namespace» c.configSecretName →
      w.after.objects.find? k = s.objects.find? k)
    (result : ∀ e, o = .done e → e = d) :
    Pushing c «namespace» m s [r, w] o w.after

/-- A push changes nothing but the secret. -/
theorem Pushing.leaves {s s' : Server} {es : List Exchange} {o : Outcome Failure Document}
    (h : Pushing c «namespace» m s es o s') {k : ObjectKey}
    (apart : k ≠ secretKey «namespace» c.configSecretName) :
    s'.objects.find? k = s.objects.find? k := by
  cases h with
  | stopped reads fails => rfl
  | kept reads isHeld same build => rfl
  | refused reads about failure fails => rfl
  | wrote reads writes about build now legible others result => exact others k apart

/-- The end of a push that has asked to write a document, refused or granted, and whether or not
the answer is understood. -/
theorem Pushing.of_concluded {s after : Server} {r : Exchange} {existing : Option Secret}
    {previous : Option Document} {d : Document} {answer : Response}
    (reads : r.request = reading «namespace» c.configSecretName)
    (named : Named «namespace» c.configSecretName existing)
    (sound : ∀ secret ∈ existing, secret.metadata.Sound)
    (build : (builder c «namespace» previous m).build = .ok d)
    (refusal : ClientError → StoreError)
    (met : Exchange.Answered ⟨s, writing c «namespace» existing d, answer, after⟩) :
    (concluded d refusal answer).Ensures Exchange.Answered after fun es =>
      Pushing c «namespace» m s
        (r :: ⟨s, writing c «namespace» existing d, answer, after⟩ :: es) := by
  rw [concluded]
  cases fails : answer.isFailure with
  | true =>
    -- a write that is refused leaves the server as it was
    have same : after = s := met.same_of_isFailure fails
    rw [Response.decode_of_isFailure _ fails, same]
    refine .fail (.refused reads rfl fails ?_)
    rintro d ⟨⟩
  | false =>
    -- the write is accepted, and the secret is then what was sent
    have changes : writingVerb existing = .create ∨ writingVerb existing = .replace := by
      cases existing with
      | none => exact .inl rfl
      | some secret => exact .inr rfl
    have verb : writingVerb existing ≠ .get := by
      rcases changes with isVerb | isVerb <;> rw [isVerb] <;> rintro ⟨⟩
    have now := Material.granted_secret changes met fails
    have others (k : ObjectKey) (apart : k ≠ secretKey «namespace» c.configSecretName) :
        after.objects.find? k = s.objects.find? k :=
      (met.untouched (.inr (.inl (Ne.symm apart)))).same
    have legible : Legible «namespace» c.configSecretName
        (after.objects.find? (secretKey «namespace» c.configSecretName)) :=
      now ▸ legible_storedAs d named sound _
    have pushing (o : Outcome Failure Document) (result : ∀ e, o = .done e → e = d) :=
      Pushing.wrote (r := r) (w := ⟨s, writing c «namespace» existing d, answer, after⟩) (o := o)
        reads ⟨verb, fails⟩ rfl build now legible others result
    cases answer.decode Secret.stored.toResource with
    | ok y =>
      refine .done (pushing _ ?_)
      rintro e ⟨⟩
      rfl
    | error e =>
      refine .fail (pushing _ ?_)
      rintro e ⟨⟩

/-- Whatever is refused, the requests of a push come to one of these ends. -/
theorem push_pushing (h : c.metadata.namespace = some «namespace»)
    (plain : Request.Addressable Secret.objectType «namespace» c.configSecretName) {s : Server}
    (kept : KeptUnder «namespace» c.configSecretName
      (s.objects.find? (secretKey «namespace» c.configSecretName))) :
    (push c m).Ensures Exchange.Answered s (Pushing c «namespace» m s) := by
  rw [push_eq h plain]
  refine .request fun response after met => ?_
  -- the document is read first, and reading changes nothing
  obtain rfl : after = s := met.same_of_get rfl
  have names (existing : Option Secret) (isRead : Secret.stored.found response = .ok existing) :
      Named «namespace» c.configSecretName existing ∧
        ∀ secret ∈ existing, secret.metadata.Sound := by
    rcases read_of_answered met isRead with rfl | isSeen
    · exact ⟨fun _ mem => (Option.not_mem_none _ mem).elim,
        fun _ mem => (Option.not_mem_none _ mem).elim⟩
    · exact ⟨(names_of_seen kept isSeen).1, sound_of_seen isSeen⟩
  -- what has been read decides how the push goes on
  have course := continued_cases (m := m) plain fun existing isRead => (names existing isRead).1
  generalize continued c «namespace» m (Secret.stored.found response) = p at course
  cases course with
  | fails f =>
    refine .fail (.stopped rfl ?_)
    rintro d ⟨⟩
  | overflows =>
    refine .overflow (.stopped rfl ?_)
    rintro d ⟨⟩
  | @keeps existing p d isRead isHeld same build =>
    refine .done (.kept rfl ?_ same build)
    rcases read_of_answered met isRead with rfl | isSeen
    · cases isHeld
    · rw [held, isSeen]
      exact isHeld
  | @writes existing previous d refusal isRead isHeld follows build =>
    obtain ⟨named, sound⟩ := names existing isRead
    exact .request fun answer after' met' =>
      .of_concluded rfl named sound build refusal met'

/-- So it is known what a push leaves behind. -/
theorem push_ensures (h : c.metadata.namespace = some «namespace»)
    (plain : Request.Addressable Secret.objectType «namespace» c.configSecretName) {s : Server}
    (kept : KeptUnder «namespace» c.configSecretName
      (s.objects.find? (secretKey «namespace» c.configSecretName))) :
    (push c m).Ensures Exchange.Answered s (Pushed c «namespace» m s) := by
  refine (push_pushing (m := m) h plain kept).mono fun es o s' pushing => ?_
  -- only the second request, if there is one, can be a write
  have read {r : Exchange} (reads : r.request = reading «namespace» c.configSecretName) :
      ¬ r.Writes := fun writes => writes.1 (by rw [reads]; rfl)
  have unwritten {r : Exchange} (reads : r.request = reading «namespace» c.configSecretName)
      (k : ObjectKey) : ¬ Written k [r] := by
    rintro ⟨e, mem, writes, -⟩
    obtain rfl := List.mem_singleton.1 mem
    exact read reads writes
  -- only where a document has been written is the secret another one
  cases pushing with
  | stopped reads fails =>
    exact ⟨fun other _ _ => ⟨rfl, unwritten reads other⟩,
      .inl ⟨⟨rfl, unwritten reads _⟩, fun d done => absurd done (fails d)⟩⟩
  | kept reads isHeld same build =>
    refine ⟨fun other _ _ => ⟨rfl, unwritten reads other⟩, .inl ⟨⟨rfl, unwritten reads _⟩, ?_⟩⟩
    exact fun _ _ => ⟨_, _, isHeld, same, build⟩
  | @refused r w _ reads about failure fails =>
    have nothing (k : ObjectKey) : ¬ Written k [r, w] := by
      rintro ⟨e, mem, writes, -⟩
      simp only [List.mem_cons, List.not_mem_nil, or_false] at mem
      rcases mem with rfl | rfl
      · exact read reads writes
      · exact absurd failure (ne_true_of_eq_false writes.2)
    exact ⟨fun other _ _ => ⟨rfl, nothing other⟩,
      .inl ⟨⟨rfl, nothing _⟩, fun d done => absurd done (fails d)⟩⟩
  | wrote reads writes about build now legible others result =>
    refine ⟨fun other _ apart => ⟨others other apart, ?_⟩,
      .inr ⟨⟨_, List.mem_cons_of_mem _ (List.mem_singleton_self _), writes, about⟩, _, _, _, _,
        build, now⟩⟩
    rintro ⟨e, mem, isWrite, isAbout⟩
    simp only [List.mem_cons, List.not_mem_nil, or_false] at mem
    rcases mem with rfl | rfl
    · exact read reads isWrite
    · exact apart (isAbout.symm.trans about)

end Configuration

end ReplicaSetOperator
