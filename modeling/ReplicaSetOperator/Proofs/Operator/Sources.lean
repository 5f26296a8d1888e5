import ReplicaSetOperator.Proofs.Operator.Failures

/-!
# What is seen of the user's material

For TLS the user has to provide a config map and a secret. They may not be named, not be there, lack
an entry, or not be readable: `Material.source` is what a run sees of them, or the first thing that
is wrong with them. The change of the document is worked out from that (`Material.change_sees`).

A reading may be refused, so that what is seen does not depend on the server alone. It is taken from
the answers in the run, and from the server only where the run has not come to ask
(`Server.answer`). What comes after a reading makes no difference to what it has shown, and neither
does what is asked of other objects before it (`Server.readIn_append`).
-/

namespace ReplicaSetOperator

/-- The answer to a request: the first one in some exchanges, or else the one that the server
has. -/
def Server.answer (s : Server) (es : List Exchange) (r : Request) : Response :=
  ((es.find? fun e => decide (e.request = r)).map (·.response)).getD (s.serve r).2

/-- What reading an object gives in a run, or would give if the run does not read it. -/
def Server.readIn {α : Type} (s : Server) (es : List Exchange) (t : Storable α)
    («namespace» name : String) : Except Failure (Option α) :=
  match Request.about? .get t.type «namespace» name .none false with
  | some r => t.found (s.answer es r)
  | none => .error (.plain (.readFailed (.client .unsendable)))

namespace Material

/-- The failure that something is missing. -/
def lacking (m : MissingMaterial) : Failure := .plain (.materialMissing m.message)

/-- The CA certificate in what has been found under the name of the user's config map. -/
def caCertificateIn («namespace» name : String) : Option ConfigMap → Except Failure String
  | none => .error (lacking (.configMap «namespace» name))
  | some configMap =>
    match configMap.entry? Tls.caCertificateName with
    | none => .error (lacking (.configMapEntry Tls.caCertificateName name))
    | some ca => .ok ca

/-- The certificate and its key in what has been found under the name of the user's secret. -/
def certificateKeyIn («namespace» name : String) :
    Option Secret → Except Failure (Bytes × Bytes)
  | none => .error (lacking (.secret «namespace» name))
  | some secret =>
    match secret.entry? Tls.certificateName with
    | none => .error (lacking (.secretEntry Tls.certificateName name))
    | some certificate =>
      match secret.entry? Tls.keyName with
      | none => .error (lacking (.secretEntry Tls.keyName name))
      | some key => .ok (certificate, key)

/-- What is read under a name that has to be there. -/
def named {α : Type} (name : String) (unnamed : MissingMaterial) (found : Except Failure α) :
    Except Failure α :=
  if name.isEmpty then .error (lacking unnamed) else found

/-- The user's material as it is seen in a run, or the first thing that is wrong with it. The config
map is looked at before the secret. -/
def source (d : TlsDescriptor) (s : Server) (es : List Exchange) :
    Except Failure (String × Bytes × Bytes) :=
  (named d.caConfigMap .noConfigMap
    ((s.readIn es ConfigMap.stored d.namespace d.caConfigMap).bind
      (caCertificateIn d.namespace d.caConfigMap))).bind fun ca =>
  (named d.certificateKeySecret .noSecret
    ((s.readIn es Secret.stored d.namespace d.certificateKeySecret).bind
      (certificateKeyIn d.namespace d.certificateKeySecret))).map fun pair => (ca, pair)

end Material

section

variable {α β : Type} {t : Storable α} {«namespace» name : String} {meets : Exchange → Prop}
  {s : Server} {es es' : List Exchange}

theorem Server.readIn_nil (s : Server) (t : Storable α) («namespace» name : String) :
    s.readIn [] t «namespace» name = s.reads t «namespace» name := by
  unfold Server.readIn Server.reads
  cases Request.about? .get t.type «namespace» name .none false <;> rfl

/-- What is seen depends on the object that is asked for. -/
theorem Server.readIn_congr {s' : Server}
    (same : ∀ r, Request.about? .get t.type «namespace» name .none false = some r →
      s'.objects.find? (key r) = s.objects.find? (key r)) :
    s'.readIn es t «namespace» name = s.readIn es t «namespace» name := by
  unfold Server.readIn
  split
  · next r arrives =>
    rw [Server.answer, Server.answer,
      Server.serve_get_congr (Request.verb_of_about? arrives) (same r arrives)]
  · rfl

/-- What a run that is refused nothing sees is what the server has, unless it has been written. -/
theorem Server.readIn_of_served {s' : Server} (links : Links s es s')
    (served : ∀ e ∈ es, e.Served)
    (unwritten : ∀ r, Request.about? .get t.type «namespace» name .none false = some r →
      ¬ Written (key r) es) :
    s.readIn es t «namespace» name = s.reads t «namespace» name := by
  unfold Server.readIn Server.reads
  cases arrives : Request.about? .get t.type «namespace» name .none false with
  | none => rfl
  | some r =>
    refine congrArg t.found ?_
    unfold Server.answer
    cases isFirst : es.find? fun e => decide (e.request = r) with
    | none => rfl
    | some e =>
      have mem := List.mem_of_find?_eq_some isFirst
      have same : e.request = r := by simpa using List.find?_some isFirst
      have answer : (e.before.serve e.request).2 = e.response := (served e mem).response_eq.symm
      -- up to the answer nothing has been written
      obtain ⟨before, after, rfl, first, -⟩ := links.split mem
      have untouched := first.untouched (k := key r)
        (fun e' mem' => Exchange.Answered.sparing (.inl (served e' (List.mem_append_left _ mem'))))
        fun wrote => unwritten r arrives (written_append.2 (.inl wrote))
      rw [Option.map_some, Option.getD_some, ← answer, same]
      exact Server.serve_get_congr (Request.verb_of_about? arrives) untouched.same

/-- What cannot be read is a failure to read. -/
theorem Server.readFailed_of_readIn {f : Failure} (h : s.readIn es t «namespace» name = .error f) :
    ∃ e, f = .plain (.readFailed e) := by
  unfold Server.readIn at h
  split at h
  · unfold Storable.found at h
    split at h
    · cases h
    · split at h
      · cases h
      · cases h
        exact ⟨_, rfl⟩
  · cases h
    exact ⟨_, rfl⟩

section

variable (known : Address.kindIn t.type.collection = t.type.kind)
  (plainCollection : Address.isPlain t.type.collection = true)
  (plainNamespace : Address.isPlain «namespace» = true)

include known plainCollection plainNamespace

/-- What is asked of other types makes no difference to what is read. -/
theorem Server.readIn_append (others : ∀ e ∈ es, e.request.type ≠ t.type) :
    s.readIn (es ++ es') t «namespace» name = s.readIn es' t «namespace» name := by
  unfold Server.readIn
  split
  · next r arrives =>
    have isType := (Request.type_of_about? known plainCollection plainNamespace arrives).2
    have silent : (es.find? fun e => decide (e.request = r)) = none := by
      refine List.find?_eq_none.2 fun e mem same => others e mem ?_
      rw [of_decide_eq_true same]
      exact isType
    rw [Server.answer, List.find?_append, silent, Option.none_or]
    rfl
  · rfl

/-- A reading gives what is seen, whatever comes after it. -/
theorem Program.read_sees : (Program.read t «namespace» name).Ensures meets s fun es o _ =>
    (∀ e ∈ es, e.request.verb = .get ∧ e.request.type = t.type) ∧ ∃ found,
      o = .ofExcept found ∧
        ∀ s₀ later, Server.readIn s₀ (es ++ later) t «namespace» name = found := by
  -- the answer to the first request for it is the one that is seen, whatever comes later
  cases arrives : Request.about? .get t.type «namespace» name .none false with
  | none =>
    rw [Storable.read_eq_of_unsendable arrives]
    refine .fail ⟨fun _ mem => absurd mem List.not_mem_nil, .error _, rfl, fun s₀ later => ?_⟩
    rw [Server.readIn, arrives]
  | some r =>
    have asked := Request.type_of_about? known plainCollection plainNamespace arrives
    rw [Storable.read_eq_of_about arrives]
    refine .request fun response after met => .ofExcept ?_
    refine ⟨List.forall_mem_singleton.2 asked, t.found response, rfl, fun s₀ later => ?_⟩
    rw [Server.readIn, arrives]
    dsimp only
    rw [Server.answer, List.singleton_append, List.find?_cons_of_pos (by simp)]
    rfl

/-- So does what is made of a reading. -/
theorem Program.read_bind_sees (judge : Option α → Except Failure β) :
    ((Program.read t «namespace» name).bind fun a => .ofExcept (judge a)).Ensures meets s
      fun es o _ => (∀ e ∈ es, e.request.verb = .get ∧ e.request.type = t.type) ∧ ∃ r,
        o = .ofExcept r ∧ ∀ s₀ later,
          (Server.readIn s₀ (es ++ later) t «namespace» name).bind judge = r := by
  refine .bind (Program.read_sees known plainCollection plainNamespace) ?_ ?_ ?_
  · rintro es a s₁ ⟨asked, found, same, sees⟩
    obtain rfl := Outcome.eq_ok same
    refine .ofExcept ?_
    rw [List.append_nil]
    exact ⟨asked, _, rfl, fun s₀ later => by rw [sees]; rfl⟩
  · rintro es e s' ⟨asked, found, same, sees⟩
    obtain rfl := Outcome.eq_error same
    exact ⟨asked, .error e, rfl, fun s₀ later => by rw [sees]; rfl⟩
  · rintro es s' ⟨-, found, same, -⟩
    exact absurd same (Outcome.ofExcept_ne_overflow found)

end

end

namespace Material

variable {d : TlsDescriptor} {«namespace» name : String} {meets : Exchange → Prop} {s : Server}
  {es : List Exchange}

/-- The user's material depends on the objects that it is read from. -/
theorem source_congr {s' : Server}
    (configMap : ∀ r, Request.about? .get ConfigMap.objectType d.namespace d.caConfigMap .none
      false = some r → s'.objects.find? (Server.key r) = s.objects.find? (Server.key r))
    (secret : ∀ r, Request.about? .get Secret.objectType d.namespace d.certificateKeySecret .none
      false = some r → s'.objects.find? (Server.key r) = s.objects.find? (Server.key r)) :
    source d s' es = source d s es := by
  rw [source, source, Server.readIn_congr (t := ConfigMap.stored) configMap,
    Server.readIn_congr (t := Secret.stored) secret]

/-- The certificate of the authority is looked for in what is read under the name, if it is named.
-/
theorem readCaCertificate_eq :
    readCaCertificate «namespace» name =
      if name.isEmpty then .fail (lacking .noConfigMap)
      else (Program.read ConfigMap.stored «namespace» name).bind fun found =>
        .ofExcept (caCertificateIn «namespace» name found) := by
  unfold readCaCertificate
  split
  · rfl
  · show Program.bind _ _ = _
    refine congrArg (Program.bind _) (funext fun found => ?_)
    rcases found with - | configMap
    · rfl
    · dsimp only [caCertificateIn]
      cases configMap.entry? Tls.caCertificateName <;> rfl

theorem readCertificateKey_eq :
    readCertificateKey «namespace» name =
      if name.isEmpty then .fail (lacking .noSecret)
      else (Program.read Secret.stored «namespace» name).bind fun found =>
        .ofExcept (certificateKeyIn «namespace» name found) := by
  unfold readCertificateKey
  split
  · rfl
  · show Program.bind _ _ = _
    refine congrArg (Program.bind _) (funext fun found => ?_)
    rcases found with - | secret
    · rfl
    · dsimp only [certificateKeyIn]
      cases secret.entry? Tls.certificateName with
      | none => rfl
      | some certificate =>
        dsimp only
        cases secret.entry? Tls.keyName <;> rfl

/-- Reading the certificate of the authority gives what is seen of it. -/
theorem readCaCertificate_sees (plain : Address.isPlain «namespace» = true) :
    (readCaCertificate «namespace» name).Ensures meets s fun es o _ =>
      (∀ e ∈ es, e.request.verb = .get ∧ e.request.type = ConfigMap.objectType) ∧ ∃ r,
        o = .ofExcept r ∧ ∀ s₀ later, named name .noConfigMap
          ((Server.readIn s₀ (es ++ later) ConfigMap.stored «namespace» name).bind
            (caCertificateIn «namespace» name)) = r := by
  rw [readCaCertificate_eq]
  unfold named
  split
  · exact .fail ⟨fun _ mem => absurd mem List.not_mem_nil, .error _, rfl, fun _ _ => rfl⟩
  · exact Program.read_bind_sees (t := ConfigMap.stored) (by decide) (by decide) plain _

/-- Reading certificate and key gives what is seen of them. -/
theorem readCertificateKey_sees (plain : Address.isPlain «namespace» = true) :
    (readCertificateKey «namespace» name).Ensures meets s fun es o _ =>
      (∀ e ∈ es, e.request.verb = .get ∧ e.request.type = Secret.objectType) ∧ ∃ r,
        o = .ofExcept r ∧ ∀ s₀ later, named name .noSecret
          ((Server.readIn s₀ (es ++ later) Secret.stored «namespace» name).bind
            (certificateKeyIn «namespace» name)) = r := by
  rw [readCertificateKey_eq]
  unfold named
  split
  · exact .fail ⟨fun _ mem => absurd mem List.not_mem_nil, .error _, rfl, fun _ _ => rfl⟩
  · exact Program.read_bind_sees (t := Secret.stored) (by decide) (by decide) plain _

/-- If something is wrong with the config map, that is what is wrong. -/
theorem source_eq_error {f : Failure}
    (h : named d.caConfigMap .noConfigMap
      ((s.readIn es ConfigMap.stored d.namespace d.caConfigMap).bind
        (caCertificateIn d.namespace d.caConfigMap)) = .error f) : source d s es = .error f := by
  rw [source, h]
  rfl

/-- If not, the secret is what is looked at. -/
theorem source_eq_of_ca {ca : String}
    (h : named d.caConfigMap .noConfigMap
      ((s.readIn es ConfigMap.stored d.namespace d.caConfigMap).bind
        (caCertificateIn d.namespace d.caConfigMap)) = .ok ca) :
    source d s es = (named d.certificateKeySecret .noSecret
      ((s.readIn es Secret.stored d.namespace d.certificateKeySecret).bind
        (certificateKeyIn d.namespace d.certificateKeySecret))).map fun pair => (ca, pair) := by
  rw [source, h]
  rfl

/-- The change of the document is worked out from what is seen of the user's material. If something
is wrong with that, nothing but readings has been done; if not, what can still go wrong is final. -/
theorem change_sees (enabled : d.enabled = true) (plain : Address.isPlain d.namespace = true) :
    (change d).Ensures Exchange.Answered s fun es o s' =>
      (∃ f, o = .failed f ∧ s' = s ∧ (∀ e ∈ es, e.request.verb = .get) ∧
        ∀ s₀ later, source d s₀ (es ++ later) = .error f) ∨
      (∀ f, o = .failed f → f.IsFinal) ∧ ∃ ca certificate key, Provided d s certificate key ∧
        ∀ s₀ later, source d s₀ (es ++ later) = .ok (ca, certificate, key) := by
  rw [change, enabled]
  -- the config map is read first, and only then the secret
  refine .bind ((readCaCertificate_ensures d.namespace d.caConfigMap s).and
    (readCaCertificate_sees plain)) ?_ ?_ ?_
  · rintro es₁ ca s₁ ⟨⟨⟨rfl, -⟩, isRead⟩, asked₁, r₁, same₁, sees₁⟩
    obtain rfl := Outcome.eq_ok same₁
    obtain ⟨hasConfigMap, configMap, there, isEntry⟩ := isRead ca rfl
    -- the config map is no secret, so that reading it shows nothing of the secret
    have skip (s₀ : Server) (es later : List Exchange) :
        source d s₀ (es₁ ++ es ++ later) = (named d.certificateKeySecret .noSecret
          ((s₀.readIn (es ++ later) Secret.stored d.namespace d.certificateKeySecret).bind
            (certificateKeyIn d.namespace d.certificateKeySecret))).map fun pair => (ca, pair) := by
      rw [List.append_assoc, source_eq_of_ca (sees₁ s₀ (es ++ later)),
        Server.readIn_append (t := Secret.stored) (by decide) (by decide) plain]
      intro e mem
      rw [(asked₁ e mem).2]
      decide
    refine .bind ((readCertificateKey_ensures d.namespace d.certificateKeySecret s₁).and
      (readCertificateKey_sees plain)) ?_ ?_ ?_
    -- both have been read, so that all the material is there and what is left is the storing
    · rintro es₂ ⟨certificate, key⟩ s₂ ⟨⟨⟨rfl, -⟩, isRead⟩, -, r₂, same₂, sees₂⟩
      obtain rfl := Outcome.eq_ok same₂
      obtain ⟨hasSecret, isProvided⟩ := isRead _ rfl
      have stores : ((synthesize d.namespace d.operatorSecret d.owner certificate key).bind
          fun file => .done (.tls d.mode file) : Program Failure Change).FailsFinally :=
        .bind (synthesize_failsFinally _ _ _ _ _) fun _ _ => trivial
      refine fun es₃ o s' run => .inr ⟨?_, ca, certificate, key,
        ⟨hasConfigMap, hasSecret, ⟨configMap, ca, there, isEntry⟩, isProvided⟩,
        fun s₀ later => ?_⟩
      · rintro f rfl
        exact run.isFinal stores
      · rw [skip, List.append_assoc, sees₂]
        rfl
    · rintro es₂ f s' ⟨⟨⟨rfl, -⟩, -⟩, asked₂, r₂, same₂, sees₂⟩
      obtain rfl := Outcome.eq_error same₂
      refine .inl ⟨f, rfl, rfl, List.forall_mem_append.2 ⟨fun e mem => (asked₁ e mem).1,
        fun e mem => (asked₂ e mem).1⟩, fun s₀ later => ?_⟩
      rw [skip, sees₂]
      rfl
    · rintro es₂ s' ⟨-, -, r₂, same₂, -⟩
      exact absurd same₂ (Outcome.ofExcept_ne_overflow r₂)
  · -- there is something wrong with the config map already
    rintro es f s' ⟨⟨⟨rfl, -⟩, -⟩, asked, r, same, sees⟩
    obtain rfl := Outcome.eq_error same
    exact .inl ⟨f, rfl, rfl, fun e mem => (asked e mem).1,
      fun s₀ later => source_eq_error (sees s₀ later)⟩
  · rintro es s' ⟨-, -, r, same, -⟩
    exact absurd same (Outcome.ofExcept_ne_overflow r)

/-- What has to be there is found exactly if it is named and can be read. -/
theorem named_eq_ok {α : Type} {unnamed : MissingMaterial} {found : Except Failure α} {a : α} :
    named name unnamed found = .ok a ↔ name ≠ "" ∧ found = .ok a := by
  unfold named
  by_cases isEmpty : name = ""
  · simp [isEmpty]
  · rw [if_neg (by simpa using isEmpty)]
    exact ⟨fun h => ⟨isEmpty, h⟩, And.right⟩

/-- A certificate that is found is an entry of a config map. -/
theorem caCertificateIn_eq_ok {found : Option ConfigMap} {ca : String}
    (h : caCertificateIn «namespace» name found = .ok ca) :
    ∃ configMap, found = some configMap ∧ configMap.entry? Tls.caCertificateName = some ca := by
  rcases found with - | configMap
  · cases h
  · refine ⟨configMap, rfl, ?_⟩
    dsimp only [caCertificateIn] at h
    split at h
    · cases h
    · next isEntry => rw [isEntry, Except.ok.inj h]

/-- Certificate and key that are found are entries of one secret. -/
theorem certificateKeyIn_eq_ok {found : Option Secret} {certificate key : Bytes}
    (h : certificateKeyIn «namespace» name found = .ok (certificate, key)) :
    ∃ secret, found = some secret ∧ secret.entry? Tls.certificateName = some certificate ∧
      secret.entry? Tls.keyName = some key := by
  rcases found with - | secret
  · cases h
  · refine ⟨secret, rfl, ?_⟩
    dsimp only [certificateKeyIn] at h
    split at h
    · cases h
    · next isCertificate =>
      split at h
      · cases h
      · next isKey =>
        cases h
        exact ⟨isCertificate, isKey⟩

/-- What comes to a result has come to one in both its parts. -/
theorem bind_eq_ok {α β : Type} {r : Except Failure α} {k : α → Except Failure β} {b : β}
    (h : r.bind k = .ok b) : ∃ a, r = .ok a ∧ k a = .ok b := by
  cases r with
  | ok a => exact ⟨a, rfl, h⟩
  | error f => cases h

/-- If no certificate is found, something is missing. -/
theorem caCertificateIn_error {found : Option ConfigMap} {f : Failure}
    (h : caCertificateIn «namespace» name found = .error f) : ∃ m, f = lacking m := by
  rcases found with - | configMap
  · cases h
    exact ⟨_, rfl⟩
  · dsimp only [caCertificateIn] at h
    split at h
    · cases h
      exact ⟨_, rfl⟩
    · cases h

theorem certificateKeyIn_error {found : Option Secret} {f : Failure}
    (h : certificateKeyIn «namespace» name found = .error f) : ∃ m, f = lacking m := by
  rcases found with - | secret
  · cases h
    exact ⟨_, rfl⟩
  · dsimp only [certificateKeyIn] at h
    split at h
    · cases h
      exact ⟨_, rfl⟩
    · split at h
      · cases h
        exact ⟨_, rfl⟩
      · cases h

/-- What is wrong with an object that has to be there is that it is not named, that it cannot be
read, or what is found to be wrong with it. -/
theorem named_error {α β : Type} {t : Storable α} {unnamed : MissingMaterial}
    {judge : Option α → Except Failure β} {f : Failure}
    (judged : ∀ found f, judge found = .error f → ∃ m, f = lacking m)
    (h : named name unnamed ((s.readIn es t «namespace» name).bind judge) = .error f) :
    (∃ m, f = lacking m) ∨ ∃ e, f = .plain (.readFailed e) := by
  -- it is not named, it cannot be read, or it is judged
  unfold named at h
  split at h
  · cases h
    exact .inl ⟨unnamed, rfl⟩
  · cases read : s.readIn es t «namespace» name with
    | ok found =>
      rw [read] at h
      exact .inl (judged found f h)
    | error f' =>
      rw [read] at h
      cases h
      exact .inr (Server.readFailed_of_readIn read)

/-- What is wrong with the user's material is that something is missing or cannot be read. -/
theorem source_error {f : Failure} (h : source d s es = .error f) :
    (∃ m, f = lacking m) ∨ ∃ e, f = .plain (.readFailed e) := by
  rw [source] at h
  -- the config map is at fault, or else the secret
  cases isCa : named d.caConfigMap .noConfigMap
      ((s.readIn es ConfigMap.stored d.namespace d.caConfigMap).bind
        (caCertificateIn d.namespace d.caConfigMap)) with
  | error f' =>
    rw [isCa] at h
    cases h
    exact named_error (fun _ _ => caCertificateIn_error) isCa
  | ok ca =>
    rw [isCa] at h
    cases isPair : named d.certificateKeySecret .noSecret
        ((s.readIn es Secret.stored d.namespace d.certificateKeySecret).bind
          (certificateKeyIn d.namespace d.certificateKeySecret)) with
    | ok pair =>
      rw [isPair] at h
      cases h
    | error f' =>
      rw [isPair] at h
      cases h
      exact named_error (fun _ _ => certificateKeyIn_error) isPair

/-- Where nothing is wrong with what would be read, the user has provided it. -/
theorem provided_of_source {ca : String} {certificate key : Bytes}
    (h : source d s [] = .ok (ca, certificate, key)) : Provided d s certificate key := by
  rw [source, Server.readIn_nil, Server.readIn_nil] at h
  -- step by step, what is read first and what is read then has been fine
  obtain ⟨ca', isCa, h⟩ := bind_eq_ok h
  obtain ⟨hasConfigMap, isRead⟩ := named_eq_ok.1 isCa
  obtain ⟨found, reads, judged⟩ := bind_eq_ok isRead
  obtain ⟨configMap, rfl, isEntry⟩ := caCertificateIn_eq_ok judged
  obtain ⟨pair, isPair, h⟩ := bind_eq_ok h
  obtain ⟨hasSecret, isRead⟩ := named_eq_ok.1 isPair
  obtain ⟨found, readsSecret, judged⟩ := bind_eq_ok isRead
  cases h
  obtain ⟨secret, rfl, isCertificate, isKey⟩ := certificateKeyIn_eq_ok judged
  refine ⟨hasConfigMap, hasSecret, ⟨configMap, ca, reads, isEntry⟩, ?_⟩
  rw [provided, readsSecret]
  dsimp only
  rw [isCertificate, isKey]
  rfl

/-- What the user has provided is what would be read. -/
theorem source_of_provided {certificate key : Bytes} (h : Provided d s certificate key) :
    ∃ ca, source d s [] = .ok (ca, certificate, key) := by
  -- what is provided is in a config map and a secret, and each of them is found there
  obtain ⟨configMap, ca, there, isEntry⟩ := h.configMap
  have secret := h.secret
  unfold provided at secret
  split at secret
  · next found isFound =>
    obtain ⟨certificate', isCertificate, secret⟩ := Option.bind_eq_some_iff.1 secret
    obtain ⟨key', isKey, secret⟩ := Option.bind_eq_some_iff.1 secret
    cases secret
    have isCa : named d.caConfigMap .noConfigMap
        ((s.readIn [] ConfigMap.stored d.namespace d.caConfigMap).bind
          (caCertificateIn d.namespace d.caConfigMap)) = .ok ca := by
      rw [named_eq_ok, Server.readIn_nil, there]
      refine ⟨h.hasConfigMap, ?_⟩
      dsimp only [Except.bind, caCertificateIn]
      rw [isEntry]
    have isPair : named d.certificateKeySecret .noSecret
        ((s.readIn [] Secret.stored d.namespace d.certificateKeySecret).bind
          (certificateKeyIn d.namespace d.certificateKeySecret)) = .ok (certificate, key) := by
      rw [named_eq_ok, Server.readIn_nil, isFound]
      refine ⟨h.hasSecret, ?_⟩
      dsimp only [Except.bind, certificateKeyIn]
      rw [isCertificate]
      dsimp only
      rw [isKey]
    refine ⟨ca, ?_⟩
    rw [source_eq_of_ca isCa, isPair]
    rfl
  · cases secret

/-- Where no reading is refused and nothing but clusters is written, what is seen is what would be
read. -/
theorem source_of_served {s' : Server} (plain : Address.isPlain d.namespace = true)
    (links : Links s es s') (served : ∀ e ∈ es, e.Served)
    (calm : ∀ e ∈ es, e.request.verb = .get ∨ e.request.type = Cluster.type) :
    source d s es = source d s [] := by
  have unwritten {t : ObjectType} {name : String} (known : Address.kindIn t.collection = t.kind)
      (plainCollection : Address.isPlain t.collection = true) (apart : Cluster.type.kind ≠ t.kind)
      (r : Request) (arrives : Request.about? .get t d.namespace name .none false = some r) :
      ¬ Written (Server.key r) es := by
    rintro ⟨e, mem, wrote, about⟩
    rcases calm e mem with reads | isCluster
    · exact wrote.1 reads
    -- a request about a cluster is about no object of another kind
    · have isType := (Request.type_of_about? known plainCollection plain arrives).2
      have kinds : e.request.type.kind = r.type.kind := congrArg ObjectKey.kind about
      rw [isCluster, isType] at kinds
      exact apart kinds
  rw [source, source, Server.readIn_of_served (t := ConfigMap.stored) links served
      (unwritten (by decide) (by decide) (by decide)),
    Server.readIn_of_served (t := Secret.stored) links served
      (unwritten (by decide) (by decide) (by decide)), Server.readIn_nil, Server.readIn_nil]

/-- What is asked of clusters shows nothing of the user's material. -/
theorem source_append (es' : List Exchange) (plain : Address.isPlain d.namespace = true)
    (others : ∀ e ∈ es, e.request.type = Cluster.type) :
    source d s (es ++ es') = source d s es' := by
  have apart {t : ObjectType} (ne : Cluster.type ≠ t) : ∀ e ∈ es, e.request.type ≠ t :=
    fun e mem same => ne ((others e mem).symm.trans same)
  rw [source, source, Server.readIn_append (t := ConfigMap.stored) (by decide) (by decide) plain
    (apart (by decide)), Server.readIn_append (t := Secret.stored) (by decide) (by decide) plain
    (apart (by decide))]

end Material

end ReplicaSetOperator
