import ReplicaSetOperator.Proofs.Operator.Configuration
import ReplicaSetOperator.Proofs.Server.Traces

/-!
# What is done for the TLS material

The user's certificate and key are read (`Material.provided`) and stored as the only entry of the
operator's secret. Whatever requests are refused on the way, that secret is left as it was or keeps
the user's certificate and key (`Material.change_ensures`).
-/

namespace ReplicaSetOperator

open ReplicaSetOperator.Configuration (seen secretKey KeptUnder)

/-- What reading an object of a server gives. -/
def Server.reads {α : Type} (s : Server) (t : Storable α) («namespace» name : String) :
    Except Failure (Option α) :=
  match Request.about? .get t.type «namespace» name .none false with
  | some r => t.found (s.serve r).2
  | none => .error (.plain (.readFailed (.client .unsendable)))

/-- What is read under a name is what the server answers to the request for it. -/
theorem Server.reads_eq {α : Type} {t : Storable α} {«namespace» name : String} (s : Server)
    (plain : Request.Addressable t.type «namespace» name) :
    s.reads t «namespace» name =
      t.found (s.serve (.about .get t.type «namespace» name .none)).2 := by
  rw [Server.reads, Request.about?_eq .get .none false plain]
  rfl

/-- Of a secret it is what is kept under its key. -/
theorem Server.reads_secret {«namespace» name : String} (s : Server)
    (plain : Request.Addressable Secret.objectType «namespace» name) :
    s.reads Secret.stored «namespace» name =
      seen (s.objects.find? (secretKey «namespace» name)) :=
  (s.reads_eq (t := Secret.stored) plain).trans
    (Configuration.serve_reading s «namespace» name).2

/-- What is read of a type depends on the objects of that type only. -/
theorem Server.reads_congr {α : Type} {t : Storable α} {«namespace» : String} {s s₁ : Server}
    (name : String) (known : Address.kindIn t.type.collection = t.type.kind)
    (plainCollection : Address.isPlain t.type.collection = true)
    (plainNamespace : Address.isPlain «namespace» = true)
    (same : ∀ k : ObjectKey, k.kind = t.type.kind → s₁.objects.find? k = s.objects.find? k) :
    s₁.reads t «namespace» name = s.reads t «namespace» name := by
  unfold Server.reads
  split
  · next r arrives =>
    obtain ⟨reads, type⟩ :=
      Request.type_of_about? known plainCollection plainNamespace arrives
    have sameKey : (Server.key r).kind = t.type.kind := congrArg ObjectType.kind type
    rw [Server.serve_get_congr reads (same _ sameKey)]
  · rfl

/-- What is read is what the server has, and nothing else is done. -/
theorem Program.read_ensures {α : Type} (t : Storable α) («namespace» name : String)
    (s : Server) :
    (Program.read t «namespace» name).Ensures Exchange.Answered s fun es o s' =>
      (s' = s ∧ ∀ k, Untouched k s es s') ∧
        ∀ a, o = .done (some a) → s.reads t «namespace» name = .ok (some a) := by
  -- a request for an object whose name cannot be sent is not made
  cases arrives : Request.about? .get t.type «namespace» name .none false with
  | none =>
    rw [Storable.read_eq_of_unsendable arrives]
    refine .fail ⟨⟨rfl, fun k => .nil k s⟩, ?_⟩
    rintro a ⟨⟩
  | some r =>
    have reads : r.verb = .get := Request.verb_of_about? arrives
    have served : s.reads t «namespace» name = t.found (s.serve r).2 := by
      rw [Server.reads, arrives]
    rw [Storable.read_eq_of_about arrives]
    refine .request fun response after met => ?_
    have unchanged : after = s := met.same_of_get reads
    have untouched (k : ObjectKey) : Untouched k s [⟨s, r, response, after⟩] after :=
      met.untouched (.inl reads)
    cases found : t.found response with
    | error e =>
      refine .fail ⟨⟨unchanged, untouched⟩, ?_⟩
      rintro a ⟨⟩
    | ok b =>
      refine .done ⟨⟨unchanged, untouched⟩, ?_⟩
      rintro a ⟨⟩
      rcases met with isServed | ⟨fails, -⟩
      · have same : response = (s.serve r).2 := isServed.response_eq
        rw [served, ← same, found]
      · -- a refusal is read as nothing, at best
        rw [Storable.found_of_isFailure t fails] at found
        split at found <;> cases found

namespace Material

/-- The certificate and key that the user provides on a server. -/
def provided (s : Server) («namespace» name : String) : Option (Bytes × Bytes) :=
  match s.reads Secret.stored «namespace» name with
  | .ok (some secret) => do
    let certificate ← secret.entry? Tls.certificateName
    let key ← secret.entry? Tls.keyName
    some (certificate, key)
  | _ => none

/-- The names of the files in a secret of a server. -/
def files (object : Option Json) : List String :=
  ((object.bind fun j => (Secret.format.read j).data).getD []).map Prod.fst

/-- Reading the certificate of the authority touches nothing, and finds what is there. -/
theorem readCaCertificate_ensures («namespace» name : String) (s : Server) :
    (readCaCertificate «namespace» name).Ensures Exchange.Answered s fun es o s' =>
      (s' = s ∧ ∀ k, Untouched k s es s') ∧ ∀ ca, o = .done ca → name ≠ "" ∧
        ∃ configMap, s.reads ConfigMap.stored «namespace» name = .ok (some configMap) ∧
          configMap.entry? Tls.caCertificateName = some ca := by
  unfold readCaCertificate
  split
  · refine .fail ⟨⟨rfl, fun k => .nil k s⟩, ?_⟩
    rintro ca ⟨⟩
  next named =>
  -- without the object or the entry there is no result
  refine .bind (Program.read_ensures ConfigMap.stored «namespace» name s) ?_ ?_ ?_
  · rintro es a s₁ ⟨⟨rfl, untouched⟩, reads⟩
    have same : (s₁ = s₁ ∧ ∀ k, Untouched k s₁ (es ++ []) s₁) :=
      ⟨rfl, fun k => (untouched k).append (.nil k s₁)⟩
    cases a with
    | none =>
      refine .fail ⟨same, ?_⟩
      rintro ca ⟨⟩
    | some configMap =>
      dsimp only
      cases hasCertificate : configMap.entry? Tls.caCertificateName with
      | none =>
        refine .fail ⟨same, ?_⟩
        rintro ca ⟨⟩
      | some certificate =>
        refine .done ⟨same, ?_⟩
        rintro ca ⟨⟩
        exact ⟨by simpa using named, configMap, reads configMap rfl, hasCertificate⟩
  · rintro es e s' ⟨h, -⟩
    exact ⟨h, by rintro ca ⟨⟩⟩
  · rintro es s' ⟨h, -⟩
    exact ⟨h, by rintro ca ⟨⟩⟩

/-- Reading certificate and key touches nothing either, and finds what the user provides. -/
theorem readCertificateKey_ensures («namespace» name : String) (s : Server) :
    (readCertificateKey «namespace» name).Ensures Exchange.Answered s fun es o s' =>
      (s' = s ∧ ∀ k, Untouched k s es s') ∧
        ∀ p, o = .done p → name ≠ "" ∧ provided s «namespace» name = some p := by
  unfold readCertificateKey
  split
  · refine .fail ⟨⟨rfl, fun k => .nil k s⟩, ?_⟩
    rintro p ⟨⟩
  next named =>
  -- the secret is read once, and both entries have to be in it
  refine .bind (Program.read_ensures Secret.stored «namespace» name s) ?_ ?_ ?_
  · rintro es a s₁ ⟨⟨rfl, untouched⟩, reads⟩
    have same : (s₁ = s₁ ∧ ∀ k, Untouched k s₁ (es ++ []) s₁) :=
      ⟨rfl, fun k => (untouched k).append (.nil k s₁)⟩
    cases a with
    | none =>
      refine .fail ⟨same, ?_⟩
      rintro p ⟨⟩
    | some secret =>
      have isRead := reads secret rfl
      dsimp only
      cases hasCertificate : secret.entry? Tls.certificateName with
      | none =>
        refine .fail ⟨same, ?_⟩
        rintro p ⟨⟩
      | some certificate =>
        dsimp only
        cases hasKey : secret.entry? Tls.keyName with
        | none =>
          refine .fail ⟨same, ?_⟩
          rintro p ⟨⟩
        | some key =>
          refine .done ⟨same, ?_⟩
          rintro p ⟨⟩
          refine ⟨by simpa using named, ?_⟩
          rw [provided, isRead]
          dsimp only
          rw [hasCertificate, hasKey]
          rfl
  · rintro es e s' ⟨h, -⟩
    exact ⟨h, by rintro p ⟨⟩⟩
  · rintro es s' ⟨h, -⟩
    exact ⟨h, by rintro p ⟨⟩⟩

/-! ### Storing the certificate and its key -/

variable {«namespace» name : String}

/-- What the secret is to be once certificate and key are stored. -/
def keeping («namespace» name : String) (owner : Option OwnerReference) (certificate key : Bytes) :
    Option Secret → Secret
  | none => newSecret «namespace» name owner certificate key
  | some secret => replaced secret certificate key

/-- What is done once the operator's secret has been read. -/
def storing («namespace» name : String) (owner : Option OwnerReference) (certificate key : Bytes)
    (existing : Option Secret) : Program Failure String :=
  let kept := keeping «namespace» name owner certificate key existing
  let file := Tls.fileName certificate key
  match existing with
  | none => ((Store.create Secret.stored kept).attempt : Program Failure _).bind fun
    | .ok _ => .done file
    | .error e =>
      if isAlreadyExists e then
        (Store.update Secret.stored kept).writing.bind fun _ => .done file
      else .fail (.plain (.writeFailed e))
  | some _ => (Store.update Secret.stored kept).writing.bind fun _ => .done file

/-- Certificate and key are stored once it is known whether there is a secret. -/
theorem synthesize_eq (owner : Option OwnerReference) (certificate key : Bytes) :
    synthesize «namespace» name owner certificate key =
      (Program.read Secret.stored «namespace» name).bind
        (storing «namespace» name owner certificate key) := by
  unfold synthesize
  refine congrArg (Program.bind _) (funext fun existing => ?_)
  cases existing with
  | none =>
    show Program.bind _ _ = Program.bind _ _
    refine congrArg (Program.bind _) (funext fun r => ?_)
    cases r with
    | ok a => rfl
    | error e =>
      dsimp only
      cases isAlreadyExists e <;> rfl
  | some secret => rfl

/-- A granted request to create or replace a secret has been accepted. -/
theorem accepted_of_granted {s after : Server} {response : Response} {verb : Verb} {body : Json}
    (changes : verb = .create ∨ verb = .replace)
    (met : Exchange.Answered
      ⟨s, .about verb Secret.objectType «namespace» name (.value body), response, after⟩)
    (granted : response.isFailure = false) :
    ∃ code, (200 ≤ code ∧ code < 400) ∧
      s.accept code (secretKey «namespace» name) body = (after, response) := by
  have isStored : Secret.objectType.kind ≠ "Event" := by decide
  -- what is refused by the server itself is a failure too, so that it has been accepted
  rcases met with served | ⟨fails, -⟩
  · have served : s.serve _ = (after, response) := served
    rcases changes with rfl | rfl
    · rw [Server.serve_create isStored] at served
      split at served
      · cases served
        exact absurd (Response.isFailure_failing (by omega) _ _) (ne_true_of_eq_false granted)
      · exact ⟨201, by omega, served⟩
    · rw [Server.serve_replace isStored] at served
      split at served
      · cases served
        exact absurd (Response.isFailure_failing (by omega) _ _) (ne_true_of_eq_false granted)
      · split at served
        · cases served
          exact absurd (Response.isFailure_failing (by omega) _ _) (ne_true_of_eq_false granted)
        · exact ⟨200, by omega, served⟩
  · exact absurd fails (ne_true_of_eq_false granted)

/-- What has been accepted is stored. -/
theorem stored_of_accepted {s after : Server} {response : Response} {code : Nat} {body : Json}
    (accepted : s.accept code (secretKey «namespace» name) body = (after, response)) :
    after.objects.find? (secretKey «namespace» name) =
      some (body.stamped (s.objects.find? (secretKey «namespace» name))) := by
  have result : after = (s.accept code (secretKey «namespace» name) body).1 := by rw [accepted]
  rw [result, Server.find?_accept, if_pos rfl]

/-- A granted request to create or replace a secret stores what was sent. -/
theorem granted_secret {s after : Server} {response : Response} {verb : Verb} {body : Json}
    (changes : verb = .create ∨ verb = .replace)
    (met : Exchange.Answered
      ⟨s, .about verb Secret.objectType «namespace» name (.value body), response, after⟩)
    (granted : response.isFailure = false) :
    after.objects.find? (secretKey «namespace» name) =
      some (body.stamped (s.objects.find? (secretKey «namespace» name))) := by
  obtain ⟨code, -, accepted⟩ := accepted_of_granted changes met granted
  exact stored_of_accepted accepted

/-- An object of the server is the secret of a key, with a certificate and its key as its only
entry. -/
def Keeps (k : ObjectKey) (certificate key : Bytes) (object : Option Json) : Prop :=
  ∃ j, object = some j ∧ j.Kept k ∧
    (Secret.format.read j).data = some (entry certificate key)

/-- The files of such a secret are that of the certificate alone. -/
theorem Keeps.files_eq {k : ObjectKey} {certificate key : Bytes} {object : Option Json}
    (h : Keeps k certificate key object) : files object = [Tls.fileName certificate key] := by
  obtain ⟨j, rfl, -, data⟩ := h
  rw [files, Option.bind_some, data]
  rfl

/-- What becomes of the secret of a key: it is left as it was and there is no result, or certificate
and key are its only entry, and the name of their file is the result if there is one. No other
object is touched. -/
def Stored (k : ObjectKey) (certificate key : Bytes) (s : Server) (es : List Exchange)
    (o : Outcome Failure String) (s' : Server) : Prop :=
  (∀ other, other ≠ k → Untouched other s es s') ∧
    (Untouched k s es s' ∧ (∀ f, o ≠ .done f) ∨
      Written k es ∧ Keeps k certificate key (s'.objects.find? k) ∧
        ∀ f, o = .done f → f = Tls.fileName certificate key)

/-- Readings before make no difference to what becomes of the secret. -/
theorem Stored.after {k : ObjectKey} {certificate key : Bytes} {s s₁ s' : Server}
    {es es' : List Exchange} {o : Outcome Failure String} (h : Stored k certificate key s₁ es' o s')
    (first : ∀ other, Untouched other s es s₁) : Stored k certificate key s (es ++ es') o s' := by
  obtain ⟨others, kept | ⟨wrote, stored⟩⟩ := h
  · exact ⟨fun other apart => (first other).append (others other apart),
      .inl ⟨(first k).append kept.1, kept.2⟩⟩
  · exact ⟨fun other apart => (first other).append (others other apart),
      .inr ⟨written_append.2 (.inr wrote), stored⟩⟩

variable {owner : Option OwnerReference} {certificate key : Bytes} {s : Server}

/-- A granted request to store certificate and key stores them. -/
theorem stored_of_granted {verb : Verb} (changes : verb = .create ∨ verb = .replace) {x : Secret}
    (tidy : x.metadata.Tidy) (inNamespace : x.metadata.namespace = some «namespace»)
    (named : x.metadata.name = some name) (data : x.data = some (entry certificate key))
    {response : Response} {after : Server} {o : Outcome Failure String}
    (met : Exchange.Answered ⟨s, .about verb Secret.objectType «namespace» name
      (.value (Client.sent Secret.stored.toResource x)), response, after⟩)
    (granted : response.isFailure = false)
    (result : ∀ f, o = .done f → f = Tls.fileName certificate key) :
    Stored (secretKey «namespace» name) certificate key s
      [⟨s, .about verb Secret.objectType «namespace» name
        (.value (Client.sent Secret.stored.toResource x)), response, after⟩] o after := by
  refine ⟨fun other apart => met.untouched (.inr (.inl (Ne.symm apart))), .inr ⟨?_, ?_, result⟩⟩
  · refine ⟨_, List.mem_singleton_self _, ⟨?_, granted⟩, rfl⟩
    rcases changes with rfl | rfl <;> rintro ⟨⟩
  · exact ⟨_, granted_secret changes met granted,
      Json.kept_secret (s := x.reread) tidy.reread inNamespace named _,
      (Json.data_stamped x.reread _).trans data⟩

/-- An update leaves the secret as it was, or stores certificate and key. -/
theorem update_ensures {x : Secret}
    (plain : Request.Addressable Secret.objectType «namespace» name) (tidy : x.metadata.Tidy)
    (inNamespace : x.metadata.namespace = some «namespace») (named : x.metadata.name = some name)
    (data : x.data = some (entry certificate key)) (s : Server) :
    ((Store.update Secret.stored x).writing.bind fun _ =>
      .done (Tls.fileName certificate key)).Ensures Exchange.Answered s
      (Stored (secretKey «namespace» name) certificate key s) := by
  rw [Storable.update_eq (t := Secret.stored) plain inNamespace named]
  refine .request fun response after met => ?_
  dsimp only
  -- a failure stores nothing, and any other answer, decoded or not, comes after the storing
  cases fails : response.isFailure with
  | true =>
    rw [Response.decode_of_isFailure _ fails]
    have untouched (k : ObjectKey) := met.untouched (k := k) (.inr (.inr fails))
    refine .fail ⟨fun other _ => untouched other, .inl ⟨untouched _, ?_⟩⟩
    rintro f ⟨⟩
  | false =>
    cases response.decode Secret.stored.toResource with
    | ok y =>
      refine .done (stored_of_granted (.inr rfl) tidy inNamespace named data met fails ?_)
      rintro f ⟨⟩
      rfl
    | error e =>
      refine .fail (stored_of_granted (.inr rfl) tidy inNamespace named data met fails ?_)
      rintro f ⟨⟩

/-- Without a secret one is created, or updated if another writer has been first. -/
theorem storing_none_eq (plain : Request.Addressable Secret.objectType «namespace» name) :
    storing «namespace» name owner certificate key none =
      .request (.about .create Secret.objectType «namespace» name (.value
          (Client.sent Secret.stored.toResource
            (newSecret «namespace» name owner certificate key)))) fun r =>
        match r.decode Secret.stored.toResource with
        | .ok _ => .done (Tls.fileName certificate key)
        | .error e =>
          if isAlreadyExists (Store.createError Secret.objectType.kind «namespace» name e) then
            (Store.update Secret.stored
              (newSecret «namespace» name owner certificate key)).writing.bind fun _ =>
                .done (Tls.fileName certificate key)
          else .fail (.plain (.writeFailed
            (Store.createError Secret.objectType.kind «namespace» name e))) := by
  rw [storing, keeping, Storable.create_eq (t := Secret.stored)
    (a := newSecret «namespace» name owner certificate key) plain rfl rfl]
  refine congrArg (Program.request _) (funext fun r => ?_)
  dsimp only
  cases r.decode Secret.stored.toResource <;> rfl

/-- Whatever is refused, the secret is as it was or keeps what was to be stored. -/
theorem storing_ensures (plain : Request.Addressable Secret.objectType «namespace» name)
    {existing : Option Secret}
    (named : Configuration.Named «namespace» name existing)
    (tidy : ∀ secret ∈ existing, secret.metadata.Tidy) (s : Server) :
    (storing «namespace» name owner certificate key existing).Ensures Exchange.Answered s
      (Stored (secretKey «namespace» name) certificate key s) := by
  cases existing with
  | some secret =>
    -- a secret that is there is updated
    obtain ⟨inNamespace, hasName⟩ := named secret rfl
    exact update_ensures (x := replaced secret certificate key) plain (tidy secret rfl) inNamespace
      hasName rfl s
  | none =>
    -- otherwise one is created
    have isTidy : (newSecret «namespace» name owner certificate key).metadata.Tidy :=
      ObjectMeta.tidy_of_other_eq_nil rfl
    rw [storing_none_eq plain]
    refine .request fun response after met => ?_
    cases fails : response.isFailure with
    | true =>
      have untouched (k : ObjectKey) := met.untouched (k := k) (.inr (.inr fails))
      rw [Response.decode_of_isFailure _ fails]
      dsimp only
      split
      · -- somebody else has created it in the meantime
        have again := update_ensures (x := newSecret «namespace» name owner certificate key) plain
          isTidy rfl rfl rfl after
        exact again.mono fun es o s' h => h.after untouched
      · refine .fail ⟨fun other _ => untouched other, .inl ⟨untouched _, ?_⟩⟩
        rintro f ⟨⟩
    | false =>
      split
      · refine .done (stored_of_granted (.inl rfl) isTidy rfl rfl rfl met fails ?_)
        rintro f ⟨⟩
        rfl
      · next e decoded =>
        -- an answer that is not understood is no conflict
        have other : isAlreadyExists (Store.createError Secret.objectType.kind «namespace» name e) =
            false := by
          rcases Response.error_of_granted _ fails decoded with rfl | rfl <;> rfl
        rw [if_neg (ne_true_of_eq_false other)]
        refine .fail (stored_of_granted (.inl rfl) isTidy rfl rfl rfl met fails ?_)
        rintro f ⟨⟩

/-- So it is if the secret has to be read first. -/
theorem synthesize_ensures (plain : Request.Addressable Secret.objectType «namespace» name)
    {s : Server}
    (kept : KeptUnder «namespace» name (s.objects.find? (secretKey «namespace» name))) :
    (synthesize «namespace» name owner certificate key).Ensures Exchange.Answered s
      (Stored (secretKey «namespace» name) certificate key s) := by
  rw [synthesize_eq]
  refine .bind (Program.read_ensures Secret.stored «namespace» name s) ?_ ?_ ?_
  -- what has been read has the names that it is kept under, so that an update goes there
  · rintro es existing s₁ ⟨⟨rfl, untouched⟩, reads⟩
    obtain ⟨named, tidy⟩ : Configuration.Named «namespace» name existing ∧
        ∀ secret ∈ existing, secret.metadata.Tidy := by
      cases existing with
      | none =>
        exact ⟨fun _ mem => (Option.not_mem_none _ mem).elim,
          fun _ mem => (Option.not_mem_none _ mem).elim⟩
      | some secret =>
        have isRead := (s₁.reads_secret plain).symm.trans (reads secret rfl)
        obtain ⟨named, tidy, -⟩ := Configuration.names_of_seen kept isRead
        exact ⟨named, tidy⟩
    exact (storing_ensures plain named tidy s₁).mono fun es' o s' h => h.after untouched
  · rintro es e s' ⟨⟨-, untouched⟩, -⟩
    refine ⟨fun other _ => untouched other, .inl ⟨untouched _, ?_⟩⟩
    rintro f ⟨⟩
  · rintro es s' ⟨⟨-, untouched⟩, -⟩
    refine ⟨fun other _ => untouched other, .inl ⟨untouched _, ?_⟩⟩
    rintro f ⟨⟩

/-! ### The change of the document -/

/-- The user's config map and secret are there with their entries, as far as TLS is wanted. -/
structure Provided (d : TlsDescriptor) (s : Server) (certificate key : Bytes) : Prop where
  hasConfigMap : d.caConfigMap ≠ ""
  hasSecret : d.certificateKeySecret ≠ ""
  configMap : ∃ configMap ca,
    s.reads ConfigMap.stored d.namespace d.caConfigMap = .ok (some configMap) ∧
      configMap.entry? Tls.caCertificateName = some ca
  secret : provided s d.namespace d.certificateKeySecret = some (certificate, key)

/-- What becomes of the operator's secret while the change of the document is worked out: it is
left as it was, or the user's certificate and key are its only entry. Of some other objects none is
touched. -/
def Kept (spared : ObjectKey → Prop) (d : TlsDescriptor) (s : Server) (es : List Exchange)
    (o : Outcome Failure Change) (s' : Server) : Prop :=
  (∀ other, spared other → other ≠ secretKey d.namespace d.operatorSecret →
      Untouched other s es s') ∧
    (Untouched (secretKey d.namespace d.operatorSecret) s es s' ∧
        (∀ change, o = .done change → d.enabled = false ∧ change = .tls .disabled "") ∨
      Written (secretKey d.namespace d.operatorSecret) es ∧ d.enabled = true ∧
        ∃ certificate key, Provided d s certificate key ∧
        Keeps (secretKey d.namespace d.operatorSecret) certificate key
          (s'.objects.find? (secretKey d.namespace d.operatorSecret)) ∧
        ∀ change, o = .done change → change = .tls d.mode (Tls.fileName certificate key))

namespace Kept

variable {spared spared' : ObjectKey → Prop} {d : TlsDescriptor} {s₁ s' : Server}
  {es es' : List Exchange} {o : Outcome Failure Change}

/-- What touches nothing and has no result leaves the secret as it was. -/
theorem of_untouched (untouched : ∀ k, Untouched k s es s') (fails : ∀ change, o ≠ .done change) :
    Kept spared d s es o s' :=
  ⟨fun other _ _ => untouched other,
    .inl ⟨untouched _, fun change done => absurd done (fails change)⟩⟩

/-- Readings before make no difference. -/
theorem after (h : Kept spared d s es' o s') (first : ∀ k, Untouched k s es s) :
    Kept spared d s (es ++ es') o s' := by
  obtain ⟨others, kept | ⟨wrote, stored⟩⟩ := h
  · exact ⟨fun other mem apart => (first other).append (others other mem apart),
      .inl ⟨(first _).append kept.1, kept.2⟩⟩
  · exact ⟨fun other mem apart => (first other).append (others other mem apart),
      .inr ⟨written_append.2 (.inr wrote), stored⟩⟩

/-- Neither does what leaves the secrets alone, afterwards; only what it leaves alone is spared
then. -/
theorem followed {o' : Outcome Failure Change} (h : Kept spared d s es o s₁)
    (fewer : ∀ k, spared' k → spared k)
    (own : spared' (secretKey d.namespace d.operatorSecret))
    (rest : ∀ k, spared' k → Untouched k s₁ es' s')
    (result : ∀ change, o' = .done change → o = .done change) :
    Kept spared' d s (es ++ es') o' s' := by
  obtain ⟨others, ⟨untouched, done⟩ |
    ⟨wrote, enabled, certificate, key, isProvided, holds, done⟩⟩ := h
  · exact ⟨fun other mem apart => (others other (fewer other mem) apart).append (rest other mem),
      .inl ⟨untouched.append (rest _ own), fun change h => done change (result change h)⟩⟩
  · refine ⟨fun other mem apart =>
      (others other (fewer other mem) apart).append (rest other mem),
      .inr ⟨written_append.2 (.inl wrote), enabled, certificate, key, isProvided, ?_,
        fun change h => done change (result change h)⟩⟩
    rw [(rest _ own).same]
    exact holds

/-- What becomes of the secret is what becomes of it when certificate and key are stored. -/
theorem of_stored {o' : Outcome Failure String} (enabled : d.enabled = true)
    (isProvided : Provided d s certificate key)
    (h : Stored (secretKey d.namespace d.operatorSecret) certificate key s es o' s')
    (result : ∀ change, o = .done change → ∃ f, o' = .done f ∧ change = .tls d.mode f) :
    Kept spared d s es o s' := by
  obtain ⟨others, ⟨untouched, notDone⟩ | ⟨wrote, holds, file⟩⟩ := h
  · refine ⟨fun other _ => others other, .inl ⟨untouched, fun change done => ?_⟩⟩
    obtain ⟨f, there, -⟩ := result change done
    exact absurd there (notDone f)
  · refine ⟨fun other _ => others other,
      .inr ⟨wrote, enabled, certificate, key, isProvided, holds, fun change done => ?_⟩⟩
    obtain ⟨f, there, same⟩ := result change done
    rw [same, file f there]

end Kept

/-- Whatever is refused, the operator's secret is left as it was or holds the user's certificate and
key, and the change of the document names that file. No other object is touched. -/
theorem change_ensures {d : TlsDescriptor}
    (plain : Request.Addressable Secret.objectType d.namespace d.operatorSecret) {s : Server}
    (kept : KeptUnder d.namespace d.operatorSecret
      (s.objects.find? (secretKey d.namespace d.operatorSecret))) :
    (change d).Ensures Exchange.Answered s (Kept (fun _ => True) d s) := by
  unfold change
  cases enabled : d.enabled with
  | false =>
    refine .done ⟨fun other _ _ => .nil other s, .inl ⟨.nil _ s, ?_⟩⟩
    rintro change ⟨⟩
    exact ⟨enabled, rfl⟩
  | true =>
    -- the two readings leave the server alone, so that only the last step counts
    refine .bind (readCaCertificate_ensures d.namespace d.caConfigMap s) ?_ ?_ ?_
    · rintro es₁ ca s₁ ⟨⟨rfl, untouched₁⟩, readsCa⟩
      obtain ⟨hasConfigMap, configMap, isRead, isEntry⟩ := readsCa ca rfl
      refine Program.Ensures.mono (?_ : Program.Ensures _ _ s₁ (Kept _ d s₁))
        fun es o s' h => h.after untouched₁
      refine .bind (readCertificateKey_ensures d.namespace d.certificateKeySecret s₁) ?_ ?_ ?_
      · rintro es₂ ⟨certificate, key⟩ s₂ ⟨⟨rfl, untouched₂⟩, reads⟩
        obtain ⟨hasSecret, isProvided⟩ := reads _ rfl
        -- all the material is there
        have all : Provided d s₂ certificate key :=
          ⟨hasConfigMap, hasSecret, ⟨configMap, ca, isRead, isEntry⟩, isProvided⟩
        refine Program.Ensures.mono (?_ : Program.Ensures _ _ s₂ (Kept _ d s₂))
          fun es o s' h => h.after untouched₂
        refine .bind (synthesize_ensures plain kept) ?_ ?_ ?_
        · rintro es f s' stored
          refine .done ?_
          rw [List.append_nil]
          refine .of_stored enabled all stored ?_
          rintro change ⟨⟩
          exact ⟨f, rfl, rfl⟩
        · exact fun es e s' stored => .of_stored enabled all stored (by rintro change ⟨⟩)
        · exact fun es s' stored => .of_stored enabled all stored (by rintro change ⟨⟩)
      · rintro es e s' ⟨⟨-, untouched⟩, -⟩
        exact .of_untouched untouched fun change => by rintro ⟨⟩
      · rintro es s' ⟨⟨-, untouched⟩, -⟩
        exact .of_untouched untouched fun change => by rintro ⟨⟩
    · rintro es e s' ⟨⟨-, untouched⟩, -⟩
      exact .of_untouched untouched fun change => by rintro ⟨⟩
    · rintro es s' ⟨⟨-, untouched⟩, -⟩
      exact .of_untouched untouched fun change => by rintro ⟨⟩

end Material

end ReplicaSetOperator
