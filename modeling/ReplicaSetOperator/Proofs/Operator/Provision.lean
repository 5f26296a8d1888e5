import ReplicaSetOperator.Proofs.Object.Sound
import ReplicaSetOperator.Proofs.Operator.Material
import ReplicaSetOperator.Proofs.Server.Serving

/-!
# Material that is there

On a server that serves, a secret that decodes is read (`Program.read_delivers`), and one that is
sent is stored so that it decodes again (`Configuration.Legible.of_sent`). If the user's config map
and secret have their entries (`Material.Provided`), the work for TLS comes to its result
(`Material.change_delivers`).
-/

namespace ReplicaSetOperator

open ReplicaSetOperator.Configuration (seen secretKey KeptUnder Named)

/-! ### Secrets that decode -/

namespace Configuration

variable {«namespace» name : String} {object : Option Json}

/-- What is kept under a name is a secret, if anything is. -/
structure Legible («namespace» name : String) (object : Option Json) : Prop where
  kept : KeptUnder «namespace» name object
  fine : ∀ j ∈ object, Secret.format.fault .value j = none

/-- Nothing at all is legible. -/
theorem Legible.none : Legible «namespace» name none :=
  ⟨fun _ mem => (Option.not_mem_none _ mem).elim, fun _ mem => (Option.not_mem_none _ mem).elim⟩

/-- What is legible decodes, to the secret that is kept. -/
theorem Legible.seen_eq (h : Legible «namespace» name object) :
    seen object = .ok (object.map fun j => (Secret.format.read j).reread) := by
  cases object with
  | none => rfl
  | some j =>
    show (if (Secret.format.fault .value j).isNone then _ else _) = _
    rw [h.fine j rfl]
    rfl

theorem Legible.sound (h : Legible «namespace» name object) :
    ∀ secret ∈ object.map fun j => (Secret.format.read j).reread, secret.metadata.Sound := by
  intro secret mem
  obtain ⟨j, there, rfl⟩ := Option.map_eq_some_iff.1 mem
  exact (Secret.sound_read (h.fine j there)).reread

theorem Legible.named (h : Legible «namespace» name object) :
    Named «namespace» name (object.map fun j => (Secret.format.read j).reread) :=
  (names_of_seen h.kept h.seen_eq).1

/-- What is stored of a secret that is sent decodes again. -/
theorem Legible.of_sent {x : Secret} (sound : x.metadata.Sound)
    (inNamespace : x.metadata.namespace = some «namespace») (named : x.metadata.name = some name)
    (old : Option Json) :
    Legible «namespace» name
      (some ((Client.sent Secret.stored.toResource x).stamped old)) where
  kept := by
    rintro j ⟨⟩
    exact Json.kept_secret (s := x.reread) sound.tidy.reread inNamespace named old
  fine := by
    rintro j ⟨⟩
    have written : Secret.format.fault .value (Client.sent Secret.stored.toResource x) = .none :=
      Secret.faultless (s := x.reread) sound.reread
    exact Secret.fault_stamped written (Secret.get?_write_metadata x.reread) (by rintro ⟨⟩) old

end Configuration

/-! ### Reading -/

namespace Server

variable {α : Type} {t : Storable α} {«namespace» name : String} {s s₁ : Server}

/-- What is read depends on the object that the request is about. -/
theorem reads_congr_key
    (same : ∀ r, Request.about? .get t.type «namespace» name .none false = some r →
      s₁.objects.find? (key r) = s.objects.find? (key r)) :
    s₁.reads t «namespace» name = s.reads t «namespace» name := by
  unfold Server.reads
  split
  · next r arrives =>
    have reads : r.verb = .get := Request.verb_of_about? arrives
    rw [Server.serve_get_congr reads (same r arrives)]
  · rfl

end Server

variable {meets : Exchange → Prop} {s : Server}

/-- On a server that serves, a reading comes to its result and changes nothing. -/
theorem Program.read_delivers {α : Type} {t : Storable α} {«namespace» name : String}
    {a : Option α} (reads : s.reads t «namespace» name = .ok a)
    (serves : ∀ r, Request.about? .get t.type «namespace» name .none false = some r →
      ∀ response after, meets ⟨s, r, response, after⟩ →
        (Exchange.mk s r response after).Served) :
    (Program.read t «namespace» name).Delivers meets (·.verb = .get) s fun b s' =>
      b = a ∧ s' = s := by
  cases arrives : Request.about? .get t.type «namespace» name .none false with
  | none =>
    rw [Server.reads, arrives] at reads
    cases reads
  | some r =>
    have isGet : r.verb = .get := Request.verb_of_about? arrives
    have found : t.found (s.serve r).2 = .ok a := by
      rw [Server.reads, arrives] at reads
      exact reads
    rw [Storable.read_eq_of_about arrives]
    refine .served isGet (serves r arrives) ?_
    rw [found, Server.serve_of_get isGet]
    exact .done ⟨rfl, rfl⟩

namespace Material

/-! ### Storing -/

section

variable {«namespace» name : String} {owner : Option OwnerReference} {certificate key : Bytes}

/-- A secret is there, and its only entry is a certificate with its key. -/
structure Holds («namespace» name : String) (certificate key : Bytes) (s : Server) : Prop where
  legible : Configuration.Legible «namespace» name (s.objects.find? (secretKey «namespace» name))
  data : ((s.objects.find? (secretKey «namespace» name)).bind fun j =>
    (Secret.format.read j).data) = some (entry certificate key)

theorem Holds.congr {s' : Server} (h : Holds «namespace» name certificate key s)
    (same : s'.objects.find? (secretKey «namespace» name) =
      s.objects.find? (secretKey «namespace» name)) :
    Holds «namespace» name certificate key s' where
  legible := same ▸ h.legible
  data := same ▸ h.data

/-- Its only file is the one of the certificate and its key. -/
theorem Holds.files_eq (h : Holds «namespace» name certificate key s) :
    files (s.objects.find? (secretKey «namespace» name)) = [Tls.fileName certificate key] := by
  rw [files, h.data]
  rfl

/-- A secret with certificate and key that the server accepts is there, and is answered. -/
theorem holds_of_accepted {x : Secret} (sound : x.metadata.Sound)
    (inNamespace : x.metadata.namespace = some «namespace») (named : x.metadata.name = some name)
    (data : x.data = some (entry certificate key)) {code : Nat}
    (success : 200 ≤ code ∧ code < 400) {after : Server} {response : Response}
    (accepted : s.accept code (secretKey «namespace» name)
      (Client.sent Secret.stored.toResource x) = (after, response)) :
    Holds «namespace» name certificate key after ∧
      ∃ y, response.decode Secret.stored.toResource = .ok y := by
  have legible := Configuration.Legible.of_sent sound inNamespace named
    (s.objects.find? (secretKey «namespace» name))
  have stored : after.objects.find? (secretKey «namespace» name) =
      some ((Client.sent Secret.stored.toResource x).stamped
        (s.objects.find? (secretKey «namespace» name))) := by
    have result := Server.find?_accept s code (secretKey «namespace» name)
      (secretKey «namespace» name) (Client.sent Secret.stored.toResource x)
    rw [accepted, if_pos rfl] at result
    exact result
  -- what has been stored is the secret that was sent, with a new version, and so is the answer
  refine ⟨⟨stored ▸ legible, ?_⟩, ?_⟩
  · rw [stored]
    exact (Json.data_stamped x.reread _).trans data
  · have answer : response = .holding code ((Client.sent Secret.stored.toResource x).stamped
        (s.objects.find? (secretKey «namespace» name))) := (congrArg Prod.snd accepted).symm
    have fine := legible.fine _ rfl
    exact ⟨_, answer ▸ Response.decode_fine Secret.stored.toResource success fine⟩

variable (plain : Request.Addressable Secret.objectType «namespace» name)
  (serves : ∀ e, meets e → e.request.type = Secret.objectType →
    Server.key e.request = secretKey «namespace» name → e.Served)
  (legible : Configuration.Legible «namespace» name
    (s.objects.find? (secretKey «namespace» name)))

include plain serves legible

/-- Certificate and key are stored, whether the operator's secret is there or not. -/
theorem storing_delivers :
    (storing «namespace» name owner certificate key
      ((s.objects.find? (secretKey «namespace» name)).map fun j =>
        (Secret.format.read j).reread)).Delivers meets
      (fun r => Server.key r = secretKey «namespace» name) s fun f s' =>
        f = Tls.fileName certificate key ∧ Holds «namespace» name certificate key s' := by
  have isStored : Secret.objectType.kind ≠ "Event" := by decide
  -- a secret that is there is replaced, and otherwise a new one is created
  cases there : s.objects.find? (secretKey «namespace» name) with
  | none =>
    rw [Option.map_none, storing_none_eq plain]
    refine .request rfl fun response after met => ?_
    have accepted := (Server.serve_create_absent isStored _ there).symm.trans
      (serves _ met rfl rfl)
    obtain ⟨holds, y, decoded⟩ := holds_of_accepted
      (x := newSecret «namespace» name owner certificate key)
      (ObjectMeta.sound_of_new rfl rfl rfl) rfl rfl rfl (by omega) accepted
    rw [decoded]
    exact .done ⟨rfl, holds⟩
  | some j =>
    rw [there] at legible
    obtain ⟨inNamespace, named⟩ := legible.named _ rfl
    have sound := legible.sound _ rfl
    show ((Store.update Secret.stored
      (replaced (Secret.format.read j).reread certificate key)).writing.bind fun _ =>
        .done (Tls.fileName certificate key)).Delivers _ _ _ _
    rw [Storable.update_eq (t := Secret.stored)
      (a := replaced (Secret.format.read j).reread certificate key) plain inNamespace named]
    refine .request rfl fun response after met => ?_
    -- no version is sent, so that nobody can have been faster
    have unversioned : ∀ v ∈ (Client.sent Secret.stored.toResource
        (replaced (Secret.format.read j).reread certificate key)).resourceVersion?,
        j.resourceVersion? = some v := by
      rw [show (Client.sent Secret.stored.toResource
        (replaced (Secret.format.read j).reread certificate key)).resourceVersion? = none from
          Json.resourceVersion?_secret
            (s := (replaced (Secret.format.read j).reread certificate key).reread)
            sound.tidy.reread]
      exact fun _ mem => (Option.not_mem_none _ mem).elim
    have accepted := (Server.serve_replace_there there isStored unversioned).symm.trans
      (serves _ met rfl rfl)
    obtain ⟨holds, y, decoded⟩ := holds_of_accepted
      (x := replaced (Secret.format.read j).reread certificate key)
      ⟨sound.created, sound.deleted, sound.tidy, sound.carried⟩ inNamespace named rfl (by omega)
      accepted
    dsimp only at decoded ⊢
    rw [decoded]
    exact .done ⟨rfl, holds⟩

/-- The secret is read first, and so it is known whether it is there. -/
theorem synthesize_delivers :
    (synthesize «namespace» name owner certificate key).Delivers meets
      (fun r => r.verb = .get ∨ Server.key r = secretKey «namespace» name) s fun f s' =>
        f = Tls.fileName certificate key ∧ Holds «namespace» name certificate key s' := by
  rw [synthesize_eq]
  have reads := (s.reads_secret plain).trans legible.seen_eq
  refine .bind (Program.Delivers.widen (Program.read_delivers reads ?_) fun r => .inl) ?_
  · rintro r arrives response after met
    obtain rfl := Option.some.inj ((Request.about?_eq .get .none false plain).symm.trans arrives)
    exact serves _ met rfl rfl
  · rintro existing s₁ ⟨rfl, rfl⟩
    exact (storing_delivers plain serves legible).widen fun r => .inr

end

/-! ### What the user provides -/

/-- What the user provides does not depend on other objects. -/
theorem Provided.congr {d : TlsDescriptor} {s' : Server} {certificate key : Bytes}
    (h : Provided d s certificate key) (plain : Address.isPlain d.namespace = true)
    (configMaps : ∀ k : ObjectKey, k.kind = ConfigMap.objectType.kind →
      s'.objects.find? k = s.objects.find? k)
    (secrets : ∀ r, Request.about? .get Secret.objectType d.namespace d.certificateKeySecret .none
      false = some r → s'.objects.find? (Server.key r) = s.objects.find? (Server.key r)) :
    Provided d s' certificate key where
  hasConfigMap := h.hasConfigMap
  hasSecret := h.hasSecret
  configMap := by
    rw [@Server.reads_congr _ ConfigMap.stored d.namespace s s' d.caConfigMap (by decide)
      (by decide) plain configMaps]
    exact h.configMap
  secret := by
    rw [provided, @Server.reads_congr_key _ Secret.stored d.namespace d.certificateKeySecret s s'
      secrets]
    exact h.secret

/-- The secret of the user is not the one of a key. -/
def Apart (d : TlsDescriptor) (k : ObjectKey) : Prop :=
  ∀ r, Request.about? .get Secret.objectType d.namespace d.certificateKeySecret .none false =
    some r → Server.key r ≠ k

variable {d : TlsDescriptor} {certificate key : Bytes} {k : ObjectKey}

theorem apart_of_ne
    (plain : Request.Addressable Secret.objectType d.namespace d.certificateKeySecret)
    (ne : secretKey d.namespace d.certificateKeySecret ≠ k) : Apart d k := by
  intro r arrives
  obtain rfl := Option.some.inj ((Request.about?_eq .get .none false plain).symm.trans arrives)
  exact ne

/-- What is provided stands in a secret with both entries. -/
theorem certificate_of_provided {«namespace» name : String}
    (h : provided s «namespace» name = some (certificate, key)) :
    ∃ secret, s.reads Secret.stored «namespace» name = .ok (some secret) ∧
      secret.entry? Tls.certificateName = some certificate ∧
      secret.entry? Tls.keyName = some key := by
  rw [provided] at h
  split at h
  · next secret reads =>
    obtain ⟨c, isCertificate, h⟩ := Option.bind_eq_some_iff.1 h
    obtain ⟨k, isKey, h⟩ := Option.bind_eq_some_iff.1 h
    cases h
    exact ⟨secret, reads, isCertificate, isKey⟩
  · cases h

/-- The certificate of the authority is found in what the user provides. -/
theorem readCaCertificate_delivers (h : Provided d s certificate key)
    (plain : Address.isPlain d.namespace = true)
    (serves : ∀ e, meets e → e.request.type = ConfigMap.objectType → e.Served) :
    (readCaCertificate d.namespace d.caConfigMap).Delivers meets (·.verb = .get) s fun _ s' =>
      s' = s := by
  obtain ⟨configMap, ca, reads, entry⟩ := h.configMap
  rw [readCaCertificate, if_neg (by simpa using h.hasConfigMap)]
  refine .bind (Program.read_delivers reads fun r arrives response after met => ?_) ?_
  · exact serves _ met
      (Request.type_of_about? (by decide) (by decide) plain arrives).2
  · rintro existing s₁ ⟨rfl, rfl⟩
    dsimp only
    rw [entry]
    exact .done rfl

theorem readCertificateKey_delivers (h : Provided d s certificate key) (apart : Apart d k)
    (plain : Address.isPlain d.namespace = true)
    (serves : ∀ e, meets e → e.request.type = Secret.objectType → Server.key e.request ≠ k →
      e.Served) :
    (readCertificateKey d.namespace d.certificateKeySecret).Delivers meets (·.verb = .get) s
      fun p s' => p = (certificate, key) ∧ s' = s := by
  obtain ⟨secret, reads, isCertificate, isKey⟩ := certificate_of_provided h.secret
  rw [readCertificateKey, if_neg (by simpa using h.hasSecret)]
  refine .bind (Program.read_delivers reads fun r arrives response after met => ?_) ?_
  · exact serves _ met (Request.type_of_about? (by decide) (by decide) plain arrives).2
      (apart r arrives)
  · rintro existing s₁ ⟨rfl, rfl⟩
    dsimp only
    rw [isCertificate, isKey]
    exact .done ⟨rfl, rfl⟩

/-- With the user's material there, certificate and key come to be stored, and the change of the
document names their file. -/
theorem change_delivers (enabled : d.enabled = true) (h : Provided d s certificate key)
    (apart : Apart d k)
    (plain : Request.Addressable Secret.objectType d.namespace d.operatorSecret)
    (other : secretKey d.namespace d.operatorSecret ≠ k)
    (configMaps : ∀ e, meets e → e.request.type = ConfigMap.objectType → e.Served)
    (secrets : ∀ e, meets e → e.request.type = Secret.objectType → Server.key e.request ≠ k →
      e.Served)
    (legible : Configuration.Legible d.namespace d.operatorSecret
      (s.objects.find? (secretKey d.namespace d.operatorSecret))) :
    (change d).Delivers meets
      (fun r => r.verb = .get ∨ Server.key r = secretKey d.namespace d.operatorSecret) s
      fun change s' => change = .tls d.mode (Tls.fileName certificate key) ∧
        Holds d.namespace d.operatorSecret certificate key s' := by
  rw [change, enabled]
  -- both readings leave the server as it is, so that the storing starts from it
  refine .bind ((readCaCertificate_delivers h plain.plainNamespace configMaps).widen
    fun r => .inl) ?_
  rintro ca s₁ rfl
  refine .bind ((readCertificateKey_delivers h apart plain.plainNamespace secrets).widen
    fun r => .inl) ?_
  rintro p s₂ ⟨rfl, rfl⟩
  have serves : ∀ e, meets e → e.request.type = Secret.objectType →
      Server.key e.request = secretKey d.namespace d.operatorSecret → e.Served :=
    fun e met isSecret about => secrets e met isSecret (about ▸ other)
  refine .bind (synthesize_delivers plain serves legible) ?_
  rintro f s' ⟨rfl, holds⟩
  exact .done ⟨rfl, holds⟩

end Material

end ReplicaSetOperator
