import ReplicaSetOperator.Proofs.Operator.Demands
import ReplicaSetOperator.Proofs.Operator.Material
import ReplicaSetOperator.Proofs.Operator.Pushes
import ReplicaSetOperator.Proofs.Server.Conduct

/-!
# The conduct of the operator

All that a reconciliation asks for, whatever its cluster is called and whatever is answered: it
reads, it reports and marks, it puts the finalizer on the cluster and takes it away, it tells
events, it writes its two secrets, and it applies the workload (`Cluster.Asks`). A secret that it
writes holds a document that has been built or a certificate and its key (`Cluster.Fills`), and it
has the names of the one that has been read, or those of a new one (`Secret.Inherits`).

It never fails because a document is not consistent (`Failure.violates`): the change of the document
is always one of the TLS mode, which makes a consistent document of any.

The one result is `Cluster.reconcileGuarded_conforms`; what holds of all requests and failures is a
case analysis of it.
-/

namespace ReplicaSetOperator

open ReplicaSetOperator.Configuration (entries)

mutual

/-- Whether a violation of the consistency of a document is at the bottom of a cause. -/
def Cause.violates : Cause → Bool
  | .invariant _ => true
  | .finalizer f => f.violates
  | .json _ | .client _ | .metadataMissing _ | .materialMissing _ | .readFailed _
  | .writeFailed _ => false

/-- Whether a violation of the consistency of a document is at the bottom of a failure. -/
def Failure.violates : Failure → Bool
  | .plain c | .retry c _ => c.violates

/-- Whether a violation of the consistency of a document is at the bottom of what the work around a
finalizer came to. -/
def FinalizerFailure.violates : FinalizerFailure → Bool
  | .apply f | .cleanup f => f.violates
  | .add _ | .remove _ | .unnamed | .invalid => false

end

/-! ### What is asked for -/

/-- A secret that stands in an admitted answer to the request for one of a name. -/
def Secret.Fetched (admits : Request → Response → Prop) («namespace» name : String)
    (secret : Secret) : Prop :=
  ∃ r response, Request.about? .get Secret.objectType «namespace» name .none false = some r ∧
    admits r response ∧ Secret.stored.found response = .ok (some secret)

/-- A secret with the names that are given, or with those of a secret that has been fetched under
them. -/
def Secret.Inherits (admits : Request → Response → Prop) («namespace» name : String)
    (secret : Secret) : Prop :=
  secret.metadata.namespace = some «namespace» ∧ secret.metadata.name = some name ∨
    ∃ fetched : Secret, fetched.Fetched admits «namespace» name ∧
      secret.metadata.namespace = fetched.metadata.namespace ∧
      secret.metadata.name = fetched.metadata.name

namespace Cluster

/-- A secret as the operator sends it in the place of one of its two secrets. -/
inductive Fills (c : Cluster) : String → Secret → Prop
  | document {secret : Secret} {d : Document} (uniform : d.Uniform) (valid : d.validate = .ok ())
    (holds : secret.data = some (entries d)) : Fills c c.configSecretName secret
  | material {secret : Secret} {certificate key : Bytes}
    (holds : secret.data = some (Material.entry certificate key)) :
    Fills c c.operatorSecretName secret

/-- The requests of a reconciliation. -/
inductive Asks (admits : Request → Response → Prop) (c : Cluster) («namespace» : String)
    (r : Request) : Prop
  | reads (verb : r.verb = .get) (payload : r.payload = .none)
  | states {members : List (String × Option Json)}
    (arrives : Request.about? .merge Cluster.type «namespace» c.name
      (.value (Status.changing members)) true = some r)
  | marks {complete : Bool}
    (arrives : Request.about? .merge Cluster.type «namespace» c.name
      (.value (marking complete)) false = some r)
  | guards {finalizers : List String}
    (arrives : Request.about? .json Cluster.type «namespace» c.name
      (.patch (addFinalizer finalizers)) false = some r)
  | releases {i : Nat}
    (arrives : Request.about? .json Cluster.type «namespace» c.name
      (.patch (removeFinalizer i)) false = some r)
  | tells {event : Event} {now : Timestamp}
    (arrives : Request.creating? Event.type «namespace» (Event.name c now) (event.body c now) =
      some r)
  | creates {name : String} {secret : Secret} (fills : c.Fills name secret)
    (arrives : Request.creating? Secret.objectType «namespace» name
      (Client.sent Secret.stored.toResource secret) = some r)
  | replaces {name ns' name' : String} {secret : Secret} (fills : c.Fills name secret)
    (inherits : secret.Inherits admits «namespace» name)
    (inNamespace : secret.metadata.namespace = some ns') (named : secret.metadata.name = some name')
    (arrives : Request.about? .replace Secret.objectType ns' name'
      (.value (Client.sent Secret.stored.toResource secret)) false = some r)
  | appliesService
    (arrives : Request.about? .apply Service.type «namespace» c.serviceName
      (.value (Client.sent Service.resource (c.service «namespace»))) false = some r)
  | appliesStatefulSet {images : Images}
    (arrives : Request.about? .apply StatefulSet.type «namespace» c.name
      (.value (Client.sent StatefulSet.resource (c.statefulSet «namespace» images))) false = some r)

end Cluster

/-- A program of the operator for a cluster: it asks for nothing but what belongs to a
reconciliation, and never fails because a document is not consistent. -/
abbrev Program.Tends {α : Type} (admits : Request → Response → Prop) (c : Cluster)
    («namespace» : String) (results : α → Prop) (p : Program Failure α) : Prop :=
  p.Conforms admits (c.Asks admits «namespace») results fun f => f.violates = false

variable {α : Type} {admits : Request → Response → Prop} {c : Cluster} {«namespace» : String}

namespace Client

variable {asks : Request → Prop} {t : Resource α}

/-- An exchange asks for its request, if that arrives at all, and for nothing else. -/
theorem exchange_conforms {r? : Option Request} (asked : ∀ r ∈ r?, asks r) :
    (exchange t r?).Conforms admits asks (fun _ => True) fun _ => True := by
  cases r? with
  | none => trivial
  | some r =>
    exact ⟨asked r rfl, fun response _ => .ofExcept (fun _ _ => trivial) fun _ _ => trivial⟩

/-- A request whose failure is the client's. -/
theorem exchange_tends {r? : Option Request} (asked : ∀ r ∈ r?, c.Asks admits «namespace» r) :
    (exchange t r?).requesting.Tends admits c «namespace» fun _ => True :=
  .mapFailure (exchange_conforms asked) fun _ _ => rfl

end Client

/-- What is read has been fetched. -/
theorem Program.read_conforms (t : Storable α) {asks : Request → Prop} {ns name : String}
    (asked : ∀ r, Request.about? .get t.type ns name .none false = some r → asks r) :
    (Program.read t ns name).Conforms admits asks (fun found => ∀ a ∈ found, ∃ r response,
      Request.about? .get t.type ns name .none false = some r ∧ admits r response ∧
        t.found response = .ok (some a)) fun f => f.violates = false := by
  -- what does not arrive is not sent, and that is no violation
  cases arrives : Request.about? .get t.type ns name .none false with
  | none =>
    rw [Storable.read_eq_of_unsendable arrives]
    rfl
  | some r =>
    rw [Storable.read_eq_of_about arrives]
    refine ⟨asked r arrives, fun response admitted => .ofExcept ?_ ?_⟩
    · rintro found isFound a rfl
      exact ⟨r, response, rfl, admitted, isFound⟩
    · intro f isFound
      rw [Storable.found] at isFound
      split at isFound
      · cases isFound
      · split at isFound
        · cases isFound
        · cases isFound
          rfl

theorem Program.read_tends (t : Storable α) (ns name : String) :
    (Program.read t ns name).Tends admits c «namespace» fun found => ∀ a ∈ found, ∃ r response,
      Request.about? .get t.type ns name .none false = some r ∧ admits r response ∧
        t.found response = .ok (some a) :=
  read_conforms t fun _ arrives =>
    .reads (Request.verb_of_about? arrives) (Request.payload_of_about? arrives)

namespace Store

variable {asks : Request → Prop} {t : Storable α} {object : α}

/-- An object is created under its own names. -/
theorem create_conforms {name : String} (named : (t.metadata object).name = some name)
    (own : (t.metadata object).namespace = some «namespace»)
    (asked : ∀ r, Request.creating? t.type «namespace» name (Client.sent t.toResource object) =
      some r → asks r) :
    (create t object).Conforms admits asks (fun _ => True) fun _ => True := by
  have isKey : Store.key (t.metadata object) = .ok («namespace», name) := by
    rw [Store.key, own, named]
  have keyed : (Program.ofExcept (Store.key (t.metadata object))).Conforms admits asks
      (· = («namespace», name)) fun _ => True :=
    .ofExcept (fun _ same => (Except.ok.inj (isKey.symm.trans same)).symm) fun _ _ => trivial
  refine .bind keyed ?_
  rintro _ rfl
  exact .mapFailure (Client.exchange_conforms asked) fun _ _ => trivial

/-- An object goes where it says itself, which need not be where it was looked for. -/
theorem update_conforms (asked : ∀ ns name r, (t.metadata object).namespace = some ns →
      (t.metadata object).name = some name →
      Request.about? .replace t.type ns name (.value (Client.sent t.toResource object)) false =
        some r → asks r) :
    (update t object).Conforms admits asks (fun _ => True) fun _ => True := by
  have keyed : (Program.ofExcept (Store.key (t.metadata object))).Conforms admits asks
      (fun p => (t.metadata object).namespace = some p.1 ∧ (t.metadata object).name = some p.2)
      fun _ => True := by
    -- the object names its place itself, or it is not sent
    refine .ofExcept ?_ fun _ _ => trivial
    rintro ⟨ns, name⟩ isKey
    unfold Store.key at isKey
    split at isKey
    · cases isKey
    · cases isKey
    · next own named =>
      cases isKey
      exact ⟨own, named⟩
  refine .bind keyed ?_
  rintro ⟨ns, name⟩ ⟨own, named⟩
  exact .mapFailure (Client.exchange_conforms fun r arrives => asked ns name r own named arrives)
    fun _ _ => trivial

end Store

/-- The namespace of the cluster is the one that everything is asked for in. -/
theorem Cluster.namespaced_tends (inNamespace : c.metadata.namespace = some «namespace») :
    (Program.ofExcept c.namespaced).Tends admits c «namespace» (· = «namespace») := by
  rw [namespaced, inNamespace]
  rfl

section

variable (inNamespace : c.metadata.namespace = some «namespace»)

include inNamespace

/-! ### Reports -/

theorem Event.publish_tends (e : Event) :
    (e.publish c).Tends admits c «namespace» fun _ => True := by
  refine .now fun now => ?_
  rw [inNamespace]
  exact .bind (Client.exchange_tends fun r arrives => .tells arrives) fun _ _ => trivial

namespace Status

theorem patch_tends (members : List (String × Option Json)) :
    (patch c members).Tends admits c «namespace» fun _ => True := by
  refine .bind (Cluster.namespaced_tends inNamespace) ?_
  rintro _ rfl
  exact .bind (Client.exchange_tends fun r arrives => .states arrives) fun _ _ => trivial

theorem setCondition_tends (type : String) (report : Report) :
    (setCondition c type report).Tends admits c «namespace» fun _ => True := by
  refine .bind (Cluster.namespaced_tends inNamespace) ?_
  rintro _ rfl
  refine .bind (Client.exchange_tends fun r arrives =>
    .reads (Request.verb_of_about? arrives) (Request.payload_of_about? arrives)) fun current _ =>
      .now fun now => ?_
  dsimp only
  split
  · exact patch_tends inNamespace _
  · trivial

end Status

namespace Cluster

theorem announced_tends : c.announced.Tends admits c «namespace» fun _ => True := by
  unfold announced
  split
  · exact .bind (Status.patch_tends inNamespace _) fun _ _ => Status.patch_tends inNamespace _
  · trivial

theorem markRollout_tends (complete : Bool) :
    (c.markRollout complete).Tends admits c «namespace» fun _ => True := by
  refine .bind (namespaced_tends inNamespace) ?_
  rintro _ rfl
  exact .bind (Client.exchange_tends fun r arrives => .marks arrives) fun _ _ =>
    Event.publish_tends inNamespace _

theorem reportProgress_tends (d : TlsDescriptor) (rolledOut : Bool) (version : Int64) :
    (c.reportProgress d rolledOut version).Tends admits c «namespace» fun _ => True := by
  refine .bind (Status.setCondition_tends inNamespace _ _) fun _ _ => ?_
  refine .count ?_
  split
  · exact .bind (Status.patch_tends inNamespace _) fun _ _ =>
      .bind (Status.setCondition_tends inNamespace _ _) fun _ _ =>
        .bind (Status.patch_tends inNamespace _) fun _ _ => trivial
  · exact .bind (Status.setCondition_tends inNamespace _ _) fun _ _ =>
      .bind (Status.patch_tends inNamespace _) fun _ _ => trivial

/-- What is done in the end asks for changes of the marker and the status. -/
theorem settled_tends (d : TlsDescriptor) (document : Document) (statefulSet : StatefulSet) :
    (c.settled d document statefulSet).Tends admits c «namespace» fun _ => True := by
  unfold settled
  dsimp only
  split
  · exact .bind (markRollout_tends inNamespace true) fun _ _ => trivial
  · exact .bind (markRollout_tends inNamespace false) fun _ _ =>
      reportProgress_tends inNamespace _ _ _
  · exact reportProgress_tends inNamespace _ _ _

/-- A report of what is missing has no result, and fails with the cause that it reports. -/
theorem reportMissing_tends {results : α → Prop} {f : Failure} (innocent : f.violates = false) :
    (c.reportMissing f).Tends admits c «namespace» results := by
  unfold reportMissing
  split
  · exact innocent
  · next cause isCause =>
    -- the one cause that is reported is that material is missing
    have isMissing : cause.violates = false := by
      unfold Failure.missingMaterial? at isCause
      split at isCause
      · cases isCause
        rfl
      · cases isCause
    exact .bind (Status.setCondition_tends inNamespace _ _) fun _ _ =>
      .bind (Status.patch_tends inNamespace _) fun _ _ => isMissing

end Cluster

/-! ### The material -/

namespace Store

variable {name : String} {secret : Secret} (fills : c.Fills name secret)

omit inNamespace

include fills

theorem create_tends (named : secret.metadata.name = some name)
    (own : secret.metadata.namespace = some «namespace») :
    (create Secret.stored secret).Conforms admits (c.Asks admits «namespace») (fun _ => True)
      fun _ => True :=
  create_conforms named own fun _ arrives => .creates fills arrives

theorem update_tends (inherits : secret.Inherits admits «namespace» name) :
    (update Secret.stored secret).writing.Tends admits c «namespace» fun _ => True :=
  .mapFailure (update_conforms fun _ _ _ own named arrives =>
    .replaces fills inherits own named arrives) fun _ _ => rfl

end Store

namespace Material

omit inNamespace

/-- Storing the certificate and its key fills the operator's secret, or a new one. -/
theorem synthesize_tends (owner : Option OwnerReference) (certificate key : Bytes) :
    (synthesize «namespace» c.operatorSecretName owner certificate key).Tends admits c «namespace»
      fun _ => True := by
  rw [synthesize_eq]
  refine .bind (Program.read_tends Secret.stored _ _) fun existing fetched => ?_
  have updates (secret : Secret) (holds : secret.data = some (entry certificate key))
      (inherits : secret.Inherits admits «namespace» c.operatorSecretName) :
      ((Store.update Secret.stored secret).writing.bind fun _ =>
        .done (Tls.fileName certificate key)).Tends admits c «namespace» fun _ => True :=
    .bind (Store.update_tends (.material holds) inherits) fun _ _ => trivial
  cases existing with
  | none =>
    refine .bind (.attempt (Store.create_tends (.material rfl) rfl rfl)) ?_
    rintro (e | a) -
    · dsimp only
      split
      · -- another writer has been first, and its secret is written over unread
        exact updates _ rfl (.inl ⟨rfl, rfl⟩)
      · rfl
    · trivial
  | some secret => exact updates _ rfl (.inr ⟨secret, fetched secret rfl, rfl, rfl⟩)

/-- Reading the certificate of the authority asks for the object that the user names. -/
theorem readCaCertificate_tends (ns name : String) :
    (readCaCertificate ns name).Tends admits c «namespace» fun _ => True := by
  unfold readCaCertificate
  split
  · rfl
  · refine .bind (Program.read_tends ConfigMap.stored _ _) ?_
    rintro (- | configMap) -
    · rfl
    · dsimp only
      split
      · trivial
      · rfl

theorem readCertificateKey_tends (ns name : String) :
    (readCertificateKey ns name).Tends admits c «namespace» fun _ => True := by
  unfold readCertificateKey
  split
  · rfl
  -- a reference that is given leads to one secret, in which both entries have to be
  · refine .bind (Program.read_tends Secret.stored _ _) ?_
    rintro (- | secret) -
    · rfl
    · dsimp only
      split
      · split
        · trivial
        · rfl
      · rfl

/-- The change of the document is one of the TLS mode. -/
theorem change_tends :
    (change (c.descriptor «namespace»)).Tends admits c «namespace» fun change =>
      ∃ mode file, change = .tls mode file := by
  unfold change
  split
  · exact ⟨_, _, rfl⟩
  · exact .bind (readCaCertificate_tends _ _) fun ca _ =>
      .bind (readCertificateKey_tends _ _) fun ⟨certificate, key⟩ _ =>
        .bind (synthesize_tends _ _ _) fun file _ => ⟨_, _, rfl⟩

end Material

theorem Cluster.tlsChange_tends :
    (c.tlsChange (c.descriptor «namespace»)).Tends admits c «namespace» fun change =>
      ∃ mode file, change = .tls mode file := by
  refine .bind (.attempt Material.change_tends) ?_
  rintro (failure | change) ⟨changes, fails⟩
  · exact reportMissing_tends inNamespace (fails failure rfl)
  · exact changes change rfl

/-! ### The document -/

namespace Configuration

omit inNamespace

variable {mode : TlsMode} {file : String}

/-- A request that puts a document which has been built into the secret of a cluster: it creates
the secret, or puts it in the place of the one that has been fetched. -/
inductive Puts (admits : Request → Response → Prop) (c : Cluster) («namespace» : String)
    (mode : TlsMode) (file : String) (r : Request) : Prop
  | creates {previous : Option Document} {d : Document} {secret : Secret}
    (build : (tlsBuilder c «namespace» previous mode file).build = .ok d)
    (holds : secret.data = some (entries d))
    (inNamespace : secret.metadata.namespace = some «namespace»)
    (named : secret.metadata.name = some c.configSecretName)
    (arrives : Request.creating? Secret.objectType «namespace» c.configSecretName
      (Client.sent Secret.stored.toResource secret) = some r)
  | replaces {previous : Option Document} {d : Document} {ns' name' : String} {secret : Secret}
    (build : (tlsBuilder c «namespace» previous mode file).build = .ok d)
    (holds : secret.data = some (entries d))
    (inherits : secret.Inherits admits «namespace» c.configSecretName)
    (inNamespace : secret.metadata.namespace = some ns') (named : secret.metadata.name = some name')
    (arrives : Request.about? .replace Secret.objectType ns' name'
      (.value (Client.sent Secret.stored.toResource secret)) false = some r)

variable {asks : Request → Prop}

/-- A document for a TLS mode is consistent, so that none of them is turned down. -/
theorem built_conforms (previous : Option Document) :
    (built (tlsBuilder c «namespace» previous mode file)).Conforms admits asks
      (fun d => (tlsBuilder c «namespace» previous mode file).build = .ok d)
      fun f => f.violates = false := by
  unfold built
  split
  · next isBuilt => exact isBuilt
  · next i isError =>
    -- every such document passes the check, and what is left to do can only overflow
    rw [build_eq] at isError
    revert isError
    unfold Builder.nextVersion
    split
    · rintro ⟨⟩
    · split
      · rintro ⟨⟩
      · split <;> rintro ⟨⟩
  · trivial

/-- A stored document that cannot be read is no violation. -/
theorem stored_conforms (existing : Option Secret) :
    (Program.ofExcept (stored existing)).Conforms admits asks (fun _ => True)
      fun f => f.violates = false := by
  refine .ofExcept (fun _ _ => trivial) fun f fails => ?_
  unfold stored at fails
  split at fails
  · cases fails
  · split at fails
    · cases fails
    · cases fails
      rfl

/-- A document that has been built is put into a new secret or in the place of the one fetched. -/
theorem write_conforms {existing : Option Secret} {previous : Option Document} {d : Document}
    (build : (tlsBuilder c «namespace» previous mode file).build = .ok d)
    (fetched : ∀ secret ∈ existing, secret.Fetched admits «namespace» c.configSecretName) :
    (write c «namespace» existing d).Conforms admits (Puts admits c «namespace» mode file)
      (fun _ => True) fun f => f.violates = false := by
  -- a secret that is there keeps its names, and a new one has those of the cluster
  cases existing with
  | none =>
    refine .bind (.mapFailure (Store.create_conforms rfl rfl fun _ arrives => ?_) fun _ _ => rfl)
      fun _ _ => trivial
    exact .creates build rfl rfl rfl arrives
  | some secret =>
    have inherits : ({ secret with data := some (entries d) } : Secret).Inherits admits «namespace»
        c.configSecretName := .inr ⟨secret, fetched secret rfl, rfl, rfl⟩
    refine .bind (.mapFailure (Store.update_conforms fun _ _ _ own named arrives => ?_)
      fun _ _ => rfl) fun _ _ => trivial
    refine .replaces build ?_ inherits own named arrives
    rfl

end Configuration

/-- All that a push of a TLS mode asks for is to read the secret with the document, and to put there
a document that has been built, which is what it gives. -/
theorem Configuration.push_conforms (mode : TlsMode) (file : String) :
    (push c (Change.apply (.tls mode file))).Conforms admits
      (fun r => r.verb = .get ∧ r.payload = .none ∨ Puts admits c «namespace» mode file r)
      (fun d => ∃ previous, (tlsBuilder c «namespace» previous mode file).build = .ok d)
      fun f => f.violates = false := by
  have isNamespace : (Program.ofExcept c.namespaced).Conforms admits
      (fun r => r.verb = .get ∧ r.payload = .none ∨ Puts admits c «namespace» mode file r)
      (· = «namespace») fun f => f.violates = false := by
    rw [Cluster.namespaced, inNamespace]
    rfl
  refine .bind isNamespace ?_
  rintro _ rfl
  refine .bind (Program.read_conforms Secret.stored fun _ arrives =>
      .inl ⟨Request.verb_of_about? arrives, Request.payload_of_about? arrives⟩)
    fun existing fetched => .bind (stored_conforms existing) fun previous _ =>
      .bind (built_conforms previous) fun d isBuilt => ?_
  split
  · exact ⟨previous, isBuilt⟩
  · -- what has been fetched is written over, or a new secret is made
    exact .bind ((write_conforms isBuilt fetched).mono (fun _ => .inr) fun _ _ => trivial)
      fun _ _ => ⟨previous, isBuilt⟩

/-- A push asks for what belongs to a reconciliation, and what it puts there is consistent. -/
theorem Configuration.push_tends {mode : TlsMode} {file : String} :
    (push c (Change.apply (.tls mode file))).Tends admits c «namespace» fun _ => True := by
  refine (push_conforms inNamespace mode file).mono ?_ fun _ _ => trivial
  rintro r (⟨verb, payload⟩ | puts)
  · exact .reads verb payload
  · cases puts with
    | creates build holds own named arrives =>
      exact .creates
        (.document (uniform_of_build build) (Builder.validate_of_build build) holds) arrives
    | replaces build holds inherits own named arrives =>
      exact .replaces
        (.document (uniform_of_build build) (Builder.validate_of_build build) holds) inherits own
        named arrives

/-! ### Reconciliations -/

/-- The workload is applied under the names of the cluster. -/
theorem Deployment.apply_tends (images : Images) :
    (apply c images).Tends admits c «namespace» fun _ => True := by
  refine .bind (Cluster.namespaced_tends inNamespace) ?_
  rintro _ rfl
  exact .bind (Client.exchange_tends fun r arrives => .appliesService arrives) fun _ _ =>
    Client.exchange_tends fun r arrives => .appliesStatefulSet arrives

namespace Cluster

variable (images : Images)

/-- A reconciliation asks for what belongs to it. -/
theorem reconcile_tends : (c.reconcile images).Tends admits c «namespace» fun _ => True := by
  rw [reconcile_eq_announced]
  refine .bind (announced_tends inNamespace) fun _ _ => .bind (namespaced_tends inNamespace) ?_
  rintro _ rfl
  refine .bind (tlsChange_tends inNamespace) ?_
  rintro change ⟨mode, file, rfl⟩
  exact .bind (Configuration.push_tends inNamespace) fun document _ =>
    .bind (Deployment.apply_tends inNamespace images) fun statefulSet _ =>
      settled_tends inNamespace _ _ _

theorem cleanup_tends : c.cleanup.Tends admits c «namespace» fun _ => True :=
  .count <| .bind (Event.publish_tends inNamespace _) fun _ _ => trivial

omit inNamespace in
/-- A cluster that is named has that name. -/
theorem name_of_some {name : String} (named : c.metadata.name = some name) : c.name = name := by
  rw [Cluster.name, named]
  rfl

/-- The work around the finalizer asks for one change of it at most, and for what it is around. -/
theorem finalize_conforms :
    (c.finalize «namespace» images).Conforms admits (c.Asks admits «namespace») (fun _ => True)
      fun f => f.violates = false := by
  unfold finalize
  dsimp only
  split
  · exact .mapFailure (reconcile_tends inNamespace images) fun _ innocent => innocent
  · -- the finalizer goes once all is cleaned up
    split
    · next name named =>
      refine .bind (.mapFailure (cleanup_tends inNamespace) fun _ innocent => innocent) fun _ _ =>
        .bind (.mapFailure (Client.exchange_conforms ?_) fun _ _ => rfl) fun _ _ => trivial
      exact fun r arrives => .releases ((name_of_some named).symm ▸ arrives)
    · rfl
  · split
    · next name named =>
      refine .bind (.mapFailure (Client.exchange_conforms ?_) fun _ _ => rfl) fun _ _ => trivial
      exact fun r arrives => .guards ((name_of_some named).symm ▸ arrives)
    · rfl
  · trivial

end Cluster

end

namespace Cluster

/-- Whatever is answered, a reconciliation asks for nothing but what belongs to it, and never fails
because a document is not consistent. -/
theorem reconcileGuarded_conforms (admits : Request → Response → Prop) (c : Cluster)
    (images : Images) :
    (c.reconcileGuarded images).Conforms admits (c.Asks admits (c.metadata.namespace.getD ""))
      (fun _ => True) fun f => f.violates = false := by
  refine .count ?_
  rw [namespaced]
  split
  · next ns inNamespace =>
    rw [inNamespace]
    show ((c.finalize ns images).attempt.bind fun r => .ofExcept (finalizeOutcome r)).Conforms
      _ _ _ _
    refine .bind (.attempt (finalize_conforms inNamespace images)) ?_
    rintro r ⟨-, fails⟩
    refine .ofExcept (fun _ _ => trivial) fun f isError => ?_
    unfold finalizeOutcome at isError
    split at isError
    · cases isError
    · cases isError
    · -- all but missing material is handed on
      next failure _ =>
      cases isError
      exact fails failure rfl
  · rfl

end Cluster

end ReplicaSetOperator
