import ReplicaSetOperator.Operator.Reconcile
import ReplicaSetOperator.Proofs.Server.Objects
import ReplicaSetOperator.Proofs.Server.Runs

/-!
# What reconciliation asks for

The requests that each part of a reconciliation makes, whatever is answered. Whatever only reports
reads the cluster, changes its status or tells an event (`Cluster.Reporting`), so that no secret, no
workload and no marker is touched by it.
-/

namespace ReplicaSetOperator

/-- The names of a cluster and of what belongs to it arrive as they are meant. -/
structure Cluster.Addressed (c : Cluster) («namespace» : String) : Prop where
  inNamespace : c.metadata.namespace = some «namespace»
  cluster : Request.Addressable Cluster.type «namespace» c.name
  document : Request.Addressable Secret.objectType «namespace» c.configSecretName
  material : Request.Addressable Secret.objectType «namespace» c.operatorSecretName
  service : Request.Addressable Service.type «namespace» c.serviceName
  statefulSet : Request.Addressable StatefulSet.type «namespace» c.name

variable {c : Cluster} {«namespace» : String}

/-- The namespace of such a cluster is known. -/
theorem Cluster.Addressed.namespaced (h : c.Addressed «namespace») :
    c.namespaced = .ok «namespace» := by
  rw [Cluster.namespaced, h.inNamespace]

namespace Event

/-- The names of clusters and the place of events leave room for each other. -/
theorem creating?_eq {name : String} (plain : Request.Addressable Cluster.type «namespace» name)
    (eventName : String) (body : Json) :
    Request.creating? Event.type «namespace» eventName body =
      some (.about .create Event.type «namespace» eventName (.value body)) := by
  have known : Address.kindIn "events" = "Event" := by decide
  have place : Event.type.place «namespace» = «namespace» ++ "/" ++ "events" := rfl
  have clusterPlace :
      Cluster.type.place «namespace» = «namespace» ++ "/" ++ "mongodbclusters" := rfl
  have room : Address.hasRoom Event.type
      (Event.type.place «namespace» ++ Verb.create.tail).utf8ByteSize = true := by
    -- the place of the events is shorter than that of the clusters, and the verb adds one octet
    have given := plain.room
    have root : Event.type.root.utf8ByteSize = 34 := by decide +kernel
    have clusterRoot : Cluster.type.root.utf8ByteSize = 40 := by decide +kernel
    have words : "events".utf8ByteSize = 6 ∧ "mongodbclusters".utf8ByteSize = 15 ∧
        Verb.create.tail.utf8ByteSize = 1 ∧ "/".utf8ByteSize = 1 := by decide
    rw [clusterPlace] at given
    rw [place]
    simp only [Address.hasRoom, decide_eq_true_eq, String.utf8ByteSize_append, root, clusterRoot,
      words] at given ⊢
    omega
  have steps : ∀ step ∈ [«namespace», "events"], Address.isPlain step = true := by
    have word : Address.isPlain "events" = true := by decide
    simpa using ⟨plain.plainNamespace, word⟩
  rw [Request.creating?, Address.ofText?_eq _ room steps (by simp)
    (by simp [place, Address.pathOf, List.intercalate]) (Request.readPath_tail .create)]
  simp [Request.arriving, Request.about, known, Request.query?_parameters, Verb.query, Event.type]

end Event

/-- A request that reads the cluster or changes its status. -/
def Cluster.Stating (c : Cluster) («namespace» : String) (r : Request) : Prop :=
  r = .about .get Cluster.type «namespace» c.name .none ∨
  ∃ body, r = .about .merge Cluster.type «namespace» c.name (.value body) true

/-- A request that only reports: it reads the cluster, changes its status or tells an event. -/
def Cluster.Reporting (c : Cluster) («namespace» : String) (r : Request) : Prop :=
  r = .about .get Cluster.type «namespace» c.name .none ∨
  (∃ body, r = .about .merge Cluster.type «namespace» c.name (.value body) true) ∨
  ∃ name body, r = .about .create Event.type «namespace» name (.value body)

/-- What reads the cluster or changes its status reports. -/
theorem Cluster.Stating.reporting {r : Request} (h : c.Stating «namespace» r) :
    c.Reporting «namespace» r := h.imp_right .inl

/-- A request that marks the rollout, or takes the mark away, or reports. -/
def Cluster.Marking (c : Cluster) («namespace» : String) (r : Request) : Prop :=
  (∃ body, r = .about .merge Cluster.type «namespace» c.name (.value body)) ∨
  c.Reporting «namespace» r

namespace Status

/-- The change of the members of a status. -/
def changing (members : List (String × Option Json)) : Json :=
  Json.record [("status", some (Json.record members))]

/-- The request that changes members of the status. -/
def patching (c : Cluster) («namespace» : String) (members : List (String × Option Json)) :
    Request :=
  .about .merge Cluster.type «namespace» c.name (.value (changing members)) true

/-- Changing members of the status is one request, and the answer is the cluster. -/
theorem patch_eq (h : c.Addressed «namespace») (members : List (String × Option Json)) :
    patch c members =
      .request (patching c «namespace» members) fun r =>
        ((Program.ofExcept (r.decode Cluster.resource)).requesting).bind fun _ => .done () := by
  rw [patch, h.namespaced]
  show (Client.mergeStatus Cluster.resource «namespace» c.name _).requesting.bind _ = _
  rw [Client.mergeStatus_eq (t := Cluster.resource) h.cluster]
  rfl

/-- Setting a condition fetches the cluster, reads the clock and changes the conditions. -/
theorem setCondition_eq (h : c.Addressed «namespace») (type : String) (report : Report) :
    setCondition c type report =
      .request (.about .get Cluster.type «namespace» c.name .none) fun r =>
        ((Program.ofExcept (r.decode Cluster.resource)).requesting).bind fun current =>
          .clock fun now =>
            let set := (report.condition type now current.metadata.generation).setIn
              (current.status.getD {}).conditions
            if set.2 then
              patch c [("conditions", some (Condition.format.list.write set.1))]
            else .done () := by
  rw [setCondition, h.namespaced]
  show (Client.get Cluster.resource «namespace» c.name).requesting.bind _ = _
  rw [Client.get_eq (t := Cluster.resource) h.cluster]
  rfl

/-- A change of the status asks for nothing but that change. -/
theorem patch_asks (h : c.Addressed «namespace») (members : List (String × Option Json)) :
    (patch c members).Demands (· = patching c «namespace» members) := by
  rw [patch_eq h]
  refine ⟨rfl, fun response => ?_⟩
  exact .bind ((Program.Demands.ofExcept _).mapFailure _) fun _ => trivial

theorem patch_demands (h : c.Addressed «namespace») (members : List (String × Option Json)) :
    (patch c members).Demands (c.Stating «namespace») :=
  (patch_asks h members).mono fun _ same => .inr ⟨_, same⟩

theorem setCondition_demands (h : c.Addressed «namespace») (type : String) (report : Report) :
    (setCondition c type report).Demands (c.Stating «namespace») := by
  rw [setCondition_eq h]
  refine ⟨.inl rfl, fun response => ?_⟩
  refine .bind ((Program.Demands.ofExcept _).mapFailure _) fun current now => ?_
  dsimp only
  split
  · exact patch_demands h _
  · trivial

end Status

namespace Event

/-- An event is told at the time of the clock, in one request. -/
theorem publish_eq (h : c.Addressed «namespace») (e : Event) :
    e.publish c =
      .clock fun now =>
        .request (.about .create Event.type «namespace» (name c now) (.value (e.body c now)))
          fun r =>
            ((Program.ofExcept (r.decode { type := type, format := format })).requesting).bind
              fun _ => .done () := by
  have inNamespace : c.metadata.namespace.getD "default" = «namespace» := by
    rw [h.inNamespace]
    rfl
  rw [publish, inNamespace]
  refine congrArg Program.clock (funext fun now => ?_)
  show (Client.create { type := type, format := format } «namespace» (name c now)
    (e.body c now)).requesting.bind _ = _
  have sent : Client.sent { type := type, format := format } (e.body c now) = e.body c now := rfl
  rw [Client.create, sent, creating?_eq h.cluster]
  rfl

/-- Telling an event only reports. -/
theorem publish_demands (h : c.Addressed «namespace») (e : Event) :
    (e.publish c).Demands (c.Reporting «namespace») := by
  rw [publish_eq h]
  refine fun now => ⟨.inr (.inr ⟨_, _, rfl⟩), fun response => ?_⟩
  exact .bind ((Program.Demands.ofExcept _).mapFailure _) fun _ => trivial

end Event

namespace Cluster

/-- The change of the rollout marker. -/
def marking (complete : Bool) : Json :=
  Json.record [("metadata", some (Json.record
    [("annotations", some (Json.record
      [(rolloutMarker, some (if complete then .string "true" else .null))]))]))]

/-- What is told of a change of the rollout marker. -/
def markingEvent (complete : Bool) : Event :=
  if complete then
    ⟨"TLSRolledOut", "TLS material is mounted on every member", "Reconciling"⟩
  else ⟨"TLSRolloutReset", "TLS is disabled", "Reconciling"⟩

/-- The marker is changed in one request, and then that is told. -/
theorem markRollout_eq (h : c.Addressed «namespace») (complete : Bool) :
    c.markRollout complete =
      .request (.about .merge Cluster.type «namespace» c.name (.value (marking complete))) fun r =>
        ((Program.ofExcept (r.decode resource)).requesting).bind fun _ =>
          (markingEvent complete).publish c := by
  rw [markRollout, h.namespaced]
  show (Client.merge resource «namespace» c.name _).requesting.bind _ = _
  rw [Client.merge_eq (t := resource) h.cluster]
  rfl

/-- Changing the marker asks for that change, and reports. -/
theorem markRollout_demands (h : c.Addressed «namespace») (complete : Bool) :
    (c.markRollout complete).Demands (c.Marking «namespace») := by
  rw [markRollout_eq h]
  refine ⟨.inl ⟨_, rfl⟩, fun response => ?_⟩
  refine .bind ((Program.Demands.ofExcept _).mapFailure _) fun _ => ?_
  exact (Event.publish_demands h _).mono fun _ => .inr

/-- Reporting that material is missing only changes the status. -/
theorem reportMissing_demands {α : Type} (h : c.Addressed «namespace») (failure : Failure) :
    (c.reportMissing failure : Program Failure α).Demands (c.Stating «namespace») := by
  unfold reportMissing
  split
  · trivial
  · exact .bind (Status.setCondition_demands h _ _) fun _ =>
      .bind (Status.patch_demands h _) fun _ => trivial

/-- So does reporting how far the rollout has come. -/
theorem reportProgress_demands (h : c.Addressed «namespace») (d : TlsDescriptor) (rolledOut : Bool)
    (version : Int64) :
    (c.reportProgress d rolledOut version).Demands (c.Stating «namespace») := by
  -- the condition of the mode, and then those of readiness, in the order that the answer gives them
  unfold reportProgress
  refine .bind (Status.setCondition_demands h _ _) fun _ => ?_
  show Program.Demands _ (Program.bind _ _)
  refine .bind trivial fun _ => ?_
  cases rolledOut with
  | false =>
    exact .bind (Status.setCondition_demands h _ _) fun _ =>
      .bind (Status.patch_demands h _) fun _ => trivial
  | true =>
    exact .bind (Status.patch_demands h _) fun _ =>
      .bind (Status.setCondition_demands h _ _) fun _ =>
        .bind (Status.patch_demands h _) fun _ => trivial

/-! ### The parts of a reconciliation -/

/-- A cluster without a status is announced first. -/
def announced (c : Cluster) : Program Failure Unit :=
  if c.status.isNone then
    (Status.updatePhase c .pending none).bind fun _ => Status.updatePhase c .creating none
  else .done ()

/-- What is done once the stateful set is applied. -/
def settled (c : Cluster) (d : TlsDescriptor) (document : Document) (statefulSet : StatefulSet) :
    Program Failure Action :=
  let rolledOut := statefulSet.rolledOut c.spec.members
  match MarkerTransition.decide d.enabled d.rolloutComplete
      (rolledOut && statefulSet.carriesTls) with
  | .set => (c.markRollout true).bind fun _ => .done (.requeue markerRequeue)
  | .clear => (c.markRollout false).bind fun _ => c.reportProgress d rolledOut document.version
  | .keep => c.reportProgress d rolledOut document.version

/-- A reconciliation announces the cluster first, and then does the rest. -/
theorem reconcile_eq_announced (c : Cluster) (images : Images) :
    c.reconcile images =
      c.announced.bind fun _ =>
        (Program.ofExcept c.namespaced).bind fun ns =>
          (c.tlsChange (c.descriptor ns)).bind fun change =>
            (Configuration.push c change.apply).bind fun document =>
              (Deployment.apply c images).bind fun statefulSet =>
                c.settled (c.descriptor ns) document statefulSet := by
  rw [reconcile, announced]
  cases c.status.isNone with
  | false => rfl
  | true =>
    rw [if_pos rfl, if_pos rfl]
    exact (Program.bind_assoc _ _ _).symm

/-- A reconciliation of a cluster with names is the announcement, the document, and the workload. -/
theorem reconcile_eq (h : c.Addressed «namespace») (images : Images) :
    c.reconcile images =
      (announced c).bind fun _ =>
        (c.tlsChange (c.descriptor «namespace»)).bind fun change =>
          (Configuration.push c change.apply).bind fun document =>
            (Deployment.apply c images).bind fun statefulSet =>
              c.settled (c.descriptor «namespace») document statefulSet := by
  rw [reconcile_eq_announced, h.namespaced]
  rfl

/-- The announcement changes nothing but the status. -/
theorem announced_demands (h : c.Addressed «namespace») :
    (announced c).Demands (c.Stating «namespace») := by
  unfold announced
  split
  · exact .bind (Status.patch_demands h _) fun _ => Status.patch_demands h _
  · trivial

/-- What is done in the end changes nothing but the marker and the status. -/
theorem settled_demands (h : c.Addressed «namespace») (d : TlsDescriptor) (document : Document)
    (statefulSet : StatefulSet) :
    (c.settled d document statefulSet).Demands (c.Marking «namespace») := by
  have reports (rolledOut : Bool) :
      (c.reportProgress d rolledOut document.version).Demands (c.Marking «namespace») :=
    (reportProgress_demands h d rolledOut document.version).mono fun _ => .inr ∘ Stating.reporting
  unfold settled
  dsimp only
  split
  · exact .bind (markRollout_demands h true) fun _ => trivial
  · exact .bind (markRollout_demands h false) fun _ => reports _
  · exact reports _

end Cluster

namespace Deployment

/-- Service and stateful set are applied one after the other. -/
theorem apply_eq (h : c.Addressed «namespace») (images : Images) :
    apply c images =
      .request (.about .apply Service.type «namespace» c.serviceName
          (.value (Service.format.write (c.service «namespace»)))) fun r =>
        ((Program.ofExcept (r.decode Service.resource)).requesting).bind fun _ =>
          .request (.about .apply StatefulSet.type «namespace» c.name
              (.value (StatefulSet.format.write (c.statefulSet «namespace» images)))) fun r =>
            (Program.ofExcept (r.decode StatefulSet.resource)).requesting := by
  rw [apply, h.namespaced]
  show (Client.apply Service.resource «namespace» c.serviceName _).requesting.bind (fun _ =>
    (Client.apply StatefulSet.resource «namespace» c.name _).requesting) = _
  rw [Client.apply_eq (t := Service.resource) h.service,
    Client.apply_eq (t := StatefulSet.resource) h.statefulSet]
  rfl

end Deployment

end ReplicaSetOperator
