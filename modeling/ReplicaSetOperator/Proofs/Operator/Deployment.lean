import ReplicaSetOperator.Proofs.Cluster.Workload
import ReplicaSetOperator.Proofs.Operator.Demands
import ReplicaSetOperator.Proofs.Server.Applied
import ReplicaSetOperator.Proofs.Server.Serving

/-!
# Applying the workload

Service and stateful set are applied over what is there, and are there as they were sent
(`Deployment.apply_delivers`). What a server makes of the status of a stateful set that is applied
is left open (`Exchange.Applies`).
-/

namespace ReplicaSetOperator

/-- A service without fault has none when it is applied. -/
theorem Service.fault_applied {object metadata : Json} {before : Option Json}
    (h : format.fault .value object = none) (there : object.get? "metadata" = some metadata)
    (apart : metadata ≠ .null) (room : object.Room before)
    (old : ∀ j ∈ before, format.fault .value j = none) :
    format.fault .value (object.applied before none) = none :=
  Lenient.fault_applied h rfl there apart room old fun v mem => (Option.not_mem_none v mem).elim

namespace StatefulSet

/-- Nor has a stateful set, if there is none in the status that it gets. -/
theorem fault_applied {object metadata : Json} {before status : Option Json}
    (h : format.fault .value object = none) (there : object.get? "metadata" = some metadata)
    (apart : metadata ≠ .null) (room : object.Room before)
    (old : ∀ j ∈ before, format.fault .value j = none)
    (fine : ∀ v ∈ status, StatefulSetStatus.format.fault .value v = none) :
    format.fault .value (object.applied before status) = none :=
  Lenient.fault_applied h rfl there apart room old fun v mem =>
    Lenient.memberFault_of_rule rfl (fine v mem)

/-- The generation that is read is the one in the metadata. -/
theorem generation_read (j : Json) :
    (format.read j).metadata.generation =
      ((j.at? ["metadata", "generation"]).filter fun v => v ≠ .null).map Format.int64.read := by
  have read : (format.read j).metadata = ObjectMeta.format.presentD "metadata" {} j := rfl
  -- a generation that is null is none
  have present (m : Json) :
      Lenient.present? "generation" m = (m.get? "generation").filter fun v => v ≠ .null := by
    rw [Lenient.present?]
    cases m.get? "generation" with
    | none => rfl
    | some v =>
      rw [Option.filter_some]
      cases v <;> rfl
  rw [read, Json.at?_pair, Format.presentD, Format.present?, Lenient.present?]
  cases j.get? "metadata" with
  | none => rfl
  | some m =>
    rw [Option.bind_some, ← present m]
    cases m <;> rfl

/-- A status says that the latest template has been observed, and all of a number of members run
it and are ready. -/
structure Covers (s : StatefulSet) (members : Int32) (status : StatefulSetStatus) : Prop where
  observed : s.metadata.generation.getD 0 ≤ status.observedGeneration.getD 0
  updated : status.updatedReplicas.getD 0 = members
  ready : status.readyReplicas.getD 0 = members

/-- If a status covers the latest template, the stateful set is rolled out. -/
theorem Covers.rolledOut {s : StatefulSet} {members : Int32} {status : StatefulSetStatus}
    (h : s.Covers members status) {t : StatefulSet} (there : t.status = some status)
    (generation : t.metadata.generation = s.metadata.generation) : t.rolledOut members = true := by
  rw [StatefulSet.rolledOut, there, generation]
  simp only [h.updated, h.ready, beq_self_eq_true, Bool.and_true]
  exact decide_eq_true h.observed

/-- A stateful set is taken for rolled out exactly if its status says so in all three respects. -/
theorem rolledOut_iff {s : StatefulSet} {members : Int32} :
    s.rolledOut members = true ↔ ∃ status, s.status = some status ∧ s.Covers members status := by
  constructor
  · intro h
    rw [StatefulSet.rolledOut] at h
    split at h
    · cases h
    · next status there =>
      simp only [Bool.and_eq_true, decide_eq_true_eq, beq_iff_eq] at h
      exact ⟨status, there, h.1.1, h.1.2, h.2⟩
  · rintro ⟨status, there, covers⟩
    exact covers.rolledOut there rfl

end StatefulSet

/-- The server applies stateful sets. Their status may be another one at once, of which something
holds that depends on what was sent and what was there. -/
def Exchange.Applies (answers : Json → Option Json → Option Json → Prop) (e : Exchange) : Prop :=
  ∀ «namespace» name body,
    e.request = .about .apply StatefulSet.type «namespace» name (.value body) →
    ∃ status, answers body (e.before.objects.find? ⟨StatefulSet.type.kind, «namespace», name⟩)
        status ∧
      (∀ v ∈ status, StatefulSetStatus.format.fault .value v = none) ∧
      e.before.accept 200 ⟨StatefulSet.type.kind, «namespace», name⟩
        ((body.appliedOver
          (e.before.objects.find? ⟨StatefulSet.type.kind, «namespace», name⟩)).reporting status) =
        (e.after, e.response)

/-- The server does what it is asked, or refuses to. Of a stateful set that it applies it may report
another status at once. -/
def Exchange.Tracked (e : Exchange) : Prop :=
  e.Answered ∨ ∃ «namespace» name body status,
    e.request = .about .apply StatefulSet.type «namespace» name (.value body) ∧
    e.before.accept 200 ⟨StatefulSet.type.kind, «namespace», name⟩
      ((body.appliedOver
        (e.before.objects.find? ⟨StatefulSet.type.kind, «namespace», name⟩)).reporting status) =
      (e.after, e.response)

namespace Exchange.Tracked

variable {e : Exchange}

/-- All but the applied stateful set is answered as usual. -/
theorem answered (h : e.Tracked)
    (apart : e.request.verb ≠ .apply ∨ e.request.type ≠ StatefulSet.type) : e.Answered := by
  rcases h with answered | ⟨«namespace», name, body, status, same, -⟩
  · exact answered
  · rw [same] at apart
    exact absurd rfl (apart.resolve_left fun other => other rfl)

/-- No other object is changed by what is tracked. -/
theorem sparing (h : e.Tracked) : e.Sparing := by
  rcases h with answered | ⟨«namespace», name, body, status, same, accepted⟩
  · exact answered.sparing
  · intro k apart
    -- what is stored is stored under the key of the stateful set that is applied
    have stored := accepted ▸ Server.find?_accept e.before 200
      ⟨StatefulSet.type.kind, «namespace», name⟩ k _
    have granted : e.response.isFailure = false :=
      (congrArg (fun answer => answer.2.isFailure) accepted).symm.trans
        (Server.isFailure_accept _ 200 _ _ (by omega))
    have about : Server.key e.request = ⟨StatefulSet.type.kind, «namespace», name⟩ := by
      rw [same]
      rfl
    refine stored.trans (if_neg fun same' => ?_)
    refine apart ⟨?_, granted⟩ (about.trans same'.symm)
    rw [same]
    rintro ⟨⟩

/-- A stateful set that has been applied is there, over what was there before, and is answered. -/
theorem applied {«namespace» name : String} {body : Json} (h : e.Tracked)
    (isRequest : e.request = .about .apply StatefulSet.type «namespace» name (.value body))
    (granted : e.response.isFailure = false) : ∃ status,
      e.after.objects.find? ⟨StatefulSet.type.kind, «namespace», name⟩ =
        some (body.applied
          (e.before.objects.find? ⟨StatefulSet.type.kind, «namespace», name⟩) status) ∧
      e.response = .holding 200 (body.applied
        (e.before.objects.find? ⟨StatefulSet.type.kind, «namespace», name⟩) status) := by
  have accepted : ∃ status, e.before.accept 200 ⟨StatefulSet.type.kind, «namespace», name⟩
      ((body.appliedOver
        (e.before.objects.find? ⟨StatefulSet.type.kind, «namespace», name⟩)).reporting status) =
      (e.after, e.response) := by
    rcases h with (served | ⟨fails, -⟩) | ⟨ns, n, b, status, same, accepted⟩
    · -- a server that does what it is asked reports no other status
      refine ⟨none, ?_⟩
      have isStored : StatefulSet.type.kind ≠ "Event" := by decide
      rw [Exchange.Served, isRequest, Server.serve_apply isStored] at served
      exact served
    · exact absurd fails (ne_true_of_eq_false granted)
    · rw [isRequest] at same
      cases same
      exact ⟨status, accepted⟩
  obtain ⟨status, accepted⟩ := accepted
  have stored := accepted ▸ Server.find?_accept e.before 200
    ⟨StatefulSet.type.kind, «namespace», name⟩ ⟨StatefulSet.type.kind, «namespace», name⟩ _
  exact ⟨status, stored.trans (if_pos rfl), (congrArg Prod.snd accepted).symm⟩

end Exchange.Tracked

namespace Cluster

variable {c : Cluster} {«namespace» : String} {images : Images} {s s' : Server}

/-- The key of the service. -/
def serviceKey (c : Cluster) («namespace» : String) : ObjectKey :=
  ⟨Service.type.kind, «namespace», c.serviceName⟩

/-- The key of the stateful set. -/
def statefulSetKey (c : Cluster) («namespace» : String) : ObjectKey :=
  ⟨StatefulSet.type.kind, «namespace», c.name⟩

/-- A request that applies the service or the stateful set. -/
def Deploying (c : Cluster) («namespace» : String) (r : Request) : Prop :=
  r.verb = .apply ∧
    (Server.key r = c.serviceKey «namespace» ∨ Server.key r = c.statefulSetKey «namespace»)

/-- What is deployed is the service or the stateful set. -/
theorem Deploying.ne {r : Request} {k : ObjectKey} (h : c.Deploying «namespace» r)
    (service : k ≠ c.serviceKey «namespace») (statefulSet : k ≠ c.statefulSetKey «namespace») :
    Server.key r ≠ k := by
  rintro rfl
  exact h.2.elim service statefulSet

/-- The service as it is sent. -/
def sentService (c : Cluster) («namespace» : String) : Json :=
  Service.format.write (c.service «namespace»)

/-- The stateful set as it is sent. -/
def sentStatefulSet (c : Cluster) («namespace» : String) (images : Images) : Json :=
  StatefulSet.format.write (c.statefulSet «namespace» images)

/-- What is there of service and stateful set decodes, and there is room for another generation of
them if they are to change. -/
structure Deployable (c : Cluster) («namespace» : String) (images : Images) (s : Server) :
    Prop where
  service : ∀ j ∈ s.objects.find? (c.serviceKey «namespace»), Service.format.fault .value j = none
  serviceRoom : (c.sentService «namespace»).Room (s.objects.find? (c.serviceKey «namespace»))
  statefulSet : ∀ j ∈ s.objects.find? (c.statefulSetKey «namespace»),
    StatefulSet.format.fault .value j = none
  statefulSetRoom : (c.sentStatefulSet «namespace» images).Room
    (s.objects.find? (c.statefulSetKey «namespace»))

/-- The service is sent with its metadata. -/
theorem get?_sentService_metadata (c : Cluster) («namespace» : String) :
    (c.sentService «namespace»).get? "metadata" =
      some (ObjectMeta.format.write (c.service «namespace»).metadata) :=
  Json.get?_recordWith_of_notMem (by simp [ObjectType.members]) (by rintro ⟨⟩)

theorem get?_sentStatefulSet_metadata (c : Cluster) («namespace» : String) (images : Images) :
    (c.sentStatefulSet «namespace» images).get? "metadata" =
      some (ObjectMeta.format.write (c.statefulSet «namespace» images).metadata) :=
  Json.get?_record "metadata" (by simp [ObjectType.members])

/-- It carries TLS exactly if TLS is enabled. -/
theorem carriesTls_applied (c : Cluster) («namespace» : String) (images : Images)
    (before status : Option Json) :
    (StatefulSet.format.read
      ((c.sentStatefulSet «namespace» images).applied before status)).carriesTls =
        c.spec.tls.enabled :=
  c.carriesTls_of_spec «namespace» images (Json.get?_applied (by decide))

/-- Service and stateful set are there as they were sent, over what was there before. -/
structure Deployed (c : Cluster) («namespace» : String) (images : Images) (s : Server)
    (status : Option Json) (s' : Server) : Prop where
  service : s'.objects.find? (c.serviceKey «namespace») =
    some ((c.sentService «namespace»).applied (s.objects.find? (c.serviceKey «namespace»)) none)
  statefulSet : s'.objects.find? (c.statefulSetKey «namespace») =
    some ((c.sentStatefulSet «namespace» images).applied
      (s.objects.find? (c.statefulSetKey «namespace»)) status)

namespace Deployable

variable (h : c.Deployable «namespace» images s)

include h

/-- The service can be read once it has been applied. -/
theorem fault_service : Service.format.fault .value ((c.sentService «namespace»).applied
    (s.objects.find? (c.serviceKey «namespace»)) none) = none :=
  Service.fault_applied (c.service_faultless «namespace») (c.get?_sentService_metadata «namespace»)
    (by rintro ⟨⟩) h.serviceRoom h.service

theorem fault_statefulSet {status : Option Json}
    (fine : ∀ v ∈ status, StatefulSetStatus.format.fault .value v = none) :
    StatefulSet.format.fault .value ((c.sentStatefulSet «namespace» images).applied
      (s.objects.find? (c.statefulSetKey «namespace»)) status) = none :=
  StatefulSet.fault_applied (c.statefulSet_faultless «namespace» images)
    (c.get?_sentStatefulSet_metadata «namespace» images) (by rintro ⟨⟩) h.statefulSetRoom
    h.statefulSet fine

/-- What has been applied can be applied again. -/
theorem of_deployed {status : Option Json}
    (fine : ∀ v ∈ status, StatefulSetStatus.format.fault .value v = none)
    (deployed : c.Deployed «namespace» images s status s') :
    c.Deployable «namespace» images s' where
  service := by
    rw [deployed.service]
    rintro j ⟨⟩
    exact h.fault_service
  serviceRoom := by
    rw [deployed.service]
    exact Json.room_applied _ _ _
  statefulSet := by
    rw [deployed.statefulSet]
    rintro j ⟨⟩
    exact h.fault_statefulSet fine
  statefulSetRoom := by
    rw [deployed.statefulSet]
    exact Json.room_applied _ _ _

end Deployable

end Cluster

namespace Deployment

variable {c : Cluster} {«namespace» : String} {images : Images} {s : Server}
  {meets : Exchange → Prop} {answers : Json → Option Json → Option Json → Prop}

/-- Service and stateful set come to be there, and the latter is given as the server has it. -/
theorem apply_delivers (addressed : c.Addressed «namespace»)
    (services : ∀ e, meets e → e.request.type = Service.type → e.Served)
    (statefulSets : ∀ e, meets e → e.Applies answers)
    (h : c.Deployable «namespace» images s) :
    (apply c images).Delivers meets (c.Deploying «namespace») s fun statefulSet s' => ∃ status,
      answers (c.sentStatefulSet «namespace» images)
        (s.objects.find? (c.statefulSetKey «namespace»)) status ∧
      (∀ v ∈ status, StatefulSetStatus.format.fault .value v = none) ∧
      c.Deployed «namespace» images s status s' ∧
      statefulSet = StatefulSet.format.read ((c.sentStatefulSet «namespace» images).applied
        (s.objects.find? (c.statefulSetKey «namespace»)) status) := by
  have apart : c.statefulSetKey «namespace» ≠ c.serviceKey «namespace» := by
    intro same
    have kind : StatefulSet.type.kind = Service.type.kind := congrArg ObjectKey.kind same
    exact absurd kind (by decide)
  rw [apply_eq addressed]
  refine .request ⟨rfl, .inl rfl⟩ fun response after met => ?_
  -- the service
  have accepted : s.accept 200 (c.serviceKey «namespace»)
      ((c.sentService «namespace»).appliedOver (s.objects.find? (c.serviceKey «namespace»))) =
        (after, response) :=
    (Server.serve_apply (by decide) _).symm.trans (services _ met rfl)
  have stored (k : ObjectKey) := accepted ▸ Server.find?_accept s 200 (c.serviceKey «namespace») k
    ((c.sentService «namespace»).appliedOver (s.objects.find? (c.serviceKey «namespace»)))
  have answer : response = .holding 200 ((c.sentService «namespace»).applied
      (s.objects.find? (c.serviceKey «namespace»)) none) := (congrArg Prod.snd accepted).symm
  rw [answer, Response.decode_fine Service.resource (by omega) h.fault_service]
  refine .request ⟨rfl, .inr rfl⟩ fun response' after' met' => ?_
  -- the stateful set
  have same : after.objects.find? (c.statefulSetKey «namespace») =
      s.objects.find? (c.statefulSetKey «namespace») := (stored _).trans (if_neg apart)
  obtain ⟨status, answered, fine, accepted'⟩ := statefulSets _ met' _ _ _ rfl
  change answers (c.sentStatefulSet «namespace» images)
    (after.objects.find? (c.statefulSetKey «namespace»)) status at answered
  change after.accept 200 (c.statefulSetKey «namespace»)
    (((c.sentStatefulSet «namespace» images).appliedOver
      (after.objects.find? (c.statefulSetKey «namespace»))).reporting status) =
    (after', response') at accepted'
  have stored' (k : ObjectKey) := accepted' ▸ Server.find?_accept after 200
    (c.statefulSetKey «namespace») k
    (((c.sentStatefulSet «namespace» images).appliedOver
      (after.objects.find? (c.statefulSetKey «namespace»))).reporting status)
  have now : after'.objects.find? (c.statefulSetKey «namespace») =
      some ((c.sentStatefulSet «namespace» images).applied
        (after.objects.find? (c.statefulSetKey «namespace»)) status) :=
    (stored' _).trans (if_pos rfl)
  have answer' : response' = .holding 200 ((c.sentStatefulSet «namespace» images).applied
      (after.objects.find? (c.statefulSetKey «namespace»)) status) :=
    (congrArg Prod.snd accepted').symm
  rw [same] at answered now answer'
  rw [answer', Response.decode_fine StatefulSet.resource (by omega) (h.fault_statefulSet fine)]
  refine .done ⟨status, answered, fine, ⟨?_, now⟩, rfl⟩
  -- the service is as its own request has left it
  calc after'.objects.find? (c.serviceKey «namespace»)
      = _ := stored' _
    _ = after.objects.find? (c.serviceKey «namespace») := if_neg apart.symm
    _ = _ := stored _
    _ = _ := if_pos rfl

end Deployment

end ReplicaSetOperator
