import ReplicaSetOperator.Proofs.Operator.Preparation
import ReplicaSetOperator.Proofs.Operator.Settling

/-!
# The course of a reconciliation

A reconciliation prepares what the workload needs, applies service and stateful set, and then marks
the rollout or reports (`Cluster.Course`). It may stop at any request; what it has done up to there
stays. The marker is set only when the stateful set that has been answered carries the TLS files and
is rolled out, and cleared only where TLS is not wanted (`Cluster.Concludes`).
-/

namespace ReplicaSetOperator

open ReplicaSetOperator.Configuration (secretKey held KeptUnder)

namespace MarkerTransition

/-- The marker is set exactly if TLS is enabled and carried, and it is not there. -/
theorem decide_eq_set {enabled complete carried : Bool} :
    decide enabled complete carried = .set ↔
      enabled = true ∧ complete = false ∧ carried = true := by
  revert enabled complete carried
  simp only [Bool.forall_bool]
  decide

/-- It is cleared exactly if TLS is disabled and it is there. -/
theorem decide_eq_clear {enabled complete carried : Bool} :
    decide enabled complete carried = .clear ↔ enabled = false ∧ complete = true := by
  revert enabled complete carried
  simp only [Bool.forall_bool]
  decide

end MarkerTransition

namespace Cluster

variable {c : Cluster} {«namespace» : String} {images : Images} {s s₁ s₂ s' : Server}
  {es es₁ es₂ es₃ : List Exchange}

/-! ### Applying the workload -/

/-- The request that applies the service. -/
def applyingService (c : Cluster) («namespace» : String) : Request :=
  .about .apply Service.type «namespace» c.serviceName (.value (c.sentService «namespace»))

/-- The request that applies the stateful set. -/
def applyingStatefulSet (c : Cluster) («namespace» : String) (images : Images) : Request :=
  .about .apply StatefulSet.type «namespace» c.name (.value (c.sentStatefulSet «namespace» images))

/-- The service is applied, and if that is answered by a service the stateful set as well. -/
inductive Deploys (c : Cluster) («namespace» : String) (images : Images) :
    List Exchange → Outcome Failure StatefulSet → Prop
  | unserved {e : Exchange} {o : Outcome Failure StatefulSet}
    (service : e.request = c.applyingService «namespace») (fails : ∀ a, o ≠ .done a) :
    Deploys c «namespace» images [e] o
  | applied {e f : Exchange} {o : Outcome Failure StatefulSet}
    (service : e.request = c.applyingService «namespace»)
    (statefulSet : f.request = c.applyingStatefulSet «namespace» images)
    (result : ∀ a, o = .done a → f.response.decode StatefulSet.resource = .ok a) :
    Deploys c «namespace» images [e, f] o

/-- Whatever is answered, the workload is applied in this order. -/
theorem apply_deploys {meets : Exchange → Prop} (h : c.Addressed «namespace») :
    (Deployment.apply c images).Ensures meets s
      fun es o _ => c.Deploys «namespace» images es o := by
  rw [Deployment.apply_eq h]
  refine .request fun response after _ => ?_
  cases response.decode Service.resource with
  | error e =>
    -- without the service the stateful set is not applied
    refine .fail (.unserved rfl ?_)
    rintro a ⟨⟩
  | ok service =>
    refine .request fun response' after' _ => ?_
    cases decoded : response'.decode StatefulSet.resource with
    | error e =>
      refine .fail (.applied rfl rfl ?_)
      rintro a ⟨⟩
    | ok a =>
      refine .done (.applied rfl rfl ?_)
      rintro b ⟨⟩
      exact decoded

/-! ### Marking the rollout -/

/-- The request that sets the rollout marker, or clears it. -/
def markingRequest (c : Cluster) («namespace» : String) (complete : Bool) : Request :=
  .about .merge Cluster.type «namespace» c.name (.value (marking complete))

/-- The marker is changed by the first request, and the others only report that. -/
theorem markRollout_marks {meets : Exchange → Prop} (h : c.Addressed «namespace»)
    (complete : Bool) :
    (c.markRollout complete).Ensures meets s fun es o _ => ∃ m rest, es = m :: rest ∧
      m.request = c.markingRequest «namespace» complete ∧
      (∀ e ∈ rest, c.Reporting «namespace» e.request) ∧
      ∀ u, o = .done u → m.response.isFailure = false := by
  rw [markRollout_eq h]
  refine .request fun response after _ es o s' run => ?_
  have demands : (((Program.ofExcept (response.decode resource)).requesting).bind fun _ =>
      (markingEvent complete).publish c).Demands (c.Reporting «namespace») :=
    .bind ((Program.Demands.ofExcept _).mapFailure _) fun _ => Event.publish_demands h _
  refine ⟨_, es, rfl, rfl, fun e mem => (run.mem demands e mem).2, ?_⟩
  rintro u rfl
  -- what is refused is no result
  rw [← Bool.not_eq_true]
  intro fails
  rw [Response.decode_of_isFailure _ fails] at run
  cases run

/-- How a reconciliation ends, once a stateful set has been answered: it reports, or it sets the
marker or clears it first. -/
inductive Concludes (c : Cluster) («namespace» : String) (a : StatefulSet) :
    List Exchange → Outcome Failure Action → Prop
  | reports {es : List Exchange} {o : Outcome Failure Action}
    (unstaged : ¬ (c.spec.tls.enabled = false ∧ c.tlsRolledOut = true))
    (all : ∀ e ∈ es, c.Reporting «namespace» e.request) : Concludes c «namespace» a es o
  | sets {m : Exchange} {es : List Exchange} {o : Outcome Failure Action}
    (enabled : c.spec.tls.enabled = true) (unmarked : c.tlsRolledOut = false)
    (rolledOut : a.rolledOut c.spec.members = true) (carries : a.carriesTls = true)
    (marks : m.request = c.markingRequest «namespace» true)
    (all : ∀ e ∈ es, c.Reporting «namespace» e.request) : Concludes c «namespace» a (m :: es) o
  | clears {m : Exchange} {es : List Exchange} {o : Outcome Failure Action}
    (disabled : c.spec.tls.enabled = false) (marked : c.tlsRolledOut = true)
    (marks : m.request = c.markingRequest «namespace» false)
    (all : ∀ e ∈ es, c.Reporting «namespace» e.request)
    (result : ∀ action, o = .done action → m.response.isFailure = false) :
    Concludes c «namespace» a (m :: es) o

/-- Whatever is answered, a reconciliation concludes in one of these ways. -/
theorem settled_concludes {meets : Exchange → Prop} (h : c.Addressed «namespace»)
    (document : Document) (a : StatefulSet) :
    (c.settled (c.descriptor «namespace») document a).Ensures meets s fun es o _ =>
      c.Concludes «namespace» a es o := by
  -- one case for each decision about the marker, and in it one for each end
  unfold settled
  dsimp only
  split
  · next decided =>
    obtain ⟨enabled, unmarked, carried⟩ := MarkerTransition.decide_eq_set.1 decided
    obtain ⟨rolledOut, carries⟩ := Bool.and_eq_true_iff.1 carried
    refine .bind (markRollout_marks h true) ?_ ?_ ?_
    · rintro es u s₁ ⟨m, rest, rfl, marks, all, -⟩
      refine .done ?_
      rw [List.append_nil]
      exact .sets enabled unmarked rolledOut carries marks all
    · rintro es e s' ⟨m, rest, rfl, marks, all, -⟩
      exact .sets enabled unmarked rolledOut carries marks all
    · rintro es s' ⟨m, rest, rfl, marks, all, -⟩
      exact .sets enabled unmarked rolledOut carries marks all
  · next decided =>
    obtain ⟨disabled, marked⟩ := MarkerTransition.decide_eq_clear.1 decided
    refine .bind (markRollout_marks h false) ?_ ?_ ?_
    · rintro es u s₁ ⟨m, rest, rfl, marks, all, granted⟩ es' o s' run
      have reports := run.mem (reportProgress_demands h _ _ _)
      refine .clears disabled marked marks (List.forall_mem_append.2
        ⟨all, fun e mem => (reports e mem).2.reporting⟩) fun _ _ => granted u rfl
    · rintro es e s' ⟨m, rest, rfl, marks, all, -⟩
      refine .clears disabled marked marks all ?_
      rintro action ⟨⟩
    · rintro es s' ⟨m, rest, rfl, marks, all, -⟩
      refine .clears disabled marked marks all ?_
      rintro action ⟨⟩
  · next decided =>
    -- the marker stays as it is, which it would not where TLS is disabled and the marker is there
    intro es o s' run
    have reports := run.mem (reportProgress_demands h _ _ _)
    refine .reports (fun cleared => ?_) fun e mem => (reports e mem).2.reporting
    exact absurd (decided.symm.trans (MarkerTransition.decide_eq_clear.2 cleared)) (by decide)

/-! ### All of it -/

/-- What a reconciliation does: it stops before the workload is applied, or while it is, or goes on
to the marker and the status. -/
inductive Course (c : Cluster) («namespace» : String) (images : Images) (s : Server) :
    List Exchange → Outcome Failure Action → Server → Prop
  | stopped {es : List Exchange} {o' : Outcome Failure Document} {o : Outcome Failure Action}
    {s' : Server} (first : c.Prepared «namespace» s es o' s') (links₁ : Links s es s')
    (fails : ∀ a, o ≠ .done a) : Course c «namespace» images s es o s'
  | undeployed {es₁ es₂ : List Exchange} {d : Document} {o' : Outcome Failure StatefulSet}
    {o : Outcome Failure Action} {s₁ s' : Server}
    (first : c.Prepared «namespace» s es₁ (.done d) s₁) (links₁ : Links s es₁ s₁)
    (deploys : c.Deploys «namespace» images es₂ o') (links₂ : Links s₁ es₂ s')
    (fails : ∀ a, o ≠ .done a) : Course c «namespace» images s (es₁ ++ es₂) o s'
  | concluded {es₁ es₂ es₃ : List Exchange} {d : Document} {a : StatefulSet}
    {o : Outcome Failure Action} {s₁ s₂ s' : Server}
    (first : c.Prepared «namespace» s es₁ (.done d) s₁) (links₁ : Links s es₁ s₁)
    (deploys : c.Deploys «namespace» images es₂ (.done a)) (links₂ : Links s₁ es₂ s₂)
    (concludes : c.Concludes «namespace» a es₃ o) (links₃ : Links s₂ es₃ s') :
    Course c «namespace» images s (es₁ ++ (es₂ ++ es₃)) o s'

/-- Every run of a reconciliation takes such a course, whatever is refused. -/
theorem reconcile_course (h : c.Addressed «namespace»)
    (keptDocument : KeptUnder «namespace» c.configSecretName
      (s.objects.find? (c.documentSecret «namespace»)))
    (keptMaterial : KeptUnder «namespace» c.operatorSecretName
      (s.objects.find? (c.materialSecret «namespace»))) :
    (c.reconcile images).Ensures Exchange.Tracked s (c.Course «namespace» images s) := by
  -- nothing is applied at first, so that the server does what it is asked or refuses to
  have prepares : (c.prepared «namespace»).Ensures Exchange.Tracked s
      (c.Prepared «namespace» s) := by
    intro es o s' run
    have answered : ∀ e ∈ es, e.Answered := fun e mem =>
      have ⟨tracked, plain⟩ := run.mem (prepared_plain h) e mem
      tracked.answered (.inl plain)
    exact prepared_ensures keptDocument keptMaterial h es o s' (run.of_mem answered)
  rw [reconcile_eq_prepared h]
  intro es o s' run
  -- by how far the run has come
  rcases run.of_bind with ⟨es₁, d, s₁, es', prepared, rest, rfl⟩ | ⟨e, prepared, rfl⟩ |
    ⟨prepared, rfl⟩
  · have first := prepares _ _ _ prepared
    rcases rest.of_bind with ⟨es₂, a, s₂, es₃, applied, settled, rfl⟩ | ⟨e, applied, rfl⟩ |
      ⟨applied, rfl⟩
    · exact .concluded first prepared.links (apply_deploys h _ _ _ applied) applied.links
        (settled_concludes h d a _ _ _ settled) settled.links
    · exact .undeployed first prepared.links (apply_deploys h _ _ _ applied) applied.links
        (by rintro a ⟨⟩)
    · exact .undeployed first prepared.links (apply_deploys h _ _ _ applied) applied.links
        (by rintro a ⟨⟩)
  · exact .stopped (prepares _ _ _ prepared) prepared.links (by rintro a ⟨⟩)
  · exact .stopped (prepares _ _ _ prepared) prepared.links (by rintro a ⟨⟩)

/-! ### Who writes the stateful set -/

/-- A stateful set is neither a cluster nor an event. -/
theorem statefulSetKind : StatefulSet.type.kind ≠ Cluster.type.kind ∧
    StatefulSet.type.kind ≠ Event.type.kind := by
  decide

/-- Nothing that is prepared is about the stateful set. -/
theorem Preparing.ne {r : Request} (h : c.Preparing «namespace» r) (changes : r.verb ≠ .get) :
    Server.key r ≠ c.statefulSetKey «namespace» := by
  rcases h with reports | about | about
  · exact (reports.spares statefulSetKind.1 statefulSetKind.2).resolve_left changes
  · exact about ▸ (statefulSetKey_ne_secret _).symm
  · exact about ▸ (statefulSetKey_ne_secret _).symm

/-- What ends a reconciliation is about the cluster and its events. -/
theorem Concludes.spares {a : StatefulSet} {o : Outcome Failure Action} {k : ObjectKey}
    (h : c.Concludes «namespace» a es o) (cluster : k.kind ≠ Cluster.type.kind)
    (event : k.kind ≠ Event.type.kind) :
    ∀ e ∈ es, e.request.verb = .get ∨ Server.key e.request ≠ k := by
  have marks {m : Exchange} {complete : Bool}
      (isRequest : m.request = c.markingRequest «namespace» complete) :
      m.request.verb = .get ∨ Server.key m.request ≠ k := by
    rw [isRequest]
    exact .inr fun same => cluster (congrArg ObjectKey.kind same).symm
  have reports {es : List Exchange} (all : ∀ e ∈ es, c.Reporting «namespace» e.request) :
      ∀ e ∈ es, e.request.verb = .get ∨ Server.key e.request ≠ k :=
    fun e mem => (all e mem).spares cluster event
  cases h with
  | reports unstaged all => exact reports all
  | sets enabled unmarked rolledOut carries request all =>
    exact List.forall_mem_cons.2 ⟨marks request, reports all⟩
  | clears disabled marked request all result =>
    exact List.forall_mem_cons.2 ⟨marks request, reports all⟩

/-- A stateful set is written by the request that applies it, and only the service changes before
that. -/
theorem Deploys.applying {o : Outcome Failure StatefulSet}
    (h : c.Deploys «namespace» images es o) (links : Links s es s')
    (tracked : ∀ e ∈ es, e.Tracked) {e : Exchange} (mem : e ∈ es)
    (about : Server.key e.request = c.statefulSetKey «namespace») :
    e.request = c.applyingStatefulSet «namespace» images ∧
      ∀ k, k ≠ c.serviceKey «namespace» →
        e.before.objects.find? k = s.objects.find? k := by
  have service {e : Exchange} (isRequest : e.request = c.applyingService «namespace») :
      Server.key e.request ≠ c.statefulSetKey «namespace» := by
    rw [isRequest]
    exact ObjectKey.ne_of_kind (a := "Service") (b := "StatefulSet") rfl rfl (by decide)
  -- the request about the stateful set is the second one, and the first is about the service
  cases h with
  | unserved isRequest fails =>
    obtain rfl := List.mem_singleton.1 mem
    exact absurd about (service isRequest)
  | @applied e' f _ isRequest statefulSet result =>
    rcases List.mem_cons.1 mem with rfl | mem
    · exact absurd about (service isRequest)
    · obtain rfl := List.mem_singleton.1 mem
      obtain ⟨rfl, before, -⟩ := links
      refine ⟨statefulSet, fun k apart => ?_⟩
      rw [before]
      refine (tracked _ List.mem_cons_self).sparing k fun _ same => apart ?_
      rw [← same, isRequest]
      rfl

/-- What is prepared changes the cluster, its events and the two secrets only. -/
theorem Prepared.same {o : Outcome Failure Document} (h : c.Prepared «namespace» s es o s')
    (links : Links s es s') (tracked : ∀ e ∈ es, e.Tracked) {k : ObjectKey}
    (cluster : k.kind ≠ Cluster.type.kind) (event : k.kind ≠ Event.type.kind)
    (document : k ≠ c.documentSecret «namespace») (material : k ≠ c.materialSecret «namespace») :
    s'.objects.find? k = s.objects.find? k := by
  refine (links.untouched (fun e mem => (tracked e mem).sparing) ?_).same
  rintro ⟨e, mem, wrote, rfl⟩
  rcases h.writes e mem wrote with reports | about | about
  · rcases reports.spares cluster event with reads | apart
    · exact wrote.1 reads
    · exact apart rfl
  · exact document about
  · exact material about

/-- Material and document are up to date when a stateful set is applied. -/
theorem Course.applying {o : Outcome Failure Action} (h : c.Course «namespace» images s es o s')
    (tracked : ∀ e ∈ es, e.Tracked) {e : Exchange} (mem : e ∈ es) (wrote : e.Writes)
    (about : Server.key e.request = c.statefulSetKey «namespace») :
    ∃ es₁ d s₁, c.Prepared «namespace» s es₁ (.done d) s₁ ∧ Links s es₁ s₁ ∧
      (∀ e ∈ es₁, e.Tracked) ∧ e.request = c.applyingStatefulSet «namespace» images ∧
      ∀ k, k ≠ c.serviceKey «namespace» → e.before.objects.find? k = s₁.objects.find? k := by
  have early {es₁ : List Exchange} {o' : Outcome Failure Document} {s₁ : Server}
      (first : c.Prepared «namespace» s es₁ o' s₁) : e ∉ es₁ :=
    fun mem => (first.writes e mem wrote).ne wrote.1 about
  -- before the workload nothing is about the stateful set, and after it nothing is either
  cases h with
  | stopped first links₁ fails => exact absurd mem (early first)
  | undeployed first links₁ deploys links₂ fails =>
    obtain ⟨tracked₁, tracked₂⟩ := List.forall_mem_append.1 tracked
    have later := (List.mem_append.1 mem).resolve_left (early first)
    exact ⟨_, _, _, first, links₁, tracked₁, deploys.applying links₂ tracked₂ later about⟩
  | concluded first links₁ deploys links₂ concludes links₃ =>
    obtain ⟨tracked₁, rest⟩ := List.forall_mem_append.1 tracked
    obtain ⟨tracked₂, -⟩ := List.forall_mem_append.1 rest
    rcases List.mem_append.1 ((List.mem_append.1 mem).resolve_left (early first)) with later | later
    · exact ⟨_, _, _, first, links₁, tracked₁, deploys.applying links₂ tracked₂ later about⟩
    · rcases concludes.spares (k := c.statefulSetKey «namespace») statefulSetKind.1
        statefulSetKind.2 e later with reads | apart
      · exact absurd reads wrote.1
      · exact absurd about apart

/-- A stateful set that is answered has been written. -/
theorem writes_of_applied {e : Exchange} {a : StatefulSet}
    (isRequest : e.request = c.applyingStatefulSet «namespace» images)
    (decoded : e.response.decode StatefulSet.resource = .ok a) :
    e.Writes ∧ Server.key e.request = c.statefulSetKey «namespace» := by
  rw [Exchange.Writes, isRequest]
  refine ⟨⟨by rintro ⟨⟩, ?_⟩, rfl⟩
  rw [← Bool.not_eq_true]
  intro fails
  rw [Response.decode_of_isFailure _ fails] at decoded
  cases decoded

/-- The workload is the service and the stateful set. -/
theorem Deploys.about {o : Outcome Failure StatefulSet} (h : c.Deploys «namespace» images es o) :
    ∀ e ∈ es, Server.key e.request = c.serviceKey «namespace» ∨
      Server.key e.request = c.statefulSetKey «namespace» := by
  have service {e : Exchange} (isRequest : e.request = c.applyingService «namespace») :
      Server.key e.request = c.serviceKey «namespace» ∨
        Server.key e.request = c.statefulSetKey «namespace» := by
    rw [isRequest]
    exact .inl rfl
  cases h with
  | unserved isRequest fails => exact List.forall_mem_singleton.2 (service isRequest)
  | applied isRequest statefulSet result =>
    refine List.forall_mem_cons.2 ⟨service isRequest, List.forall_mem_singleton.2 ?_⟩
    rw [statefulSet]
    exact .inr rfl

/-- After the preparation no secret is touched. -/
theorem Course.prepared {o : Outcome Failure Action} (h : c.Course «namespace» images s es o s')
    (tracked : ∀ e ∈ es, e.Tracked) : ∃ es₁ o₁ s₁ es₂, es = es₁ ++ es₂ ∧
      c.Prepared «namespace» s es₁ o₁ s₁ ∧ (es₂ ≠ [] → ∃ d, o₁ = .done d) ∧
      ∀ k : ObjectKey, k.kind = Secret.objectType.kind → Untouched k s₁ es₂ s' := by
  -- the workload is of other kinds
  have deploys {es : List Exchange} {o : Outcome Failure StatefulSet} {s₁ s₂ : Server}
      (applies : c.Deploys «namespace» images es o) (links : Links s₁ es s₂)
      (tracked : ∀ e ∈ es, e.Tracked) {k : ObjectKey} (isSecret : k.kind = "Secret") :
      Untouched k s₁ es s₂ := by
    refine links.untouched (fun e mem => (tracked e mem).sparing) ?_
    rintro ⟨e, mem, -, rfl⟩
    rcases applies.about e mem with about | about
    · exact ObjectKey.ne_of_kind (a := "Service") (by rw [about]; rfl) isSecret (by decide) rfl
    · exact ObjectKey.ne_of_kind (a := "StatefulSet") (by rw [about]; rfl) isSecret (by decide) rfl
  cases h with
  | stopped first links₁ fails =>
    exact ⟨es, _, s', [], (List.append_nil es).symm, first, fun some => absurd rfl some,
      fun k _ => .nil k s'⟩
  | undeployed first links₁ applies links₂ fails =>
    obtain ⟨-, tracked₂⟩ := List.forall_mem_append.1 tracked
    exact ⟨_, _, _, _, rfl, first, fun _ => ⟨_, rfl⟩,
      fun k isSecret => deploys applies links₂ tracked₂ isSecret⟩
  | concluded first links₁ applies links₂ concludes links₃ =>
    obtain ⟨-, tracked'⟩ := List.forall_mem_append.1 tracked
    obtain ⟨tracked₂, tracked₃⟩ := List.forall_mem_append.1 tracked'
    refine ⟨_, _, _, _, rfl, first, fun _ => ⟨_, rfl⟩, fun k isSecret =>
      (deploys applies links₂ tracked₂ isSecret).append ?_⟩
    -- and marker and status are about the cluster and its events
    refine links₃.untouched (fun e mem => (tracked₃ e mem).sparing) ?_
    rintro ⟨e, mem, wrote, about⟩
    rcases concludes.spares (isSecret ▸ secretKind.1) (isSecret ▸ secretKind.2) e mem with
      reads | apart
    · exact wrote.1 reads
    · exact apart about

/-- The two secrets are still kept under their names. -/
theorem Course.kept {o : Outcome Failure Action} (h : c.Course «namespace» images s es o s')
    (tracked : ∀ e ∈ es, e.Tracked) :
    KeptUnder «namespace» c.configSecretName (s'.objects.find? (c.documentSecret «namespace»)) ∧
      KeptUnder «namespace» c.operatorSecretName
        (s'.objects.find? (c.materialSecret «namespace»)) := by
  obtain ⟨es₁, o₁, s₁, es₂, -, first, -, untouched⟩ := h.prepared tracked
  rw [(untouched (c.documentSecret «namespace») rfl).same,
    (untouched (c.materialSecret «namespace») rfl).same]
  exact ⟨first.keptDocument, first.keptMaterial⟩

/-- Nothing changes but the cluster, its events, the two secrets and the workload. -/
theorem Course.same {o : Outcome Failure Action} (h : c.Course «namespace» images s es o s')
    (tracked : ∀ e ∈ es, e.Tracked) {k : ObjectKey} (cluster : k.kind ≠ Cluster.type.kind)
    (event : k.kind ≠ Event.type.kind) (document : k ≠ c.documentSecret «namespace»)
    (material : k ≠ c.materialSecret «namespace») (service : k ≠ c.serviceKey «namespace»)
    (statefulSet : k ≠ c.statefulSetKey «namespace») :
    s'.objects.find? k = s.objects.find? k := by
  have deploys {es : List Exchange} {o : Outcome Failure StatefulSet} {s₁ s₂ : Server}
      (applies : c.Deploys «namespace» images es o) (links : Links s₁ es s₂)
      (tracked : ∀ e ∈ es, e.Tracked) : s₂.objects.find? k = s₁.objects.find? k := by
    refine (links.untouched (fun e mem => (tracked e mem).sparing) ?_).same
    rintro ⟨e, mem, -, rfl⟩
    exact (applies.about e mem).elim service statefulSet
  -- each part leaves the object alone, as far as the course has come
  cases h with
  | stopped first links₁ fails => exact first.same links₁ tracked cluster event document material
  | undeployed first links₁ applies links₂ fails =>
    obtain ⟨tracked₁, tracked₂⟩ := List.forall_mem_append.1 tracked
    exact (deploys applies links₂ tracked₂).trans
      (first.same links₁ tracked₁ cluster event document material)
  | concluded first links₁ applies links₂ concludes links₃ =>
    obtain ⟨tracked₁, rest⟩ := List.forall_mem_append.1 tracked
    obtain ⟨tracked₂, tracked₃⟩ := List.forall_mem_append.1 rest
    have last : s'.objects.find? k = _ := (links₃.untouched
      (fun e mem => (tracked₃ e mem).sparing) fun ⟨e, mem, wrote, about⟩ =>
        (concludes.spares cluster event e mem).elim wrote.1 fun apart => apart about).same
    calc s'.objects.find? k
        = _ := last
      _ = _ := deploys applies links₂ tracked₂
      _ = s.objects.find? k := first.same links₁ tracked₁ cluster event document material

/-- A reconciliation that comes to its end has applied the stateful set. -/
theorem Course.exists_applying {action : Action}
    (h : c.Course «namespace» images s es (.done action) s') :
    ∃ e ∈ es, e.Writes ∧ Server.key e.request = c.statefulSetKey «namespace» := by
  cases h with
  | stopped first links₁ fails => exact absurd rfl (fails action)
  | undeployed first links₁ deploys links₂ fails => exact absurd rfl (fails action)
  | concluded first links₁ deploys links₂ concludes links₃ =>
    cases deploys with
    | unserved service fails => exact absurd rfl (fails _)
    | @applied e f _ service statefulSet result =>
      exact ⟨f, List.mem_append_right _ (List.mem_append_left _ (by simp)),
        writes_of_applied statefulSet (result _ rfl)⟩

end Cluster

end ReplicaSetOperator
