import ReplicaSetOperator.Proofs.Operator.Convergence
import ReplicaSetOperator.Proofs.Operator.Courses

/-!
# The files of TLS

Three places name the files of TLS: the operator's secret with the certificate, the pods that mount
it, and the document that the agents follow. They are written one after another, and whatever
follows is refused, they agree from the moment the stateful set is applied
(`Cluster.reconcile_tlsFiles`).
-/

namespace ReplicaSetOperator

open ReplicaSetOperator.Configuration (secretKey held KeptUnder UpToDate)

/-- The settings of the cluster are those of the mode. -/
theorem Configuration.clusterTls_of_build {c : Cluster} {«namespace» : String}
    {previous : Option Document} {mode : TlsMode} {file : String} {d : Document}
    (h : (tlsBuilder c «namespace» previous mode file).build = .ok d) : d.tls = .running mode := by
  rw [Builder.eq_of_build h]
  rfl

/-- Documents that say the same have the same settings for the cluster. -/
theorem Document.tls_of_same {p d : Document} (h : p.same d = true) : p.tls = d.tls := by
  have same := congrArg Document.tls (unsigned_of_same h)
  exact same

namespace Cluster

variable {c : Cluster} {«namespace» : String} {images : Images} {certificate key : Bytes}
  {s s' : Server} {es : List Exchange}

/-- The operator's secret, the user's config map, the pods and, once the rollout is marked, the
document agree about the files of TLS. -/
structure TlsFiles (c : Cluster) («namespace» : String) (certificate key : Bytes) (s : Server) :
    Prop where
  material : ∃ j, s.objects.find? (c.materialSecret «namespace») = some j ∧
    (Secret.format.read j).data = some [(Tls.fileName certificate key, certificate ++ key)]
  authority : ∃ configMap ca,
    s.reads ConfigMap.stored «namespace» c.spec.tls.caConfigMap = .ok (some configMap) ∧
      configMap.entry? Tls.caCertificateName = some ca
  pods : ∃ j pod, s.objects.find? (c.statefulSetKey «namespace») = some j ∧
    (StatefulSet.format.read j).spec.bind (·.template.spec) = some pod ∧
    ((pod.volumes.getD []).map (·.name)).Nodup ∧
    ∀ name ∈ [Workload.agentContainer, Workload.databaseContainer],
      pod.Sees name Tls.secretMountPath
        (fun v => { name := v, secret := some { secretName := some c.operatorSecretName } }) ∧
      pod.Sees name Tls.caMountPath
        (fun v => { name := v, configMap := some { name := c.spec.tls.caConfigMap } })
  document : c.tlsRolledOut = true → ∃ d,
    held (s.objects.find? (c.documentSecret «namespace»)) = .ok (some d) ∧
    d.tls.caFilePath = Tls.caMountPath ++ Tls.caCertificateName ∧
    ∀ p ∈ d.processes, p.tls =
      { mode := if c.spec.tls.optional then .preferred else .required
        pemKeyFile := Tls.secretMountPath ++ Tls.fileName certificate key
        caFile := Tls.caMountPath ++ Tls.caCertificateName
        allowConnectionsWithoutCertificates := true }

/-- A document that is up to date names the files, once the rollout is marked. -/
theorem document_of_upToDate {object : Option Json} {d : Document}
    (enabled : c.spec.tls.enabled = true) (marked : c.tlsRolledOut = true)
    (h : UpToDate c «namespace»
      (Change.apply (.tls (c.descriptor «namespace»).mode (Tls.fileName certificate key)))
      object d) :
    ∃ e, held object = .ok (some e) ∧
      e.tls.caFilePath = Tls.caMountPath ++ Tls.caCertificateName ∧
      ∀ p ∈ e.processes, p.tls =
        { mode := if c.spec.tls.optional then .preferred else .required
          pemKeyFile := Tls.secretMountPath ++ Tls.fileName certificate key
          caFile := Tls.caMountPath ++ Tls.caCertificateName
          allowConnectionsWithoutCertificates := true } := by
  have mode : (c.descriptor «namespace»).mode =
      if c.spec.tls.optional then .preferred else .required := by
    rw [mode_descriptor, enabled, marked]
    rfl
  obtain ⟨e, isHeld, same, build⟩ := h
  rw [mode] at build
  refine ⟨e, isHeld, ?_, fun p mem => ?_⟩
  · rw [Document.tls_of_same same, Configuration.clusterTls_of_build build]
    cases c.spec.tls.optional <;> rfl
  · rw [Document.processes_of_same same] at mem
    rw [Configuration.settings_of_build build p mem]
    cases c.spec.tls.optional <;> rfl

/-- From the moment a reconciliation with TLS has applied the stateful set, what the operator's
secret holds, what the pods mount and what the document names are the same files. -/
theorem reconcile_tlsFiles {o : Outcome Failure Action} (addressed : c.Addressed «namespace»)
    (keptDocument : KeptUnder «namespace» c.configSecretName
      (s.objects.find? (c.documentSecret «namespace»)))
    (keptMaterial : KeptUnder «namespace» c.operatorSecretName
      (s.objects.find? (c.materialSecret «namespace»)))
    (enabled : c.spec.tls.enabled = true)
    (run : (c.reconcile images).Runs Exchange.Tracked s es o s') {e : Exchange} (mem : e ∈ es)
    (wrote : e.Writes) (about : Server.key e.request = c.statefulSetKey «namespace») :
    ∃ certificate key,
      Material.provided s «namespace» c.spec.tls.certificateKeySecret = some (certificate, key) ∧
      c.TlsFiles «namespace» certificate key e.after := by
  -- the stateful set is applied once all is prepared
  have course : c.Course «namespace» images s es o s' :=
    reconcile_course addressed keptDocument keptMaterial es o s' run
  obtain ⟨es₁, d, s₁, first, links, tracked, isRequest, before⟩ :=
    course.applying run.met mem wrote about
  have isTracked := run.met e mem
  obtain ⟨file, upToDate, material⟩ := first.result d rfl
  obtain ⟨certificate, key, rfl, provided, ⟨j, there, -, data⟩⟩ := material enabled
  -- from the end of the preparation on only service and stateful set change
  have same (k : ObjectKey) (service : k ≠ c.serviceKey «namespace»)
      (statefulSet : k ≠ c.statefulSetKey «namespace») :
      e.after.objects.find? k = s₁.objects.find? k :=
    (isTracked.sparing k fun _ isKey => statefulSet (isKey.symm.trans about)).trans
      (before k service)
  have secret (name : String) : e.after.objects.find? (secretKey «namespace» name) =
      s₁.objects.find? (secretKey «namespace» name) :=
    same _ (serviceKey_ne_secret name).symm (statefulSetKey_ne_secret name).symm
  refine ⟨certificate, key, provided.secret, ?_, ?_, ?_, fun marked => ?_⟩
  · exact ⟨j, (secret _).trans there, data⟩
  · have configMaps (k : ObjectKey) (kind : k.kind = ConfigMap.objectType.kind) :
        e.after.objects.find? k = s.objects.find? k := by
      have apart {k' : ObjectKey} {a : String} (isKind : k'.kind = a) (ne : a ≠ "ConfigMap") :
          k ≠ k' := ObjectKey.ne_of_kind kind isKind ne.symm
      refine (same k (apart (a := "Service") rfl (by decide))
        (apart (a := "StatefulSet") rfl (by decide))).trans ?_
      exact first.same links tracked (kind ▸ by decide) (kind ▸ by decide)
        (apart (a := "Secret") rfl (by decide)) (apart (a := "Secret") rfl (by decide))
    obtain ⟨configMap, ca, reads, isEntry⟩ := provided.configMap
    refine ⟨configMap, ca, ?_, isEntry⟩
    rw [Server.reads_congr (t := ConfigMap.stored) _ (by decide) (by decide)
      addressed.material.plainNamespace configMaps]
    exact reads
  -- the pods have the files that the stateful set mounts
  · obtain ⟨status, now, -⟩ := isTracked.applied isRequest wrote.2
    obtain ⟨pod, isPod, distinct, sees⟩ := c.sees_of_spec «namespace» images enabled
      (Json.get?_applied (by decide) :
        ((c.sentStatefulSet «namespace» images).applied _ status).get? "spec" = _)
    exact ⟨_, pod, now, isPod, distinct, sees⟩
  · have document := secret c.configSecretName
    rw [document]
    exact document_of_upToDate enabled marked upToDate

/-- A cluster of which the first reconciliation has marked the rollout: the next one applies the
stateful set again, and the files agree. -/
theorem tlsFiles_joining : ∃ (c : Cluster) (s : Server) (es : List Exchange)
    (o : Outcome Failure Action) (s' : Server) (e : Exchange),
    c.spec.tls.enabled = true ∧ c.tlsRolledOut = true ∧
      (c.reconcile {}).Runs Exchange.Tracked s es o s' ∧ e ∈ es ∧ e.Writes ∧
      Server.key e.request = c.statefulSetKey "prod" ∧ ∃ certificate key,
        Material.provided s "prod" c.spec.tls.certificateKeySecret = some (certificate, key) ∧
        c.TlsFiles "prod" certificate key e.after := by
  have settles (e : Exchange) (met : e.Settles 3) : e.Settles joining.spec.members := met
  obtain ⟨-, -, s₁, -, x, -, -, -, -, shows, plain, marked, isReady, -⟩ :=
    exists_staged_joining 1 (by omega)
  have addressed := addressed_joining.congr plain
  have ready := isReady.congr plain
  have spec : x.spec = joining.spec := spec_of_plain plain
  have own : x.ownKey "prod" = joining.ownKey "prod" := ownKey_of_name (name_of_plain plain)
  obtain ⟨es, action, s', run, -⟩ :=
    (reconcile_delivers addressed (spec ▸ settles) (Nat.zero_le _) (own ▸ shows)
      ready).exists_run (Exchange.exists_settles 3)
  have tracked := run.mono fun e => Exchange.Settles.tracked
  obtain ⟨e, mem, wrote, about⟩ := (reconcile_course addressed ready.document.kept
    ready.material.kept _ _ _ tracked).exists_applying
  have enabled : x.spec.tls.enabled = true := by
    rw [spec]
    rfl
  exact ⟨x, s₁, es, _, s', e, enabled, marked, tracked, mem, wrote, about,
    reconcile_tlsFiles addressed ready.document.kept ready.material.kept enabled tracked mem
      wrote about⟩

end Cluster

end ReplicaSetOperator
