import ReplicaSetOperator.Proofs.Operator.Demands
import ReplicaSetOperator.Proofs.Operator.Provision
import ReplicaSetOperator.Proofs.Operator.Pushes
import ReplicaSetOperator.Proofs.Tls.FileNames

/-!
# Documents and the files they name

A document names a certificate file for every process with TLS, and the members find it in the
operator's secret. A new certificate takes the place of the old file before the document that names
the new one is written, and the document is not written if a request before it is refused. Up to
that the two agree after every reconciliation, whatever is refused (`Cluster.reconcile_agreement`),
and they always agree after one that succeeds.
-/

namespace ReplicaSetOperator

open ReplicaSetOperator.Configuration (secretKey held KeptUnder storedAs)

/-! ### Files -/

/-- Every process with TLS finds its certificate among some files. -/
def Document.FoundIn (d : Document) (files : List String) : Prop :=
  ∀ p ∈ d.processes, p.tls.mode ≠ .disabled → Tls.fileOf p.tls.pemKeyFile ∈ files

/-- A document finds its certificates among files if all its processes have the file there. -/
theorem Document.foundIn_of_settings {d : Document} {mode : TlsMode} {file : String}
    {files : List String} (settings : ∀ p ∈ d.processes, p.tls = .running mode file)
    (there : mode ≠ .disabled → Tls.fileOf (Tls.pemKeyFilePath file) ∈ files) :
    d.FoundIn files := by
  intro p mem on
  rw [settings p mem] at on ⊢
  cases mode with
  | disabled => exact absurd rfl on
  | preferred => exact there (by simp)
  | required => exact there (by simp)

namespace Cluster

variable {c : Cluster} {«namespace» : String}

/-- The key of the secret with the document. -/
abbrev documentSecret (c : Cluster) («namespace» : String) : ObjectKey :=
  secretKey «namespace» c.configSecretName

/-- The key of the operator's secret. -/
abbrev materialSecret (c : Cluster) («namespace» : String) : ObjectKey :=
  secretKey «namespace» c.operatorSecretName

theorem documentSecret_ne : c.documentSecret «namespace» ≠ c.materialSecret «namespace» := by
  intro same
  have names : c.name ++ "-config" = c.name ++ "-server-certificate-key" :=
    congrArg ObjectKey.name same
  have tails := congrArg String.toList names
  rw [String.toList_append, String.toList_append, List.append_cancel_left_eq] at tails
  exact absurd tails (by decide)

/-- The document that a server holds, if any, names files that the operator's secret has. -/
def Agrees (c : Cluster) («namespace» : String) (s : Server) : Prop :=
  ∀ d, held (s.objects.find? (c.documentSecret «namespace»)) = .ok (some d) →
    d.FoundIn (Material.files (s.objects.find? (c.materialSecret «namespace»)))

/-- The operator's secret has been written and the document has not, which names another file than
that of the certificate which the user provides. -/
def Stale (c : Cluster) («namespace» : String) (s : Server) (es : List Exchange) : Prop :=
  Written (c.materialSecret «namespace») es ∧ ¬ Written (c.documentSecret «namespace») es ∧
    ∃ d certificate key,
      held (s.objects.find? (c.documentSecret «namespace»)) = .ok (some d) ∧
      Material.provided s «namespace» c.spec.tls.certificateKeySecret = some (certificate, key) ∧
      ∃ p ∈ d.processes, p.tls.mode ≠ .disabled ∧
        Tls.fileOf p.tls.pemKeyFile ≠ Tls.fileName certificate key

/-! ### Runs of a reconciliation -/

/-- What only reports is about clusters and events. -/
theorem Reporting.spares {r : Request} {k : ObjectKey} (h : c.Reporting «namespace» r)
    (cluster : k.kind ≠ Cluster.type.kind) (event : k.kind ≠ Event.type.kind) :
    r.verb = .get ∨ Server.key r ≠ k := by
  rcases h with rfl | ⟨body, rfl⟩ | ⟨name, body, rfl⟩
  · exact .inl rfl
  · exact .inr fun same => cluster (congrArg ObjectKey.kind same).symm
  · exact .inr fun same => event (congrArg ObjectKey.kind same).symm

/-- What only reports leaves the secrets alone. -/
theorem Reporting.leaves {r : Request} {k : ObjectKey} (h : c.Reporting «namespace» r)
    (isSecret : k.kind = Secret.objectType.kind) : r.verb = .get ∨ Server.key r ≠ k :=
  h.spares (isSecret ▸ by decide) (isSecret ▸ by decide)

theorem Marking.leaves {r : Request} {k : ObjectKey} (h : c.Marking «namespace» r)
    (isSecret : k.kind = Secret.objectType.kind) : r.verb = .get ∨ Server.key r ≠ k := by
  rcases h with ⟨body, rfl⟩ | reports
  · exact .inr fun same => absurd (same ▸ isSecret : Cluster.type.kind = _) (by decide)
  · exact reports.leaves isSecret

variable {s s' : Server} {es : List Exchange}

/-- What only reports and marks leaves the secrets alone. -/
theorem leaves_secrets {α : Type} {p : Program Failure α}
    (demands : p.Demands (c.Marking «namespace»)) (s : Server) :
    p.Ensures Exchange.Answered s fun es _ s' =>
      ∀ k : ObjectKey, k.kind = Secret.objectType.kind → Untouched k s es s' :=
  fun es o s' run _ isSecret =>
    demands.untouched (fun _ asked => asked.leaves isSecret) s es o s' run

/-- Who reports that the material is missing has no result. -/
theorem reportMissing_fails {α : Type} (meets : Exchange → Prop) (failure : Failure) (s : Server) :
    (c.reportMissing failure : Program Failure α).Ensures meets s fun _ o _ =>
      ∀ a, o ≠ .done a := by
  unfold reportMissing
  split
  · refine .fail ?_
    rintro a ⟨⟩
  · exact .bind_fails fun _ _ => .bind_fails fun _ _ => .fail fun a => by rintro ⟨⟩

/-- Whatever is refused, the operator's secret is left as it was or holds the user's certificate and
key. Nothing else is written, but for reports. -/
theorem tlsChange_ensures (h : c.Addressed «namespace»)
    (kept : KeptUnder «namespace» c.operatorSecretName
      (s.objects.find? (c.materialSecret «namespace»))) :
    (c.tlsChange (c.descriptor «namespace»)).Ensures Exchange.Answered s fun es o s' =>
      Material.Kept (·.kind = Secret.objectType.kind) (c.descriptor «namespace») s es o s' ∧
        ∀ e ∈ es, e.Writes → c.Reporting «namespace» e.request ∨
          Server.key e.request = c.materialSecret «namespace» := by
  have change := Material.change_ensures (d := c.descriptor «namespace») h.material kept
  -- what is written before anything is reported
  have writes {o : Outcome Failure Change} {es : List Exchange} {s' : Server}
      (kept : Material.Kept (fun _ => True) (c.descriptor «namespace») s es o s') :
      ∀ e ∈ es, e.Writes → c.Reporting «namespace» e.request ∨
        Server.key e.request = c.materialSecret «namespace» := by
    intro e mem wrote
    refine .inr (Classical.byContradiction fun apart => ?_)
    exact (kept.1 _ trivial apart).unwritten ⟨e, mem, wrote, rfl⟩
  have unreported {o : Outcome Failure Change} {es : List Exchange} {s' : Server}
      (kept : Material.Kept (fun _ => True) (c.descriptor «namespace») s es o s') :
      Material.Kept (·.kind = Secret.objectType.kind) (c.descriptor «namespace») s es o s' :=
    ⟨fun other _ => kept.1 other trivial, kept.2⟩
  unfold tlsChange
  -- the work is tried, and a failure is reported before it is handed on
  refine .bind change.attempted ?_ ?_ ?_
  · rintro es r s₁ ⟨o', same, kept⟩
    cases o' with
    | overflow => cases same
    | done change =>
      cases same
      refine .done ?_
      rw [List.append_nil]
      exact ⟨unreported kept, writes kept⟩
    | failed failure =>
      cases same
      have demands : (c.reportMissing failure : Program Failure Change).Demands
          (c.Reporting «namespace») :=
        (reportMissing_demands h failure).mono fun _ => Stating.reporting
      have reports := (leaves_secrets (demands.mono fun _ => .inr) s₁).and
        (reportMissing_fails Exchange.Answered failure s₁)
      intro es' o s' run
      obtain ⟨untouched, fails⟩ := reports es' o s' run
      refine ⟨kept.followed (fun _ _ => trivial) rfl untouched
        fun change done => absurd done (fails change), fun e mem wrote => ?_⟩
      rcases List.mem_append.1 mem with mem | mem
      · exact writes kept e mem wrote
      · exact .inl (run.mem demands e mem).2
  · rintro es e s' ⟨o', same, -⟩
    cases o' <;> cases same
  · rintro es s' ⟨o', same, kept⟩
    cases o' with
    | overflow => exact ⟨unreported kept, writes kept⟩
    | done change => cases same
    | failed failure => cases same

/-- The change of the document is known if nothing is in the way of the work for it. -/
theorem tlsChange_delivers {meets : Exchange → Prop} {kind : Request → Prop} {d : TlsDescriptor}
    {post : Change → Server → Prop} (h : (Material.change d).Delivers meets kind s post) :
    (c.tlsChange d).Delivers meets kind s post := by
  refine .bind h.attempt ?_
  rintro r s₁ ⟨change, rfl, holds⟩
  exact .done holds

/-- Applying the workload asks for nothing but that. -/
theorem deployed_demands (h : c.Addressed «namespace») (images : Images) :
    (Deployment.apply c images).Demands fun r =>
      r.type = Service.type ∨ r.type = StatefulSet.type := by
  rw [Deployment.apply_eq h]
  refine ⟨.inl rfl, fun response => ?_⟩
  refine .bind ((Program.Demands.ofExcept _).mapFailure _) fun _ => ⟨.inr rfl, fun response => ?_⟩
  exact (Program.Demands.ofExcept _).mapFailure _

/-- What is done for a document, once it is known what it is to say. -/
theorem pushed_ensures (h : c.Addressed «namespace») (images : Images)
    (m : Document → Document) (d : TlsDescriptor)
    (kept : KeptUnder «namespace» c.configSecretName
      (s.objects.find? (c.documentSecret «namespace»))) :
    ((Configuration.push c m).bind fun document =>
      (Deployment.apply c images).bind fun statefulSet =>
        c.settled d document statefulSet).Ensures Exchange.Answered s
      (Configuration.Pushed c «namespace» m s) := by
  -- what comes after the push is about services, stateful sets, the cluster and events
  have last (document : Document) (s₁ : Server) :
      ((Deployment.apply c images).bind fun statefulSet =>
        c.settled d document statefulSet).Ensures Exchange.Answered s₁ fun es _ s' =>
          ∀ k : ObjectKey, k.kind = Secret.objectType.kind → Untouched k s₁ es s' := by
    intro es o s' run k isSecret
    have demands : ((Deployment.apply c images).bind fun statefulSet =>
        c.settled d document statefulSet).Demands fun r =>
          r.verb = .get ∨ Server.key r ≠ k := by
      refine .bind ((deployed_demands h images).mono fun r isType => .inr fun same => ?_)
        fun statefulSet => (settled_demands h d document statefulSet).mono fun r marks =>
          marks.leaves isSecret
      rcases isType with type | type
      · exact absurd (same ▸ isSecret : r.type.kind = _) (by rw [type]; decide)
      · exact absurd (same ▸ isSecret : r.type.kind = _) (by rw [type]; decide)
    exact demands.untouched (fun _ asked => asked) s₁ es o s' run
  -- the push decides what becomes of the document, and nothing after it touches it
  refine .bind (Configuration.push_ensures (m := m) h.inNamespace h.document kept) ?_ ?_ ?_
  · intro es document s₁ pushed
    exact (last document s₁).mono fun es' o s' untouched =>
      pushed.followed untouched fun _ _ => ⟨document, rfl⟩
  · exact fun es e s' pushed => pushed.fails fun b => by rintro ⟨⟩
  · exact fun es s' pushed => pushed.fails fun b => by rintro ⟨⟩

/-! ### The two secrets after a reconciliation -/

/-- The document that a server holds names files that the operator's secret has, if it holds one. -/
theorem foundIn_of_build {previous : Option Document} {mode : TlsMode} {file : String}
    {d e : Document} {files : List String}
    (build : (Configuration.tlsBuilder c «namespace» previous mode file).build = .ok d)
    (processes : e.processes = d.processes)
    (linked : mode = .disabled ∨ '/' ∉ file.toList ∧ files = [file]) : e.FoundIn files := by
  have settings := Configuration.settings_of_build build
  rw [← processes] at settings
  refine Document.foundIn_of_settings settings fun on => ?_
  rcases linked with off | ⟨plain, rfl⟩
  · exact absurd off on
  · rw [Tls.fileOf_pemKeyFilePath plain]
    exact List.mem_singleton_self file

/-- What becomes of the two secrets in a reconciliation. The operator's secret is left as it was, or
it has the user's certificate; the document is left as it was, or agrees with it, as it does in any
case if there is a result. -/
structure Renewal (c : Cluster) («namespace» : String) (s : Server) (es : List Exchange)
    (o : Outcome Failure Action) (s' : Server) : Prop where
  material : Untouched (c.materialSecret «namespace») s es s' ∨
    Written (c.materialSecret «namespace») es ∧ ∃ certificate key,
      Material.provided s «namespace» c.spec.tls.certificateKeySecret = some (certificate, key) ∧
      Material.files (s'.objects.find? (c.materialSecret «namespace»)) =
        [Tls.fileName certificate key]
  document : Untouched (c.documentSecret «namespace») s es s' ∨
    Written (c.documentSecret «namespace») es ∧ c.Agrees «namespace» s'
  success : ∀ action, o = .done action → c.Agrees «namespace» s'

/-- What touches no secret may come before. -/
theorem Renewal.after {s₁ : Server} {es' : List Exchange} {o : Outcome Failure Action}
    (h : c.Renewal «namespace» s₁ es' o s') (addressed : c.Addressed «namespace»)
    (first : ∀ k : ObjectKey, k.kind = Secret.objectType.kind → Untouched k s es s₁) :
    c.Renewal «namespace» s (es ++ es') o s' where
  material := by
    -- what the user provides is a secret, so it is read as before
    have same : s₁.reads Secret.stored «namespace» c.spec.tls.certificateKeySecret =
        s.reads Secret.stored «namespace» c.spec.tls.certificateKeySecret :=
      Server.reads_congr (t := Secret.stored) _ addressed.document.known
        addressed.document.plainCollection addressed.document.plainNamespace
        fun k isSecret => (first k isSecret).same
    rcases h.material with untouched | ⟨wrote, certificate, key, isProvided, holds⟩
    · exact .inl ((first _ rfl).append untouched)
    · refine .inr ⟨written_append.2 (.inr wrote), certificate, key, ?_, holds⟩
      rw [Material.provided, ← same]
      exact isProvided
  document := h.document.imp (first _ rfl).append fun written =>
    ⟨written_append.2 (.inr written.1), written.2⟩
  success := h.success

/-- What comes after the change of the document is worked out. -/
theorem Renewal.of_kept {s₁ : Server} {es₁ es₂ : List Exchange} {change : Change}
    {o : Outcome Failure Action}
    (kept : Material.Kept (·.kind = Secret.objectType.kind) (c.descriptor «namespace») s es₁
      (.done change) s₁)
    (pushed : Configuration.Pushed c «namespace» change.apply s₁ es₂ o s') :
    c.Renewal «namespace» s (es₁ ++ es₂) o s' := by
  have apart := @documentSecret_ne c «namespace»
  obtain ⟨others, material⟩ := kept
  obtain ⟨others', document⟩ := pushed
  have documentKept := others _ rfl apart
  have materialKept := others' _ rfl (Ne.symm apart)
  -- the change names the file that the operator's secret has from then on
  obtain ⟨mode, file, rfl, linked⟩ : ∃ mode file, change = .tls mode file ∧
      (mode = .disabled ∨ '/' ∉ file.toList ∧
        Material.files (s'.objects.find? (c.materialSecret «namespace»)) = [file]) := by
    rw [materialKept.same]
    rcases material with ⟨-, result⟩ | ⟨-, -, certificate, key, -, holds, result⟩
    · exact ⟨.disabled, "", (result change rfl).2, .inl rfl⟩
    · exact ⟨_, _, result change rfl, .inr ⟨Tls.slash_notMem_fileName _ _, holds.files_eq⟩⟩
  -- material and document one by one, and then what holds with a result
  refine ⟨?_, ?_, ?_⟩
  · rcases material with ⟨untouched, -⟩ | ⟨wrote, -, certificate, key, isProvided, holds, -⟩
    · exact .inl (untouched.append materialKept)
    · refine .inr ⟨written_append.2 (.inl wrote), certificate, key, isProvided.secret, ?_⟩
      rw [materialKept.same]
      exact holds.files_eq
  · rcases document with ⟨untouched, -⟩ | ⟨wrote, previous, d, existing, old, build, holds⟩
    · exact .inl (documentKept.append untouched)
    · refine .inr ⟨written_append.2 (.inr wrote), fun e isHeld => ?_⟩
      rw [holds] at isHeld
      obtain rfl := Configuration.held_storedAs (Configuration.uniform_of_build build) isHeld
      exact foundIn_of_build build rfl linked
  · intro action done e isHeld
    rcases document with ⟨untouched, result⟩ | ⟨-, previous, d, existing, old, build, holds⟩
    · obtain ⟨p, d, was, same, build⟩ := result action done
      rw [untouched.same, was] at isHeld
      obtain rfl := Option.some.inj (Except.ok.inj isHeld)
      exact foundIn_of_build build (Document.processes_of_same same) linked
    · rw [holds] at isHeld
      obtain rfl := Configuration.held_storedAs (Configuration.uniform_of_build build) isHeld
      exact foundIn_of_build build rfl linked

/-- A reconciliation that ends before the document is looked at. -/
theorem Renewal.of_failed {o' : Outcome Failure Change} {o : Outcome Failure Action}
    (kept : Material.Kept (·.kind = Secret.objectType.kind) (c.descriptor «namespace») s es o' s')
    (fails : ∀ a, o ≠ .done a) :
    c.Renewal «namespace» s es o s' where
  material := by
    rcases kept.2 with ⟨untouched, -⟩ | ⟨wrote, -, certificate, key, isProvided, holds, -⟩
    · exact .inl untouched
    · exact .inr ⟨wrote, certificate, key, isProvided.secret, holds.files_eq⟩
  document := .inl (kept.1 _ rfl documentSecret_ne)
  success action done := absurd done (fails action)

/-- Whatever is refused in a reconciliation, it is known what becomes of the two secrets. -/
theorem reconcile_ensures (h : c.Addressed «namespace») (images : Images)
    (keptDocument : KeptUnder «namespace» c.configSecretName
      (s.objects.find? (c.documentSecret «namespace»)))
    (keptMaterial : KeptUnder «namespace» c.operatorSecretName
      (s.objects.find? (c.materialSecret «namespace»))) :
    (c.reconcile images).Ensures Exchange.Answered s (c.Renewal «namespace» s) := by
  -- the first reports touch no secret
  have announcing : (announced c).Demands (c.Marking «namespace») :=
    (announced_demands h).mono fun _ => .inr ∘ Stating.reporting
  rw [reconcile_eq h]
  refine .bind (leaves_secrets announcing s) ?_ ?_ ?_
  · intro es _ s₁ untouched
    have keptMaterial₁ : KeptUnder «namespace» c.operatorSecretName
        (s₁.objects.find? (c.materialSecret «namespace»)) := by
      rw [(untouched _ rfl).same]
      exact keptMaterial
    have keptDocument₁ : KeptUnder «namespace» c.configSecretName
        (s₁.objects.find? (c.documentSecret «namespace»)) := by
      rw [(untouched _ rfl).same]
      exact keptDocument
    refine Program.Ensures.mono (?_ : Program.Ensures _ _ s₁ (c.Renewal «namespace» s₁))
      fun es' o s' renewal => renewal.after h untouched
    -- then the certificate file, and then the document
    refine .bind (tlsChange_ensures h keptMaterial₁) ?_ ?_ ?_
    · rintro es₁ change s₂ ⟨kept, -⟩
      have keptDocument₂ : KeptUnder «namespace» c.configSecretName
          (s₂.objects.find? (c.documentSecret «namespace»)) := by
        have same : s₂.objects.find? (c.documentSecret «namespace») =
            s₁.objects.find? (c.documentSecret «namespace») :=
          (kept.1 _ rfl documentSecret_ne).same
        rw [same]
        exact keptDocument₁
      exact (pushed_ensures h images change.apply _ keptDocument₂).mono fun es₂ o s' pushed =>
        .of_kept kept pushed
    · exact fun es₁ e s' ⟨kept, _⟩ => .of_failed kept fun a => by rintro ⟨⟩
    · exact fun es₁ s' ⟨kept, _⟩ => .of_failed kept fun a => by rintro ⟨⟩
  · exact fun es e s' untouched =>
      ⟨.inl (untouched _ rfl), .inl (untouched _ rfl), fun a => by rintro ⟨⟩⟩
  · exact fun es s' untouched =>
      ⟨.inl (untouched _ rfl), .inl (untouched _ rfl), fun a => by rintro ⟨⟩⟩

/-- Where document and certificate file agree they agree after a reconciliation as well, whatever is
refused, but for one case: the file of a new certificate has taken the place of the one that the
document names, and the document has not been written any more. After a reconciliation that
succeeds they agree. -/
theorem reconcile_agreement {images : Images} {o : Outcome Failure Action}
    (addressed : c.Addressed «namespace»)
    (keptDocument : KeptUnder «namespace» c.configSecretName
      (s.objects.find? (c.documentSecret «namespace»)))
    (keptMaterial : KeptUnder «namespace» c.operatorSecretName
      (s.objects.find? (c.materialSecret «namespace»)))
    (agrees : c.Agrees «namespace» s)
    (run : (c.reconcile images).Runs Exchange.Answered s es o s') :
    (c.Agrees «namespace» s' ↔ ¬ c.Stale «namespace» s es) ∧
      ∀ action, o = .done action → c.Agrees «namespace» s' := by
  have renewal := reconcile_ensures addressed images keptDocument keptMaterial es o s' run
  refine ⟨?_, renewal.success⟩
  -- a document that has been written agrees, so that the others are of interest
  rcases renewal.document with untouched | ⟨wrote, now⟩
  · rcases renewal.material with material | ⟨wrote, certificate, key, isProvided, holds⟩
    · -- neither has been written
      have now : c.Agrees «namespace» s' := by
        intro d isHeld
        rw [untouched.same] at isHeld
        rw [material.same]
        exact agrees d isHeld
      exact iff_of_true now fun stale => material.unwritten stale.1
    · -- the old document meets the new file
      have file {d : Document} : d.FoundIn
          (Material.files (s'.objects.find? (c.materialSecret «namespace»))) ↔
          ∀ p ∈ d.processes, p.tls.mode ≠ .disabled →
            Tls.fileOf p.tls.pemKeyFile = Tls.fileName certificate key := by
        rw [holds]
        exact forall₃_congr fun p _ _ => List.mem_singleton
      constructor
      · rintro now ⟨-, -, d, certificate', key', isHeld, isProvided', p, mem, on, differs⟩
        rw [isProvided] at isProvided'
        cases isProvided'
        rw [← untouched.same] at isHeld
        exact differs (file.1 (now d isHeld) p mem on)
      · intro fresh d isHeld
        rw [untouched.same] at isHeld
        refine file.2 fun p mem on => ?_
        by_contra differs
        exact fresh ⟨wrote, untouched.unwritten, d, certificate, key, isHeld, isProvided, p, mem,
          on, differs⟩
  · exact iff_of_true now fun stale => stale.2.1 wrote

/-! ### A certificate that is renewed -/

/-- A cluster with TLS, in an example. -/
def renewed : Cluster where
  metadata := { name := some "db", «namespace» := some "prod" }
  spec := { tls :=
    { enabled := true, certificateKeySecret := "certificate", caConfigMap := "authority" } }
  status := some {}

/-- A document that names a certificate file. -/
def olderDocument : Document :=
  { (Configuration.tlsBuilder renewed "prod" none .required "old.pem").modified with version := 1 }

/-- The operator's secret with that file. -/
def olderSecret : Secret :=
  { Material.newSecret "prod" renewed.operatorSecretName none [] [] with
    data := some [("old.pem", [])] }

/-- A server on which document and certificate file agree, and the user has a new certificate. -/
def renewedServer : Server where
  objects :=
    [(⟨"ConfigMap", "prod", "authority"⟩,
      .object [("data", .object [("ca.crt", .string "authority")])]),
     (⟨"Secret", "prod", "certificate"⟩, .object
      [("data", .object [("tls.crt", .string "Y2VydA=="), ("tls.key", .string "a2V5")])]),
     (renewed.documentSecret "prod", storedAs renewed "prod" olderDocument none none),
     (renewed.materialSecret "prod",
      (Client.sent Secret.stored.toResource olderSecret).stamped none)]

/-- The names of the example can be asked for. -/
theorem addressed_renewed : renewed.Addressed "prod" :=
  ⟨rfl, by decide, by decide, by decide, by decide, by decide⟩

/-- What is there in it decodes. -/
theorem legible_renewed :
    Configuration.Legible "prod" renewed.configSecretName
      (renewedServer.objects.find? (renewed.documentSecret "prod")) ∧
    Configuration.Legible "prod" renewed.operatorSecretName
      (renewedServer.objects.find? (renewed.materialSecret "prod")) :=
  ⟨.of_sent (x := Configuration.newSecret renewed "prod" olderDocument)
      (ObjectMeta.sound_of_new rfl rfl rfl) rfl rfl none,
    .of_sent (x := olderSecret) (ObjectMeta.sound_of_new rfl rfl rfl) rfl rfl none⟩

/-- The document in it is the older one. -/
theorem held_renewed :
    held (renewedServer.objects.find? (renewed.documentSecret "prod")) =
      .ok (some olderDocument) := by
  have build : (Configuration.tlsBuilder renewed "prod" none .required "old.pem").build =
      .ok olderDocument := Configuration.build_eq
  have data := @Configuration.data_storedAs renewed "prod" olderDocument none none
  rw [held, legible_renewed.1.seen_eq]
  exact Configuration.stored_of_uniform (Configuration.uniform_of_build build) data

/-- The operator's secret has the file that it names. -/
theorem files_renewed :
    Material.files (renewedServer.objects.find? (renewed.materialSecret "prod")) = ["old.pem"] := by
  have data : (Secret.format.read
      ((Client.sent Secret.stored.toResource olderSecret).stamped none)).data =
        some [("old.pem", [])] := Json.data_stamped olderSecret.reread none
  have there : renewedServer.objects.find? (renewed.materialSecret "prod") =
      some ((Client.sent Secret.stored.toResource olderSecret).stamped none) := rfl
  rw [there, Material.files, Option.bind_some, data]
  rfl

/-- Every process is to use that file. -/
theorem settings_olderDocument :
    ∀ p ∈ olderDocument.processes, p.tls = .running .required "old.pem" := by
  have build : (Configuration.tlsBuilder renewed "prod" none .required "old.pem").build =
      .ok olderDocument := Configuration.build_eq
  exact Configuration.settings_of_build build

theorem agrees_renewed : renewed.Agrees "prod" renewedServer := by
  intro d isHeld
  rw [held_renewed] at isHeld
  obtain rfl := Option.some.inj (Except.ok.inj isHeld)
  refine Document.foundIn_of_settings settings_olderDocument fun _ => ?_
  rw [files_renewed, Tls.fileOf_pemKeyFilePath (by decide)]
  exact List.mem_singleton_self _

/-- The user provides a new certificate. -/
theorem provided_renewed :
    Material.Provided (renewed.descriptor "prod") renewedServer
      [99, 101, 114, 116] [107, 101, 121] where
  hasConfigMap := by decide
  hasSecret := by decide
  configMap := ⟨{ data := some [("ca.crt", "authority")] }, "authority", rfl, rfl⟩
  secret := rfl

end Cluster

/-- The server serves, but refuses every request about one object. -/
structure Exchange.Withholds (k : ObjectKey) (e : Exchange) : Prop where
  refuses : Server.key e.request = k →
    e.response = .failing 500 "InternalError" "no answer" ∧ e.after = e.before
  serves : Server.key e.request ≠ k → e.Served

/-- A server that withholds answers everything. -/
theorem Exchange.Withholds.answered {k : ObjectKey} {e : Exchange} (h : e.Withholds k) :
    e.Answered := by
  by_cases about : Server.key e.request = k
  · obtain ⟨response, same⟩ := h.refuses about
    exact .inr ⟨response ▸ Response.isFailure_failing (by omega) _ _, same⟩
  · exact .inl (h.serves about)

/-- It has an answer to every request. -/
theorem Exchange.exists_withholds (k : ObjectKey) (s : Server) (r : Request) :
    ∃ response after, Exchange.Withholds k ⟨s, r, response, after⟩ := by
  by_cases about : Server.key r = k
  · exact ⟨_, s, fun _ => ⟨rfl, rfl⟩, fun apart => absurd about apart⟩
  · exact ⟨_, _, fun same => absurd same about, fun _ => Exchange.served_exchange s r⟩

namespace Cluster

/-- A reconciliation that cannot read the document has already replaced the certificate file. -/
theorem renewed_withheld (images : Images) :
    (renewed.reconcile images).Ensures (Exchange.Withholds (renewed.documentSecret "prod"))
      renewedServer fun _ _ s' => ¬ renewed.Agrees "prod" s' := by
  have apart : Material.Apart (renewed.descriptor "prod") (renewed.documentSecret "prod") :=
    Material.apart_of_ne (by decide) (by decide)
  have configMaps (e : Exchange) (met : e.Withholds (renewed.documentSecret "prod"))
      (isConfigMap : e.request.type = ConfigMap.objectType) : e.Served := by
    refine met.serves fun same => ?_
    have kind : e.request.type.kind = Secret.objectType.kind := congrArg ObjectKey.kind same
    rw [isConfigMap] at kind
    exact absurd kind (by decide)
  have change := (Material.change_delivers (d := renewed.descriptor "prod") rfl provided_renewed
    apart addressed_renewed.material (Ne.symm documentSecret_ne) configMaps
    (fun e met _ => Exchange.Withholds.serves met) legible_renewed.2).frame
      fun e met => met.answered.isLocal
  have started : announced renewed = .done () := rfl
  rw [reconcile_eq addressed_renewed, started, Program.bind_done]
  refine Program.Achieves.bind_ensures (tlsChange_delivers change) ?_
  rintro es change s₁ ⟨-, ⟨-, holds⟩, others⟩
  rw [Configuration.push_eq rfl addressed_renewed.document]
  refine .request fun response after met => ?_
  obtain ⟨isFailure, same⟩ : response = _ ∧ after = s₁ := met.refuses rfl
  have found : Secret.stored.found response =
      .error (.plain (.readFailed (.client (.refused 500 "InternalError")))) := by
    rw [isFailure, Storable.found_of_isFailure _ (Response.isFailure_failing (by omega) _ _),
      Response.failure_failing (by omega)]
    rfl
  dsimp only
  rw [found]
  refine .fail fun agrees => ?_
  -- the document is the old one
  have isHeld : held (after.objects.find? (renewed.documentSecret "prod")) =
      .ok (some olderDocument) := by
    rw [same, others _ fun r => Or.imp_right fun about => about ▸ Ne.symm documentSecret_ne]
    exact held_renewed
  obtain ⟨p, mem⟩ : ∃ p, p ∈ olderDocument.processes := ⟨_, List.mem_cons_self⟩
  have file := agrees olderDocument isHeld p mem (by rw [settings_olderDocument p mem]; decide)
  have older : Tls.fileOf p.tls.pemKeyFile = "old.pem" := by
    rw [settings_olderDocument p mem]
    exact Tls.fileOf_pemKeyFilePath (by decide)
  rw [older, same, show Material.files (s₁.objects.find? (renewed.materialSecret "prod")) = _ from
    holds.files_eq, List.mem_singleton] at file
  -- but its file has a shorter name than those that are made of digests
  exact Tls.fileName_ne_of_length _ _ (by decide) file.symm

/-- So agreement may be lost: not every reconciliation that ends early leaves document and
certificate file in agreement. -/
theorem agreement_lost :
    ¬ ∀ (c : Cluster) («namespace» : String) (images : Images) (s s' : Server)
      (es : List Exchange) (o : Outcome Failure Action), c.Addressed «namespace» →
      KeptUnder «namespace» c.configSecretName
        (s.objects.find? (c.documentSecret «namespace»)) →
      KeptUnder «namespace» c.operatorSecretName
        (s.objects.find? (c.materialSecret «namespace»)) →
      c.Agrees «namespace» s → (c.reconcile images).Runs Exchange.Answered s es o s' →
      c.Agrees «namespace» s' := by
  intro always
  obtain ⟨es, o, s', run⟩ := Program.exists_runs
    (Exchange.exists_withholds (renewed.documentSecret "prod")) (renewed.reconcile {})
    renewedServer
  exact renewed_withheld {} es o s' run <| always renewed "prod" {} renewedServer s' es o
    addressed_renewed legible_renewed.1.kept legible_renewed.2.kept agrees_renewed
    (run.mono fun e => Exchange.Withholds.answered)

/-- The theorem at the run that loses agreement. -/
theorem reconcile_agreement_renewed :
    ∃ es o s', (renewed.reconcile {}).Runs Exchange.Answered renewedServer es o s' ∧
      ¬ renewed.Agrees "prod" s' ∧
      (renewed.Agrees "prod" s' ↔ ¬ renewed.Stale "prod" renewedServer es) ∧
        ∀ action, o = .done action → renewed.Agrees "prod" s' := by
  obtain ⟨es, o, s', run⟩ := Program.exists_runs
    (Exchange.exists_withholds (renewed.documentSecret "prod")) (renewed.reconcile {})
    renewedServer
  have answered := run.mono fun e => Exchange.Withholds.answered
  exact ⟨es, o, s', answered, renewed_withheld {} es o s' run,
    reconcile_agreement addressed_renewed legible_renewed.1.kept legible_renewed.2.kept
      agrees_renewed answered⟩

end Cluster

end ReplicaSetOperator
