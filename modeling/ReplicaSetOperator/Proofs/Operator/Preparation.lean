import ReplicaSetOperator.Proofs.Operator.Agreement
import ReplicaSetOperator.Proofs.Operator.Deployment
import ReplicaSetOperator.Proofs.Operator.Upkeep
import ReplicaSetOperator.Proofs.Server.Journals

/-!
# Before the workload is applied

A reconciliation brings material and document up to date before it applies the workload
(`Cluster.prepared`). Whatever is refused on the way, it writes nothing else but reports, every
document that it writes is built for the mode that the cluster asks for, and once it goes on to the
workload the operator's secret and the document are those that were asked for
(`Cluster.Prepared`).
-/

namespace ReplicaSetOperator

open ReplicaSetOperator.Configuration (secretKey held KeptUnder storedAs UpToDate Pushing)

/-! ### What is asked for -/

namespace Program

variable {ε α : Type} {kind : Entry → Prop}

/-- A program of one request does what that request is. -/
theorem does_exchange {t : Resource α} {r? : Option Request}
    (h : ∀ e : Exchange, e.request ∈ r? → kind (.exchange e)) :
    (Client.exchange t r?).Does kind := by
  cases r? with
  | none => trivial
  | some r => exact ⟨fun e same => h e (congrArg some same.symm), fun response => .ofExcept _⟩

/-- Reading an object does nothing but a read. -/
theorem does_read {t : Storable α} {«namespace» name : String}
    (reads : ∀ e : Exchange, e.request.verb = .get → kind (.exchange e)) :
    (Program.read t «namespace» name).Does kind := by
  refine .mapFailure _ (.mapFailure _ (.bind (.attempt (does_exchange fun e mem => ?_)) ?_))
  · exact reads e (Request.verb_of_about? mem)
  · rintro (e | a)
    · dsimp only
      split <;> trivial
    · trivial

end Program

/-- A request that applies nothing. -/
def Request.Plain (r : Request) : Prop := r.verb ≠ .apply

/-- What is done by a program that neither applies nor counts anything. -/
def Entry.Quiet : Entry → Prop
  | .exchange e => e.request.Plain
  | .reading _ => True
  | .count _ => False

/-- What is quiet counts nothing. -/
theorem Entry.Quiet.silent {j : Entry} (h : j.Quiet) : j.count? = none := by
  cases j with
  | exchange e => rfl
  | reading now => rfl
  | count m => cases h

namespace Store

variable {α : Type} {t : Storable α}

theorem create_quiet (a : α) : (create t a).Does Entry.Quiet := by
  refine .bind (.ofExcept _) fun ⟨«namespace», name⟩ => .mapFailure _ ?_
  refine Program.does_exchange fun e mem => ?_
  obtain ⟨address, -, same⟩ := Option.map_eq_some_iff.1 mem
  rw [Entry.Quiet, ← same]
  rintro ⟨⟩

theorem update_quiet (a : α) : (update t a).Does Entry.Quiet := by
  refine .bind (.ofExcept _) fun ⟨«namespace», name⟩ => .mapFailure _ ?_
  refine Program.does_exchange fun e mem => ?_
  have verb : e.request.verb = .replace := Request.verb_of_about? mem
  rw [Entry.Quiet, Request.Plain, verb]
  rintro ⟨⟩

end Store

theorem Program.read_quiet {α : Type} {t : Storable α} {«namespace» name : String} :
    (Program.read t «namespace» name).Does Entry.Quiet :=
  does_read fun e verb => by
    rw [Entry.Quiet, Request.Plain, verb]
    rintro ⟨⟩

namespace Material

theorem synthesize_quiet («namespace» name : String) (owner : Option OwnerReference)
    (certificate key : Bytes) :
    (synthesize «namespace» name owner certificate key).Does Entry.Quiet := by
  rw [synthesize_eq]
  -- the secret is read first, and then updated or made
  refine .bind Program.read_quiet fun existing => ?_
  have updates (secret : Secret) : ((Store.update Secret.stored secret).writing.bind fun _ =>
      .done (Tls.fileName certificate key)).Does Entry.Quiet :=
    .bind (.mapFailure _ (Store.update_quiet secret)) fun _ => trivial
  cases existing with
  | none =>
    refine .bind (.attempt (Store.create_quiet _)) ?_
    rintro (e | a)
    · dsimp only
      split
      · exact updates _
      · trivial
    · trivial
  | some secret => exact updates _

theorem change_quiet (d : TlsDescriptor) : (change d).Does Entry.Quiet := by
  unfold change
  split
  · trivial
  -- the certificate of the authority, certificate and key, and at last the file
  · refine .bind ?_ fun ca => .bind ?_ fun ⟨certificate, key⟩ =>
      .bind (synthesize_quiet _ _ _ _ _) fun file => trivial
    · unfold readCaCertificate
      split
      · trivial
      · refine .bind Program.read_quiet ?_
        rintro (- | configMap)
        · trivial
        · dsimp only
          split <;> trivial
    · unfold readCertificateKey
      split
      · trivial
      · refine .bind Program.read_quiet ?_
        rintro (- | secret)
        · trivial
        · dsimp only
          split
          · split <;> trivial
          · trivial

end Material

theorem Configuration.push_quiet (c : Cluster) (m : Document → Document) :
    (push c m).Does Entry.Quiet := by
  refine .bind (.ofExcept _) fun «namespace» => .bind Program.read_quiet fun existing =>
    .bind (.ofExcept _) fun previous => .bind ?_ fun d => ?_
  · unfold built
    split <;> trivial
  · split
    · trivial
    · refine .bind ?_ fun _ => trivial
      cases existing with
      | none => exact .bind (.mapFailure _ (Store.create_quiet _)) fun _ => trivial
      | some secret => exact .bind (.mapFailure _ (Store.update_quiet _)) fun _ => trivial

namespace Cluster

variable {c : Cluster} {«namespace» : String} {images : Images} {s s₁ s' : Server}
  {es es' : List Exchange}

/-- Nothing that only reports applies anything. -/
theorem Reporting.plain {r : Request} (h : c.Reporting «namespace» r) : r.Plain := by
  rcases h with rfl | ⟨body, rfl⟩ | ⟨name, body, rfl⟩ <;> rintro ⟨⟩

/-- What a reconciliation does before it applies the workload. -/
def prepared (c : Cluster) («namespace» : String) : Program Failure Document :=
  c.announced.bind fun _ => (c.tlsChange (c.descriptor «namespace»)).bind fun change =>
    Configuration.push c change.apply

/-- A reconciliation prepares everything and applies the workload then. -/
theorem reconcile_eq_prepared (h : c.Addressed «namespace») (images : Images) :
    c.reconcile images = (c.prepared «namespace»).bind fun document =>
      (Deployment.apply c images).bind fun statefulSet =>
        c.settled (c.descriptor «namespace») document statefulSet := by
  rw [reconcile_eq h, prepared, Program.bind_assoc]
  simp only [Program.bind_assoc]

/-- What a reconciliation does before it turns to the marker and the status. -/
def established (c : Cluster) («namespace» : String) (images : Images) :
    Program Failure (Document × StatefulSet) :=
  (c.prepared «namespace»).bind fun document =>
    (Deployment.apply c images).bind fun statefulSet => .done (document, statefulSet)

/-- It establishes the workload, and turns to the marker and the status then. -/
theorem reconcile_eq_established (h : c.Addressed «namespace») (images : Images) :
    c.reconcile images = (c.established «namespace» images).bind fun made =>
      c.settled (c.descriptor «namespace») made.1 made.2 := by
  rw [reconcile_eq_prepared h, established, Program.bind_assoc]
  simp only [Program.bind_assoc, Program.bind_done]

/-- Nothing that is prepared is applied. -/
theorem prepared_plain (h : c.Addressed «namespace») :
    (c.prepared «namespace»).Demands Request.Plain := by
  refine .bind ((announced_demands h).mono fun _ stating => stating.reporting.plain) fun _ =>
    .bind ?_ fun change => (Configuration.push_quiet c _).demands fun _ => id
  refine .bind (.attempt ((Material.change_quiet _).demands fun _ => id)) ?_
  rintro (failure | change)
  · exact (reportMissing_demands h failure).mono fun _ stating => stating.reporting.plain
  · trivial

/-! ### What becomes of the two secrets -/

/-- A request that brings the objects that a workload needs up to date, or reports. -/
def Preparing (c : Cluster) («namespace» : String) (r : Request) : Prop :=
  c.Reporting «namespace» r ∨ Server.key r = c.documentSecret «namespace» ∨
    Server.key r = c.materialSecret «namespace»

/-- What has happened before the workload is applied. A document that has been written is for the
mode of the cluster and stays; with a result, the document is up to date and names the file of the
certificate that the user provides, which is in the operator's secret. -/
structure Prepared (c : Cluster) («namespace» : String) (s : Server) (es : List Exchange)
    (o : Outcome Failure Document) (s' : Server) : Prop where
  writes : ∀ e ∈ es, e.Writes → c.Preparing «namespace» e.request
  written : ∀ e ∈ es, e.Writes → Server.key e.request = c.documentSecret «namespace» →
    ∃ file previous d,
      (Configuration.tlsBuilder c «namespace» previous (c.descriptor «namespace»).mode file).build =
        .ok d ∧
      held (e.after.objects.find? (c.documentSecret «namespace»)) = .ok (some d) ∧
      s'.objects.find? (c.documentSecret «namespace») =
        e.after.objects.find? (c.documentSecret «namespace»)
  keptDocument : KeptUnder «namespace» c.configSecretName
    (s'.objects.find? (c.documentSecret «namespace»))
  keptMaterial : KeptUnder «namespace» c.operatorSecretName
    (s'.objects.find? (c.materialSecret «namespace»))
  result : ∀ d, o = .done d → ∃ file,
    UpToDate c «namespace» (Change.apply (.tls (c.descriptor «namespace»).mode file))
      (s'.objects.find? (c.documentSecret «namespace»)) d ∧
    (c.spec.tls.enabled = true → ∃ certificate key, file = Tls.fileName certificate key ∧
      Material.Provided (c.descriptor «namespace») s certificate key ∧
      Material.Keeps (c.materialSecret «namespace») certificate key
        (s'.objects.find? (c.materialSecret «namespace»)))

/-- A secret is neither a cluster nor an event. -/
theorem secretKind : Secret.objectType.kind ≠ Cluster.type.kind ∧
    Secret.objectType.kind ≠ Event.type.kind := by
  decide

/-- What the user provides is still there if all but clusters and events is as it was. -/
theorem provided_of_same {certificate key : Bytes} (h : c.Addressed «namespace»)
    (provided : Material.Provided (c.descriptor «namespace») s₁ certificate key)
    (same : ∀ k : ObjectKey, k.kind ≠ Cluster.type.kind → k.kind ≠ Event.type.kind →
      s.objects.find? k = s₁.objects.find? k) :
    Material.Provided (c.descriptor «namespace») s certificate key := by
  have plain := h.material.plainNamespace
  refine provided.congr plain (fun k kind => ?_) fun r arrives => ?_
  · exact same k (kind ▸ by decide) (kind ▸ by decide)
  · have type := (Request.type_of_about? h.material.known h.material.plainCollection plain
      arrives).2
    have kind : (Server.key r).kind = Secret.objectType.kind := congrArg ObjectType.kind type
    exact same _ (kind ▸ secretKind.1) (kind ▸ secretKind.2)

/-- Reports before make no difference. -/
theorem Prepared.after {o : Outcome Failure Document} (h : c.Addressed «namespace»)
    (rest : c.Prepared «namespace» s₁ es' o s')
    (first : ∀ e ∈ es, e.Writes → c.Reporting «namespace» e.request)
    (same : ∀ k : ObjectKey, k.kind ≠ Cluster.type.kind → k.kind ≠ Event.type.kind →
      s₁.objects.find? k = s.objects.find? k) :
    c.Prepared «namespace» s (es ++ es') o s' where
  writes := List.forall_mem_append.2 ⟨fun e mem wrote => .inl (first e mem wrote), rest.writes⟩
  written := by
    refine List.forall_mem_append.2 ⟨fun e mem wrote about => ?_, rest.written⟩
    rcases (first e mem wrote).leaves (k := c.documentSecret «namespace») rfl with reads | apart
    · exact absurd reads wrote.1
    · exact absurd about apart
  keptDocument := rest.keptDocument
  keptMaterial := rest.keptMaterial
  result := by
    intro d done
    obtain ⟨file, upToDate, material⟩ := rest.result d done
    refine ⟨file, upToDate, fun enabled => ?_⟩
    -- the material that the first part leaves is what the user provides from the start
    obtain ⟨certificate, key, named, provided, keeps⟩ := material enabled
    exact ⟨certificate, key, named,
      provided_of_same h provided fun k cluster event => (same k cluster event).symm, keeps⟩

/-- What is kept under the name of the operator's secret stays kept under it. -/
theorem keptMaterial_of_kept {o : Outcome Failure Change} {spared : ObjectKey → Prop}
    (before : KeptUnder «namespace» c.operatorSecretName
      (s.objects.find? (c.materialSecret «namespace»)))
    (kept : Material.Kept spared (c.descriptor «namespace») s es o s') :
    KeptUnder «namespace» c.operatorSecretName
      (s'.objects.find? (c.materialSecret «namespace»)) := by
  rcases kept.2 with ⟨untouched, -⟩ | ⟨-, -, certificate, key, -, ⟨j, there, isKept, -⟩, -⟩
  · exact untouched.same.symm ▸ before
  · rintro j' mem
    obtain rfl := Option.some.inj (there.symm.trans mem)
    exact isKept

/-- The change that is worked out is for the mode of the cluster, and names the file in the
operator's secret. -/
theorem change_of_kept {spared : ObjectKey → Prop} {change : Change}
    (kept : Material.Kept spared (c.descriptor «namespace») s es (.done change) s₁) :
    ∃ file, change = .tls (c.descriptor «namespace»).mode file ∧
      (c.spec.tls.enabled = true → ∃ certificate key, file = Tls.fileName certificate key ∧
        Material.Provided (c.descriptor «namespace») s certificate key ∧
        Material.Keeps (c.materialSecret «namespace») certificate key
          (s₁.objects.find? (c.materialSecret «namespace»))) := by
  rcases kept.2 with ⟨-, result⟩ | ⟨-, -, certificate, key, provided, keeps, result⟩
  · obtain ⟨disabled, same⟩ := result change rfl
    have disabled : c.spec.tls.enabled = false := disabled
    refine ⟨"", ?_, fun enabled => absurd enabled (ne_true_of_eq_false disabled)⟩
    rw [same, TlsDescriptor.mode, TlsMode.resolve,
      show (c.descriptor «namespace»).enabled = false from disabled]
    rfl
  · exact ⟨_, result change rfl, fun _ => ⟨certificate, key, rfl, provided, keeps⟩⟩

section

variable (keptDocument : KeptUnder «namespace» c.configSecretName
    (s.objects.find? (c.documentSecret «namespace»)))
  (keptMaterial : KeptUnder «namespace» c.operatorSecretName
    (s.objects.find? (c.materialSecret «namespace»)))

include keptDocument keptMaterial

/-- A change that is not worked out leaves the document as it was. -/
theorem Prepared.of_failed {o' : Outcome Failure Change} {o : Outcome Failure Document}
    (kept : Material.Kept (·.kind = Secret.objectType.kind) (c.descriptor «namespace») s es o' s')
    (writes : ∀ e ∈ es, e.Writes → c.Reporting «namespace» e.request ∨
      Server.key e.request = c.materialSecret «namespace»)
    (fails : ∀ d, o ≠ .done d) : c.Prepared «namespace» s es o s' where
  writes e mem wrote := (writes e mem wrote).imp_right .inr
  written e mem wrote about :=
    absurd ⟨e, mem, wrote, about⟩ (kept.1 _ rfl documentSecret_ne).unwritten
  keptDocument := by
    have same : s'.objects.find? (c.documentSecret «namespace») = _ :=
      (kept.1 _ rfl documentSecret_ne).same
    exact same.symm ▸ keptDocument
  keptMaterial := keptMaterial_of_kept keptMaterial kept
  result d done := absurd done (fails d)

/-- What a push that does not write leaves is what has been prepared before it. -/
theorem Prepared.of_idle {change : Change} {o : Outcome Failure Document}
    (kept : Material.Kept (·.kind = Secret.objectType.kind) (c.descriptor «namespace») s es
      (.done change) s₁)
    (writes : ∀ e ∈ es, e.Writes → c.Reporting «namespace» e.request ∨
      Server.key e.request = c.materialSecret «namespace»)
    (quiet : ∀ e ∈ es', ¬ e.Writes)
    (result : ∀ d, o = .done d → UpToDate c «namespace» change.apply
      (s₁.objects.find? (c.documentSecret «namespace»)) d) :
    c.Prepared «namespace» s (es ++ es') o s₁ where
  writes := List.forall_mem_append.2
    ⟨fun e mem wrote => (writes e mem wrote).imp_right .inr,
      fun e mem wrote => absurd wrote (quiet e mem)⟩
  written := List.forall_mem_append.2
    ⟨fun e mem wrote about =>
      absurd ⟨e, mem, wrote, about⟩ (kept.1 _ rfl documentSecret_ne).unwritten,
      fun e mem wrote => absurd wrote (quiet e mem)⟩
  keptDocument := by
    have same : s₁.objects.find? (c.documentSecret «namespace») = _ :=
      (kept.1 _ rfl documentSecret_ne).same
    exact same.symm ▸ keptDocument
  keptMaterial := keptMaterial_of_kept keptMaterial kept
  result d done := by
    obtain ⟨file, rfl, named⟩ := change_of_kept kept
    exact ⟨file, result d done, named⟩

/-- The change of the document is worked out, and the document is pushed. -/
theorem Prepared.of_pushing {change : Change} {o : Outcome Failure Document}
    (kept : Material.Kept (·.kind = Secret.objectType.kind) (c.descriptor «namespace») s es
      (.done change) s₁)
    (writes : ∀ e ∈ es, e.Writes → c.Reporting «namespace» e.request ∨
      Server.key e.request = c.materialSecret «namespace»)
    (pushing : Pushing c «namespace» change.apply s₁ es' o s') :
    c.Prepared «namespace» s (es ++ es') o s' := by
  -- a read writes nothing
  have quiet {r : Exchange} (reads : r.request = Configuration.reading «namespace»
      c.configSecretName) : ¬ r.Writes := fun wrote => wrote.1 (by rw [reads]; rfl)
  -- one case for each end of a push; only in the last one a document is written
  cases pushing with
  | stopped reads fails =>
    exact .of_idle keptDocument keptMaterial kept writes
      (List.forall_mem_singleton.2 (quiet reads)) fun d done => absurd done (fails d)
  | kept reads isHeld same build =>
    refine .of_idle keptDocument keptMaterial kept writes
      (List.forall_mem_singleton.2 (quiet reads)) ?_
    rintro d ⟨⟩
    exact Configuration.upToDate_of_same isHeld same build
  | refused reads about failure fails =>
    refine .of_idle keptDocument keptMaterial kept writes
      (List.forall_mem_cons.2 ⟨quiet reads, List.forall_mem_singleton.2 fun wrote => ?_⟩)
      fun d done => absurd done (fails d)
    exact absurd failure (ne_true_of_eq_false wrote.2)
  | @wrote r w _ previous d existing reads wrote about build now legible others result =>
    have unwritten := (kept.1 _ rfl documentSecret_ne).unwritten
    have material₁ := keptMaterial_of_kept keptMaterial kept
    obtain ⟨file, rfl, named⟩ := change_of_kept kept
    have first {e : Exchange} (mem : e ∈ es) (wrote : e.Writes) :
        c.Preparing «namespace» e.request := (writes e mem wrote).imp_right .inr
    -- the write is the last request, so that the document is there at the end as it was written
    have isHeld : held (w.after.objects.find? (c.documentSecret «namespace»)) = .ok (some d) := by
      rw [now] at legible ⊢
      exact Configuration.held_of_legible (Configuration.uniform_of_build build) legible
    -- the operator's secret is another one, and keeps what the first part has put there
    have material' : w.after.objects.find? (c.materialSecret «namespace») =
        s₁.objects.find? (c.materialSecret «namespace») := others _ (Ne.symm documentSecret_ne)
    refine ⟨?_, ?_, legible.kept, material'.symm ▸ material₁,
      fun e done => ⟨file, ?_, fun enabled => ?_⟩⟩
    · refine List.forall_mem_append.2 ⟨fun e => first, List.forall_mem_cons.2
        ⟨fun wrote => absurd wrote (quiet reads), List.forall_mem_singleton.2 fun _ => ?_⟩⟩
      exact .inr (.inl about)
    · refine List.forall_mem_append.2
        ⟨fun e mem wrote about => absurd ⟨e, mem, wrote, about⟩ unwritten, List.forall_mem_cons.2
          ⟨fun wrote => absurd wrote (quiet reads), List.forall_mem_singleton.2 fun _ _ => ?_⟩⟩
      exact ⟨file, previous, d, build, isHeld, rfl⟩
    · obtain rfl := result e done
      have definite := (Configuration.uniform_of_build build).isDefinite
      exact ⟨e, isHeld, Document.same_refl definite, Configuration.build_again definite build⟩
    · obtain ⟨certificate, key, isName, provided, keeps⟩ := named enabled
      exact ⟨certificate, key, isName, provided, material'.symm ▸ keeps⟩

/-- Whatever is refused, what happens before the workload is as it is to be. -/
theorem prepared_ensures (h : c.Addressed «namespace») :
    (c.prepared «namespace»).Ensures Exchange.Answered s (c.Prepared «namespace» s) := by
  have announcing : c.announced.Demands (c.Reporting «namespace») :=
    (announced_demands h).mono fun _ => Stating.reporting
  -- what is announced leaves all but the cluster and events alone
  have announced : c.announced.Ensures Exchange.Answered s fun es _ s' =>
      (∀ e ∈ es, e.Writes → c.Reporting «namespace» e.request) ∧
        ∀ k : ObjectKey, k.kind ≠ Cluster.type.kind → k.kind ≠ Event.type.kind →
          s'.objects.find? k = s.objects.find? k := by
    intro es o s' run
    refine ⟨fun e mem _ => (run.mem announcing e mem).2, fun k cluster event => ?_⟩
    exact (announcing.untouched (fun r reports => reports.spares cluster event) s es o s' run).same
  -- a run that fails while it announces has written nothing but reports
  have failed {es : List Exchange} {s' : Server} {o : Outcome Failure Document}
      (reports : ∀ e ∈ es, e.Writes → c.Reporting «namespace» e.request)
      (same : ∀ k : ObjectKey, k.kind ≠ Cluster.type.kind → k.kind ≠ Event.type.kind →
        s'.objects.find? k = s.objects.find? k)
      (fails : ∀ d, o ≠ .done d) : c.Prepared «namespace» s es o s' := by
    refine ⟨fun e mem wrote => .inl (reports e mem wrote), fun e mem wrote about => ?_, ?_, ?_,
      fun d done => absurd done (fails d)⟩
    · rcases (reports e mem wrote).leaves (k := c.documentSecret «namespace») rfl with reads | apart
      · exact absurd reads wrote.1
      · exact absurd about apart
    · have unchanged := same (c.documentSecret «namespace») secretKind.1 secretKind.2
      exact unchanged.symm ▸ keptDocument
    · have unchanged := same (c.materialSecret «namespace») secretKind.1 secretKind.2
      exact unchanged.symm ▸ keptMaterial
  -- the announcement first, then the change, then the push, each from where the last one ended
  refine .bind announced ?_ ?_ ?_
  · rintro es _ s₁ ⟨reports, same⟩
    refine Program.Ensures.mono (?_ : Program.Ensures _ _ s₁ (c.Prepared «namespace» s₁))
      fun es' o s' rest => rest.after h reports same
    have document₁ : KeptUnder «namespace» c.configSecretName
        (s₁.objects.find? (c.documentSecret «namespace»)) :=
      (same (c.documentSecret «namespace») secretKind.1 secretKind.2).symm ▸ keptDocument
    have material₁ : KeptUnder «namespace» c.operatorSecretName
        (s₁.objects.find? (c.materialSecret «namespace»)) :=
      (same (c.materialSecret «namespace») secretKind.1 secretKind.2).symm ▸ keptMaterial
    refine .bind (tlsChange_ensures h material₁) ?_ ?_ ?_
    · rintro es₁ change s₂ ⟨kept, writes⟩
      have document₂ : KeptUnder «namespace» c.configSecretName
          (s₂.objects.find? (c.documentSecret «namespace»)) := by
        have unchanged : s₂.objects.find? (c.documentSecret «namespace») = _ :=
          (kept.1 _ rfl documentSecret_ne).same
        exact unchanged.symm ▸ document₁
      exact (Configuration.push_pushing (m := change.apply) h.inNamespace h.document document₂).mono
        fun es₂ o s' pushing => .of_pushing document₁ material₁ kept writes pushing
    · exact fun es₁ e s' ⟨kept, writes⟩ =>
        .of_failed document₁ material₁ kept writes fun d => by rintro ⟨⟩
    · exact fun es₁ s' ⟨kept, writes⟩ =>
        .of_failed document₁ material₁ kept writes fun d => by rintro ⟨⟩
  · exact fun es e s' ⟨reports, same⟩ => failed reports same fun d => by rintro ⟨⟩
  · exact fun es s' ⟨reports, same⟩ => failed reports same fun d => by rintro ⟨⟩

end

end Cluster

end ReplicaSetOperator
