import ReplicaSetOperator.Proofs.Operator.Convergence
import ReplicaSetOperator.Proofs.Operator.Marker

/-!
# Histories of a cluster

In the course of time a user edits a cluster, the members follow what has been applied, and the
operator reconciles the cluster as it is stored, where any request may be refused
(`Cluster.History`). What every reconciliation relies on stays true (`Cluster.History.tended`). A
document that is stored has been written by one of them (`Cluster.History.wrote`), and one that
enforces TLS by one that found the marker set (`Cluster.Reconciled.enforcing`).

The marker is what reconciliations tell each other by. `Cluster.History.of_marks` is the induction
that this calls for: what a marked rollout is to stand for has to hold when a reconciliation sets
the marker, and to be kept by everything that keeps the marker. Nothing need be said of the
reconciliations that clear it.
-/

namespace ReplicaSetOperator

open ReplicaSetOperator.Configuration (held KeptUnder UpToDate)

/-- A reconciliation that has been done: of which cluster, from which server on, by which requests,
and what came of it. -/
structure Reconciliation where
  cluster : Cluster
  images : Images
  before : Server
  exchanges : List Exchange
  outcome : Outcome Failure Action
  after : Server

/-- Some process of a document uses TLS. -/
def Document.Enforces (d : Document) : Prop := ∃ p ∈ d.processes, p.tls.mode ≠ .disabled

namespace Cluster

variable {c x : Cluster} {«namespace» : String} {s₀ s s' : Server} {past : List Reconciliation}
  {r : Reconciliation}

/-- The keys of what belongs to a cluster and is written by the operator only. -/
def ownedKeys (c : Cluster) («namespace» : String) : List ObjectKey :=
  [c.documentSecret «namespace», c.materialSecret «namespace», c.serviceKey «namespace»,
   c.statefulSetKey «namespace»]

/-- The cluster itself is not among them. -/
theorem ownKey_ne_of_owned {k : ObjectKey} (mem : k ∈ c.ownedKeys «namespace») :
    c.ownKey «namespace» ≠ k := by
  simp only [ownedKeys, List.mem_cons, List.not_mem_nil, or_false] at mem
  rcases mem with rfl | rfl | rfl | rfl
  · exact ownKey_ne_secret _
  · exact ownKey_ne_secret _
  · exact ownKey_ne_serviceKey
  · exact ownKey_ne_statefulSetKey

/-- A server with a new cluster: the rollout is not marked, and nothing belongs to it yet. -/
structure Fresh (c : Cluster) («namespace» : String) (s : Server) : Prop where
  unmarked : s.Marks (c.ownKey «namespace») false
  absent : ∀ k ∈ c.ownedKeys «namespace», s.objects.find? k = none

/-- A user has changed what the cluster asks for, or any objects of their own. The marker is left
to the operator, and so is what belongs to the cluster. -/
structure Edited (c : Cluster) («namespace» : String) (s s' : Server) : Prop where
  cluster : ∀ complete, s.Marks (c.ownKey «namespace») complete →
    s'.Marks (c.ownKey «namespace») complete
  owned : ∀ k ∈ c.ownedKeys «namespace», s'.objects.find? k = s.objects.find? k

/-- The members have gone on: the stateful set says something else of them, but is to be what it
was. -/
structure Followed (c : Cluster) («namespace» : String) (s s' : Server) : Prop where
  statefulSet : Option.Rel (fun j j' => j'.get? "spec" = j.get? "spec")
    (s.objects.find? (c.statefulSetKey «namespace»))
    (s'.objects.find? (c.statefulSetKey «namespace»))
  others : ∀ k, k ≠ c.statefulSetKey «namespace» → s'.objects.find? k = s.objects.find? k

/-- The cluster has been reconciled as it was stored. -/
structure Reconciled (c : Cluster) («namespace» : String) (r : Reconciliation) : Prop where
  stored : ∃ object, r.before.objects.find? (c.ownKey «namespace») = some object ∧
    format.read object = r.cluster
  runs : (r.cluster.reconcile r.images).Runs Exchange.Tracked r.before r.exchanges r.outcome r.after

/-- What becomes of a server in the course of time, with the reconciliations up to then. -/
inductive History (c : Cluster) («namespace» : String) (s₀ : Server) :
    List Reconciliation → Server → Prop
  | start : History c «namespace» s₀ [] s₀
  | edit {past : List Reconciliation} {s s' : Server} (before : History c «namespace» s₀ past s)
    (edited : c.Edited «namespace» s s') : History c «namespace» s₀ past s'
  | follow {past : List Reconciliation} {s s' : Server} (before : History c «namespace» s₀ past s)
    (followed : c.Followed «namespace» s s') : History c «namespace» s₀ past s'
  | reconcile {past : List Reconciliation} {r : Reconciliation}
    (before : History c «namespace» s₀ past r.before) (reconciled : c.Reconciled «namespace» r) :
    History c «namespace» s₀ (past ++ [r]) r.after

/-- The cluster that is read has the names of its key, and says what is marked. -/
theorem Reconciled.named (h : c.Reconciled «namespace» r) {complete : Bool}
    (marks : r.before.Marks (c.ownKey «namespace») complete) :
    r.cluster.name = c.name ∧ r.cluster.metadata.namespace = some «namespace» ∧
      r.cluster.tlsRolledOut = complete := by
  obtain ⟨object, there, read⟩ := h.stored
  obtain ⟨ms, there', marked⟩ := marks
  obtain rfl := Option.some.inj (there.symm.trans there')
  rw [← read]
  refine ⟨?_, marked.inNamespace, marked.marked⟩
  rw [name, marked.named]
  rfl

/-! ### What stays true -/

/-- What a reconciliation relies on: the cluster is there, and so are the two secrets under their
names, as far as they are. -/
structure Tended (c : Cluster) («namespace» : String) (s : Server) : Prop where
  marks : ∃ complete, s.Marks (c.ownKey «namespace») complete
  keptDocument : KeptUnder «namespace» c.configSecretName
    (s.objects.find? (c.documentSecret «namespace»))
  keptMaterial : KeptUnder «namespace» c.operatorSecretName
    (s.objects.find? (c.materialSecret «namespace»))

/-- Where nothing belongs to the cluster yet, there is no secret under another name. -/
theorem tended_of_absent {complete : Bool} (marks : s.Marks (c.ownKey «namespace») complete)
    (absent : ∀ k ∈ c.ownedKeys «namespace», s.objects.find? k = none) :
    c.Tended «namespace» s where
  marks := ⟨complete, marks⟩
  keptDocument j mem := by
    rw [absent (c.documentSecret «namespace») (by simp [ownedKeys])] at mem
    cases mem
  keptMaterial j mem := by
    rw [absent (c.materialSecret «namespace») (by simp [ownedKeys])] at mem
    cases mem

/-- Whatever happens to the cluster, its secrets are as before if they are left alone. -/
theorem Tended.of_owned (h : c.Tended «namespace» s) {complete : Bool}
    (marks : s'.Marks (c.ownKey «namespace») complete)
    (owned : ∀ k ∈ c.ownedKeys «namespace», s'.objects.find? k = s.objects.find? k) :
    c.Tended «namespace» s' where
  marks := ⟨complete, marks⟩
  keptDocument := by
    rw [owned (c.documentSecret «namespace») (by simp [ownedKeys])]
    exact h.keptDocument
  keptMaterial := by
    rw [owned (c.materialSecret «namespace») (by simp [ownedKeys])]
    exact h.keptMaterial

/-- It is a matter of the name of the cluster. -/
theorem Tended.of_name (h : c.Tended «namespace» s) (same : x.name = c.name) :
    x.Tended «namespace» s where
  marks := by
    rw [ownKey_of_name same]
    exact h.marks
  keptDocument := by
    rw [configSecretName, documentSecret_of_name same, same]
    exact h.keptDocument
  keptMaterial := by
    rw [operatorSecretName, materialSecret_of_name same, same]
    exact h.keptMaterial

/-- At the beginning the objects are tended. -/
theorem Fresh.tended (h : c.Fresh «namespace» s) : c.Tended «namespace» s :=
  tended_of_absent h.unmarked h.absent

/-- An edit of the cluster leaves them so. -/
theorem Edited.tended (h : c.Edited «namespace» s s') (tended : c.Tended «namespace» s) :
    c.Tended «namespace» s' := by
  obtain ⟨complete, marks⟩ := tended.marks
  exact tended.of_owned (h.cluster complete marks) h.owned

theorem Followed.tended (h : c.Followed «namespace» s s') (tended : c.Tended «namespace» s) :
    c.Tended «namespace» s' where
  marks := tended.marks.imp fun _ marks => marks.congr (h.others _ ownKey_ne_statefulSetKey)
  keptDocument := by
    rw [h.others _ (statefulSetKey_ne_secret _).symm]
    exact tended.keptDocument
  keptMaterial := by
    rw [h.others _ (statefulSetKey_ne_secret _).symm]
    exact tended.keptMaterial

section

variable (h : c.Reconciled «namespace» r) (addressed : c.Addressed «namespace»)
  (tended : c.Tended «namespace» r.before)

include h addressed tended

/-- Every reconciliation takes a course. -/
theorem Reconciled.course :
    r.cluster.Course «namespace» r.images r.before r.exchanges r.outcome r.after := by
  obtain ⟨complete, marks⟩ := tended.marks
  obtain ⟨same, inNamespace, -⟩ := h.named marks
  have tended := tended.of_name same
  exact reconcile_course (addressed.of_name same inNamespace) tended.keptDocument
    tended.keptMaterial _ _ _ h.runs

/-- So it turns the marker in one of the known ways. -/
theorem Reconciled.turn {complete : Bool}
    (marks : r.before.Marks (c.ownKey «namespace») complete) :
    r.cluster.Turn «namespace» r.images r.exchanges r.outcome r.after := by
  obtain ⟨same, -, marked⟩ := h.named marks
  refine (h.course addressed tended).turn h.runs.met ?_
  rw [ownKey_of_name same, marked]
  exact marks

/-- What is written of the two secrets is written in the preparation. -/
theorem Reconciled.prepared : ∃ es₁ o₁ s₁ es₂, r.exchanges = es₁ ++ es₂ ∧
    r.cluster.Prepared «namespace» r.before es₁ o₁ s₁ ∧ (es₂ ≠ [] → ∃ d, o₁ = .done d) ∧
    (∀ e ∈ r.exchanges, e.Writes → Server.key e.request = c.documentSecret «namespace» →
      e ∈ es₁) ∧
    ∀ k : ObjectKey, k.kind = Secret.objectType.kind → Untouched k s₁ es₂ r.after := by
  obtain ⟨es₁, o₁, s₁, es₂, whole, first, later, untouched⟩ :=
    (h.course addressed tended).prepared h.runs.met
  refine ⟨es₁, o₁, s₁, es₂, whole, first, later, fun e mem wrote about => ?_, untouched⟩
  rw [whole] at mem
  refine (List.mem_append.1 mem).resolve_right fun late => ?_
  exact (untouched _ rfl).unwritten ⟨e, late, wrote, about⟩

/-- It leaves the objects tended. -/
theorem Reconciled.tended_after : c.Tended «namespace» r.after := by
  obtain ⟨complete, marks⟩ := tended.marks
  obtain ⟨same, -, -⟩ := h.named marks
  obtain ⟨keptDocument, keptMaterial⟩ := (h.course addressed tended).kept h.runs.met
  -- what is said of the cluster that has been read is said of the other one of its name
  refine Tended.of_name (c := r.cluster) ⟨?_, keptDocument, keptMaterial⟩ same.symm
  cases h.turn addressed tended marks with
  | kept marks unfinished => exact ⟨_, marks⟩
  | set enabled unmarked observed marks => exact ⟨_, marks⟩
  | cleared disabled marks => exact ⟨_, marks⟩

/-- A reconciliation that has written the stateful set leaves the document up to date. -/
theorem Reconciled.upToDate {e : Exchange} (mem : e ∈ r.exchanges) (wrote : e.Writes)
    (about : Server.key e.request = r.cluster.statefulSetKey «namespace») :
    ∃ file d, UpToDate r.cluster «namespace»
      (Change.apply (.tls (r.cluster.descriptor «namespace»).mode file))
      (r.after.objects.find? (c.documentSecret «namespace»)) d := by
  obtain ⟨complete, marks⟩ := tended.marks
  obtain ⟨same, -, -⟩ := h.named marks
  obtain ⟨es₁, o₁, s₁, es₂, whole, first, later, -, untouched⟩ := h.prepared addressed tended
  -- the preparation does not write it, so that it has come to its end before
  have late : e ∈ es₂ := by
    rw [whole] at mem
    refine (List.mem_append.1 mem).resolve_left fun early => ?_
    exact (first.writes e early wrote).ne wrote.1 about
  obtain ⟨d, rfl⟩ := later (List.ne_nil_of_mem late)
  obtain ⟨file, upToDate, -⟩ := first.result d rfl
  rw [← documentSecret_of_name same, (untouched _ rfl).same]
  exact ⟨file, d, upToDate⟩

/-- A document that a reconciliation has written is for the mode that the cluster asks for, and
stays. -/
theorem Reconciled.written {e : Exchange} (mem : e ∈ r.exchanges) (wrote : e.Writes)
    (about : Server.key e.request = c.documentSecret «namespace») :
    ∃ file previous d,
      (Configuration.tlsBuilder r.cluster «namespace» previous
        (r.cluster.descriptor «namespace»).mode file).build = .ok d ∧
      held (e.after.objects.find? (c.documentSecret «namespace»)) = .ok (some d) ∧
      r.after.objects.find? (c.documentSecret «namespace») =
        e.after.objects.find? (c.documentSecret «namespace») := by
  obtain ⟨complete, marks⟩ := tended.marks
  obtain ⟨same, -, -⟩ := h.named marks
  obtain ⟨es₁, o₁, s₁, es₂, -, first, -, early, untouched⟩ := h.prepared addressed tended
  have early := early e mem wrote about
  rw [← documentSecret_of_name same] at about ⊢
  obtain ⟨file, previous, d, build, isHeld, stays⟩ := first.written e early wrote about
  exact ⟨file, previous, d, build, isHeld, (untouched _ rfl).same.trans stays⟩

/-- A stateful set that a reconciliation has written is to be what the cluster asks for. -/
theorem Reconciled.applied (wrote : Written (c.statefulSetKey «namespace») r.exchanges) :
    ∃ j, r.after.objects.find? (c.statefulSetKey «namespace») = some j ∧
      j.get? "spec" = (r.cluster.sentStatefulSet «namespace» r.images).get? "spec" := by
  obtain ⟨complete, marks⟩ := tended.marks
  obtain ⟨same, -, -⟩ := h.named marks
  rw [← statefulSetKey_of_name same] at wrote ⊢
  -- every write of the stateful set is the request that applies it
  refine h.runs.links.of_written (fun object => ∃ j, object = some j ∧
    j.get? "spec" = (r.cluster.sentStatefulSet «namespace» r.images).get? "spec")
    (fun e mem => (h.runs.met e mem).sparing) (fun e mem isWrite about => ?_) wrote
  obtain ⟨-, -, -, -, -, -, isRequest, -⟩ :=
    (h.course addressed tended).applying h.runs.met mem isWrite about
  obtain ⟨status, now, -⟩ := (h.runs.met e mem).applied isRequest isWrite.2
  exact ⟨_, now, Json.get?_applied (by decide)⟩

end

/-- The invariant holds at all times. -/
theorem History.tended (h : c.History «namespace» s₀ past s) (addressed : c.Addressed «namespace»)
    (fresh : c.Fresh «namespace» s₀) : c.Tended «namespace» s := by
  induction h with
  | start => exact fresh.tended
  | edit before edited ih => exact edited.tended ih
  | follow before followed ih => exact followed.tended ih
  | reconcile before reconciled ih => exact reconciled.tended_after addressed ih

/-- What a marked rollout stands for: it is so when a reconciliation sets the marker, and stays so
as long as the marker is kept. -/
theorem History.of_marks {P : List Reconciliation → Server → Prop}
    (h : c.History «namespace» s₀ past s) (addressed : c.Addressed «namespace»)
    (fresh : c.Fresh «namespace» s₀)
    (edit : ∀ past s s', c.Edited «namespace» s s' → P past s → P past s')
    (follow : ∀ past s s', c.Followed «namespace» s s' → P past s → P past s')
    (kept : ∀ past r, c.Tended «namespace» r.before → c.Reconciled «namespace» r →
      r.after.Marks (c.ownKey «namespace») true →
      (r.cluster.spec.tls.enabled = false → ∀ action, r.outcome ≠ .done action) →
      P past r.before → P (past ++ [r]) r.after)
    (set : ∀ past r, c.Tended «namespace» r.before → c.Reconciled «namespace» r →
      r.cluster.spec.tls.enabled = true → r.cluster.tlsRolledOut = false →
      (∃ e ∈ r.exchanges, ∃ a, e.request = r.cluster.applyingStatefulSet «namespace» r.images ∧
        e.response.decode StatefulSet.resource = .ok a ∧
        a.rolledOut r.cluster.spec.members = true ∧ a.carriesTls = true) →
      r.after.Marks (c.ownKey «namespace») true → P (past ++ [r]) r.after)
    (marks : s.Marks (c.ownKey «namespace») true) : P past s := by
  -- by induction on the history: it is only the operator who sets the marker
  induction h with
  | start => cases marks.unique fresh.unmarked
  | edit before edited ih =>
    obtain ⟨complete, earlier⟩ := (before.tended addressed fresh).marks
    obtain rfl := marks.unique (edited.cluster complete earlier)
    exact edit _ _ _ edited (ih earlier)
  | follow before followed ih =>
    exact follow _ _ _ followed (ih (marks.congr (followed.others _ ownKey_ne_statefulSetKey).symm))
  | reconcile before reconciled ih =>
    have tended := before.tended addressed fresh
    obtain ⟨complete, earlier⟩ := tended.marks
    obtain ⟨same, -, marked⟩ := reconciled.named earlier
    cases reconciled.turn addressed tended earlier with
    | kept now unfinished =>
      -- the marker was there before
      rw [ownKey_of_name same] at now
      have isMarked := now.unique marks
      obtain rfl := marked.symm.trans isMarked
      exact kept _ _ tended reconciled marks (fun disabled => unfinished disabled isMarked)
        (ih earlier)
    | set enabled unmarked observed now =>
      exact set _ _ tended reconciled enabled unmarked observed marks
    | cleared disabled now =>
      rw [ownKey_of_name same] at now
      cases now.unique marks

/-! ### Documents that enforce TLS -/

/-- A document enforces TLS only if that is wanted and the rollout is marked. -/
theorem of_enforces {previous : Option Document} {file : String} {d : Document}
    (build : (Configuration.tlsBuilder c «namespace» previous
      (c.descriptor «namespace»).mode file).build = .ok d) (enforces : d.Enforces) :
    c.spec.tls.enabled = true ∧ c.tlsRolledOut = true := by
  obtain ⟨p, mem, apart⟩ := enforces
  -- all processes of a document that has been built have the mode of the cluster
  rw [Configuration.settings_of_build build p mem, TlsSettings.mode_running, mode_descriptor]
    at apart
  revert apart
  cases c.spec.tls.enabled <;> cases c.tlsRolledOut <;> simp [TlsMode.resolve]

/-- A document for members without TLS does not enforce it. -/
theorem not_enforces_of_upToDate {file : String} {object : Option Json} {d : Document}
    (h : UpToDate c «namespace» (Change.apply (.tls .disabled file)) object d) :
    ∃ e, held object = .ok (some e) ∧ ¬ e.Enforces := by
  obtain ⟨e, isHeld, -, modes⟩ := h.modes
  exact ⟨e, isHeld, fun ⟨p, mem, apart⟩ => apart (modes p mem)⟩

/-- A document for members with TLS enforces it, if there are members. -/
theorem enforces_of_upToDate {mode : TlsMode} {file : String} {object : Option Json} {d : Document}
    (h : UpToDate c «namespace» (Change.apply (.tls mode file)) object d) (apart : mode ≠ .disabled)
    (members : 0 < c.spec.members.toInt) : ∃ e, held object = .ok (some e) ∧ e.Enforces := by
  obtain ⟨e, isHeld, same, build⟩ := h
  have processes := Document.processes_of_same same
  have length := Configuration.length_processes_of_build build
  rw [← processes] at length
  obtain ⟨p, mem⟩ : ∃ p, p ∈ e.processes := List.exists_mem_of_length_pos (by omega)
  refine ⟨e, isHeld, p, mem, ?_⟩
  rw [Configuration.settings_of_build build p (processes ▸ mem), TlsSettings.mode_running]
  exact apart

/-- A reconciliation has written a document. -/
def Writes (c : Cluster) («namespace» : String) (r : Reconciliation) (d : Document) : Prop :=
  ∃ e ∈ r.exchanges, e.Writes ∧ Server.key e.request = c.documentSecret «namespace» ∧
    held (e.after.objects.find? (c.documentSecret «namespace»)) = .ok (some d)

/-- A reconciliation that writes a document with TLS has found TLS enabled and the marker set. -/
theorem Reconciled.enforcing (h : c.Reconciled «namespace» r) (addressed : c.Addressed «namespace»)
    (tended : c.Tended «namespace» r.before) {d : Document} (wrote : c.Writes «namespace» r d)
    (enforces : d.Enforces) :
    r.cluster.spec.tls.enabled = true ∧ r.before.Marks (c.ownKey «namespace») true := by
  obtain ⟨e, mem, isWrite, about, isHeld⟩ := wrote
  obtain ⟨file, previous, d', build, isHeld', -⟩ :=
    h.written addressed tended mem isWrite about
  obtain rfl := Option.some.inj (Except.ok.inj (isHeld.symm.trans isHeld'))
  obtain ⟨enabled, marked⟩ := of_enforces build enforces
  obtain ⟨complete, marks⟩ := tended.marks
  obtain ⟨-, -, same⟩ := h.named marks
  rw [marked] at same
  exact ⟨enabled, same ▸ marks⟩

/-- A document that is stored has been written at some time. -/
theorem History.wrote (h : c.History «namespace» s₀ past s) (addressed : c.Addressed «namespace»)
    (fresh : c.Fresh «namespace» s₀) {d : Document}
    (isHeld : held (s.objects.find? (c.documentSecret «namespace»)) = .ok (some d)) :
    ∃ early w late, past = early ++ w :: late ∧ c.History «namespace» s₀ early w.before ∧
      c.Reconciled «namespace» w ∧ c.Writes «namespace» w d := by
  have owned : c.documentSecret «namespace» ∈ c.ownedKeys «namespace» := by simp [ownedKeys]
  induction h with
  | start =>
    -- at the beginning no document is stored
    rw [fresh.absent _ owned] at isHeld
    cases isHeld
  | edit before edited ih =>
    rw [edited.owned _ owned] at isHeld
    exact ih isHeld
  | follow before followed ih =>
    rw [followed.others _ (statefulSetKey_ne_secret _).symm] at isHeld
    exact ih isHeld
  | @reconcile past r before reconciled ih =>
    by_cases wrote : Written (c.documentSecret «namespace») r.exchanges
    · -- it is the only document that this reconciliation has written
      obtain ⟨e, mem, isWrite, about⟩ := wrote
      obtain ⟨-, -, -, -, -, stays⟩ :=
        reconciled.written addressed (before.tended addressed fresh) mem isWrite about
      rw [stays] at isHeld
      exact ⟨past, r, [], rfl, before, reconciled, e, mem, isWrite, about, isHeld⟩
    · -- it has been there before
      have same := reconciled.runs.links.untouched
        (fun e mem => (reconciled.runs.met e mem).sparing) wrote
      rw [same.same] at isHeld
      obtain ⟨early, w, late, rfl, rest⟩ := ih isHeld
      exact ⟨early, w, late ++ [r], by simp, rest⟩

/-! ### A cluster that is new -/

/-- The example begins with a fresh server. -/
theorem fresh_joining : joining.Fresh "prod" joiningServer where
  unmarked := ⟨_, rfl, rfl, rfl, rfl⟩
  absent := by decide

/-- Two reconciliations bring a new cluster to a document that enforces TLS. -/
theorem exists_enforced_joining : ∃ past s d, joining.History "prod" joiningServer past s ∧
    held (s.objects.find? (joining.documentSecret "prod")) = .ok (some d) ∧ d.Enforces := by
  have settles (e : Exchange) (met : e.Settles 3) : e.Settles joining.spec.members := met
  obtain ⟨es₁, action₁, s₁, object, y, -, run₁, there, read, shows, plain, marked, ready, -⟩ :=
    exists_staged_joining 1 (by omega)
  have first : joining.History "prod" joiningServer [_] s₁ :=
    History.start.reconcile (r := ⟨joining, {}, joiningServer, es₁, .done action₁, s₁⟩)
      ⟨⟨joiningObject, rfl, rfl⟩, run₁.mono fun e => Exchange.Settles.tracked⟩
  -- the cluster as it is stored now
  have spec : y.spec = joining.spec := spec_of_plain plain
  -- the second reconciliation finds the marker, so that its document is for members with TLS
  have same := name_of_plain plain
  obtain ⟨es₂, action₂, s₂, run₂, -, -, d, -, -, -, -, upToDate, -⟩ :=
    (reconcile_delivers (addressed_joining.congr plain) (spec ▸ settles) (Nat.zero_le _)
      ((ownKey_of_name same).symm ▸ shows) (ready.congr plain)).exists_run
        (Exchange.exists_settles 3)
  have second := first.reconcile (r := ⟨y, {}, s₁, es₂, .done action₂, s₂⟩)
    ⟨⟨object, there, read⟩, run₂.mono fun e => Exchange.Settles.tracked⟩
  rw [documentSecret_of_name same] at upToDate
  obtain ⟨e, isHeld, enforces⟩ := enforces_of_upToDate upToDate
    (by rw [mode_descriptor, spec, marked]; decide) (by rw [spec]; decide)
  exact ⟨_, s₂, e, second, isHeld, enforces⟩

end Cluster

end ReplicaSetOperator
