import ReplicaSetOperator.Proofs.Operator.Courses
import ReplicaSetOperator.Proofs.Operator.Restating

/-!
# The marker of the rollout

A cluster that is stored says whether the rollout of the TLS material is complete
(`Server.Marks`). Of all requests of a reconciliation only the one that sets or clears the marker
changes that (`Cluster.Course.turn`).

The marker is an annotation among others, so that what is followed here is the object as it is
stored, and not the cluster that is read from it: a merge of a status or of the marker leaves the
names and the other annotations alone, even if the object has parts that a cluster does not know.
-/

namespace ReplicaSetOperator

open ReplicaSetOperator.Configuration (held)

namespace Cluster

/-! ### What a stored cluster says -/

/-- The metadata of a cluster that is stored as an object. -/
theorem metadata_read (ms : Json.Members) :
    (format.read (.object ms)).metadata =
      (((Json.object ms).get? "metadata").map ObjectMeta.format.read).getD {} := rfl

section

variable {α : Type} (f : Format α) (get : ObjectMeta → Option α) {name : String}
  (isMember : ∀ m, get (ObjectMeta.format.read m) = f.present? name m) (isAbsent : get {} = none)

include isMember isAbsent

/-- What is not in the metadata is not read. -/
theorem metadata_absent {ms : Json.Members}
    (absent : (Json.object ms).at? ["metadata", name] = none) :
    get (format.read (.object ms)).metadata = none := by
  rw [Json.at?_pair] at absent
  rw [metadata_read]
  cases there : (Json.object ms).get? "metadata" with
  | none => exact isAbsent
  | some m =>
    rw [there] at absent
    exact (isMember m).trans (Format.present?_of_absent absent)

/-- What the metadata say under a name depends on the member of that name only. -/
theorem metadata_congr {ms ms' : Json.Members}
    (same : (Json.object ms').at? ["metadata", name] = (Json.object ms).at? ["metadata", name]) :
    get (format.read (.object ms')).metadata = get (format.read (.object ms)).metadata := by
  cases there : (Json.object ms).at? ["metadata", name] with
  | none =>
    -- there may be no metadata at all on one side and metadata without the name on the other
    rw [metadata_absent f get isMember isAbsent there,
      metadata_absent f get isMember isAbsent (same.trans there)]
  | some v =>
    rw [there, Json.at?_pair] at same
    rw [Json.at?_pair] at there
    obtain ⟨m, isMeta, value⟩ := Option.bind_eq_some_iff.1 there
    obtain ⟨m', isMeta', value'⟩ := Option.bind_eq_some_iff.1 same
    rw [metadata_read, metadata_read, isMeta, isMeta']
    calc get (ObjectMeta.format.read m')
        = f.present? name m' := isMember m'
      _ = f.present? name m := f.present?_congr (value'.trans value.symm)
      _ = get (ObjectMeta.format.read m) := (isMember m).symm

end

/-- An object is the cluster of a key, and says whether the rollout is complete. -/
structure Marked (own : ObjectKey) (complete : Bool) (ms : Json.Members) : Prop where
  inNamespace : (format.read (.object ms)).metadata.namespace = some own.namespace
  named : (format.read (.object ms)).metadata.name = some own.name
  marked : (format.read (.object ms)).tlsRolledOut = complete

/-- Only the metadata count for the marker, and not the version in them. -/
theorem Marked.congr {own : ObjectKey} {complete : Bool} {ms ms' : Json.Members}
    (h : Marked own complete ms)
    (same : ∀ name, name ≠ "resourceVersion" →
      (Json.object ms').at? ["metadata", name] = (Json.object ms).at? ["metadata", name]) :
    Marked own complete ms' where
  inNamespace := (metadata_congr Format.string (·.namespace) (fun _ => rfl) rfl
    (same "namespace" (by decide))).trans h.inNamespace
  named := (metadata_congr Format.string (·.name) (fun _ => rfl) rfl
    (same "name" (by decide))).trans h.named
  marked := by
    have annotations := metadata_congr Format.labels (·.annotations)
      (fun _ => rfl) rfl (same "annotations" (by decide))
    rw [← h.marked, tlsRolledOut, tlsRolledOut, annotations]

/-- Setting or clearing the marker makes the object say so. -/
theorem Marked.marking {own : ObjectKey} {before : Bool} {ms : Json.Members}
    (h : Marked own before ms) (complete : Bool) :
    ∃ ms', (Cluster.marking complete).merge (.object ms) = .object ms' ∧
      Marked own complete ms' := by
  obtain ⟨m, there⟩ : ∃ m, (Json.object ms).get? "metadata" = some m := by
    cases there : (Json.object ms).get? "metadata" with
    | some m => exact ⟨m, rfl⟩
    | none =>
      -- without metadata there would be no name
      have unnamed := h.named
      rw [metadata_read, there] at unnamed
      cases unnamed
  obtain ⟨marked, isMarked⟩ :
      ∃ j, markedAnnotations complete ((m.get? "annotations").getD .null) = j := ⟨_, rfl⟩
  have apart := markedAnnotations_ne_null complete ((m.get? "annotations").getD .null)
  have said := lookup_markedAnnotations complete ((m.get? "annotations").getD .null)
  rw [isMarked] at apart said
  -- the merge changes the annotations, and names are what they were
  refine ⟨Json.insertMember "metadata" (m.set "annotations" marked) ms, ?_, ?_⟩
  · rw [merge_marking there, isMarked]
    rfl
  · have metadata : (format.read (.object
        (Json.insertMember "metadata" (m.set "annotations" marked) ms))).metadata =
        { ObjectMeta.format.read m with annotations := some (Format.labels.read marked) } := by
      have set := Json.get?_set (.object ms) "metadata" "metadata" (m.set "annotations" marked)
      have set : (Json.object (Json.insertMember "metadata" (m.set "annotations" marked) ms)).get?
          "metadata" = some (m.set "annotations" marked) := set
      rw [metadata_read, set, ← ObjectMeta.read_set_annotations m apart]
      rfl
    have before : (format.read (.object ms)).metadata = ObjectMeta.format.read m := by
      rw [metadata_read, there]
      rfl
    refine ⟨?_, ?_, tlsRolledOut_of_lookup (by rw [metadata]) said⟩
    · rw [metadata, ← h.inNamespace, before]
    · rw [metadata, ← h.named, before]

end Cluster

namespace Server

/-- A server keeps the cluster of a key, and that says whether the rollout is complete. -/
def Marks (s : Server) (own : ObjectKey) (complete : Bool) : Prop :=
  ∃ ms, s.objects.find? own = some (.object ms) ∧ Cluster.Marked own complete ms

variable {s s' : Server} {own : ObjectKey} {complete complete' : Bool}

/-- A server says one thing about a marker. -/
theorem Marks.unique (h : s.Marks own complete) (h' : s.Marks own complete') :
    complete = complete' := by
  obtain ⟨ms, there, marked⟩ := h
  obtain ⟨ms', there', marked'⟩ := h'
  obtain rfl := Json.object.inj (Option.some.inj (there.symm.trans there'))
  exact marked.marked.symm.trans marked'.marked

theorem Marks.congr (h : s.Marks own complete)
    (same : s'.objects.find? own = s.objects.find? own) : s'.Marks own complete := by
  obtain ⟨ms, there, marked⟩ := h
  exact ⟨ms, same.trans there, marked⟩

/-- What restates a cluster leaves its marker. -/
theorem Marks.restated (h : s.Marks own complete)
    (restates : Option.Rel Json.Restated (s.objects.find? own) (s'.objects.find? own)) :
    s'.Marks own complete := by
  obtain ⟨ms, there, marked⟩ := h
  rw [there] at restates
  obtain ⟨j, isNow, restated⟩ := exists_of_rel restates
  obtain ⟨ms', rfl⟩ := restated.object ms rfl
  exact ⟨ms', isNow, marked.congr restated.metadata⟩

/-- A cluster that is shown says what its marker is. -/
theorem Shows.marks {x : Cluster} (h : s.Shows own x)
    (inNamespace : x.metadata.namespace = some own.namespace)
    (named : x.metadata.name = some own.name) : s.Marks own x.tlsRolledOut := by
  obtain ⟨object, there, whole, read⟩ := h
  obtain ⟨ms, rfl, -⟩ := whole.sorted
  refine ⟨ms, there, Eq.trans ?_ inNamespace, Eq.trans ?_ named, ?_⟩
  · exact (congrArg (·.metadata.namespace) read : _)
  · exact (congrArg (·.metadata.name) read : _)
  · exact (congrArg Cluster.tlsRolledOut read : _)

/-- A cluster that is shown has the names of its key, and says what is marked. -/
theorem Shows.of_marks {x : Cluster} (h : s.Shows own x) (marks : s.Marks own complete) :
    x.metadata.namespace = some own.namespace ∧ x.metadata.name = some own.name ∧
      x.tlsRolledOut = complete := by
  obtain ⟨object, there, -, same⟩ := h
  obtain ⟨ms, there', marked⟩ := marks
  obtain rfl := Option.some.inj (there.symm.trans there')
  refine ⟨Eq.trans ?_ marked.inNamespace, Eq.trans ?_ marked.named, Eq.trans ?_ marked.marked⟩
  · exact (congrArg (·.metadata.namespace) same.symm : _)
  · exact (congrArg (·.metadata.name) same.symm : _)
  · exact (congrArg Cluster.tlsRolledOut same.symm : _)

end Server

/-! ### What requests do to it -/

namespace Cluster

variable {c : Cluster} {«namespace» : String} {images : Images} {s s₁ s' : Server}
  {es : List Exchange} {e : Exchange} {complete complete' : Bool}

/-- What is no report changes nothing of a cluster that it is not about. -/
theorem restates_of_writes (h : e.Tracked)
    (leaves : e.Writes → c.Reporting «namespace» e.request ∨
      Server.key e.request ≠ c.ownKey «namespace») :
    Option.Rel Json.Restated (e.before.objects.find? (c.ownKey «namespace»))
      (e.after.objects.find? (c.ownKey «namespace»)) := by
  by_cases reports : c.Reporting «namespace» e.request
  · exact reports.restates (h.answered (.inl reports.plain))
  · refine Json.restates_of_eq (h.sparing _ fun wrote => ?_)
    exact (leaves wrote).resolve_left reports

/-- A run that only reports, or is about other objects, leaves the marker alone. -/
theorem marks_of_links (links : Links s es s') (tracked : ∀ e ∈ es, e.Tracked)
    (leaves : ∀ e ∈ es, e.Writes → c.Reporting «namespace» e.request ∨
      Server.key e.request ≠ c.ownKey «namespace»)
    (before : s.Marks (c.ownKey «namespace») complete) :
    s'.Marks (c.ownKey «namespace») complete := by
  refine links.preserves (·.Marks (c.ownKey «namespace») complete) ?_ before
  intro e mem marks
  exact marks.restated (restates_of_writes (tracked e mem) (leaves e mem))

/-- A request to set or clear the marker that is granted does that. -/
theorem marks_of_marking (h : e.Tracked)
    (isRequest : e.request = c.markingRequest «namespace» complete')
    (granted : e.response.isFailure = false)
    (before : e.before.Marks (c.ownKey «namespace») complete) :
    e.after.Marks (c.ownKey «namespace») complete' := by
  obtain ⟨ms, there, marked⟩ := before
  obtain ⟨ms', merged, now⟩ := marked.marking complete'
  have answered : e.Answered := h.answered (.inl (by rw [isRequest]; rintro ⟨⟩))
  rcases answered with served | ⟨fails, -⟩
  · have stored : e.after.objects.find? (c.ownKey «namespace») =
        some ((Json.object ms').stamped (e.before.objects.find? (c.ownKey «namespace»))) := by
      rw [served.after_eq, isRequest, markingRequest,
        Server.serve_merge_there there (by decide), merged]
      exact (Server.find?_accept ..).trans (if_pos rfl)
    exact ⟨_, stored, now.congr fun name apart => Json.at?_stamped_metadata _ _ apart⟩
  · exact absurd fails (ne_true_of_eq_false granted)

theorem marks_of_refused (h : e.Tracked) (fails : e.response.isFailure = true)
    (before : e.before.Marks (c.ownKey «namespace») complete) :
    e.after.Marks (c.ownKey «namespace») complete := by
  refine before.congr (h.sparing _ fun wrote => ?_)
  exact absurd wrote.2 (ne_false_of_eq_true fails)

/-! ### What a reconciliation does to it -/

/-- What is prepared reports, or is not about the cluster. -/
theorem Preparing.leaves_own {r : Request} (h : c.Preparing «namespace» r) :
    c.Reporting «namespace» r ∨ Server.key r ≠ c.ownKey «namespace» := by
  rcases h with reports | about | about
  · exact .inl reports
  · exact .inr (about ▸ (ownKey_ne_secret c.configSecretName).symm)
  · exact .inr (about ▸ (ownKey_ne_secret c.operatorSecretName).symm)

/-- The preparation leaves the marker alone. -/
theorem Prepared.marks {o : Outcome Failure Document} (h : c.Prepared «namespace» s es o s')
    (links : Links s es s') (tracked : ∀ e ∈ es, e.Tracked)
    (before : s.Marks (c.ownKey «namespace») complete) :
    s'.Marks (c.ownKey «namespace») complete :=
  marks_of_links links tracked (fun e mem wrote => (h.writes e mem wrote).leaves_own) before

/-- So does the workload. -/
theorem Deploys.marks {o : Outcome Failure StatefulSet} (h : c.Deploys «namespace» images es o)
    (links : Links s es s') (tracked : ∀ e ∈ es, e.Tracked)
    (before : s.Marks (c.ownKey «namespace») complete) :
    s'.Marks (c.ownKey «namespace») complete := by
  refine marks_of_links links tracked (fun e mem _ => .inr ?_) before
  rcases h.about e mem with about | about
  · exact about ▸ ownKey_ne_serviceKey.symm
  · exact about ▸ ownKey_ne_statefulSetKey.symm

/-- So do the reports. -/
theorem marks_of_reports (links : Links s es s') (tracked : ∀ e ∈ es, e.Tracked)
    (all : ∀ e ∈ es, c.Reporting «namespace» e.request)
    (before : s.Marks (c.ownKey «namespace») complete) :
    s'.Marks (c.ownKey «namespace») complete :=
  marks_of_links links tracked (fun e mem _ => .inl (all e mem)) before

/-- What a reconciliation makes of the marker: it is as before, it has been set after the workload
was seen to carry the TLS files, or it has been cleared because TLS is not wanted. -/
inductive Turn (c : Cluster) («namespace» : String) (images : Images) (es : List Exchange)
    (o : Outcome Failure Action) (s' : Server) : Prop
  | kept (marks : s'.Marks (c.ownKey «namespace») c.tlsRolledOut)
    (unfinished : c.spec.tls.enabled = false → c.tlsRolledOut = true → ∀ action, o ≠ .done action)
  | set (enabled : c.spec.tls.enabled = true) (unmarked : c.tlsRolledOut = false)
    (observed : ∃ e ∈ es, ∃ a, e.request = c.applyingStatefulSet «namespace» images ∧
      e.response.decode StatefulSet.resource = .ok a ∧ a.rolledOut c.spec.members = true ∧
      a.carriesTls = true)
    (marks : s'.Marks (c.ownKey «namespace») true)
  | cleared (disabled : c.spec.tls.enabled = false) (marks : s'.Marks (c.ownKey «namespace») false)

theorem Course.turn {o : Outcome Failure Action} (h : c.Course «namespace» images s es o s')
    (tracked : ∀ e ∈ es, e.Tracked) (before : s.Marks (c.ownKey «namespace») c.tlsRolledOut) :
    c.Turn «namespace» images es o s' := by
  -- the marker is left alone until a stateful set has been answered
  cases h with
  | stopped first links₁ fails => exact .kept (first.marks links₁ tracked before) fun _ _ => fails
  | undeployed first links₁ applies links₂ fails =>
    obtain ⟨tracked₁, tracked₂⟩ := List.forall_mem_append.1 tracked
    exact .kept (applies.marks links₂ tracked₂ (first.marks links₁ tracked₁ before))
      fun _ _ => fails
  | concluded first links₁ applies links₂ concludes links₃ =>
    obtain ⟨tracked₁, tracked'⟩ := List.forall_mem_append.1 tracked
    obtain ⟨tracked₂, tracked₃⟩ := List.forall_mem_append.1 tracked'
    have marks := applies.marks links₂ tracked₂ (first.marks links₁ tracked₁ before)
    cases concludes with
    | reports unstaged all =>
      exact .kept (marks_of_reports links₃ tracked₃ all marks) fun disabled marked =>
        absurd ⟨disabled, marked⟩ unstaged
    | @sets m rest _ enabled unmarked rolledOut carries isRequest all =>
      obtain ⟨tracksMarking, tracksRest⟩ := List.forall_mem_cons.1 tracked₃
      obtain ⟨rfl, links⟩ := links₃
      cases fails : m.response.isFailure with
      | true =>
        -- the marker stays away, which says nothing of a cluster with TLS
        refine .kept (marks_of_reports links tracksRest all
          (marks_of_refused tracksMarking fails marks)) ?_
        intro disabled
        rw [enabled] at disabled
        cases disabled
      | false =>
        -- what the marker was set on is the answer to the request that applied the stateful set
        refine .set enabled unmarked ?_
          (marks_of_reports links tracksRest all
            (marks_of_marking tracksMarking isRequest fails marks))
        cases applies with
        | unserved service fails => exact absurd rfl (fails _)
        | @applied e f _ service statefulSet result =>
          exact ⟨f, by simp, _, statefulSet, result _ rfl, rolledOut, carries⟩
    | @clears m rest _ disabled marked isRequest all result =>
      obtain ⟨tracksMarking, tracksRest⟩ := List.forall_mem_cons.1 tracked₃
      obtain ⟨rfl, links⟩ := links₃
      cases fails : m.response.isFailure with
      | true =>
        -- the marker stays, but then the reconciliation has failed
        refine .kept (marks_of_reports links tracksRest all
          (marks_of_refused tracksMarking fails marks)) ?_
        intro _ _ action done
        rw [result action done] at fails
        cases fails
      | false =>
        exact .cleared disabled
          (marks_of_reports links tracksRest all
            (marks_of_marking tracksMarking isRequest fails marks))

end Cluster

end ReplicaSetOperator
