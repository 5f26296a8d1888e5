import ReplicaSetOperator.Proofs.Operator.Histories

/-!
# Interrupted resets

When TLS is disabled, the TLS files are taken out of the stateful set before the marker is cleared.
A reconciliation that is refused the second leaves a marker that the stateful set does not bear out
(`Cluster.Interrupted`). Nothing else does: a document that enforces TLS is written while the stored
stateful set carries the TLS files, except after such an interruption that no later reconciliation
has made good (`Cluster.enforced_while_carried`). This does come about when TLS is enabled again
(`Cluster.exists_enforced_uncarried`).
-/

namespace ReplicaSetOperator

open ReplicaSetOperator.Configuration (held)

/-- An object is a stateful set that carries the TLS files. -/
def StatefulSet.Carried (object : Option Json) : Prop :=
  ∃ j, object = some j ∧ (StatefulSet.format.read j).carriesTls = true

/-- A stateful set that is there carries TLS if it is read so. -/
theorem StatefulSet.carried_some {j : Json} :
    StatefulSet.Carried (some j) ↔ (StatefulSet.format.read j).carriesTls = true := by
  simp [StatefulSet.Carried]

namespace Cluster

variable {c : Cluster} {«namespace» : String} {s₀ s s' : Server} {past : List Reconciliation}
  {r : Reconciliation}

/-- A reconciliation that saw TLS disabled has written the stateful set, but it has not come to its
end, and left the marker. -/
structure Interrupted (c : Cluster) («namespace» : String) (r : Reconciliation) : Prop where
  disabled : r.cluster.spec.tls.enabled = false
  written : Written (c.statefulSetKey «namespace») r.exchanges
  unended : ∀ action, r.outcome ≠ .done action
  marks : r.after.Marks (c.ownKey «namespace») true

/-- The last reconciliation that wrote the stateful set was an interrupted reset. -/
def Unreset (c : Cluster) («namespace» : String) (past : List Reconciliation) : Prop :=
  ∃ early q late, past = early ++ q :: late ∧ c.Interrupted «namespace» q ∧
    ∀ r ∈ late, ¬ Written (c.statefulSetKey «namespace») r.exchanges

/-- What does not write the stateful set leaves it unreset. -/
theorem Unreset.snoc (h : c.Unreset «namespace» past)
    (unwritten : ¬ Written (c.statefulSetKey «namespace») r.exchanges) :
    c.Unreset «namespace» (past ++ [r]) := by
  obtain ⟨early, q, late, rfl, interrupted, others⟩ := h
  refine ⟨early, q, late ++ [r], by simp, interrupted, ?_⟩
  exact List.forall_mem_append.2 ⟨others, List.forall_mem_singleton.2 unwritten⟩

/-- It is the last reconciliation that was interrupted, or one before that. -/
theorem Unreset.of_snoc (h : c.Unreset «namespace» (past ++ [r])) :
    c.Interrupted «namespace» r ∨ c.Unreset «namespace» past ∧
      ¬ Written (c.statefulSetKey «namespace») r.exchanges := by
  obtain ⟨early, q, late, whole, interrupted, others⟩ := h
  -- the interrupted reset is the last reconciliation exactly if none is later
  obtain rfl | ⟨late, last, rfl⟩ := List.eq_nil_or_concat late
  · obtain ⟨-, rfl⟩ := List.append_singleton_inj.1 whole
    exact .inl interrupted
  · rw [List.concat_eq_append] at whole others
    rw [← List.cons_append, ← List.append_assoc] at whole
    obtain ⟨rfl, rfl⟩ := List.append_singleton_inj.1 whole
    obtain ⟨others, unwritten⟩ := List.forall_mem_append.1 others
    exact .inr ⟨⟨early, q, late, rfl, interrupted, others⟩,
      unwritten r List.mem_cons_self⟩

/-- A stateful set that has been written carries the TLS files if the cluster had TLS. -/
theorem Reconciled.carried_iff (h : c.Reconciled «namespace» r)
    (addressed : c.Addressed «namespace») (tended : c.Tended «namespace» r.before)
    (wrote : Written (c.statefulSetKey «namespace») r.exchanges) :
    StatefulSet.Carried (r.after.objects.find? (c.statefulSetKey «namespace»)) ↔
      r.cluster.spec.tls.enabled = true := by
  obtain ⟨j, there, spec⟩ := h.applied addressed tended wrote
  rw [there, StatefulSet.carried_some, r.cluster.carriesTls_of_spec «namespace» r.images spec]

/-- A stateful set that has not been written carries what it carried. -/
theorem Reconciled.carried_congr (h : c.Reconciled «namespace» r)
    (unwritten : ¬ Written (c.statefulSetKey «namespace») r.exchanges) :
    StatefulSet.Carried (r.after.objects.find? (c.statefulSetKey «namespace»)) ↔
      StatefulSet.Carried (r.before.objects.find? (c.statefulSetKey «namespace»)) := by
  rw [(h.runs.links.untouched (fun e mem => (h.runs.met e mem).sparing) unwritten).same]

/-- What the stateful set carries is not changed by what it says of the members. -/
theorem Followed.carried (h : c.Followed «namespace» s s') :
    StatefulSet.Carried (s'.objects.find? (c.statefulSetKey «namespace»)) ↔
      StatefulSet.Carried (s.objects.find? (c.statefulSetKey «namespace»)) := by
  have follows := h.statefulSet
  cases there : s.objects.find? (c.statefulSetKey «namespace») with
  | none =>
    rw [there] at follows
    cases now : s'.objects.find? (c.statefulSetKey «namespace») with
    | none => exact Iff.rfl
    | some j => rw [now] at follows; cases follows
  | some j =>
    rw [there] at follows
    obtain ⟨j', now, spec⟩ := exists_of_rel follows
    rw [now, StatefulSet.carried_some, StatefulSet.carried_some, carriesTls_congr spec]

/-- While the rollout is marked, the stateful set carries the TLS files, unless a reset has been
interrupted. -/
theorem History.carried (h : c.History «namespace» s₀ past s) (addressed : c.Addressed «namespace»)
    (fresh : c.Fresh «namespace» s₀) (marks : s.Marks (c.ownKey «namespace») true) :
    StatefulSet.Carried (s.objects.find? (c.statefulSetKey «namespace»)) ∨
      c.Unreset «namespace» past := by
  refine h.of_marks (P := fun past s =>
    StatefulSet.Carried (s.objects.find? (c.statefulSetKey «namespace»)) ∨
      c.Unreset «namespace» past) addressed fresh ?edit ?follow ?kept ?set marks
  case edit =>
    intro past s s' edited carried
    rw [edited.owned (c.statefulSetKey «namespace») (by simp [ownedKeys])]
    exact carried
  case follow =>
    intro past s s' followed carried
    rw [followed.carried]
    exact carried
  case kept =>
    intro past r tended reconciled now unfinished carried
    by_cases wrote : Written (c.statefulSetKey «namespace») r.exchanges
    · -- the files are taken away only where TLS is disabled, and then this is the interrupted reset
      rw [reconciled.carried_iff addressed tended wrote]
      cases enabled : r.cluster.spec.tls.enabled with
      | true => exact .inl rfl
      | false =>
        exact .inr ⟨past, r, [], rfl, ⟨enabled, wrote, unfinished enabled, now⟩,
          fun q mem => absurd mem List.not_mem_nil⟩
    · rw [reconciled.carried_congr wrote]
      exact carried.imp_right fun unreset => unreset.snoc wrote
  case set =>
    -- the rollout has been observed in the answer to a write
    rintro past r tended reconciled enabled unmarked ⟨e, mem, a, isRequest, decoded, -⟩ now
    obtain ⟨complete, earlier⟩ := tended.marks
    obtain ⟨same, -, -⟩ := reconciled.named earlier
    obtain ⟨isWrite, about⟩ := writes_of_applied isRequest decoded
    rw [statefulSetKey_of_name same] at about
    exact .inl ((reconciled.carried_iff addressed tended ⟨e, mem, isWrite, about⟩).2 enabled)

/-- An interrupted reset leaves a stateful set without the TLS files, until that is written
again. -/
theorem History.uncarried (h : c.History «namespace» s₀ past s)
    (addressed : c.Addressed «namespace») (fresh : c.Fresh «namespace» s₀)
    (unreset : c.Unreset «namespace» past) :
    ¬ StatefulSet.Carried (s.objects.find? (c.statefulSetKey «namespace»)) := by
  induction h with
  | start =>
    obtain ⟨early, q, late, whole, -⟩ := unreset
    simp at whole
  | edit before edited ih =>
    rw [edited.owned (c.statefulSetKey «namespace») (by simp [ownedKeys])]
    exact ih unreset
  | follow before followed ih =>
    rw [followed.carried]
    exact ih unreset
  | @reconcile past r before reconciled ih =>
    rcases unreset.of_snoc with interrupted | ⟨earlier, unwritten⟩
    · -- it has been interrupted just now, with TLS disabled
      rw [reconciled.carried_iff addressed (before.tended addressed fresh) interrupted.written,
        interrupted.disabled]
      exact Bool.false_ne_true
    · -- nothing has been written to it since
      rw [reconciled.carried_congr unwritten]
      exact ih earlier

/-- The stateful set is written only after the document. -/
theorem Reconciled.same_of_document (h : c.Reconciled «namespace» r)
    (addressed : c.Addressed «namespace») (tended : c.Tended «namespace» r.before) {e : Exchange}
    (mem : e ∈ r.exchanges) (wrote : e.Writes)
    (about : Server.key e.request = c.documentSecret «namespace») :
    e.before.objects.find? (c.statefulSetKey «namespace») =
      r.before.objects.find? (c.statefulSetKey «namespace») := by
  obtain ⟨complete, marks⟩ := tended.marks
  obtain ⟨same, -, -⟩ := h.named marks
  obtain ⟨es₁, o₁, s₁, es₂, whole, first, -, early, -⟩ := h.prepared addressed tended
  -- up to the document there are only requests of the preparation
  obtain ⟨before, after, rfl⟩ := List.append_of_mem (early e mem wrote about)
  have links := h.runs.links
  have met := h.runs.met
  rw [whole, List.append_assoc] at links met
  obtain ⟨s₂, links, rfl, -⟩ := Links.append_iff.1 links
  refine (links.untouched (fun e mem => (met e (List.mem_append_left _ mem)).sparing) ?_).same
  rintro ⟨e', mem', wrote', about'⟩
  rw [← statefulSetKey_of_name same] at about'
  exact (first.writes e' (List.mem_append_left _ mem') wrote').ne wrote'.1 about'

/-! ### A reset that is interrupted -/

section

variable {x : Cluster} {images : Images} {certificate key : Bytes} {room : Nat}

/-- The server may refuse to clear the marker when all else is done. -/
theorem exists_interrupted (addressed : x.Addressed «namespace»)
    (disabled : x.spec.tls.enabled = false) (marked : x.tlsRolledOut = true)
    (small : room ≤ 0x7ffffffffffffffe) (shows : s.Shows (x.ownKey «namespace») x)
    (ready : x.Ready «namespace» images (room + 1) certificate key s) :
    ∃ es failure made s',
      (x.reconcile images).Runs Exchange.Tracked s es (.failed failure) s' ∧
      x.Established «namespace» images room certificate key s made s' ∧
      ∀ k : ObjectKey, k.kind = ConfigMap.objectType.kind ∨
        k.kind = Secret.objectType.kind ∧ k ≠ x.documentSecret «namespace» ∧
          k ≠ x.materialSecret «namespace» → s'.objects.find? k = s.objects.find? k := by
  have settles (e : Exchange) (met : e.Settles x.spec.members) := met
  obtain ⟨es, made, s', run, -, established, same⟩ :=
    ((established_delivers addressed settles small shows ready).frame
      fun e met => (settles e met).isLocal).exists_run (Exchange.exists_settles _)
  -- all is done but to clear the marker
  have clears : x.settled (x.descriptor «namespace») made.1 made.2 =
      (x.markRollout false).bind fun _ => x.reportProgress (x.descriptor «namespace»)
        (made.2.rolledOut x.spec.members) made.1.version := by
    unfold settled
    dsimp only
    rw [show (x.descriptor «namespace»).enabled = false from disabled,
      show (x.descriptor «namespace»).rolloutComplete = true from marked]
    rfl
  have fails : (Response.failing 500 "InternalError" "refused").isFailure = true :=
    Response.isFailure_failing (by omega) _ _
  have rest : (x.settled (x.descriptor «namespace») made.1 made.2).Runs Exchange.Tracked s'
      [⟨s', x.markingRequest «namespace» false, .failing 500 "InternalError" "refused", s'⟩]
      (.failed (.plain (.client (.refused 500 "InternalError")))) s' := by
    rw [clears, markRollout_eq addressed]
    refine .request (.inl (.inr ⟨fails, rfl⟩)) ?_
    dsimp only
    rw [Response.decode_of_isFailure _ fails, Response.failure_failing (by omega)]
    exact .fail _ _
  have whole := Program.Runs.bind (k := fun made =>
    x.settled (x.descriptor «namespace») made.1 made.2)
    (run.mono fun e => Exchange.Settles.tracked) rest
  rw [← reconcile_eq_established addressed] at whole
  exact ⟨_, _, made, s', whole, established, fun k isKind => same k fun r asked =>
    asked.leaves isKind⟩

end

/-- The new cluster once its rollout has been marked, with TLS enabled or not, as it is stored. -/
def rejoinedObject (enabled : Bool) : Json :=
  .object
    [("metadata", .object
      [("annotations", .object [(rolloutMarker, .string "true")]),
       ("finalizers", .array [.string finalizerName]), ("name", .string "db"),
       ("namespace", .string "prod")]),
     ("spec", .object
      [("security", .object
        [("tls", .object
          [("caConfigMapRef", .object [("name", .string "authority")]),
           ("certificateKeySecretRef", .object [("name", .string "certificate")]),
           ("enabled", .bool enabled)])])])]

/-- The cluster. -/
def rejoined (enabled : Bool) : Cluster where
  metadata := { joining.metadata with annotations := some [(rolloutMarker, "true")] }
  spec := { tls := { joining.spec.tls with enabled := enabled } }

/-- The object is read as the cluster. -/
theorem read_rejoined (enabled : Bool) :
    format.read (rejoinedObject enabled) = rejoined enabled := rfl

/-- A server with that object shows the cluster. -/
theorem shows_rejoined (enabled : Bool)
    (there : s.objects.find? (joining.ownKey "prod") = some (rejoinedObject enabled)) :
    s.Shows (joining.ownKey "prod") (rejoined enabled) := by
  refine ⟨rejoinedObject enabled, there, ⟨⟨_, rfl, ?_⟩, ?_, ?_⟩, rfl⟩
  · unfold Json.Ascending
    cases enabled <;> decide
  · cases enabled <;> rfl
  · rintro v ⟨⟩

/-- A user enables TLS for the cluster or disables it. -/
theorem exists_rejoined (enabled : Bool) (marks : s.Marks (joining.ownKey "prod") true) :
    ∃ s', joining.Edited "prod" s s' ∧
      s'.objects.find? (joining.ownKey "prod") = some (rejoinedObject enabled) ∧
      ∀ k, joining.ownKey "prod" ≠ k → s'.objects.find? k = s.objects.find? k := by
  have put (k : ObjectKey) :=
    ObjectTable.find?_put k (joining.ownKey "prod") (rejoinedObject enabled) s.objects
  refine ⟨{ s with objects := s.objects.put (joining.ownKey "prod") (rejoinedObject enabled) },
    ⟨fun complete before => ?_, fun k mem => ?_⟩, (put _).trans (if_pos rfl),
    fun k apart => (put k).trans (if_neg apart.symm)⟩
  · obtain rfl := before.unique marks
    exact ⟨_, (put _).trans (if_pos rfl), rfl, rfl, rfl⟩
  · exact (put k).trans (if_neg (ownKey_ne_of_owned mem).symm)

/-- The rollout of the new cluster has been marked, TLS has been disabled, and the reset has been
interrupted. -/
theorem exists_unreset_joining : ∃ past s d, joining.History "prod" joiningServer past s ∧
    s.Marks (joining.ownKey "prod") true ∧
    joining.Ready "prod" {} 1 [99, 101, 114, 116] [107, 101, 121] s ∧
    held (s.objects.find? (joining.documentSecret "prod")) = .ok (some d) ∧ ¬ d.Enforces ∧
    ¬ StatefulSet.Carried (s.objects.find? (joining.statefulSetKey "prod")) := by
  -- the rollout is marked
  obtain ⟨es₁, action₁, s₁, object, y, status₁, run₁, there₁, read₁, shows₁, plain, marked, ready₁,
    deployed₁⟩ := exists_staged_joining 2 (by omega)
  have history₁ : joining.History "prod" joiningServer [_] s₁ :=
    History.start.reconcile (r := ⟨joining, {}, joiningServer, es₁, .done action₁, s₁⟩)
      ⟨⟨joiningObject, rfl, rfl⟩, run₁.mono fun e => Exchange.Settles.tracked⟩
  have marks₁ : s₁.Marks (joining.ownKey "prod") true := by
    obtain ⟨annotations, version, status, rfl⟩ := exists_of_plain plain
    exact marked ▸ shows₁.marks rfl rfl
  -- TLS is disabled
  obtain ⟨s₂, edited, there₂, same₂⟩ := exists_rejoined false marks₁
  have ready₂ := ready₁.of_same addressed_joining same₂
  have generation₂ : ∀ j ∈ s₂.objects.find? (joining.statefulSetKey "prod"), j.generation ≤ 1 := by
    rw [same₂ _ ownKey_ne_statefulSetKey, deployed₁.statefulSet]
    rintro j ⟨⟩
    exact Json.generation_applied_le (n := 0) (by omega) (by rintro j ⟨⟩)
  have disabled : (rejoined false).Ready "prod" {} 2 [99, 101, 114, 116] [107, 101, 121] s₂ :=
    { document := ready₂.document
      versions := ready₂.versions
      material := ready₂.material
      deployable := ready₂.deployable.of_name rfl rfl fun j mem =>
        Int.lt_of_le_of_lt (generation₂ j mem) (by decide)
      provided := by rintro ⟨⟩ }
  -- the reset is interrupted
  obtain ⟨es₂, failure, made, s₃, run₂, established, user⟩ :=
    exists_interrupted (x := rejoined false) (addressed_joining.of_name rfl rfl) rfl rfl (by omega)
      (shows_rejoined false there₂) disabled
  have history₃ := (history₁.edit edited).reconcile
    (r := ⟨rejoined false, {}, s₂, es₂, .failed failure, s₃⟩)
    ⟨⟨_, there₂, read_rejoined false⟩, run₂⟩
  obtain ⟨status, shows₃⟩ := established.shows
  obtain ⟨status₃, deployed₃⟩ := established.deployed
  have statefulSet₃ : s₃.objects.find? (joining.statefulSetKey "prod") = _ := deployed₃.statefulSet
  obtain ⟨d, isHeld, plainly⟩ := not_enforces_of_upToDate established.furnished.upToDate
  refine ⟨_, s₃, d, history₃, shows₃.marks rfl rfl, ⟨⟨established.furnished.document,
    established.furnished.versions, established.furnished.material, ?_⟩,
    ready₂.provided_frame addressed_joining user⟩, isHeld, plainly, ?_⟩
  · refine established.deployable.of_name rfl rfl fun j mem =>
      Int.lt_of_le_of_lt (b := 2) ?_ (by decide)
    obtain rfl := Option.some.inj (statefulSet₃.symm.trans mem)
    exact Json.generation_applied_le (n := 1) (by omega) generation₂
  · rw [statefulSet₃, StatefulSet.carried_some, carriesTls_applied]
    exact Bool.false_ne_true

/-- When a document that enforces TLS is written, the stored stateful set carries the TLS files
exactly if the last reconciliation that wrote the stateful set was no interrupted reset. -/
theorem enforced_while_carried (addressed : c.Addressed «namespace»)
    (fresh : c.Fresh «namespace» s₀) (history : c.History «namespace» s₀ past r.before)
    (reconciled : c.Reconciled «namespace» r) {e : Exchange} (mem : e ∈ r.exchanges)
    (wrote : e.Writes) (about : Server.key e.request = c.documentSecret «namespace») {d : Document}
    (isHeld : held (e.after.objects.find? (c.documentSecret «namespace»)) = .ok (some d))
    (enforces : d.Enforces) :
    StatefulSet.Carried (e.before.objects.find? (c.statefulSetKey «namespace»)) ↔
      ¬ c.Unreset «namespace» past := by
  have tended := history.tended addressed fresh
  obtain ⟨-, marks⟩ :=
    reconciled.enforcing addressed tended ⟨e, mem, wrote, about, isHeld⟩ enforces
  rw [reconciled.same_of_document addressed tended mem wrote about]
  -- what the stateful set is at that request it was when the reconciliation began
  refine ⟨fun carried unreset => history.uncarried addressed fresh unreset carried, ?_⟩
  exact (history.carried addressed fresh marks).resolve_right

/-- A new cluster, in its second reconciliation. -/
theorem enforced_while_carried_joining : ∃ past r e d,
    joining.History "prod" joiningServer past r.before ∧ joining.Reconciled "prod" r ∧
    e ∈ r.exchanges ∧ e.Writes ∧ Server.key e.request = joining.documentSecret "prod" ∧
    held (e.after.objects.find? (joining.documentSecret "prod")) = .ok (some d) ∧ d.Enforces ∧
    (StatefulSet.Carried (e.before.objects.find? (joining.statefulSetKey "prod")) ↔
      ¬ joining.Unreset "prod" past) := by
  obtain ⟨past, s, d, history, isHeld, enforces⟩ := exists_enforced_joining
  obtain ⟨early, r, late, rfl, earlier, reconciled, e, mem, wrote, about, isHeld⟩ :=
    history.wrote addressed_joining fresh_joining isHeld
  exact ⟨early, r, e, d, earlier, reconciled, mem, wrote, about, isHeld, enforces,
    enforced_while_carried addressed_joining fresh_joining earlier reconciled mem wrote about isHeld
      enforces⟩

/-- So a document that enforces TLS may be written while the stored stateful set does not carry the
TLS files: TLS is enabled again after a reset that has been interrupted. -/
theorem exists_enforced_uncarried : ∃ past r e d,
    joining.History "prod" joiningServer past r.before ∧ joining.Reconciled "prod" r ∧
    e ∈ r.exchanges ∧ e.Writes ∧ Server.key e.request = joining.documentSecret "prod" ∧
    held (e.after.objects.find? (joining.documentSecret "prod")) = .ok (some d) ∧ d.Enforces ∧
    ¬ StatefulSet.Carried (e.before.objects.find? (joining.statefulSetKey "prod")) := by
  obtain ⟨past, s₁, before, unreset, marks, ready, isBefore, plainly, uncarried⟩ :=
    exists_unreset_joining
  obtain ⟨s, edited, there, same⟩ := exists_rejoined true marks
  rw [← same _ (ownKey_ne_secret _)] at isBefore
  rw [← same _ ownKey_ne_statefulSetKey] at uncarried
  have history := unreset.edit edited
  -- TLS is enabled again, and the marker is still there
  have settles (e : Exchange) (met : e.Settles 3) : e.Settles (rejoined true).spec.members := met
  obtain ⟨es, action, s', run, -, -, d, -, -, -, -, upToDate, -⟩ :=
    (reconcile_delivers (c := rejoined true) (addressed_joining.of_name rfl rfl) settles
      (Nat.zero_le _) (shows_rejoined true there)
        ((ready.of_same addressed_joining same).congr rfl)).exists_run (Exchange.exists_settles 3)
  have tracked := run.mono fun e => Exchange.Settles.tracked
  have reconciled : joining.Reconciled "prod" ⟨rejoined true, {}, s, es, .done action, s'⟩ :=
    ⟨⟨_, there, read_rejoined true⟩, tracked⟩
  have tended := history.tended addressed_joining fresh_joining
  obtain ⟨after, isHeld, enforces⟩ := enforces_of_upToDate upToDate (by decide) (by decide)
  -- the document is another one at the end, so that it has been written in between
  have wrote : Written (joining.documentSecret "prod") es := by
    by_contra unwritten
    have same := tracked.links.untouched (fun e mem => (tracked.met e mem).sparing) unwritten
    rw [show (rejoined true).documentSecret "prod" = joining.documentSecret "prod" from rfl,
      same.same, isBefore] at isHeld
    cases isHeld
    exact plainly enforces
  obtain ⟨e, mem, isWrite, about⟩ := wrote
  obtain ⟨-, -, -, -, -, stays⟩ := reconciled.written addressed_joining tended mem isWrite about
  refine ⟨past, _, e, after, history, reconciled, mem, isWrite, about, stays ▸ isHeld, enforces, ?_⟩
  rw [reconciled.same_of_document addressed_joining tended mem isWrite about]
  exact uncarried

end Cluster

end ReplicaSetOperator
