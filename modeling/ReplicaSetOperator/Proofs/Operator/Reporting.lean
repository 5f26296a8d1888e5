import ReplicaSetOperator.Proofs.Cluster.StatusPatches
import ReplicaSetOperator.Proofs.Operator.Events

/-!
# Reports that arrive

A server that keeps a cluster (`Server.Shows`) and serves the requests about it takes what the
operator reports: patches of the status (`Status.patch_delivers`), conditions
(`Status.setCondition_delivers`) and the rollout marker (`Cluster.markRollout_delivers`). A
condition that is there already is not sent again (`Status.setCondition_told`).
-/

namespace ReplicaSetOperator

/-- The server keeps a cluster under a key, whatever its version. -/
def Server.Shows (s : Server) (key : ObjectKey) (c : Cluster) : Prop :=
  ∃ object, s.objects.find? key = some object ∧ Cluster.Whole object ∧
    (Cluster.format.read object).unversioned = c.unversioned

/-- A request that only reads, or is about a cluster. -/
def Cluster.Caring (c : Cluster) («namespace» : String) (r : Request) : Prop :=
  r.verb = .get ∨ Server.key r = ⟨Cluster.type.kind, «namespace», c.name⟩

/-- The key of a cluster. -/
def Cluster.ownKey (c : Cluster) («namespace» : String) : ObjectKey :=
  ⟨Cluster.type.kind, «namespace», c.name⟩

variable {c x : Cluster} {«namespace» : String} {meets : Exchange → Prop} {s : Server}

/-- Clusters that differ in their versions only have one status. -/
theorem Cluster.status_of_unversioned {y : Cluster} (h : y.unversioned = x.unversioned) :
    y.status = x.status :=
  (congrArg (·.status) h : y.unversioned.status = x.unversioned.status)

theorem Cluster.generation_of_unversioned {y : Cluster} (h : y.unversioned = x.unversioned) :
    y.metadata.generation = x.metadata.generation :=
  (congrArg (·.metadata.generation) h :
    y.unversioned.metadata.generation = x.unversioned.metadata.generation)

/-- A whole cluster is read from the answer that holds it. -/
theorem Cluster.Whole.decode {object : Json} (h : Whole object) {code : Nat}
    (success : 200 ≤ code ∧ code < 400) :
    (Response.holding code object).decode resource = .ok (format.read object) :=
  Response.decode_fine resource success h.fine

namespace Server.Shows

variable {key : ObjectKey}

theorem congr {s' : Server} (h : s.Shows key x)
    (same : s'.objects.find? key = s.objects.find? key) : s'.Shows key x := by
  obtain ⟨object, there, rest⟩ := h
  exact ⟨object, same.trans there, rest⟩

/-- A cluster that the server accepts is kept, and is answered. -/
theorem of_accepted {object : Json} (whole : Cluster.Whole object) {code : Nat}
    (success : 200 ≤ code ∧ code < 400) {after : Server} {response : Response}
    (accepted : s.accept code key object = (after, response)) :
    after.Shows key (Cluster.format.read object) ∧
      ∃ y, response.decode Cluster.resource = .ok y := by
  obtain ⟨stamped, read⟩ := whole.stamped (s.objects.find? key)
  have stored := accepted ▸ Server.find?_accept s code key key object
  have answer : response = .holding code (object.stamped (s.objects.find? key)) :=
    (congrArg Prod.snd accepted).symm
  exact ⟨⟨_, stored.trans (if_pos rfl), stamped, read⟩, _, answer ▸ stamped.decode success⟩

/-- What is shown changes with what is kept. -/
theorem of_read {y z : Cluster} (h : s.Shows key y) (same : y.unversioned = z.unversioned) :
    s.Shows key z := by
  obtain ⟨object, there, whole, read⟩ := h
  exact ⟨object, there, whole, read.trans same⟩

end Server.Shows

section

variable (addressed : c.Addressed «namespace»)
  (clusters : ∀ e, meets e → e.request.type = Cluster.type → e.Served)

include addressed clusters

namespace Status

/-- A patch of the status arrives. -/
theorem patch_delivers {members : List (String × Option Json)} {f : ClusterStatus → ClusterStatus}
    (turns : ClusterStatus.Turns members f) (h : s.Shows (c.ownKey «namespace») x) :
    (patch c members).Delivers meets (· = patching c «namespace» members) s fun _ s' =>
      s'.Shows (c.ownKey «namespace») { x with status := some (f (x.status.getD {})) } := by
  obtain ⟨object, there, whole, same⟩ := h
  rw [patch_eq addressed]
  refine .request rfl fun response after met => ?_
  have status : (changing members).get? "status" = some (Json.record members) :=
    Json.get?_record "status" (by simp)
  -- of what is sent the server merges the status only
  have served := Server.serve_mergeStatus_there there (by decide) (changing members)
  rw [status] at served
  obtain ⟨merged, read⟩ := turns.whole whole
  obtain ⟨shows, y, decoded⟩ := Server.Shows.of_accepted merged (by omega)
    (served.symm.trans (clusters _ met rfl))
  rw [decoded]
  refine .done (shows.of_read ?_)
  have isStatus := Cluster.status_of_unversioned same
  rw [read, isStatus]
  exact congrArg
    (fun y : Cluster => { y with status := some (f (x.status.getD {})) }) same

/-- A condition that the status says already is not sent again. -/
theorem setCondition_told {type : String} {report : Report}
    (h : s.Shows (c.ownKey «namespace») x)
    (told : Condition.Says type report x.metadata.generation (x.status.getD {}).conditions) :
    (setCondition c type report).Delivers meets (·.verb = .get) s fun _ s' => s' = s := by
  obtain ⟨object, there, whole, same⟩ := h
  rw [setCondition_eq addressed]
  refine .served rfl (fun response after met => clusters _ met rfl) ?_
  rw [Server.serve_get_there there (by decide),
    whole.decode (by omega)]
  -- the time would be that of a transition, of which there is none
  refine .clock fun now _ => ?_
  have generation := Cluster.generation_of_unversioned same
  have status := Cluster.status_of_unversioned same
  have unchanged : ((report.condition type now x.metadata.generation).setIn
      (x.status.getD {}).conditions).2 = false := Condition.unchanged_iff.2 told
  rw [← generation, ← status] at unchanged
  show Program.Delivers _ _ (if _ then _ else _) s _
  rw [if_neg (by rw [unchanged]; simp)]
  exact .done rfl

/-- What is done about a condition once the cluster has been read: the list is sent if it has
changed. -/
def updateConditions (c : Cluster) (new : Condition) (status : Option ClusterStatus) :
    Program Failure Unit :=
  let set := new.setIn (status.getD {}).conditions
  if set.2 then patch c [("conditions", some (Condition.format.list.write set.1))] else .done ()

/-- The list of conditions is brought up to date, whether it has to be sent for that or not. -/
theorem updateConditions_delivers (type : String) (report : Report) {now : Timestamp}
    (valid : now.Valid) (h : s.Shows (c.ownKey «namespace») x) :
    (updateConditions c (report.condition type now x.metadata.generation) x.status).Delivers meets
      (c.Caring «namespace») s fun _ s' =>
        s'.Shows (c.ownKey «namespace») { x with status := some { x.status.getD {} with
          conditions := ((report.condition type now x.metadata.generation).setIn
            (x.status.getD {}).conditions).1 } } := by
  have shown := h
  obtain ⟨object, there, whole, same⟩ := shown
  have stored := whole.valid_conditions
  rw [Cluster.status_of_unversioned same] at stored
  have times := @Condition.times_setIn _ Timestamp.Valid
    (report.condition type now x.metadata.generation) valid stored
  unfold updateConditions
  dsimp only
  cases changes : ((report.condition type now x.metadata.generation).setIn
      (x.status.getD {}).conditions).2 with
  | true =>
    rw [if_pos rfl]
    refine (patch_delivers addressed clusters (ClusterStatus.turns_conditions times) h).widen ?_
    rintro r rfl
    exact .inr rfl
  | false =>
    rw [if_neg Bool.false_ne_true, Condition.setIn_of_unchanged changes]
    -- What need not be sent is there, and so there is a status.
    cases isStatus : x.status with
    | none =>
      rw [isStatus] at changes
      cases changes
    | some status =>
      refine .done (h.of_read ?_)
      show x.unversioned = { x with status := some status }.unversioned
      rw [← isStatus]

/-- A condition is there once it has been reported, and all others are as they were. -/
theorem setCondition_delivers (type : String) (report : Report)
    (h : s.Shows (c.ownKey «namespace») x) :
    (setCondition c type report).Delivers meets (c.Caring «namespace») s fun _ s' =>
        ∃ cs, s'.Shows (c.ownKey «namespace»)
            { x with status := some { x.status.getD {} with conditions := cs } } ∧
          Condition.Says type report x.metadata.generation cs ∧
          ∀ other, type ≠ other →
            Condition.find? other cs = Condition.find? other (x.status.getD {}).conditions := by
  have shown := h
  obtain ⟨object, there, whole, same⟩ := shown
  rw [setCondition_eq addressed]
  refine .served (.inl rfl) (fun response after met => clusters _ met rfl) ?_
  rw [Server.serve_get_there there (by decide), whole.decode (by omega)]
  refine .clock fun now valid => ?_
  show (updateConditions c (report.condition type now
    (Cluster.format.read object).metadata.generation)
      (Cluster.format.read object).status).Delivers _ _ s _
  -- the cluster that has been fetched differs in its version only
  rw [Cluster.generation_of_unversioned same, Cluster.status_of_unversioned same]
  refine (updateConditions_delivers addressed clusters type report valid h).mono
    fun _ s' shows => ?_
  exact ⟨_, shows, Condition.says_setIn _, fun other apart => Condition.find?_setIn_of_ne _ apart _⟩

end Status

/-- The marker is set or cleared, and this is said. -/
theorem Cluster.markRollout_delivers (complete : Bool)
    (events : ∀ e, meets e → e.request.type = Event.type → e.Served)
    (h : s.Shows (c.ownKey «namespace») x) :
    (c.markRollout complete).Delivers meets
      (fun r => c.Caring «namespace» r ∨ r.type = Event.type) s fun _ s' =>
        ∃ annotations, s'.Shows (c.ownKey «namespace»)
            { x with metadata := { x.metadata with annotations := some annotations } } ∧
          annotations.lookup rolloutMarker = if complete then some "true" else none := by
  obtain ⟨object, there, whole, same⟩ := h
  rw [markRollout_eq addressed]
  refine .request (.inl (.inr rfl)) fun response after met => ?_
  have served := Server.serve_merge_there there (by decide) (marking complete)
  obtain ⟨merged, annotations, read, isMarked⟩ := whole.mark complete
  obtain ⟨shows, y, decoded⟩ := Server.Shows.of_accepted merged (by omega)
    (served.symm.trans (clusters _ met rfl))
  rw [decoded]
  refine ((Event.publish_delivers addressed events (markingEvent complete) after).widen
    fun r => .inr).mono ?_
  rintro _ s' rfl
  refine ⟨annotations, shows.of_read ?_, isMarked⟩
  rw [read]
  exact congrArg (fun y : Cluster =>
    { y with metadata := { y.metadata with annotations := some annotations } }) same

/-! ### Progress -/

/-- The members of the status that tell what is live. -/
def Status.live (members : Int32) (version : Int64) : List (String × Option Json) :=
  [("currentMongodbMembers", some (Format.int32.write members)),
   ("version", some (Format.int64.write version))]

/-- The members of the status that tell the phase. -/
def Status.phased (phase : Phase) (message : Option String) : List (String × Option Json) :=
  [("phase", some (.string phase.label)),
   ("message", some (Format.string.option.write message))]

/-- The condition that all members are ready. -/
def Report.ready : Report := ⟨true, .membersReady, "All members are ready"⟩

/-- A status that reports a version of the document as live on all members. -/
structure ClusterStatus.Reports (status : ClusterStatus) (tls : Report) (members : Int32)
    (version : Int64) (generation : Option Int64) : Prop where
  tls : Condition.Says tlsCondition tls generation status.conditions
  ready : Condition.Says readyCondition .ready generation status.conditions
  members : status.currentMembers = some members
  version : status.version = some version
  phase : status.phase = some Phase.running.label
  message : status.message = none

/-- The condition that members are still being updated. -/
def Report.updating : Report :=
  ⟨false, .membersUpdating, "Waiting for all members to run the latest template"⟩

/-- A status that reports that members are still being updated. What it says of the members and of
the version that are live is what the status before says. -/
structure ClusterStatus.Updates (status before : ClusterStatus) (tls : Report)
    (generation : Option Int64) : Prop where
  tls : Condition.Says tlsCondition tls generation status.conditions
  ready : Condition.Says readyCondition .updating generation status.conditions
  members : status.currentMembers = before.currentMembers
  version : status.version = before.version
  phase : status.phase = some Phase.creating.label
  message : status.message = some "members are being updated"

/-- The status once a cluster without one has been announced. What the cluster says of its status
counts, not what the server has. -/
def Cluster.announcedStatus (c : Cluster) (before : Option ClusterStatus) : Option ClusterStatus :=
  if c.status.isSome then before
  else some { before.getD {} with phase := some Phase.creating.label, message := none }

/-- A request that reads, or tells once more what is live and that the cluster runs. -/
def Cluster.Reminding (c : Cluster) («namespace» : String) (version : Int64) (r : Request) : Prop :=
  r.verb = .get ∨ r = Status.patching c «namespace» (Status.live c.spec.members version) ∨
    r = Status.patching c «namespace» (Status.phased .running none)

namespace Cluster

omit addressed clusters in
/-- All members run the document: condition, gauge, members, readiness and phase, in this order. -/
theorem reportProgress_eq (d : TlsDescriptor) (version : Int64) :
    c.reportProgress d true version =
      (Status.setCondition c tlsCondition (d.report d.mode)).bind fun _ =>
        .measure (.tlsMode (c.metadata.namespace.getD "") c.name d.mode)
          ((Status.patch c (Status.live c.spec.members version)).bind fun _ =>
            (Status.setCondition c readyCondition .ready).bind fun _ =>
              (Status.patch c (Status.phased .running none)).bind fun _ =>
                .done (.requeue idleRequeue)) := rfl

/-- When all members run the latest template, the status comes to report it. -/
theorem reportProgress_delivers (d : TlsDescriptor) (version : Int64)
    (h : s.Shows (c.ownKey «namespace») x) :
    (c.reportProgress d true version).Delivers meets (c.Caring «namespace») s fun action s' =>
      action = .requeue idleRequeue ∧ ∃ status : ClusterStatus,
        s'.Shows (c.ownKey «namespace») { x with status := some status } ∧
        status.Reports (d.report d.mode) c.spec.members version x.metadata.generation := by
  -- each patch of the status is about the cluster
  have cares (members : List (String × Option Json)) (r : Request)
      (isPatch : r = Status.patching c «namespace» members) : c.Caring «namespace» r := by
    rw [isPatch]
    exact .inr rfl
  rw [reportProgress_eq]
  -- one step for each report, with the cluster that is kept after it
  refine (Status.setCondition_delivers addressed clusters _ _ h).bind ?_
  rintro - s₁ ⟨cs, h, tls, -⟩
  refine .measure ?_
  refine ((Status.patch_delivers addressed clusters
    (ClusterStatus.turns_members c.spec.members version) h).widen (cares _)).bind ?_
  intro _ s₂ h
  refine (Status.setCondition_delivers addressed clusters _ _ h).bind ?_
  rintro - s₃ ⟨cs', h, ready, others⟩
  refine ((Status.patch_delivers addressed clusters
    (ClusterStatus.turns_phase .running none) h).widen (cares _)).bind ?_
  intro _ s₄ h
  have apart : readyCondition ≠ tlsCondition := by decide
  exact .done ⟨rfl, _, h, (Condition.says_congr (others _ apart)).2 tls, ready, rfl, rfl, rfl, rfl⟩

/-- While members do not run the latest template, the status comes to report that. -/
theorem reportProgress_updates (d : TlsDescriptor) (version : Int64)
    (h : s.Shows (c.ownKey «namespace») x) :
    (c.reportProgress d false version).Delivers meets (c.Caring «namespace») s fun action s' =>
      action = .requeue rolloutRequeue ∧ ∃ status : ClusterStatus,
        s'.Shows (c.ownKey «namespace») { x with status := some status } ∧
        status.Updates (x.status.getD {}) (d.report d.mode) x.metadata.generation := by
  -- without the members nothing is told of the version
  have parts : c.reportProgress d false version =
      (Status.setCondition c tlsCondition (d.report d.mode)).bind fun _ =>
        .measure (.tlsMode (c.metadata.namespace.getD "") c.name d.mode)
          ((Status.setCondition c readyCondition .updating).bind fun _ =>
            (Status.patch c (Status.phased .creating (some "members are being updated"))).bind
              fun _ => .done (.requeue rolloutRequeue)) := rfl
  rw [parts]
  refine (Status.setCondition_delivers addressed clusters _ _ h).bind ?_
  -- the later report leaves the condition of TLS alone
  rintro - s₁ ⟨cs, h, tls, -⟩
  refine .measure ?_
  refine (Status.setCondition_delivers addressed clusters _ _ h).bind ?_
  rintro - s₂ ⟨cs', h, ready, others⟩
  refine ((Status.patch_delivers addressed clusters
    (ClusterStatus.turns_phase .creating (some "members are being updated")) h).widen ?_).bind ?_
  · rintro r rfl
    exact .inr rfl
  intro _ s₃ h
  have apart : readyCondition ≠ tlsCondition := by decide
  exact .done ⟨rfl, _, h, (Condition.says_congr (others _ apart)).2 tls, ready, rfl, rfl, rfl, rfl⟩

/-- A status that reports it already stays as it is. -/
theorem reportProgress_repeats {d : TlsDescriptor} {version : Int64} {status : ClusterStatus}
    (there : x.status = some status)
    (reports : status.Reports (d.report d.mode) c.spec.members version x.metadata.generation)
    (h : s.Shows (c.ownKey «namespace») x) :
    (c.reportProgress d true version).Delivers meets (c.Reminding «namespace» version) s
      fun action s' => action = .requeue idleRequeue ∧ s'.Shows (c.ownKey «namespace») x := by
  -- every part makes of the status what it is already
  have same {s' : Server} {status' : ClusterStatus}
      (shows : s'.Shows (c.ownKey «namespace») { x with status := some status' })
      (isStatus : status' = status) : s'.Shows (c.ownKey «namespace») x := by
    refine shows.of_read ?_
    rw [isStatus, ← there]
  rw [reportProgress_eq]
  refine ((Status.setCondition_told addressed clusters h (by rw [there]; exact reports.tls)).widen
    fun _ => .inl).bind ?_
  rintro - s₁ rfl
  refine .measure ?_
  refine ((Status.patch_delivers addressed clusters
    (ClusterStatus.turns_members c.spec.members version) h).widen fun _ => .inr ∘ .inl).bind ?_
  intro _ s₂ h
  replace h := same h (by rw [there, ← reports.members, ← reports.version]; rfl)
  refine ((Status.setCondition_told addressed clusters h
    (by rw [there]; exact reports.ready)).widen fun _ => .inl).bind ?_
  rintro - s₃ rfl
  refine ((Status.patch_delivers addressed clusters
    (ClusterStatus.turns_phase .running none) h).widen fun _ => .inr ∘ .inr).bind ?_
  intro _ s₄ h
  exact .done ⟨rfl, same h (by rw [there, ← reports.phase, ← reports.message]; rfl)⟩

/-- A cluster without a status gets one. -/
theorem announced_delivers (h : s.Shows (c.ownKey «namespace») x) :
    c.announced.Delivers meets (c.Caring «namespace») s fun _ s' =>
      s'.Shows (c.ownKey «namespace») { x with status := c.announcedStatus x.status } := by
  unfold announced announcedStatus
  cases c.status with
  | some status => exact .done h
  | none =>
    have cares (members : List (String × Option Json)) (r : Request)
        (isPatch : r = Status.patching c «namespace» members) : c.Caring «namespace» r := by
      rw [isPatch]
      exact .inr rfl
    refine Program.Delivers.bind ((Status.patch_delivers addressed clusters
      (ClusterStatus.turns_phase .pending none) h).widen (cares _)) fun _ s₁ h => ?_
    exact (Status.patch_delivers addressed clusters
      (ClusterStatus.turns_phase .creating none) h).widen (cares _)

end Cluster

end

end ReplicaSetOperator
