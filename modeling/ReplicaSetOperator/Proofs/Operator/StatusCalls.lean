import ReplicaSetOperator.Proofs.Operator.Reporting
import ReplicaSetOperator.Proofs.Server.Journals

/-!
# Calls that report a status

The operator reports by three calls: of a phase, of the members that are live, and of a condition.
Each sends a patch that names only what it changes; a condition is brought up to date in the list
that the server has at that time.

The typed status knows nothing of patches: there a call updates a record (`StatusCall.folded`). The
two agree (`StatusCall.sequence_recounts`): after any calls, the status that is read from the server
is the one that they make of the status that was read before them, where the conditions have the
times that the clock has shown. The proof goes call by call (`StatusCall.program_recounts`).
-/

namespace ReplicaSetOperator

/-- A call by which the operator reports something in the status of a cluster. -/
inductive StatusCall where
  | updatePhase (phase : Phase) (message : Option String)
  | recordMembers (members : Int32) (version : Int64)
  | setCondition (type : String) (report : Report)

namespace StatusCall

/-- What is done for a call about a cluster. -/
def program (c : Cluster) : StatusCall → Program Failure Unit
  | .updatePhase phase message => Status.updatePhase c phase message
  | .recordMembers members version => Status.recordMembers c members version
  | .setCondition type report => Status.setCondition c type report

/-- What is done for several calls, one after the other. -/
def sequence (c : Cluster) : List StatusCall → Program Failure Unit
  | [] => .done ()
  | call :: calls => (call.program c).bind fun _ => sequence c calls

/-- What calls make of a status as a record, at a generation. Every call changes its own fields and
nothing else, and every condition takes the next one of the times that the clock shows. -/
def folded (generation : Option Int64) :
    List StatusCall → List Timestamp → ClusterStatus → ClusterStatus
  | [], _, status => status
  | .updatePhase phase message :: calls, times, status =>
    folded generation calls times { status with phase := some phase.label, message := message }
  | .recordMembers members version :: calls, times, status =>
    folded generation calls times
      { status with currentMembers := some members, version := some version }
  | .setCondition type report :: calls, times, status =>
    folded generation calls times.tail
      { status with
        conditions := ((report.condition type (times.headD default) generation).setIn
          status.conditions).1 }

/-- The status that is read after some calls. A first call makes a status where there is none. -/
def afterwards (generation : Option Int64) (calls : List StatusCall) (times : List Timestamp)
    (before : Option ClusterStatus) : Option ClusterStatus :=
  if calls = [] then before else some (folded generation calls times (before.getD {}))

/-- How many times calls take from the clock. -/
def clocks : List StatusCall → Nat
  | [] => 0
  | .setCondition _ _ :: calls => clocks calls + 1
  | _ :: calls => clocks calls

variable {c x : Cluster} {«namespace» : String} {meets : Exchange → Prop} {s : Server}

/-- Each call takes its times from the clock, whatever the others take. -/
theorem clocks_cons (call : StatusCall) (calls : List StatusCall) :
    clocks (call :: calls) = clocks [call] + clocks calls := by
  cases call with
  | updatePhase | recordMembers => exact (Nat.zero_add _).symm
  | setCondition => exact Nat.add_comm _ 1

/-- After the calls before, each call takes its time from what is left of the times. -/
theorem folded_cons (generation : Option Int64) (call : StatusCall) (calls : List StatusCall)
    {now times : List Timestamp} (enough : now.length = clocks [call]) (status : ClusterStatus) :
    folded generation (call :: calls) (now ++ times) status =
      folded generation calls times (folded generation [call] now status) := by
  -- the times are as many as the call takes: none, or one for a condition
  cases call with
  | updatePhase phase message =>
    obtain rfl := List.length_eq_zero_iff.1 enough
    rfl
  | recordMembers members version =>
    obtain rfl := List.length_eq_zero_iff.1 enough
    rfl
  | setCondition type report =>
    obtain ⟨time, rfl⟩ := List.length_eq_one_iff.1 enough
    rfl

/-- A patch of the status only makes a request. -/
theorem patch_does (addressed : c.Addressed «namespace») (members : List (String × Option Json)) :
    (Status.patch c members).Does fun j => j.reading? = none := by
  rw [Status.patch_eq addressed]
  refine ⟨fun _ _ => rfl, fun response => ?_⟩
  exact .bind (.mapFailure _ (.ofExcept _)) fun _ => trivial

theorem updateConditions_does (addressed : c.Addressed «namespace») (new : Condition)
    (status : Option ClusterStatus) :
    (Status.updateConditions c new status).Does fun j => j.reading? = none := by
  unfold Status.updateConditions
  dsimp only
  split
  · exact patch_does addressed _
  · trivial

section

variable (addressed : c.Addressed «namespace»)
  (clusters : ∀ e, meets e → e.request.type = Cluster.type → e.Served)
  (h : s.Shows (c.ownKey «namespace») x)

include addressed clusters h

/-- A patch reads no clock, and changes the members that it names. -/
theorem patch_recounts {members : List (String × Option Json)} {f : ClusterStatus → ClusterStatus}
    (turns : ClusterStatus.Turns members f) :
    (Status.patch c members).Recounts meets s fun js _ s' => Entry.readings js = [] ∧
      s'.Shows (c.ownKey «namespace») { x with status := some (f (x.status.getD {})) } := by
  have delivers := Status.patch_delivers addressed clusters turns h
  refine (delivers.recounts (patch_does addressed members)).mono ?_
  rintro js _ s' ⟨only, shows⟩
  exact ⟨Entry.readings_eq_nil only, shows⟩

/-- A condition takes one time from the clock, and changes nothing but the list of conditions. -/
theorem setCondition_recounts (type : String) (report : Report) :
    (Status.setCondition c type report).Recounts meets s fun js _ s' =>
      ∃ now, Entry.readings js = [now] ∧
        s'.Shows (c.ownKey «namespace») { x with status := some { x.status.getD {} with
          conditions := ((report.condition type now x.metadata.generation).setIn
            (x.status.getD {}).conditions).1 } } := by
  have shown := h
  obtain ⟨object, there, whole, same⟩ := shown
  rw [Status.setCondition_eq addressed]
  refine .served (fun response after met => clusters _ met rfl) ?_
  rw [Server.serve_get_there there (by decide), whole.decode (by omega)]
  refine .clock fun now valid => ?_
  show (Status.updateConditions c (report.condition type now
    (Cluster.format.read object).metadata.generation)
      (Cluster.format.read object).status).Recounts _ s _
  rw [Cluster.generation_of_unversioned same, Cluster.status_of_unversioned same]
  -- the clock is read before anything is sent, and not after that
  have delivers := Status.updateConditions_delivers addressed clusters type report valid h
  refine (delivers.recounts (updateConditions_does addressed _ _)).mono ?_
  rintro js _ s' ⟨only, shows⟩
  exact ⟨now, congrArg (now :: ·) (Entry.readings_eq_nil only), shows⟩

/-- One call does to the status on the server what it does to the record. -/
theorem program_recounts (call : StatusCall) :
    (call.program c).Recounts meets s fun js _ s' =>
      (Entry.readings js).length = clocks [call] ∧
      s'.Shows (c.ownKey «namespace») { x with status := some (folded x.metadata.generation [call]
        (Entry.readings js) (x.status.getD {})) } := by
  cases call with
  -- only a condition reads the clock
  | updatePhase phase message =>
    refine (patch_recounts addressed clusters h (ClusterStatus.turns_phase phase message)).mono ?_
    rintro js _ s' ⟨none, shows⟩
    exact ⟨congrArg List.length none, shows⟩
  | recordMembers members version =>
    refine (patch_recounts addressed clusters h
      (ClusterStatus.turns_members members version)).mono ?_
    rintro js _ s' ⟨none, shows⟩
    exact ⟨congrArg List.length none, shows⟩
  | setCondition type report =>
    refine (setCondition_recounts addressed clusters h type report).mono ?_
    rintro js _ s' ⟨now, read, shows⟩
    rw [read]
    exact ⟨rfl, shows⟩

end

/-- Where nothing is refused and nobody else writes, calls come to their end, and the status that is
read from the server afterwards is what they make of the one that was read before, or of an empty
one. The conditions have the times that the clock has shown, one for each, and the generation of the
cluster. -/
theorem sequence_recounts (addressed : c.Addressed «namespace»)
    (h : s.Shows (c.ownKey «namespace») x) (calls : List StatusCall) :
    (sequence c calls).Recounts Exchange.Served s fun js _ s' =>
      (Entry.readings js).length = clocks calls ∧
      s'.Shows (c.ownKey «namespace») { x with
        status := afterwards x.metadata.generation calls (Entry.readings js) x.status } := by
  -- each call finds what the ones before have left, so that server and cluster are arbitrary
  induction calls generalizing s x with
  | nil => exact .done ⟨rfl, h⟩
  | cons call calls ih =>
    refine .bind (program_recounts addressed (fun _ served _ => served) h call) ?_
    rintro js _ s₁ ⟨enough, shows₁⟩
    refine (ih shows₁).mono ?_
    rintro js' _ s' ⟨rest, shows⟩
    rw [Entry.readings_append, List.length_append, enough, rest, ← clocks_cons, afterwards,
      if_neg (List.cons_ne_nil _ _), folded_cons _ call calls enough]
    refine ⟨rfl, ?_⟩
    -- without another call, the status is the one that the first has left
    by_cases last : calls = []
    · subst last
      exact shows
    · rw [afterwards, if_neg last] at shows
      exact shows

/-! ### A cluster with a status -/

/-- A cluster, in an example, whose members are being updated, as it is stored. -/
def updatingObject : Json :=
  .object
    [("metadata", .object
      [("generation", .ofInt 4), ("name", .string "db"), ("namespace", .string "prod")]),
     ("spec", .object []),
     ("status", .object
      [("conditions", .array [.object
        [("lastTransitionTime", .string "2024-01-31T08:05:09Z"), ("message", .string "Waiting"),
         ("observedGeneration", .ofInt 3), ("reason", .string "MembersUpdating"),
         ("status", .string "False"), ("type", .string "Ready")]]),
       ("message", .string "members are being updated"), ("phase", .string "Creating")])]

/-- The cluster. -/
def updating : Cluster := Cluster.format.read updatingObject

/-- A server with the cluster. -/
def updatingServer : Server where
  objects := [(updating.ownKey "prod", updatingObject)]

/-- The cluster of the example is kept. -/
theorem shows_updating : updatingServer.Shows (updating.ownKey "prod") updating := by
  refine ⟨updatingObject, rfl, ⟨⟨_, rfl, by unfold Json.Ascending; decide⟩, rfl, ?_⟩, rfl⟩
  rintro v ⟨⟩ -
  exact ⟨_, rfl, by unfold Json.Ascending; decide⟩

/-- The condition that it is ready is reported, the members, the phase, and the condition once more,
which changes nothing. -/
theorem sequence_recounts_updating : ∃ js s' now,
    (sequence updating [.setCondition readyCondition .ready, .recordMembers 3 7,
      .updatePhase .running none, .setCondition readyCondition .ready]).Logs Exchange.Served
        updatingServer js (.done ()) s' ∧
    (Entry.readings js).head? = some now ∧
    s'.Shows (updating.ownKey "prod") { updating with status := some {
      conditions := [⟨now, "All members are ready", some 4, "MembersReady", "True", "Ready"⟩]
      phase := some "Running"
      currentMembers := some 3
      version := some 7 } } := by
  have addressed : updating.Addressed "prod" :=
    ⟨rfl, by decide, by decide, by decide, by decide, by decide⟩
  obtain ⟨js, _, s', run, enough, shows⟩ := (sequence_recounts addressed shows_updating
    [.setCondition readyCondition .ready, .recordMembers 3 7, .updatePhase .running none,
      .setCondition readyCondition .ready]).exists_logs
    fun s r => ⟨(s.serve r).2, (s.serve r).1, rfl⟩
  obtain ⟨now, later, read⟩ := List.exists_cons_of_length_eq_add_one enough
  refine ⟨js, s', now, run, by rw [read]; rfl, ?_⟩
  -- the second report finds the condition as it is, so that the first time stays
  rw [read] at shows
  exact shows

end StatusCall

end ReplicaSetOperator
