import ReplicaSetOperator.Cluster.Definition
import ReplicaSetOperator.Proofs.Object.Admission
import ReplicaSetOperator.Proofs.Object.ConditionHistory
import ReplicaSetOperator.Proofs.Operator.StatusCalls

/-!
# Reports that fit the definition

The definition of clusters says what a status looks like (`Definition.statusSchema`). The operator
does not look there: it writes what it reports as it is, and puts conditions down in the form of
another library. What it writes fits the definition all the same (`StatusCall.sequence_fits`): a
status that fits it does so after any calls that report something (`StatusCall.program_fits`), so
that a server has nothing to refuse and nothing to take away.

No two conditions come to have one type, since a list is brought up to date by type. The only
threat are the years: the form of a time in the definition has room for four digits, that of the
operator for more (`ClusterStatus.Fits`).
-/

namespace ReplicaSetOperator

/-! ### Conditions -/

namespace Condition

/-- A condition as the definition wants it: five members are there, all of them texts and one a
date-time, perhaps with a generation of 64 bits, and nothing else. -/
structure Proper (item : Json) : Prop where
  names : ∀ m ∈ item.members, m.1 ∈ ["lastTransitionTime", "message", "observedGeneration",
    "reason", "status", "type"]
  texts : ∀ name ∈ ["lastTransitionTime", "message", "reason", "status", "type"],
    ∃ text, item.get? name = some (.string text)
  time : ∀ text, item.get? "lastTransitionTime" = some (.string text) →
    Timestamp.isDateTime text.toList = true
  generation : ∀ v, item.get? "observedGeneration" = some v →
    ∃ i : Int64, v = Format.int64.write i

variable {c : Condition} {cs : List Condition} {item : Json}

/-- A condition that the schema admits is a proper one. -/
theorem proper_of_admits (h : Definition.conditionSchema.admits item = true) : Proper item where
  names m mem := Schema.mem_names_of_admitsMember (Schema.admitsMember_of_mem h m mem)
  texts name mem := by
    obtain ⟨v, there⟩ := Schema.exists_of_required rfl h mem
    have admitted {s : Schema} (declared : _ = some s) := Schema.admits_of_get? h there declared
    simp only [List.mem_cons, List.not_mem_nil, or_false] at mem
    -- the texts that are required, the first of which is a time
    rcases mem with rfl | rfl | rfl | rfl | rfl
    · obtain ⟨text, rfl, -⟩ := Schema.exists_of_admits_dateTime rfl (admitted rfl)
      exact ⟨text, there⟩
    all_goals
      obtain ⟨text, rfl⟩ := Schema.exists_of_admits_text rfl (admitted rfl)
      exact ⟨text, there⟩
  time text there := by
    obtain ⟨s, same, isTime⟩ :=
      Schema.exists_of_admits_dateTime rfl (Schema.admits_of_get? h there rfl)
    obtain rfl := Json.string.inj same
    exact isTime
  generation v there := by
    obtain ⟨i, rfl, holds⟩ :=
      Schema.exists_of_admits_integer rfl (Schema.admits_of_get? h there rfl)
    obtain ⟨low, high⟩ := of_decide_eq_true holds
    refine ⟨Int64.ofInt i, congrArg Json.ofInt (Int64.toInt_ofInt_of_le ?_ ?_).symm⟩
    · exact low
    · exact Int.lt_of_le_sub_one high

/-- A condition is written as the definition wants it. -/
theorem admits_write (valid : c.lastTransitionTime.Valid) (plain : c.lastTransitionTime.Plain) :
    Definition.conditionSchema.admits (format.write c) = true := by
  refine Schema.admits_object.2 ⟨fun m mem => Schema.admitsMember_iff.2 ?_, fun name mem => ?_⟩
  · -- a member that is there is one of the six that a condition can have
    have written : (m.1, some m.2) ∈ c.written := Json.mem_given.1 (Json.mem_sortMembers mem)
    obtain ⟨name, v⟩ := m
    simp only [Condition.written, List.mem_cons, List.not_mem_nil, or_false, Prod.mk.injEq]
      at written
    rcases written with ⟨rfl, there⟩ | ⟨rfl, there⟩ | ⟨rfl, there⟩ | ⟨rfl, there⟩ | ⟨rfl, there⟩ |
      ⟨rfl, there⟩
    · obtain rfl := Option.some.inj there
      refine ⟨.dateTime {}, rfl, Schema.admits_dateTime _ ?_⟩
      rw [String.toList_ofList]
      exact Timestamp.isDateTime_text valid plain
    · obtain rfl := Option.some.inj there
      exact ⟨.text {}, rfl, Schema.admits_text _ _⟩
    · obtain ⟨i, -, rfl⟩ := Option.map_eq_some_iff.1 there.symm
      have bounds := decide_eq_true (Format.int64_bounds i)
      exact ⟨.integer _ .int64, rfl, Schema.admits_integer _ bounds⟩
    all_goals
      obtain rfl := Option.some.inj there
      exact ⟨.text {}, rfl, Schema.admits_text _ _⟩
  · -- those that are required are written always, only the generation is not
    simp only [List.mem_cons, List.not_mem_nil, or_false] at mem
    rcases mem with rfl | rfl | rfl | rfl | rfl <;> exact ⟨_, c.get?_write _⟩

/-- Conditions are written as the definition wants them if no two have one type. -/
theorem admits_write_list {n : SchemaNotes} (valid : ∀ c ∈ cs, c.lastTransitionTime.Valid)
    (plain : ∀ c ∈ cs, c.lastTransitionTime.Plain) (apart : (types cs).Nodup) :
    (Schema.keyedList n ["type"] Definition.conditionSchema).admits (format.list.write cs) =
      true := by
  refine Schema.admits_keyedList.2 ⟨fun item mem => ?_, ?_⟩
  · obtain ⟨c, inside, rfl⟩ := List.mem_map.1 mem
    exact admits_write (valid c inside) (plain c inside)
  · have keys : ((cs.map format.write).map fun item => ["type"].map item.get?) =
        (types cs).map fun type => [some (.string type)] := by
      rw [types, List.map_map, List.map_map]
      refine List.map_congr_left fun c _ => ?_
      exact congrArg (fun v => [v]) (c.get?_write "type")
    rw [keys]
    -- keys are the same only if the types are
    refine apart.map fun type type' same => ?_
    exact Json.string.inj (Option.some.inj (List.cons.inj same).1)

/-- No two conditions that are admitted together have one type. -/
theorem nodup_types_of_admits {n : SchemaNotes} {items : List Json}
    (h : (Schema.keyedList n ["type"] Definition.conditionSchema).admits (.array items) = true) :
    (types (format.list.read (.array items))).Nodup := by
  obtain ⟨each, apart⟩ := Schema.admits_keyedList.1 h
  -- the key of an item is the type that it is read with
  have keys : (items.map fun item => ["type"].map item.get?) =
      (types (format.list.read (.array items))).map fun type => [some (.string type)] := by
    show _ = ((items.map format.read).map (·.type)).map _
    rw [List.map_map, List.map_map]
    refine List.map_congr_left fun item mem => congrArg (fun v => [v]) ?_
    obtain ⟨text, there⟩ := (proper_of_admits (each item mem)).texts "type" (by simp)
    have read : (format.read item).type = text := by
      show Format.string.presentD "type" "" item = text
      rw [Format.presentD, Format.present?_of_get? there (by rintro ⟨⟩)]
      rfl
    rw [there]
    exact congrArg (fun text => some (Json.string text)) read.symm
  rw [keys] at apart
  exact apart.of_map _

end Condition

/-! ### The status -/

namespace ClusterStatus

/-- A status that fits the definition, with conditions that have been set in years of four digits
at most, in UTC. -/
structure Fits (status : Json) : Prop where
  admitted : Definition.statusSchema.admits status = true
  plain : ∀ c ∈ (format.read status).conditions, c.lastTransitionTime.Plain

variable {status : Json} {members : List (String × Option Json)}
  {f : ClusterStatus → ClusterStatus}

/-- A status that fits does so when something that fits is merged into it. -/
theorem Fits.merge (h : Fits status) (turns : Turns members f)
    (fine : ∀ m ∈ members, ∀ v ∈ m.2, v ≠ .null →
      Schema.admitsMember Definition.statusSchema.properties (m.1, v) = true)
    (plain : ∀ c ∈ (f (format.read status)).conditions, c.lastTransitionTime.Plain) :
    Fits ((Json.record members).merge status) := by
  refine ⟨Schema.admits_merge turns.flat fine h.admitted, ?_⟩
  -- null stands for a status without members
  have read : format.read ((Json.record members).merge status) = f (format.read status) := by
    rcases Schema.eq_null_or_object h.admitted with rfl | ⟨ms, rfl⟩
    · exact turns.read []
    · exact turns.read ms
  rw [read]
  exact plain

/-- No two conditions of a status that fits have one type. -/
theorem Fits.apart (h : Fits status) : (Condition.types (format.read status).conditions).Nodup := by
  rcases Schema.eq_null_or_object h.admitted with rfl | ⟨ms, rfl⟩
  · exact List.nodup_nil
  · show (Condition.types
      (((Json.find? "conditions" ms).map Condition.format.list.read).getD [])).Nodup
    cases there : Json.find? "conditions" ms with
    | none => exact List.nodup_nil
    | some v =>
      have admitted := Schema.admits_of_get? h.admitted there rfl
      obtain ⟨items, rfl⟩ := Schema.exists_of_admits_keyedList rfl admitted
      exact Condition.nodup_types_of_admits admitted

/-- The conditions in a status that fits are a list of what the definition wants, and no two have
one type. -/
theorem Fits.conditions (h : Fits status) {v : Json} (there : status.get? "conditions" = some v) :
    ∃ items, v = .array items ∧ (∀ item ∈ items, Condition.Proper item) ∧
      (items.map (·.get? "type")).Nodup := by
  have admitted := Schema.admits_of_get? h.admitted there rfl
  obtain ⟨items, rfl⟩ := Schema.exists_of_admits_keyedList rfl admitted
  obtain ⟨each, apart⟩ := Schema.admits_keyedList.1 admitted
  refine ⟨items, rfl, fun item mem => Condition.proper_of_admits (each item mem), ?_⟩
  have keys : (items.map fun item => ["type"].map item.get?) =
      (items.map (·.get? "type")).map fun type => [type] := by
    rw [List.map_map]
    rfl
  rw [keys] at apart
  exact apart.of_map _

/-! Each call sets members that the definition declares, to values that it describes. -/

/-- A status with another phase fits. -/
theorem Fits.phase (h : Fits status) (phase : Phase) (message : Option String) :
    Fits ((Json.record (Status.phased phase message)).merge status) := by
  refine h.merge (turns_phase phase message) ?_ h.plain
  intro m mem v there apart
  refine Schema.admitsMember_iff.2 ?_
  simp only [Status.phased, List.mem_cons, List.not_mem_nil, or_false] at mem
  rcases mem with rfl | rfl
  · obtain rfl := Option.some.inj there
    exact ⟨_, rfl, Schema.admits_text _ _⟩
  · obtain rfl := Option.some.inj there
    cases message with
    | none => exact absurd rfl apart
    | some text => exact ⟨_, rfl, Schema.admits_text _ text⟩

theorem Fits.live (h : Fits status) (members : Int32) (version : Int64) :
    Fits ((Json.record (Status.live members version)).merge status) := by
  refine h.merge (turns_members members version) ?_ h.plain
  intro m mem v there _
  refine Schema.admitsMember_iff.2 ?_
  simp only [Status.live, List.mem_cons, List.not_mem_nil, or_false] at mem
  rcases mem with rfl | rfl
  · obtain rfl := Option.some.inj there
    exact ⟨_, rfl, Schema.admits_integer _ (decide_eq_true (Format.int32_bounds members))⟩
  · obtain rfl := Option.some.inj there
    exact ⟨_, rfl, Schema.admits_integer _ (decide_eq_true (Format.int64_bounds version))⟩

/-- A condition is brought up to date in a list that the definition wants. -/
theorem Fits.setIn (h : Fits status) {new : Condition} (valid : new.lastTransitionTime.Valid)
    (plain : new.lastTransitionTime.Plain)
    (stored : ∀ c ∈ (format.read status).conditions, c.lastTransitionTime.Valid) :
    Fits ((Json.record [("conditions", some
      (Condition.format.list.write (new.setIn (format.read status).conditions).1))]).merge
        status) := by
  have valid' := Condition.times_setIn valid stored
  have plain' := Condition.times_setIn plain h.plain
  refine h.merge (turns_conditions valid') ?_ plain'
  intro m mem v there _
  refine Schema.admitsMember_iff.2 ?_
  obtain rfl := List.mem_singleton.1 mem
  obtain rfl := Option.some.inj there
  exact ⟨_, rfl, Condition.admits_write_list valid' plain'
    (Condition.nodup_types_setIn new h.apart)⟩

end ClusterStatus

/-! ### The server -/

/-- The status that an object has, null if it has none. -/
def Json.statusPart (object : Json) : Json := (object.get? "status").getD .null

namespace Cluster

variable {ms : Json.Members}

/-- The conditions of a cluster without fault whose status fits were set at times that exist. -/
theorem valid_conditions (h : format.fault .value (.object ms) = none)
    (fits : ClusterStatus.Fits (Json.object ms).statusPart) :
    ∀ c ∈ (ClusterStatus.format.read (Json.object ms).statusPart).conditions,
      c.lastTransitionTime.Valid := by
  rcases Schema.eq_null_or_object fits.admitted with isNull | ⟨status, isStatus⟩
  · rw [isNull]
    exact fun _ mem => absurd mem List.not_mem_nil
  · -- then it is a member of the cluster, and has no fault as the cluster has none
    have there : Json.find? "status" ms = some (.object status) := by
      have part : (Json.find? "status" ms).getD .null = .object status := isStatus
      cases found : Json.find? "status" ms with
      | none =>
        rw [found] at part
        cases part
      | some v =>
        rw [found] at part
        exact congrArg some part
    rw [isStatus]
    exact ClusterStatus.valid_conditions (Record.fine_of_fault h _ (Json.mem_of_find? there))

end Cluster

/-- The server keeps an object under a key with a status that fits. -/
def Server.KeepsFitting (s : Server) (key : ObjectKey) : Prop :=
  ∃ ms, s.objects.find? key = some (.object ms) ∧
    ClusterStatus.Fits (Json.object ms).statusPart

variable {c : Cluster} {«namespace» : String} {s s' : Server} {js : List Entry}
  {o : Outcome Failure Unit}

/-- Where an answer stands for no object, nothing is done any more. -/
theorem Program.Logs.of_answer {α β : Type} {meets : Exchange → Prop} {r : Except ClientError α}
    {next : α → Program Failure β} {o : Outcome Failure β}
    (run : ((Program.ofExcept r).requesting.bind next).Logs meets s js o s') :
    (∃ a, r = .ok a ∧ (next a).Logs meets s js o s') ∨ s' = s := by
  cases r with
  | ok a => exact .inl ⟨a, rfl, run⟩
  | error e =>
    cases run
    exact .inr rfl

/-- After a patch the status of the object is what the patch makes of it, whatever else is in the
object and in the answer. -/
theorem Status.patch_fits (addressed : c.Addressed «namespace») {ms : Json.Members}
    (there : s.objects.find? (c.ownKey «namespace») = some (.object ms))
    {members : List (String × Option Json)}
    (fits : ClusterStatus.Fits ((Json.record members).merge (Json.object ms).statusPart))
    (run : (patch c members).Logs Exchange.Served s js o s') :
    s'.KeepsFitting (c.ownKey «namespace») := by
  rw [patch_eq addressed] at run
  cases run with
  | @request _ _ _ after _ response _ _ met rest =>
    have status : (changing members).get? "status" = some (Json.record members) :=
      Json.get?_record "status" (by simp)
    have served := Server.serve_mergeStatus_there there (by decide) (changing members)
    rw [status] at served
    have accepted : s.accept 200 (c.ownKey «namespace») ((changing members).merge (.object ms)) =
      (after, response) := served.symm.trans met
    -- the answer may be unreadable, but nothing else is sent
    have same : s' = after := by
      rcases rest.of_answer with ⟨_, -, rest⟩ | same
      · cases rest
        rfl
      · exact same
    rw [same]
    have stored := accepted ▸ Server.find?_accept s 200 (c.ownKey «namespace»)
      (c.ownKey «namespace») ((changing members).merge (.object ms))
    rw [if_pos rfl] at stored
    refine ⟨_, stored, ?_⟩
    -- the version that the object gets is no part of its status
    have part : Json.statusPart (((changing members).merge (.object ms)).stamped
        (s.objects.find? (c.ownKey «namespace»))) =
        (Json.record members).merge (Json.object ms).statusPart := by
      rw [Json.statusPart, Json.get?_stamped, if_neg (by decide), changing,
        Json.merge_member _ (by rintro ⟨⟩), Json.get?_set, if_pos rfl]
      rfl
    rw [← part] at fits
    exact fits

/-- If conditions have to be sent, the status fits with them. -/
theorem Status.updateConditions_fits (addressed : c.Addressed «namespace») {ms : Json.Members}
    (there : s.objects.find? (c.ownKey «namespace») = some (.object ms))
    (fine : Cluster.format.fault .value (.object ms) = none)
    (fits : ClusterStatus.Fits (Json.object ms).statusPart) {new : Condition}
    (valid : new.lastTransitionTime.Valid) (plain : new.lastTransitionTime.Plain)
    (run : (updateConditions c new (Cluster.format.read (.object ms)).status).Logs Exchange.Served
      s js o s') :
    s'.KeepsFitting (c.ownKey «namespace») := by
  have set := fits.setIn valid plain (Cluster.valid_conditions fine fits)
  unfold updateConditions at run
  rw [Cluster.status_read] at run
  dsimp only at run
  split at run
  · exact patch_fits addressed there set run
  · cases run
    exact ⟨ms, there, fits⟩

/-- A condition is reported in a list that is read at that time. -/
theorem Status.setCondition_fits (addressed : c.Addressed «namespace») {type : String}
    {report : Report} (h : s.KeepsFitting (c.ownKey «namespace»))
    (run : (setCondition c type report).Logs Exchange.Served s js o s')
    (plain : ∀ now ∈ Entry.readings js, now.Plain) :
    s'.KeepsFitting (c.ownKey «namespace») := by
  obtain ⟨ms, there, fits⟩ := id h
  rw [setCondition_eq addressed] at run
  cases run with
  | @request _ _ _ _ _ _ _ _ met rest =>
    -- what is read is what is stored; a cluster with a fault is left as it is
    have served := @Server.serve_get_there s Cluster.type _ _ _ there (by decide)
    obtain ⟨rfl, rfl⟩ := Prod.mk.inj (served.symm.trans met)
    rcases rest.of_answer with ⟨current, decoded, rest⟩ | same
    · rw [Response.decode_holding _ (by omega)] at decoded
      split at decoded
      · next fine =>
        obtain rfl := Except.ok.inj decoded
        cases rest with
        | clock now valid rest =>
          exact updateConditions_fits addressed there (Option.isNone_iff_eq_none.1 fine) fits valid
            (plain now List.mem_cons_self) rest
      · cases decoded
    · exact same ▸ h

namespace StatusCall

/-- A status that fits the definition does so after a call. -/
theorem program_fits (addressed : c.Addressed «namespace») (call : StatusCall)
    (h : s.KeepsFitting (c.ownKey «namespace»))
    (run : (call.program c).Logs Exchange.Served s js o s')
    (plain : ∀ now ∈ Entry.readings js, now.Plain) :
    s'.KeepsFitting (c.ownKey «namespace») := by
  cases call with
  | updatePhase phase message =>
    obtain ⟨ms, there, fits⟩ := h
    exact Status.patch_fits addressed there (fits.phase phase message) run
  | recordMembers members version =>
    obtain ⟨ms, there, fits⟩ := h
    exact Status.patch_fits addressed there (fits.live members version) run
  | setCondition type report => exact Status.setCondition_fits addressed h run plain

/-- A status that fits the definition does so after any calls, however far they get: it has no
members but those that are declared, so that nothing is taken from it, each of the declared type;
and its conditions are complete and have one type each. The clock shows years of four digits. -/
theorem sequence_fits (addressed : c.Addressed «namespace») (calls : List StatusCall)
    (h : s.KeepsFitting (c.ownKey «namespace»))
    (run : (sequence c calls).Logs Exchange.Served s js o s')
    (plain : ∀ now ∈ Entry.readings js, now.Plain) :
    ∃ ms, s'.objects.find? (c.ownKey «namespace») = some (.object ms) ∧
      ClusterStatus.Fits (Json.object ms).statusPart ∧
      Definition.statusSchema.prune (Json.object ms).statusPart = (Json.object ms).statusPart ∧
      ∀ v, (Json.object ms).statusPart.get? "conditions" = some v →
        ∃ items, v = .array items ∧ (∀ item ∈ items, Condition.Proper item) ∧
          (items.map (·.get? "type")).Nodup := by
  have keeps : s'.KeepsFitting (c.ownKey «namespace») := by
    -- each call finds a status that fits, which the ones before have left
    induction calls generalizing s js with
    | nil =>
      cases run
      exact h
    | cons call calls ih =>
      rcases Program.Logs.of_bind run with ⟨js₁, _, s₁, js₂, first, rest, rfl⟩ | ⟨_, first, -⟩
      · rw [Entry.readings_append] at plain
        have fits := program_fits addressed call h first fun now mem =>
          plain now (List.mem_append_left _ mem)
        exact ih fits rest fun now mem => plain now (List.mem_append_right _ mem)
      · exact program_fits addressed call h first plain
  obtain ⟨ms, there, fits⟩ := keeps
  exact ⟨ms, there, fits, Schema.prune_of_admits _ fits.admitted, fun v => fits.conditions⟩

/-- In the example, members that are being updated become ready: the status fits before, and when
both calls are through. -/
theorem sequence_fits_updating : ∃ js s' ms,
    (sequence updating [.setCondition readyCondition .ready, .updatePhase .running none]).Logs
      Exchange.Served updatingServer js (.done ()) s' ∧
    s'.objects.find? (updating.ownKey "prod") = some (.object ms) ∧
    Definition.statusSchema.prune (Json.object ms).statusPart = (Json.object ms).statusPart := by
  have addressed : updating.Addressed "prod" :=
    ⟨rfl, by decide, by decide, by decide, by decide, by decide⟩
  have clusters (e : Exchange) (served : e.Served) (_ : e.request.type = Cluster.type) :
      e.Served := served
  have valid : Timestamp.Valid ⟨2024, 2, 1, 0, 0, 0⟩ := by decide
  have total (s : Server) (r : Request) :
      ∃ response after, Exchange.Served ⟨s, r, response, after⟩ :=
    ⟨(s.serve r).2, (s.serve r).1, rfl⟩
  obtain ⟨js, o, s', run, shown⟩ := Program.exists_logs_at valid total
    (sequence updating [.setCondition readyCondition .ready, .updatePhase .running none])
    updatingServer
  have ends : (sequence updating [.setCondition readyCondition .ready,
      .updatePhase .running none]).Recounts Exchange.Served updatingServer fun _ _ _ => True := by
    refine .bind (program_recounts addressed clusters shows_updating _) ?_
    rintro _ _ s₁ ⟨-, shows⟩
    exact .bind (program_recounts addressed clusters shows _) fun _ _ _ _ => .done trivial
  obtain ⟨_, rfl, -⟩ := ends js o s' run
  have fits : updatingServer.KeepsFitting (updating.ownKey "prod") :=
    ⟨_, rfl, by decide, by decide⟩
  obtain ⟨ms, there, -, whole, -⟩ := sequence_fits addressed _ fits run fun now mem =>
    shown now mem ▸ by decide
  exact ⟨js, s', ms, run, there, whole⟩

end StatusCall

end ReplicaSetOperator
