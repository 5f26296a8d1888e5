import Mathlib.Data.List.Induction
import Mathlib.Data.List.Nodup
import ReplicaSetOperator.Proofs.Object.Conditions

/-!
# The history of a list of conditions

Calls bring a list of conditions up to date one after another (`Condition.setAll`). What the list
says of a type afterwards depends on the calls for that type alone, and on the condition of the type
at the start (`Condition.find?_setAll`). The last of these calls says all but the time; the time is
told by the run of calls at the end that have its status (`Condition.EndsInRun`): it is that of the
first call of the run, unless the run goes back to the start and the status was there already
(`Condition.since`).

The main statement is `Condition.setAll_recounts`, about lists in which no type stands twice. It
adds that the types stay apart, old ones at their places and new ones in the order of their first
calls (`Condition.types_setAll`), and that a call tells whether it has changed anything.
-/

namespace ReplicaSetOperator

namespace Condition

variable {cs calls : List Condition} {c old new : Condition} {type : String}

/-! ### One call -/

/-- What a list says of the type of a call afterwards. -/
theorem find?_setIn_self (new : Condition) (cs : List Condition) :
    find? new.type (setIn new cs).1 =
      some (((find? new.type cs).map (·.updatedBy new)).getD new) := by
  induction cs with
  | nil => exact (find?_cons _ _ _).trans (if_pos rfl)
  | cons old rest ih =>
    unfold setIn
    by_cases same : old.type = new.type
    · rw [if_pos same, find?_cons new.type old, if_pos same]
      exact (find?_cons _ _ _).trans (if_pos same)
    · rw [if_neg same]
      refine ((find?_cons _ _ _).trans (if_neg same)).trans ?_
      rw [ih, find?_cons new.type old, if_neg same]

/-- The types of a list of conditions. -/
def types (cs : List Condition) : List String := cs.map (·.type)

/-- A new type comes last, and the others stay at their places. -/
theorem types_setIn (new : Condition) (cs : List Condition) :
    types (setIn new cs).1 =
      if new.type ∈ types cs then types cs else types cs ++ [new.type] := by
  induction cs with
  | nil => rfl
  | cons old rest ih =>
    have cons : types (old :: rest) = old.type :: types rest := rfl
    unfold setIn
    by_cases same : old.type = new.type
    · -- the condition takes this place, where its type has been already
      rw [if_pos same, cons, same, if_pos List.mem_cons_self]
      exact congrArg (· :: types rest) same
    · rw [if_neg same, cons]
      have tail : types (old :: (setIn new rest).1) = old.type :: types (setIn new rest).1 := rfl
      refine tail.trans ?_
      rw [ih]
      by_cases there : new.type ∈ types rest
      · rw [if_pos there, if_pos (List.mem_cons_of_mem _ there)]
      · rw [if_neg there, if_neg fun mem => (List.mem_cons.1 mem).elim (Ne.symm same) there]
        rfl

/-- The types stay apart when a condition is set. -/
theorem nodup_types_setIn (new : Condition) (apart : (types cs).Nodup) :
    (types (setIn new cs).1).Nodup := by
  -- the type was there before, or it is a new one at the end
  rw [types_setIn]
  by_cases there : new.type ∈ types cs
  · rw [if_pos there]
    exact apart
  · rw [if_neg there]
    rw [← List.concat_eq_append]
    exact apart.concat there

/-- A condition of another type stays at its place. -/
theorem getElem?_setIn_of_ne {i : Nat} (there : cs[i]? = some c) (apart : c.type ≠ new.type) :
    (setIn new cs).1[i]? = some c := by
  induction cs generalizing i with
  | nil => cases there
  | cons old rest ih =>
    unfold setIn
    -- only the first condition of the type is changed
    by_cases same : old.type = new.type
    · rw [if_pos same]
      cases i with
      | zero =>
        obtain rfl : old = c := Option.some.inj there
        exact absurd same apart
      | succ i => exact there
    · rw [if_neg same]
      cases i with
      | zero => exact there
      | succ i => exact ih there

/-- Two conditions say the same, since whenever they do. -/
def Agrees (c new : Condition) : Prop :=
  c.status = new.status ∧ c.reason = new.reason ∧ c.message = new.message ∧
    c.observedGeneration = new.observedGeneration

/-- Two conditions say the same exactly if they do not differ. -/
theorem agrees_iff_differs : c.Agrees new ↔ c.differs new = false := (differs_eq_false c new).symm

/-- What is brought up to date says what was to be said. -/
theorem agrees_updatedBy (old new : Condition) : (old.updatedBy new).Agrees new :=
  ⟨rfl, rfl, rfl, rfl⟩

/-- Where no type stands twice, every condition is found by its type. -/
theorem find?_of_mem (apart : (types cs).Nodup) (mem : c ∈ cs) : find? c.type cs = some c := by
  induction cs with
  | nil => cases mem
  | cons first rest ih =>
    obtain ⟨notThere, others⟩ := List.nodup_cons.1 apart
    rw [find?_cons]
    rcases List.mem_cons.1 mem with rfl | later
    · exact if_pos rfl
    · -- the first condition has another type, which would stand twice otherwise
      have other : first.type ≠ c.type := by
        intro same
        have there : c.type ∈ types rest := List.mem_map_of_mem later
        rw [← same] at there
        exact notThere there
      rw [if_neg other]
      exact ih others later

/-- A call changes nothing exactly if it leaves the list as it is. -/
theorem unchanged_iff_eq : (setIn new cs).2 = false ↔ (setIn new cs).1 = cs := by
  refine ⟨setIn_of_unchanged, fun same => ?_⟩
  obtain ⟨c, found, agrees⟩ := find?_setIn new cs
  rw [same] at found
  rw [snd_setIn, found]
  exact agrees

/-- A call changes nothing exactly if the list has a condition of its type that says the same. -/
theorem unchanged_iff_exists (apart : (types cs).Nodup) :
    (setIn new cs).2 = false ↔ ∃ old ∈ cs, old.type = new.type ∧ old.Agrees new := by
  constructor
  · intro unchanged
    rw [snd_setIn] at unchanged
    -- what is found of the type is the condition, and there has to be one
    cases found : find? new.type cs with
    | none =>
      rw [found] at unchanged
      cases unchanged
    | some old =>
      rw [found] at unchanged
      refine ⟨old, List.mem_of_find?_eq_some found, ?_, agrees_iff_differs.2 unchanged⟩
      simpa using List.find?_some found
  · rintro ⟨old, mem, same, agrees⟩
    rw [snd_setIn, ← same, find?_of_mem apart mem]
    exact agrees_iff_differs.1 agrees

/-! ### A run of calls -/

/-- Calls of one type that end in a run: those before it, the first call of the run, and the rest of
it, which all have its status, while the last call before it has another one. -/
structure EndsInRun (calls before : List Condition) (first : Condition) (rest : List Condition) :
    Prop where
  calls_eq : calls = before ++ first :: rest
  status_eq : ∀ call ∈ rest, call.status = first.status
  status_ne : ∀ call ∈ before.getLast?, call.status ≠ first.status

/-- Since when a status holds that a run has brought: since the first call of the run, but if the
run goes back to the start, and the status was there, since then. -/
def since (start : Option Condition) (before : List Condition) (first : Condition) : Timestamp :=
  match start with
  | none => first.lastTransitionTime
  | some old =>
    if before = [] ∧ old.status = first.status then old.lastTransitionTime
    else first.lastTransitionTime

/-- What calls of one type make of a condition, or of none. -/
def folded (start : Option Condition) (calls : List Condition) : Option Condition :=
  calls.foldl (fun current new => some ((current.map (·.updatedBy new)).getD new)) start

theorem folded_concat (start : Option Condition) (calls : List Condition) (new : Condition) :
    folded start (calls ++ [new]) =
      some (((folded start calls).map (·.updatedBy new)).getD new) := by
  rw [folded, List.foldl_append]
  rfl

/-- The condition is what the run at the end of the calls tells. -/
structure Recounts (start : Option Condition) (calls : List Condition) (c : Condition)
    (before : List Condition) (first : Condition) (rest : List Condition) : Prop where
  run : EndsInRun calls before first rest
  agrees : c.Agrees ((first :: rest).getLast (List.cons_ne_nil first rest))
  since_eq : c.lastTransitionTime = since start before first

/-- The only call begins a run that goes back to the start. -/
theorem recounts_first (start : Option Condition) (new : Condition) :
    Recounts start [new] ((start.map (·.updatedBy new)).getD new) [] new [] where
  run := ⟨rfl, fun _ mem => absurd mem List.not_mem_nil, by rintro call ⟨⟩⟩
  agrees := by
    cases start with
    | none => exact ⟨rfl, rfl, rfl, rfl⟩
    | some old => exact agrees_updatedBy old new
  since_eq := by
    cases start with
    | none => rfl
    | some old =>
      show (if old.status = new.status then _ else _) = since (some old) [] new
      by_cases same : old.status = new.status
      · rw [if_pos same, since, if_pos ⟨rfl, same⟩]
      · rw [if_neg same, since, if_neg fun both => same both.2]

namespace Recounts

variable {start : Option Condition} {before rest : List Condition} {first : Condition}

/-- The condition has the status of the run. -/
theorem status_eq (h : Recounts start calls c before first rest) : c.status = first.status := by
  rw [h.agrees.1]
  rcases List.mem_cons.1 (List.getLast_mem (List.cons_ne_nil first rest)) with same | later
  · rw [same]
  · exact h.run.status_eq _ later

/-- A call with the status of the run goes on with it, and with its time. -/
theorem continued (h : Recounts start calls c before first rest) (same : c.status = new.status) :
    Recounts start (calls ++ [new]) (c.updatedBy new) before first (rest ++ [new]) where
  run := by
    refine ⟨?_, List.forall_mem_append.2 ⟨h.run.status_eq, List.forall_mem_singleton.2 ?_⟩,
      h.run.status_ne⟩
    · rw [h.run.calls_eq, List.append_assoc, List.cons_append]
    · rw [← same, h.status_eq]
  agrees := by
    have last : (first :: (rest ++ [new])).getLast (List.cons_ne_nil _ _) = new :=
      List.getLast_append_singleton (first :: rest)
    rw [last]
    exact agrees_updatedBy c new
  since_eq := by
    rw [← h.since_eq]
    exact if_pos same

/-- A call with another status begins a run of its own. -/
theorem turned (h : Recounts start calls c before first rest) (differs : c.status ≠ new.status) :
    Recounts start (calls ++ [new]) (c.updatedBy new) calls new [] where
  run := by
    refine ⟨rfl, fun _ mem => absurd mem List.not_mem_nil, fun call mem => ?_⟩
    -- the last of the calls before is the one that the condition agrees with
    have isLast : calls.getLast? =
        some ((first :: rest).getLast (List.cons_ne_nil first rest)) := by
      rw [h.run.calls_eq, List.getLast?_append,
        List.getLast?_eq_some_getLast (List.cons_ne_nil first rest)]
      rfl
    obtain rfl := Option.some.inj (isLast.symm.trans mem)
    rw [← h.agrees.1]
    exact differs
  agrees := agrees_updatedBy c new
  since_eq := by
    have some_call : calls ≠ [] := by
      rw [h.run.calls_eq]
      exact List.append_ne_nil_of_right_ne_nil _ (List.cons_ne_nil _ _)
    -- the run does not go back to the start, as there are calls before it
    have time : (c.updatedBy new).lastTransitionTime = new.lastTransitionTime := if_neg differs
    rw [time]
    cases start with
    | none => rfl
    | some old => exact (if_neg fun both => some_call both.1).symm

end Recounts

/-- Calls that there are end in a run, and make a condition that is what the run tells. -/
theorem exists_recounts (start : Option Condition) (some_call : calls ≠ []) :
    ∃ c before first rest, folded start calls = some c ∧
      Recounts start calls c before first rest := by
  induction calls using List.reverseRecOn with
  | nil => exact absurd rfl some_call
  | append_singleton earlier new ih =>
    -- the last call goes on with the run or begins one
    rw [folded_concat]
    by_cases only : earlier = []
    · subst only
      exact ⟨_, _, _, _, rfl, recounts_first start new⟩
    · obtain ⟨c, before, first, rest, isFolded, recounts⟩ := ih only
      rw [isFolded]
      by_cases same : c.status = new.status
      · exact ⟨_, _, _, _, rfl, recounts.continued same⟩
      · exact ⟨_, _, _, _, rfl, recounts.turned same⟩

/-! ### Many calls -/

/-- The list after calls one after another. -/
def setAll (calls cs : List Condition) : List Condition :=
  calls.foldl (fun cs new => (setIn new cs).1) cs

theorem setAll_cons (new : Condition) (calls cs : List Condition) :
    setAll (new :: calls) cs = setAll calls (setIn new cs).1 := rfl

theorem setAll_concat (calls : List Condition) (new : Condition) (cs : List Condition) :
    setAll (calls ++ [new]) cs = (setIn new (setAll calls cs)).1 := by
  rw [setAll, List.foldl_append]
  rfl

/-- What a list says of a type depends on the calls for that type alone. -/
theorem find?_setAll (type : String) (calls cs : List Condition) :
    find? type (setAll calls cs) =
      folded (find? type cs) (calls.filter fun call => call.type = type) := by
  induction calls using List.reverseRecOn with
  | nil => rfl
  | append_singleton calls new ih =>
    rw [setAll_concat, List.filter_append]
    by_cases same : new.type = type
    · subst same
      rw [find?_setIn_self, List.filter_cons_of_pos (by simp), List.filter_nil, folded_concat, ih]
    · rw [find?_setIn_of_ne new same, List.filter_cons_of_neg (by simpa using same),
        List.filter_nil, List.append_nil, ih]

/-- The types of the calls follow those of the list, without those that the list has and each of
them once, in the order of their first calls. -/
theorem types_setAll (calls cs : List Condition) :
    types (setAll calls cs) =
      types cs ++ ((types calls).filter (· ∉ types cs)).eraseDups := by
  induction calls generalizing cs with
  | nil => exact (List.append_nil _).symm
  | cons new calls ih =>
    have cons : types (new :: calls) = new.type :: types calls := rfl
    rw [setAll_cons, ih, types_setIn, cons]
    by_cases there : new.type ∈ types cs
    · rw [if_pos there, List.filter_cons_of_neg (by simpa using there)]
    · rw [if_neg there, List.filter_cons_of_pos (by simpa using there), List.eraseDups_cons,
        List.filter_filter, List.append_assoc]
      -- later calls for the new type find it in the list
      refine congrArg (types cs ++ new.type :: ·.eraseDups) (List.filter_congr fun t _ => ?_)
      by_cases same : t = new.type
      · simp [same]
      · simp [same]

/-- The types stay apart, whatever the calls are. -/
theorem nodup_types_setAll (calls : List Condition) (apart : (types cs).Nodup) :
    (types (setAll calls cs)).Nodup := by
  induction calls generalizing cs with
  | nil => exact apart
  | cons new calls ih => exact ih (nodup_types_setIn new apart)

/-- A condition stays as it is, and where it is, if there is no call for its type. -/
theorem getElem?_setAll_of_notMem {i : Nat} (there : cs[i]? = some c)
    (apart : c.type ∉ types calls) : (setAll calls cs)[i]? = some c := by
  induction calls generalizing cs with
  | nil => exact there
  | cons new calls ih =>
    obtain ⟨first, others⟩ := not_or.1 fun mem => apart (List.mem_cons.2 mem)
    exact ih (getElem?_setIn_of_ne there first) others

/-- Calls for other types do not change what the list says of a type. -/
theorem find?_setAll_of_notMem (apart : type ∉ types calls) :
    find? type (setAll calls cs) = find? type cs := by
  have none : (calls.filter fun call => call.type = type) = [] := by
    refine List.filter_eq_nil_iff.2 fun call mem => ?_
    intro same
    have there : call.type ∈ types calls := List.mem_map_of_mem mem
    rw [of_decide_eq_true same] at there
    exact apart there
  rw [find?_setAll, none]
  rfl

/-- What a list says of a type that is called for is what the run at the end tells. -/
theorem exists_recounts_setAll (mem : type ∈ types calls) (cs : List Condition) :
    ∃ c before first rest, find? type (setAll calls cs) = some c ∧
      Recounts (find? type cs) (calls.filter fun call => call.type = type) c before first rest := by
  obtain ⟨call, inCalls, same⟩ := List.mem_map.1 mem
  have there : (calls.filter fun call => call.type = type) ≠ [] :=
    List.ne_nil_of_mem (List.mem_filter.2 ⟨inCalls, decide_eq_true same⟩)
  rw [find?_setAll]
  exact exists_recounts _ there

/-- Calls on a list in which no type stands twice. The types stay apart; the old ones keep their
places, and new ones follow in the order of their first calls. What there is no call for stays as it
is. Of any other type the list says what its last call says, since the first call of the run at the
end of its calls, or since before. And a call reports no change exactly if it leaves the list as it
is, that is if the list says the same of its type already. -/
theorem setAll_recounts (apart : (types cs).Nodup) (calls : List Condition) :
    (types (setAll calls cs)).Nodup ∧
    types (setAll calls cs) = types cs ++ ((types calls).filter (· ∉ types cs)).eraseDups ∧
    (∀ (i : Nat) (c : Condition), cs[i]? = some c → c.type ∉ types calls →
      (setAll calls cs)[i]? = some c) ∧
    (∀ type, type ∉ types calls → find? type (setAll calls cs) = find? type cs ∧
      isTrue type (setAll calls cs) = isTrue type cs) ∧
    (∀ type ∈ types calls, ∃ c before first rest,
      find? type (setAll calls cs) = some c ∧
      Recounts (find? type cs) (calls.filter fun call => call.type = type) c before first rest ∧
      (isTrue type (setAll calls cs) = true ↔
        ((first :: rest).getLast (List.cons_ne_nil first rest)).status = "True")) ∧
    ∀ new : Condition,
      ((setIn new (setAll calls cs)).2 = false ↔
        (setIn new (setAll calls cs)).1 = setAll calls cs) ∧
      ((setIn new (setAll calls cs)).1 = setAll calls cs ↔
        ∃ old ∈ setAll calls cs, old.type = new.type ∧ old.Agrees new) := by
  have stillApart := nodup_types_setAll calls apart
  -- places and other types by induction on the calls, the type itself by its last run
  refine ⟨stillApart, types_setAll calls cs,
    fun i c there notCalled => getElem?_setAll_of_notMem there notCalled,
    fun type notCalled => ?_, fun type called => ?_, fun new => ⟨unchanged_iff_eq, ?_⟩⟩
  · have same : find? type (setAll calls cs) = find? type cs := find?_setAll_of_notMem notCalled
    exact ⟨same, isTrue_congr same⟩
  · obtain ⟨c, before, first, rest, found, recounts⟩ := exists_recounts_setAll called cs
    refine ⟨c, before, first, rest, found, recounts, ?_⟩
    rw [isTrue, found, Option.any_some, recounts.agrees.1, beq_iff_eq]
  · rw [← unchanged_iff_eq]
    exact unchanged_iff_exists stillApart

/-! ### A condition that returns -/

/-- A condition, in an example, that is told of in a second of one day. -/
def told (second : Nat) (type status : String) (reason : Reason) : Condition where
  lastTransitionTime := ⟨2024, 1, 1, 0, 0, second⟩
  message := ""
  observedGeneration := some 1
  reason := reason.label
  status := status
  type := type

/-- A list that holds one condition. -/
def steady : List Condition := [told 1 readyCondition "True" .membersReady]

/-- Calls in which its status goes and comes back, and stays when they are over. -/
def returning : List Condition :=
  [told 2 readyCondition "False" .membersUpdating, told 3 tlsCondition "False" .tlsStaged,
   told 4 readyCondition "True" .membersReady, told 5 readyCondition "True" .membersReady]

/-- The status holds since it came back, not since the start and not since the last call. -/
theorem setAll_recounts_returning :
    (types steady).Nodup ∧ readyCondition ∈ types returning ∧
    (types (setAll returning steady)).Nodup ∧
    types (setAll returning steady) = [readyCondition, tlsCondition] ∧
    ∃ c before first rest, find? readyCondition (setAll returning steady) = some c ∧
      Recounts (find? readyCondition steady)
        (returning.filter fun call => call.type = readyCondition) c before first rest ∧
      c.lastTransitionTime = ⟨2024, 1, 1, 0, 0, 4⟩ := by
  have apart : (types steady).Nodup := List.nodup_singleton _
  have called : readyCondition ∈ types returning := List.mem_cons_self
  obtain ⟨stillApart, isTypes, -, -, recounts, -⟩ := setAll_recounts apart returning
  obtain ⟨c, before, first, rest, found, recount, -⟩ := recounts readyCondition called
  have time : (find? readyCondition (setAll returning steady)).map (·.lastTransitionTime) =
      some ⟨2024, 1, 1, 0, 0, 4⟩ := rfl
  rw [found] at time
  refine ⟨apart, called, stillApart, ?_, c, before, first, rest, found, recount,
    Option.some.inj time⟩
  rw [isTypes]
  decide

end Condition

end ReplicaSetOperator
