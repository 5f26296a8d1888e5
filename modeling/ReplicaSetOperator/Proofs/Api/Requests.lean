import ReplicaSetOperator.Operator.Material
import ReplicaSetOperator.Proofs.Json.Returns
import ReplicaSetOperator.Server.Basic

/-!
# Requests about plain names

The operations of the client and of the store, for objects whose names arrive as they are meant:
each is one request (`Request.about`), and goes on with what the answer holds. The answers of the
server are those that hold an object (`Response.decode_holding`) and those that describe a failure
(`Response.decode_failing`).
-/

namespace ReplicaSetOperator

/-- Whatever arrives of the address with a text that begins with plain steps, if what follows them
is no path. -/
theorem Address.eq_of_ofText? {t : ObjectType} {text : String} {a : Address} (steps : List String)
    {tail query : List Char} (arrives : ofText? t text = some a)
    (plain : ∀ step ∈ steps, isPlain step) (filled : steps ≠ [])
    (apart : text.toList = pathOf steps ++ tail) (ending : readPath tail = some ([], query)) :
    a = ⟨steps.headD "", steps[1]?.getD "", steps[2]?, steps[3]?, query? query⟩ := by
  -- a text that is too long has no address at all
  have room : hasRoom t text.utf8ByteSize = true := by
    rw [← Bool.not_eq_false]
    intro full
    rw [ofText?, full] at arrives
    cases arrives
  exact Option.some.inj (arrives.symm.trans (ofText?_eq steps room plain filled apart ending))

namespace Request

/-- The request about an object, or about its status only, as it arrives. -/
def about (verb : Verb) (type : ObjectType) («namespace» name : String) (payload : Payload)
    (statusOnly : Bool := false) : Request where
  verb := verb
  type := type
  «namespace» := «namespace»
  name := name
  part := if statusOnly then some statusPart else none
  query := verb.query
  payload := payload

variable {type : ObjectType} {«namespace» name : String}

/-- To create an object at a plain address is a request about it. -/
theorem creating?_eq_about (body : Json) (plain : Addressable type «namespace» name) :
    creating? type «namespace» name body =
      some (about .create type «namespace» name (.value body)) :=
  creating?_eq body plain

/-- Whatever an object is called, a request about it asks for what it was made to ask for. -/
theorem verb_of_about? {verb : Verb} {payload : Payload} {statusOnly : Bool} {r : Request}
    (h : about? verb type «namespace» name payload statusOnly = some r) : r.verb = verb := by
  rw [about?] at h
  split at h
  · cases h
  · obtain ⟨a, -, rfl⟩ := Option.map_eq_some_iff.1 h
    rfl

theorem payload_of_about? {verb : Verb} {payload : Payload} {statusOnly : Bool} {r : Request}
    (h : about? verb type «namespace» name payload statusOnly = some r) : r.payload = payload := by
  rw [about?] at h
  split at h
  · cases h
  · obtain ⟨a, -, rfl⟩ := Option.map_eq_some_iff.1 h
    rfl

/-- Wherever a request to create an object arrives, it is one, and it carries the object. -/
theorem of_creating? {body : Json} {r : Request}
    (h : creating? type «namespace» name body = some r) :
    r.verb = .create ∧ r.payload = .value body := by
  obtain ⟨a, -, rfl⟩ := Option.map_eq_some_iff.1 h
  exact ⟨rfl, rfl⟩

/-- Whatever an object is called, a request about it stays in the collection of its type. -/
theorem type_of_about? {verb : Verb} {payload : Payload} {statusOnly : Bool} {r : Request}
    (known : Address.kindIn type.collection = type.kind)
    (plainCollection : Address.isPlain type.collection = true)
    (plainNamespace : Address.isPlain «namespace» = true)
    (h : about? verb type «namespace» name payload statusOnly = some r) :
    r.verb = verb ∧ r.type = type := by
  rw [about?] at h
  split at h
  · cases h
  obtain ⟨a, arrives, rfl⟩ := Option.map_eq_some_iff.1 h
  refine ⟨rfl, ?_⟩
  rw [Address.ofText?] at arrives
  split at arrives
  · obtain ⟨p, isRead, rfl⟩ := Option.map_eq_some_iff.1 arrives
    -- the name comes last, so that it cannot reach what stands before it
    have front : (type.place «namespace» ++ "/" ++ name ++ tail verb statusOnly).toList =
        («namespace».toList ++ '/' :: (type.collection.toList ++ ['/'])) ++
          (name.toList ++ (tail verb statusOnly).toList) := by
      simp [ObjectType.place]
    have slash : Address.inPath '/' = true := by decide
    have inPath : («namespace».toList ++ '/' :: (type.collection.toList ++ ['/'])).all
        Address.inPath = true := by
      simp only [List.all_append, List.all_cons, List.all_nil, slash,
        Address.all_inPath_of_isPlain plainNamespace,
        Address.all_inPath_of_isPlain plainCollection, Bool.and_self]
    rw [front, Address.readPath_append _ inPath] at isRead
    obtain ⟨q, -, rfl⟩ := Option.map_eq_some_iff.1 isRead
    have first := List.splitOn_eq_singleton (Address.slash_notMem_of_isPlain plainNamespace)
    have second := List.splitOn_eq_singleton (Address.slash_notMem_of_isPlain plainCollection)
    -- the path is split at its slashes, of which neither of the first two parts has one
    have collection : (Address.ofParts
        («namespace».toList ++ '/' :: (type.collection.toList ++ ['/']) ++ q.1) q.2).collection =
        type.collection := by
      rw [Address.ofParts, List.append_assoc, List.cons_append, List.append_assoc,
        List.cons_append, List.nil_append, List.splitOn_append_cons_self,
        List.splitOn_append_cons_self, first, second]
      exact String.ofList_toList
    rw [arriving, collection, known]
  · cases arrives

/-! A name that is plain arrives as it is meant if it arrives at all. -/

section

variable (known : Address.kindIn type.collection = type.kind)
  (plainCollection : Address.isPlain type.collection = true)
  (plainNamespace : Address.isPlain «namespace» = true)

include known plainCollection plainNamespace

/-- A request about a plain name is about the object of that name, be it about its status or not. -/
theorem key_of_about? {verb : Verb} {payload : Payload} {statusOnly : Bool} {r : Request}
    (plainName : Address.isPlain name = true)
    (h : about? verb type «namespace» name payload statusOnly = some r) :
    Server.key r = ⟨type.kind, «namespace», name⟩ := by
  rw [about?] at h
  split at h
  · cases h
  obtain ⟨a, arrives, rfl⟩ := Option.map_eq_some_iff.1 h
  cases statusOnly with
  | false =>
    have steps : ∀ step ∈ [«namespace», type.collection, name], Address.isPlain step = true := by
      simpa using ⟨plainNamespace, plainCollection, plainName⟩
    -- the address has as many steps as the text has plain parts
    rw [Address.eq_of_ofText? _ arrives steps (by simp)
      (by simp [tail, ObjectType.place, Address.pathOf, List.intercalate]) (readPath_tail verb)]
    simp [arriving, Server.key, known]
  | true =>
    -- the part that addresses the status comes last, and is plain too
    have status : Address.isPlain statusPart = true := by decide
    have steps : ∀ step ∈ [«namespace», type.collection, name, statusPart],
        Address.isPlain step = true := by
      simpa using ⟨plainNamespace, plainCollection, plainName, status⟩
    rw [Address.eq_of_ofText? _ arrives steps (by simp)
      (by simp [tail, ObjectType.place, Address.pathOf, List.intercalate]) (readPath_tail verb)]
    simp [arriving, Server.key, known]

/-- The name is in the body, so that it may be any. -/
theorem key_of_creating? {body : Json} {r : Request}
    (h : creating? type «namespace» name body = some r) :
    Server.key r = ⟨type.kind, «namespace», name⟩ := by
  obtain ⟨a, arrives, rfl⟩ := Option.map_eq_some_iff.1 h
  have steps : ∀ step ∈ [«namespace», type.collection], Address.isPlain step = true := by
    simpa using ⟨plainNamespace, plainCollection⟩
  rw [Address.eq_of_ofText? _ arrives steps (by simp)
    (by simp [ObjectType.place, Address.pathOf, List.intercalate]) (readPath_tail .create)]
  simp [arriving, Server.key, known]

end

end Request

namespace Client

variable {α : Type} {t : Resource α} {«namespace» name : String}

/-- Reading an object is one request, and what is found is what its answer holds. -/
theorem get_eq (plain : Request.Addressable t.type «namespace» name) :
    get t «namespace» name =
      .request (.about .get t.type «namespace» name .none) fun r => .ofExcept (r.decode t) := by
  rw [get, Request.about?_eq .get .none false plain]
  rfl

/-- Creating an object sends it whole. -/
theorem create_eq (plain : Request.Addressable t.type «namespace» name) (object : α) :
    create t «namespace» name object =
      .request (.about .create t.type «namespace» name (.value (sent t object))) fun r =>
        .ofExcept (r.decode t) := by
  rw [create, Request.creating?_eq_about _ plain]
  rfl

theorem replace_eq (plain : Request.Addressable t.type «namespace» name) (object : α) :
    replace t «namespace» name object =
      .request (.about .replace t.type «namespace» name (.value (sent t object))) fun r =>
        .ofExcept (r.decode t) := by
  rw [replace, Request.about?_eq .replace _ false plain]
  rfl

/-- Applying an object sends it whole, and what becomes of the one that is there already is for the
server to say. -/
theorem apply_eq (plain : Request.Addressable t.type «namespace» name) (object : α) :
    apply t «namespace» name object =
      .request (.about .apply t.type «namespace» name (.value (sent t object))) fun r =>
        .ofExcept (r.decode t) := by
  rw [apply, Request.about?_eq .apply _ false plain]
  rfl

/-- A merge patch is sent as it is, to the object. -/
theorem merge_eq (plain : Request.Addressable t.type «namespace» name) (patch : Json) :
    merge t «namespace» name patch =
      .request (.about .merge t.type «namespace» name (.value patch)) fun r =>
        .ofExcept (r.decode t) := by
  rw [merge, Request.about?_eq .merge _ false plain]
  rfl

/-- A merge patch of the status is sent to that part of the object. -/
theorem mergeStatus_eq (plain : Request.Addressable t.type «namespace» name) (patch : Json) :
    mergeStatus t «namespace» name patch =
      .request (.about .merge t.type «namespace» name (.value patch) true) fun r =>
        .ofExcept (r.decode t) := by
  rw [mergeStatus, Request.about?_eq .merge _ true plain]
  rfl

/-- The operations of a patch are sent together. -/
theorem patch_eq (plain : Request.Addressable t.type «namespace» name)
    (operations : List PatchOperation) :
    patch t «namespace» name operations =
      .request (.about .json t.type «namespace» name (.patch operations)) fun r =>
        .ofExcept (r.decode t) := by
  rw [patch, Request.about?_eq .json _ false plain]
  rfl

end Client

/-! ### Answers -/

namespace Response

variable {α : Type} (t : Resource α)

/-- An answer that holds an object stands for what the object is read as. -/
theorem decode_holding {code : Nat} (success : 200 ≤ code ∧ code < 400) (object : Json) :
    (holding code object).decode t =
      if (t.format.fault .value object).isNone then .ok (t.reread (t.format.read object))
      else .error .undecodable := by
  -- a success has a code of three digits, which is not that of a failure
  have arrives : (holding code object).hasCode = true := by
    show (decide (100 ≤ code) && decide (code < 1000)) = true
    simp only [Bool.and_eq_true, decide_eq_true_eq]
    omega
  have succeeds : (holding code object).isFailure = false := by
    show (decide (400 ≤ code) && decide (code < 600)) = false
    simp only [Bool.and_eq_false_iff, decide_eq_false_iff_not]
    omega
  rw [decode, arrives, succeeds]
  simp only [Bool.not_true, Bool.false_eq_true, if_false]
  rw [holding, Content.decode?]
  cases (t.format.fault .value object).isNone <;> rfl

/-- What an answer holds is read if it has no fault. -/
theorem decode_fine {code : Nat} (success : 200 ≤ code ∧ code < 400) {object : Json}
    (fine : t.format.fault .value object = none) :
    (holding code object).decode t = .ok (t.reread (t.format.read object)) := by
  rw [decode_holding t success, fine]
  rfl

/-- The codes from 400 on are those of failures. -/
theorem isFailure_failing {code : Nat} (failure : 400 ≤ code ∧ code < 600)
    (reason message : String) : (failing code reason message).isFailure = true := by
  show (decide (400 ≤ code) && decide (code < 600)) = true
  simpa using failure

/-- An answer that is a failure stands for none. -/
theorem decode_of_isFailure {r : Response} (h : r.isFailure = true) :
    r.decode t = .error r.failure := by
  -- the codes of failures have three digits
  have arrives : r.hasCode = true := by
    simp only [isFailure, hasCode, Bool.and_eq_true, decide_eq_true_eq] at h ⊢
    omega
  rw [decode, arrives, h]
  rfl

/-- An answer that is no failure says of none that the server has refused. -/
theorem error_of_granted {r : Response} (granted : r.isFailure = false) {e : ClientError}
    (h : r.decode t = .error e) : e = .other ∨ e = .undecodable := by
  rw [decode, granted] at h
  split at h
  · cases h
    exact .inl rfl
  · rw [if_neg Bool.false_ne_true] at h
    split at h
    · cases h
    · cases h
      exact .inr rfl

/-- The members of the body that describes a failure. -/
def failingMembers (code : Nat) (reason message : String) : List (String × Option Json) :=
  [("kind", some (.string "Status")), ("status", some (.string "Failure")),
   ("message", some (.string message)), ("reason", some (.string reason)),
   ("code", some (.ofInt code))]

/-- No member of the body is given twice, so that each of them can be read by its name. -/
theorem nodup_failingMembers (code : Nat) (reason message : String) :
    ((failingMembers code reason message).map Prod.fst).Nodup := by
  show ["kind", "status", "message", "reason", "code"].Nodup
  decide

/-- The body decodes, whatever reason and message it gives. -/
theorem fault_failingMembers {code : Nat} (small : code ≤ 65535) (reason message : String) :
    StatusBody.format.fault .value (Json.record (failingMembers code reason message)) = none := by
  have inRange : Format.integerFault 0 65535 (.ofInt code) = none :=
    Format.integerFault_ofInt (by omega)
  refine Record.fault_record (nodup_failingMembers code reason message) ?_ ?_
  -- each member that is given is right
  · intro m mem v there
    simp only [failingMembers, List.mem_cons, List.not_mem_nil, or_false] at mem
    rcases mem with rfl | rfl | rfl | rfl | rfl
    all_goals
      obtain rfl := Option.some.inj there
      first | rfl | exact inRange
  -- the two members that are required are given
  · intro r mem required
    simp only [List.mem_cons, List.not_mem_nil, or_false] at mem
    rcases mem with rfl | rfl | rfl | rfl
    · exact ⟨.string "Failure", .tail _ (.head _)⟩
    · cases required
    · cases required
    · exact ⟨.ofInt code, .tail _ (.tail _ (.tail _ (.tail _ (.head _))))⟩

theorem read_failingMembers (code : Nat) (reason message : String) :
    StatusBody.format.read (Json.record (failingMembers code reason message)) =
      ⟨code, reason⟩ := by
  have distinct := nodup_failingMembers code reason message
  show (⟨StatusBody.codeFormat.readField StatusBody.names "code" 0 _,
    Format.string.readField StatusBody.names "reason" "" _⟩ : StatusBody) = _
  rw [Format.readField_record _ _ _ _ distinct, Format.readField_record _ _ _ _ distinct]
  rfl

/-- The body that describes a failure says its code and its reason. -/
theorem failure_failing {code : Nat} (small : code ≤ 65535) (reason message : String) :
    (failing code reason message).failure = .refused code reason := by
  have body : (failing code reason message).content =
      .value (Json.record (failingMembers code reason message)) := rfl
  rw [failure, body, Content.decode?, fault_failingMembers small, read_failingMembers]
  rfl

/-- A failure that the server describes is told with its code and its reason. -/
theorem decode_failing {code : Nat} (failure : 400 ≤ code ∧ code < 600)
    (reason message : String) :
    (failing code reason message).decode t = .error (.refused code reason) := by
  rw [decode_of_isFailure t (isFailure_failing failure reason message),
    failure_failing (by omega)]

end Response

/-! ### Objects of the store -/

namespace Storable

variable {α : Type} (t : Storable α)

/-- What the answer to a reading holds: an object, or none. -/
def found (r : Response) : Except Failure (Option α) :=
  match r.decode t.toResource with
  | .ok a => .ok (some a)
  | .error e => if Client.isAbsence e then .ok none else .error (.plain (.readFailed (.client e)))

/-- An object is found if it decodes, and cannot be read if not. -/
theorem found_holding {code : Nat} (success : 200 ≤ code ∧ code < 400) (object : Json) :
    t.found (.holding code object) =
      if (t.format.fault .value object).isNone then .ok (some (t.reread (t.format.read object)))
      else .error (.plain (.readFailed (.client .undecodable))) := by
  rw [found, Response.decode_holding _ success]
  cases (t.format.fault .value object).isNone <;> rfl

/-- That there is no such object is no failure of a reading. -/
theorem found_absent (name : String) : t.found (Server.absent name) = .ok none := by
  rw [found, Server.absent, Response.decode_failing _ (by omega)]
  rfl

/-- Of the failures only those that tell of an absence mean that nothing is there. -/
theorem found_of_isFailure {r : Response} (h : r.isFailure = true) :
    t.found r =
      if Client.isAbsence r.failure then .ok none
      else .error (.plain (.readFailed (.client r.failure))) := by
  rw [found, Response.decode_of_isFailure _ h]

variable {t} {«namespace» name : String}

/-- A reading is one request, wherever it arrives. -/
theorem read_eq_of_about {r : Request}
    (arrives : Request.about? .get t.type «namespace» name .none false = some r) :
    Program.read t «namespace» name =
      .request r fun response => .ofExcept (t.found response) := by
  have next (response : Response) : Program.mapFailure (fun e => Failure.plain (.readFailed e))
      (Program.mapFailure StoreError.client
        (((Program.ofExcept (response.decode t.toResource)).attempt :
            Program ClientError _).bind
          fun
          | .ok a => .done (some a)
          | .error e => if Client.isAbsence e then .done none else .fail e)) =
      .ofExcept (t.found response) := by
    rw [found]
    -- a failure goes through the client and the store, which keep what it was
    cases response.decode t.toResource with
    | ok a => rfl
    | error e =>
      show Program.mapFailure _ (Program.mapFailure _
          (if Client.isAbsence e then .done none else .fail e)) =
        .ofExcept (if Client.isAbsence e then .ok none
          else .error (Failure.plain (.readFailed (.client e))))
      cases Client.isAbsence e <;> rfl
  rw [Program.read, Store.get?, Client.get?, Client.get, arrives]
  exact congrArg (Program.request _) (funext next)

/-- A name that has no address is not read. -/
theorem read_eq_of_unsendable
    (lost : Request.about? .get t.type «namespace» name .none false = none) :
    Program.read t «namespace» name = .fail (.plain (.readFailed (.client .unsendable))) := by
  rw [Program.read, Store.get?, Client.get?, Client.get, lost]
  rfl

/-- Reading a plain name is the request about it. -/
theorem read_eq (plain : Request.Addressable t.type «namespace» name) :
    Program.read t «namespace» name =
      .request (.about .get t.type «namespace» name .none) fun r => .ofExcept (t.found r) :=
  read_eq_of_about (Request.about?_eq .get .none false plain)

/-- An object is created under the names that it has itself. -/
theorem create_eq {a : α} (plain : Request.Addressable t.type «namespace» name)
    (inNamespace : (t.metadata a).namespace = some «namespace»)
    (named : (t.metadata a).name = some name) :
    Store.create t a =
      .request (.about .create t.type «namespace» name
        (.value (Client.sent t.toResource a))) fun r =>
          (Program.ofExcept (r.decode t.toResource)).mapFailure
            (Store.createError t.type.kind «namespace» name) := by
  rw [Store.create, Store.key, inNamespace, named]
  show Program.mapFailure _ (Client.create _ _ _ _) = _
  rw [Client.create_eq plain]
  rfl

theorem update_eq {a : α} (plain : Request.Addressable t.type «namespace» name)
    (inNamespace : (t.metadata a).namespace = some «namespace»)
    (named : (t.metadata a).name = some name) :
    Store.update t a =
      .request (.about .replace t.type «namespace» name
        (.value (Client.sent t.toResource a))) fun r =>
          (Program.ofExcept (r.decode t.toResource)).mapFailure
            (Store.updateError t.type.kind «namespace» name) := by
  rw [Store.update, Store.key, inNamespace, named]
  show Program.mapFailure _ (Client.replace _ _ _ _) = _
  rw [Client.replace_eq plain]
  rfl

end Storable

end ReplicaSetOperator
