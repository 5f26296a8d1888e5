import ReplicaSetOperator.Proofs.Api.Requests
import ReplicaSetOperator.Proofs.Object.Secret

/-!
# Objects on the server

What the server does with the requests about one object, and what it can do with any request
(`Server.Serves`). An object that has been stored says which one it is and has a resource version
(`Json.Kept`), and the number of that version counts the writes (`Json.stamp_stamped`), so that an
object never comes back under a version it once had.
-/

namespace ReplicaSetOperator

namespace Json

/-! ### Resource versions -/

/-- The decimal digits of a number are the index that is read from them. -/
theorem index?_toString (n : Nat) : index? (toString n) = some n := by
  have digits : (toString n).toList = Nat.toDigits 10 n := by
    rw [Nat.toString_eq_repr, Nat.toList_repr]
  -- they are there, they are digits, and their value is the number
  have filled : (toString n).isEmpty = false := by
    rw [String.isEmpty_eq_false_iff]
    intro empty
    have none : Nat.toDigits 10 n = [] := by rw [← digits, empty]; rfl
    exact Nat.toDigits_ne_nil none
  have all : (toString n).all Char.isDigit = true := by
    rw [String.all_bool_eq, digits, List.all_eq_true]
    exact fun c mem => Nat.isDigit_of_mem_toDigits (by decide) (by decide) mem
  have value : (Nat.toDigits 10 n).foldl (fun n d => n * 10 + (d.toNat - '0'.toNat)) 0 = n := by
    have folded := Nat.ofDigitChars_ten_toDigits (n := n)
    rw [Nat.ofDigitChars_eq_foldl] at folded
    simpa only [Nat.mul_comm] using folded
  rw [index?, filled, all, digits, value]
  rfl

/-- The number of an object's resource version; zero if that is none. -/
def stamp (object : Json) : Nat := (object.resourceVersion?.bind index?).getD 0

/-- The version stands in the metadata of an object. -/
theorem resourceVersion?_eq (object : Json) :
    object.resourceVersion? =
      ((object.get? "metadata").bind (·.get? "resourceVersion")).bind string? := by
  rw [resourceVersion?, resourceVersionPath, at?_pair]

/-- When an object is stored its version changes, and all else is as before. -/
theorem get?_stamped (object : Json) (old : Option Json) (name : String) :
    (object.stamped old).get? name =
      if name = "metadata" then
        some (((object.get? "metadata").getD .null).set "resourceVersion"
          (.string (nextResourceVersion old)))
      else object.get? name :=
  get?_setAt_pair object name "metadata" "resourceVersion" _

/-- Its version is the one after that of the object before. -/
theorem resourceVersion?_stamped (object : Json) (old : Option Json) :
    (object.stamped old).resourceVersion? = some (nextResourceVersion old) := by
  rw [resourceVersion?_eq, get?_stamped, if_pos rfl, Option.bind_some, get?_set, if_pos rfl]
  rfl

/-- The number of a resource version counts the writes. -/
theorem stamp_stamped (object : Json) (old : Option Json) :
    (object.stamped old).stamp = (old.map stamp).getD 0 + 1 := by
  rw [stamp, resourceVersion?_stamped, Option.bind_some, nextResourceVersion, index?_toString]
  cases old <;> rfl

/-! ### Objects that are kept -/

/-- An object as the server keeps it under a key: it says which one it is and has a resource
version. -/
structure Kept (key : ObjectKey) (object : Json) : Prop where
  inNamespace : object.at? ["metadata", "namespace"] = some (.string key.namespace)
  named : object.at? ["metadata", "name"] = some (.string key.name)
  versioned : ∃ v, object.resourceVersion? = some v

/-- The other metadata are as before. -/
theorem at?_stamped_metadata (object : Json) (old : Option Json) {name : String}
    (apart : name ≠ "resourceVersion") :
    (object.stamped old).at? ["metadata", name] = object.at? ["metadata", name] := by
  rw [at?_pair, get?_stamped, if_pos rfl, Option.bind_some, get?_set, if_neg apart, at?_pair]
  cases object.get? "metadata" with
  | none => rfl
  | some metadata => rfl

/-- An object that says which one it is is kept once it has been stored. -/
theorem kept_stamped {key : ObjectKey} {object : Json} (old : Option Json)
    (inNamespace : object.at? ["metadata", "namespace"] = some (.string key.namespace))
    (named : object.at? ["metadata", "name"] = some (.string key.name)) :
    Kept key (object.stamped old) where
  inNamespace := by rw [at?_stamped_metadata _ _ (by simp), inNamespace]
  named := by rw [at?_stamped_metadata _ _ (by simp), named]
  versioned := ⟨_, resourceVersion?_stamped object old⟩

/-! ### Secrets -/

/-- A secret with metadata of its own names is kept under those once it has been stored. -/
theorem kept_secret {s : Secret} {«namespace» name : String} (tidy : s.metadata.Tidy)
    (inNamespace : s.metadata.namespace = some «namespace») (named : s.metadata.name = some name)
    (old : Option Json) :
    Kept ⟨Secret.objectType.kind, «namespace», name⟩ ((Secret.format.write s).stamped old) := by
  apply kept_stamped
  · rw [at?_pair, Secret.get?_write_metadata, Option.bind_some,
      ObjectMeta.get?_write_namespace tidy, inNamespace]
    rfl
  · rw [at?_pair, Secret.get?_write_metadata, Option.bind_some, ObjectMeta.get?_write_name tidy,
      named]
    rfl

/-- The resource version that a secret is sent with. -/
theorem resourceVersion?_secret {s : Secret} (tidy : s.metadata.Tidy) :
    (Secret.format.write s).resourceVersion? = s.metadata.resourceVersion := by
  rw [resourceVersion?_eq, Secret.get?_write_metadata, Option.bind_some,
    ObjectMeta.get?_write_resourceVersion tidy]
  cases s.metadata.resourceVersion <;> rfl

/-- The entries of a secret that has been stored. -/
theorem data_stamped (s : Secret) (old : Option Json) :
    (Secret.format.read ((Secret.format.write s).stamped old)).data = s.data := by
  apply Secret.data_of_get?
  rw [get?_stamped, if_neg (by simp)]

/-- The texts of a secret that has been stored. -/
theorem stringData_stamped (s : Secret) (old : Option Json) :
    (Secret.format.read ((Secret.format.write s).stamped old)).stringData = s.stringData := by
  apply Secret.stringData_of_get?
  rw [get?_stamped, if_neg (by simp)]

/-- A secret that has been stored is the one that was sent, but for its version. -/
theorem alike_stamped {s : Secret} (tidy : s.metadata.Tidy) (old : Option Json) :
    (Secret.format.read ((Secret.format.write s).stamped old)).Alike s := by
  -- what changes of the metadata is the version
  have there : ((Secret.format.write s).stamped old).get? "metadata" =
      some ((ObjectMeta.format.write s.metadata).set "resourceVersion"
        (.string (nextResourceVersion old))) := by
    rw [get?_stamped, if_pos rfl, Secret.get?_write_metadata, Option.getD_some]
  have whole : (Secret.format.read ((Secret.format.write s).stamped old)).metadata =
      { ObjectMeta.format.read (ObjectMeta.format.write s.metadata) with
        resourceVersion := some (nextResourceVersion old) } := by
    show ObjectMeta.format.presentD "metadata" {} _ = _
    rw [Format.presentD, Format.present?_of_get? there (by rintro ⟨⟩),
      ObjectMeta.read_set_resourceVersion]
    rfl
  obtain ⟨name, inNamespace, labels, annotations, owners⟩ := ObjectMeta.alike_read_write tidy
  refine ⟨?_, Secret.type_of_get? (by rw [get?_stamped, if_neg (by simp)])⟩
  rw [whole]
  exact ⟨name, inNamespace, labels, annotations, owners⟩

/-- A member of the metadata of an object that is a text. -/
theorem present?_of_at? {object : Json} {name text : String}
    (h : object.at? ["metadata", name] = some (.string text)) :
    ∃ metadata, object.get? "metadata" = some metadata ∧ metadata ≠ .null ∧
      Format.string.present? name metadata = some text := by
  rw [at?_pair] at h
  obtain ⟨metadata, there, member⟩ := Option.bind_eq_some_iff.1 h
  refine ⟨metadata, there, ?_, Format.present?_of_get? member (by rintro ⟨⟩)⟩
  rintro rfl
  cases member

/-- The metadata of a secret that is kept under a key. -/
theorem Kept.secret {key : ObjectKey} {object : Json} (h : Kept key object) :
    (Secret.format.read object).metadata.namespace = some key.namespace ∧
    (Secret.format.read object).metadata.name = some key.name ∧
    (Secret.format.read object).metadata.resourceVersion = object.resourceVersion? := by
  -- namespace, name and version are read from the same metadata
  obtain ⟨metadata, there, apart, inNamespace⟩ := present?_of_at? h.inNamespace
  obtain ⟨_, there', _, named⟩ := present?_of_at? h.named
  obtain rfl := Option.some.inj (there.symm.trans there')
  have whole : (Secret.format.read object).metadata = ObjectMeta.format.read metadata := by
    show ObjectMeta.format.presentD "metadata" {} object = _
    rw [Format.presentD, Format.present?_of_get? there apart]
    rfl
  rw [whole]
  refine ⟨inNamespace, named, ?_⟩
  obtain ⟨v, version⟩ := h.versioned
  have text : object.at? ["metadata", "resourceVersion"] = some (.string v) := by
    rw [resourceVersion?, resourceVersionPath] at version
    obtain ⟨j, there, text⟩ := Option.bind_eq_some_iff.1 version
    cases j with
    | string s => rw [there, Option.some.inj text]
    | _ => cases text
  obtain ⟨_, there', _, present⟩ := present?_of_at? text
  obtain rfl := Option.some.inj (there.symm.trans there')
  rw [version]
  exact present

end Json

namespace Server

variable {s : Server} {type : ObjectType} {«namespace» name : String}

/-- Of the objects only the one that is stored changes. -/
theorem find?_accept (s : Server) (code : Nat) (key k : ObjectKey) (object : Json) :
    (s.accept code key object).1.objects.find? k =
      if k = key then some (object.stamped (s.objects.find? key)) else s.objects.find? k := by
  show (s.objects.put key (object.stamped (s.objects.find? key))).find? k = _
  exact ObjectTable.find?_put k key _ s.objects

/-- What is not an event is stored. -/
theorem serve_eq (stored : type.kind ≠ "Event") (verb : Verb) (payload : Payload)
    (statusOnly : Bool) :
    s.serve (.about verb type «namespace» name payload statusOnly) =
      s.serveStored (.about verb type «namespace» name payload statusOnly) :=
  if_neg stored

/-- A reading changes nothing. -/
theorem serve_get (stored : type.kind ≠ "Event") :
    s.serve (.about .get type «namespace» name .none) =
      (s, match s.objects.find? ⟨type.kind, «namespace», name⟩ with
        | some object => .holding 200 object
        | none => absent name) := by
  rw [serve_eq stored]
  show (match s.objects.find? ⟨type.kind, «namespace», name⟩ with
    | some object => (s, Response.holding 200 object)
    | none => (s, absent name)) = _
  cases s.objects.find? ⟨type.kind, «namespace», name⟩ <;> rfl

/-- An object is created unless it is there. -/
theorem serve_create (stored : type.kind ≠ "Event") (body : Json) :
    s.serve (.about .create type «namespace» name (.value body)) =
      match s.objects.find? ⟨type.kind, «namespace», name⟩ with
      | some _ => (s, .failing 409 "AlreadyExists" (name ++ " already exists"))
      | none => s.accept 201 ⟨type.kind, «namespace», name⟩ body := by
  rw [serve_eq stored]
  rfl

/-- An object is replaced if it is there, in the version that is sent, if one is. -/
theorem serve_replace (stored : type.kind ≠ "Event") (body : Json) :
    s.serve (.about .replace type «namespace» name (.value body)) =
      match s.objects.find? ⟨type.kind, «namespace», name⟩ with
      | none => (s, absent name)
      | some old =>
        if body.resourceVersion?.any fun v => old.resourceVersion? ≠ some v then
          (s, .failing 409 "Conflict" (name ++ " has been modified"))
        else s.accept 200 ⟨type.kind, «namespace», name⟩ body := by
  rw [serve_eq stored]
  rfl

/-- An object is applied over what is there. -/
theorem serve_apply (stored : type.kind ≠ "Event") (body : Json) :
    s.serve (.about .apply type «namespace» name (.value body)) =
      s.accept 200 ⟨type.kind, «namespace», name⟩
        (body.appliedOver (s.objects.find? ⟨type.kind, «namespace», name⟩)) := by
  rw [serve_eq stored]
  rfl

/-- A change is merged into an object that is there. -/
theorem serve_merge (stored : type.kind ≠ "Event") (body : Json) :
    s.serve (.about .merge type «namespace» name (.value body)) =
      match s.objects.find? ⟨type.kind, «namespace», name⟩ with
      | none => (s, absent name)
      | some old => s.accept 200 ⟨type.kind, «namespace», name⟩ (body.merge old) := by
  rw [serve_eq stored]
  rfl

/-- Of a patch of the status only the status counts. -/
theorem serve_mergeStatus (stored : type.kind ≠ "Event") (body : Json) :
    s.serve (.about .merge type «namespace» name (.value body) true) =
      match s.objects.find? ⟨type.kind, «namespace», name⟩ with
      | none => (s, absent name)
      | some old =>
        s.accept 200 ⟨type.kind, «namespace», name⟩
          ((Json.record [("status", some ((body.get? "status").getD .null))]).merge old) := by
  rw [serve_eq stored]
  rfl

/-- A patch that takes away the last hold on a deleted object lets it go. -/
theorem serve_patch (stored : type.kind ≠ "Event") (operations : List PatchOperation) :
    s.serve (.about .json type «namespace» name (.patch operations)) =
      match s.objects.find? ⟨type.kind, «namespace», name⟩ with
      | none => (s, absent name)
      | some old =>
        match operations.foldlM PatchOperation.apply? old with
        | none => (s, .failing 422 "Invalid" "the patch does not fit")
        | some object =>
          let (s, response) := s.accept 200 ⟨type.kind, «namespace», name⟩ object
          if object.isReleased then
            ({ s with objects := s.objects.erase ⟨type.kind, «namespace», name⟩ }, response)
          else (s, response) := by
  rw [serve_eq stored]
  rfl

/-! ### What is granted -/

/-- An object that is not there is created. -/
theorem serve_create_absent (stored : type.kind ≠ "Event") (body : Json)
    (absent : s.objects.find? ⟨type.kind, «namespace», name⟩ = none) :
    s.serve (.about .create type «namespace» name (.value body)) =
      s.accept 201 ⟨type.kind, «namespace», name⟩ body := by
  rw [serve_create stored, absent]

section

variable {old : Json} (there : s.objects.find? ⟨type.kind, «namespace», name⟩ = some old)

include there

/-- An object that is there is answered. -/
theorem serve_get_there (stored : type.kind ≠ "Event") :
    s.serve (.about .get type «namespace» name .none) = (s, .holding 200 old) := by
  rw [serve_get stored, there]

/-- An object is replaced if it is the one that was read, or if that does not matter. -/
theorem serve_replace_there (stored : type.kind ≠ "Event") {body : Json}
    (current : ∀ v ∈ body.resourceVersion?, old.resourceVersion? = some v) :
    s.serve (.about .replace type «namespace» name (.value body)) =
      s.accept 200 ⟨type.kind, «namespace», name⟩ body := by
  rw [serve_replace stored, there]
  refine if_neg ?_
  rw [Bool.not_eq_true, Option.any_eq_false]
  exact fun v mem => by simp [current v mem]

/-- A change is merged into it. -/
theorem serve_merge_there (stored : type.kind ≠ "Event") (body : Json) :
    s.serve (.about .merge type «namespace» name (.value body)) =
      s.accept 200 ⟨type.kind, «namespace», name⟩ (body.merge old) := by
  rw [serve_merge stored, there]

/-- A change of the status is merged as that. -/
theorem serve_mergeStatus_there (stored : type.kind ≠ "Event") (body : Json) :
    s.serve (.about .merge type «namespace» name (.value body) true) =
      s.accept 200 ⟨type.kind, «namespace», name⟩
        ((Json.record [("status", some ((body.get? "status").getD .null))]).merge old) := by
  rw [serve_mergeStatus stored, there]

variable {operations : List PatchOperation} {object : Json}
  (fits : operations.foldlM PatchOperation.apply? old = some object)

include fits

/-- A patch that fits is applied, and an object that nothing holds any more goes away. -/
theorem serve_patch_there (stored : type.kind ≠ "Event") :
    s.serve (.about .json type «namespace» name (.patch operations)) =
      (if object.isReleased then
        { (s.store ⟨type.kind, «namespace», name⟩ object).1 with
          objects := (s.store ⟨type.kind, «namespace», name⟩ object).1.objects.erase
            ⟨type.kind, «namespace», name⟩ }
        else (s.store ⟨type.kind, «namespace», name⟩ object).1,
        .holding 200 (object.stamped (some old))) := by
  have answer : (s.accept 200 ⟨type.kind, «namespace», name⟩ object).2 =
      .holding 200 (object.stamped (some old)) :=
    congrArg (fun old => Response.holding 200 (object.stamped old)) there
  rw [serve_patch stored, there]
  dsimp only
  rw [fits, ← answer]
  dsimp only
  split <;> rfl

/-- Of the objects only the one that a fitting patch is about changes. -/
theorem find?_serve_patch (stored : type.kind ≠ "Event") (k : ObjectKey) :
    (s.serve (.about .json type «namespace» name (.patch operations))).1.objects.find? k =
      if k = ⟨type.kind, «namespace», name⟩ then
        if object.isReleased then none else some (object.stamped (some old))
      else s.objects.find? k := by
  have accepted := find?_accept s 200 ⟨type.kind, «namespace», name⟩ k object
  rw [there] at accepted
  rw [serve_patch_there there fits stored]
  dsimp only
  split
  · rw [ObjectTable.find?_erase]
    split
    · rfl
    · next apart => exact accepted.trans (if_neg apart)
  · exact accepted

end

/-! ### What a request does -/

variable {r : Request}

/-- What a server does with a request: it leaves all as it is, stores under the key of the request
what is sent, applied or merged, or changes the object there by a patch. -/
inductive Serves (s : Server) (r : Request) : Server × Response → Prop
  | leaves (response : Response) : Serves s r (s, response)
  | stores {body : Json} {code : Nat} (verb : r.verb = .create ∨ r.verb = .replace)
    (payload : r.payload = .value body) (success : code < 400) :
    Serves s r (s.accept code (key r) body)
  | applies {body : Json} (verb : r.verb = .apply) (payload : r.payload = .value body) :
    Serves s r (s.accept 200 (key r) (body.appliedOver (s.objects.find? (key r))))
  | merges {body old : Json} (verb : r.verb = .merge) (payload : r.payload = .value body)
    (there : s.objects.find? (key r) = some old) :
    Serves s r (s.accept 200 (key r) ((if r.part = some Request.statusPart then
      Json.record [("status", some ((body.get? "status").getD .null))] else body).merge old))
  | patches {operations : List PatchOperation} (verb : r.verb = .json)
    (payload : r.payload = .patch operations) : Serves s r (s.patch r operations)

/-- Serving does one of these things. -/
theorem serve_serves (s : Server) (r : Request) : Serves s r (s.serve r) := by
  -- one case for each verb, in which the object is there or is not
  unfold serve
  split
  · exact .leaves _
  unfold serveStored
  split
  · next body verb payload =>
    unfold create
    split
    · exact .leaves _
    · exact .stores (.inl verb) payload (by omega)
  · next body verb payload =>
    unfold replace
    split
    · exact .leaves _
    · split
      · exact .leaves _
      · exact .stores (.inr verb) payload (by omega)
  · next body verb payload => exact .applies verb payload
  · next body verb payload =>
    unfold merge
    split
    · exact .leaves _
    · next old there => exact .merges verb payload there
  · next operations verb payload => exact .patches verb payload
  · split <;> exact .leaves _
  · exact .leaves _

/-- A patch of a stored object is one of these. -/
theorem serve_eq_patch {operations : List PatchOperation} (stored : r.type.kind ≠ "Event")
    (verb : r.verb = .json) (payload : r.payload = .patch operations) :
    s.serve r = s.patch r operations := by
  rw [serve, if_neg stored, serveStored, verb, payload]

/-! ### What a request leaves alone -/

variable {k : ObjectKey}

/-- A patch is about one object only. -/
theorem find?_patch_of_ne (operations : List PatchOperation) (apart : k ≠ key r) :
    (s.patch r operations).1.objects.find? k = s.objects.find? k := by
  -- the object is not there, does not fit, is stored, or goes away after that
  unfold patch
  split
  · rfl
  · split
    · rfl
    · next object _ =>
      have kept := find?_accept s 200 (key r) k object
      rw [if_neg apart] at kept
      dsimp only
      split
      · show (ObjectTable.erase _ (key r)).find? k = _
        rw [ObjectTable.find?_erase, if_neg apart]
        exact kept
      · exact kept

/-- A request changes no other object than the one that it is about. -/
theorem find?_serve_of_ne (apart : k ≠ key r) :
    (s.serve r).1.objects.find? k = s.objects.find? k := by
  -- what is accepted is put under the key of the request
  have accepted (code : Nat) (object : Json) :
      (s.accept code (key r) object).1.objects.find? k = s.objects.find? k := by
    rw [find?_accept, if_neg apart]
  have served := serve_serves s r
  generalize s.serve r = answer at served
  cases served with
  | leaves _ => rfl
  | stores _ _ _ => exact accepted _ _
  | applies _ _ => exact accepted _ _
  | merges _ _ _ => exact accepted _ _
  | patches _ _ => exact find?_patch_of_ne _ apart

/-- A reading changes nothing, whatever it is about. -/
theorem serve_of_get (reads : r.verb = .get) : (s.serve r).1 = s := by
  unfold serve
  split
  · rfl
  unfold serveStored
  rw [reads]
  cases r.payload <;> dsimp only <;> split <;> rfl

/-- What is read of an object depends on that object only. -/
theorem serve_get_congr {s₁ : Server} (reads : r.verb = .get)
    (same : s₁.objects.find? (key r) = s.objects.find? (key r)) :
    (s₁.serve r).2 = (s.serve r).2 := by
  unfold serve
  split
  · rfl
  unfold serveStored
  rw [reads]
  cases r.payload <;> dsimp only <;> rw [same] <;> split <;> rfl

/-- What is accepted is no failure. -/
theorem isFailure_accept (s : Server) (code : Nat) (key : ObjectKey) (object : Json)
    (success : code < 400) : (s.accept code key object).2.isFailure = false := by
  show (decide (400 ≤ code) && decide (code < 600)) = false
  rw [decide_eq_false (by omega), Bool.false_and]

/-- A patch that fails changes nothing. -/
theorem patch_of_isFailure {operations : List PatchOperation}
    (fails : (s.patch r operations).2.isFailure = true) : (s.patch r operations).1 = s := by
  unfold patch at fails ⊢
  split at fails
  · rfl
  · split at fails
    · rfl
    · next object _ =>
      -- a patch that fits is answered with a success
      have success := isFailure_accept s 200 (key r) object (by omega)
      dsimp only at fails
      split at fails <;> exact absurd fails (ne_true_of_eq_false success)

/-- A request that the server does not grant changes nothing. -/
theorem serve_of_isFailure (fails : (s.serve r).2.isFailure = true) : (s.serve r).1 = s := by
  -- what is accepted is answered with a success
  have granted {code : Nat} {object : Json} (success : code < 400) :
      (s.accept code (key r) object).2.isFailure ≠ true :=
    ne_true_of_eq_false (isFailure_accept s code (key r) object success)
  have served := serve_serves s r
  generalize s.serve r = answer at served fails
  cases served with
  | leaves _ => rfl
  | stores _ _ success => exact absurd fails (granted success)
  | applies _ _ => exact absurd fails (granted (by omega))
  | merges _ _ _ => exact absurd fails (granted (by omega))
  | patches _ _ => exact patch_of_isFailure fails

/-- What is told in an event changes nothing. -/
theorem serve_event (h : r.type.kind = "Event") : s.serve r = (s, echo r) := if_pos h

end Server

end ReplicaSetOperator
