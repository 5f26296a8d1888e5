import ReplicaSetOperator.Proofs.Operator.ConcurrentPushes
import ReplicaSetOperator.Proofs.Operator.Provision

/-!
# Writers of one secret

Any number of callers keep certificates and keys of their own in one secret, and their requests
arrive in any order. None of them fails, and what one of them has written is never mixed with what
another one has: the last write that was granted counts (`Material.synthesize_interleaved`). Where a
caller is, is its `Stage`; `Material.Contest` is what every request of every caller preserves.
-/

namespace ReplicaSetOperator

open ReplicaSetOperator.Configuration (object secretKey seen reading serve_reading Legible Named
  filter_concat_ne filter_concat_self)

namespace Material

variable {«namespace» name : String} {certificate key : Bytes} {owner : Option OwnerReference}

/-! ### One write -/

/-- A secret is there with a certificate and its key and nothing else. -/
structure HoldsOnly («namespace» name : String) (certificate key : Bytes) (s : Server) : Prop
    extends Holds «namespace» name certificate key s where
  noTexts : ((object s «namespace» name).bind fun j => (Secret.format.read j).stringData) = none

theorem HoldsOnly.congr {s s' : Server} (h : HoldsOnly «namespace» name certificate key s)
    (same : object s' «namespace» name = object s «namespace» name) :
    HoldsOnly «namespace» name certificate key s' where
  toHolds := h.toHolds.congr same
  noTexts := same ▸ h.noTexts

/-- A secret that keeps certificate and key and nothing else, whoever has written before. -/
structure Keeping («namespace» name : String) (certificate key : Bytes) (x : Secret) : Prop where
  sound : x.metadata.Sound
  inNamespace : x.metadata.namespace = some «namespace»
  named : x.metadata.name = some name
  unversioned : x.metadata.resourceVersion = none
  data : x.data = some (entry certificate key)
  noTexts : x.stringData = none

/-- A new secret keeps certificate and key. -/
theorem keeping_newSecret (owner : Option OwnerReference) (certificate key : Bytes) :
    Keeping «namespace» name certificate key
      (newSecret «namespace» name owner certificate key) where
  sound := ObjectMeta.sound_of_new rfl rfl rfl
  inNamespace := rfl
  named := rfl
  unversioned := rfl
  data := rfl
  noTexts := rfl

/-- So does one that has been brought up to date. -/
theorem keeping_replaced (certificate key : Bytes) {x : Secret} (sound : x.metadata.Sound)
    (named : Named «namespace» name (some x)) :
    Keeping «namespace» name certificate key (replaced x certificate key) where
  sound := ⟨sound.created, sound.deleted, sound.tidy, sound.carried⟩
  inNamespace := (named x rfl).1
  named := (named x rfl).2
  unversioned := rfl
  data := rfl
  noTexts := rfl

/-- Apart from them it is the same secret. -/
theorem alike_replaced (x : Secret) : (replaced x certificate key).Alike x :=
  ⟨⟨rfl, rfl, rfl, rfl, rfl⟩, rfl⟩

/-- What a granted write leaves: certificate and key are all that is there, in a secret that is
otherwise the one that was sent. -/
structure Leaves («namespace» name : String) (certificate key : Bytes) (x : Secret)
    (e : Exchange) : Prop where
  writes : e.Writes
  holds : HoldsOnly «namespace» name certificate key e.after
  alike : ∃ j, object e.after «namespace» name = some j ∧ (Secret.format.read j).Alike x

variable {s : Server} {x : Secret}

/-- A write that is accepted leaves certificate and key, and is answered with the secret. -/
theorem leaves_of_accepted (keeping : Keeping «namespace» name certificate key x) {r : Request}
    (changes : r.verb ≠ .get) {code : Nat} (success : 200 ≤ code ∧ code < 400)
    (accepted : s.serve r = s.accept code (secretKey «namespace» name)
      (Client.sent Secret.stored.toResource x)) :
    Leaves «namespace» name certificate key x (s.exchange r) ∧
      ∃ y, (s.serve r).2.decode Secret.stored.toResource = .ok y := by
  -- what is answered is what has been stored, so that it decodes
  obtain ⟨holds, decoded⟩ := holds_of_accepted keeping.sound keeping.inNamespace keeping.named
    keeping.data success accepted.symm
  have now : object (s.serve r).1 «namespace» name =
      some ((Client.sent Secret.stored.toResource x).stamped (object s «namespace» name)) := by
    rw [accepted, object, Server.find?_accept, if_pos rfl]
    rfl
  refine ⟨⟨⟨changes, ?_⟩, ⟨holds, ?_⟩, _, now, ?_⟩, decoded⟩
  · show (s.serve r).2.isFailure = false
    rw [accepted]
    exact Server.isFailure_accept s code _ _ success.2
  · show ((object (s.serve r).1 «namespace» name).bind _) = none
    rw [now]
    exact (Json.stringData_stamped x.reread _).trans keeping.noTexts
  · exact (Json.alike_stamped keeping.sound.tidy.reread _).trans (Secret.alike_reread x)

/-- The request to put a secret in the place of the one that is there. -/
def putting («namespace» name : String) (x : Secret) : Request :=
  .about .replace Secret.objectType «namespace» name
    (.value (Client.sent Secret.stored.toResource x))

/-- Putting a secret in the place of the one that is there, and giving the name of its file. -/
def replacing (certificate key : Bytes) (x : Secret) : Program Failure String :=
  (Store.update Secret.stored x).writing.bind fun _ => .done (Tls.fileName certificate key)

/-- What follows the answer to a request to replace the secret. -/
def replied («namespace» name : String) (certificate key : Bytes) (r : Response) :
    Program Failure String :=
  Program.bind (Program.writing ((Program.ofExcept (r.decode Secret.stored.toResource)).mapFailure
    (Store.updateError Secret.objectType.kind «namespace» name))) fun _ =>
      .done (Tls.fileName certificate key)

/-- Bringing the secret up to date is one request and what follows its answer. -/
theorem replacing_eq (plain : Request.Addressable Secret.objectType «namespace» name)
    (keeping : Keeping «namespace» name certificate key x) :
    replacing certificate key x =
      .request (putting «namespace» name x) (replied «namespace» name certificate key) := by
  rw [replacing, Storable.update_eq (t := Secret.stored) plain keeping.inNamespace keeping.named]
  rfl

/-- A secret that is sent without a version is put in the place of any that is there. -/
theorem serve_putting (keeping : Keeping «namespace» name certificate key x)
    (there : object s «namespace» name ≠ none) :
    Leaves «namespace» name certificate key x (s.exchange (putting «namespace» name x)) ∧
      replied «namespace» name certificate key (s.serve (putting «namespace» name x)).2 =
        .done (Tls.fileName certificate key) := by
  obtain ⟨old, there⟩ := Option.ne_none_iff_exists'.1 there
  have unversioned :
      (Client.sent Secret.stored.toResource x).resourceVersion? = none :=
    (Json.resourceVersion?_secret (s := x.reread) keeping.sound.tidy.reread).trans
      keeping.unversioned
  have isStored : Secret.objectType.kind ≠ "Event" := by decide
  -- a version that is not sent cannot be out of date
  have current : ∀ v ∈ (Client.sent Secret.stored.toResource x).resourceVersion?,
      old.resourceVersion? = some v := by
    rw [unversioned]
    exact fun _ mem => (Option.not_mem_none _ mem).elim
  have accepted := Server.serve_replace_there there isStored current
  obtain ⟨leaves, y, decoded⟩ := leaves_of_accepted (r := putting «namespace» name x) keeping
    Verb.noConfusion (by omega) accepted
  refine ⟨leaves, ?_⟩
  rw [replied, decoded]
  rfl

/-- The request to create the secret. -/
def creating («namespace» name : String) (owner : Option OwnerReference)
    (certificate key : Bytes) : Request :=
  .about .create Secret.objectType «namespace» name
    (.value (Client.sent Secret.stored.toResource
      (newSecret «namespace» name owner certificate key)))

/-- What follows the answer to a request to create the secret. -/
def created («namespace» name : String) (owner : Option OwnerReference) (certificate key : Bytes)
    (r : Response) : Program Failure String :=
  match r.decode Secret.stored.toResource with
  | .ok _ => .done (Tls.fileName certificate key)
  | .error e =>
    if isAlreadyExists (Store.createError Secret.objectType.kind «namespace» name e) then
      replacing certificate key (newSecret «namespace» name owner certificate key)
    else .fail (.plain (.writeFailed
      (Store.createError Secret.objectType.kind «namespace» name e)))

theorem storing_request (plain : Request.Addressable Secret.objectType «namespace» name) :
    storing «namespace» name owner certificate key none =
      .request (creating «namespace» name owner certificate key)
        (created «namespace» name owner certificate key) :=
  storing_none_eq plain

/-- Where there is no secret, it is created, and that is the end. -/
theorem serve_creating_absent (owner : Option OwnerReference) (certificate key : Bytes)
    (absent : object s «namespace» name = none) :
    Leaves «namespace» name certificate key (newSecret «namespace» name owner certificate key)
        (s.exchange (creating «namespace» name owner certificate key)) ∧
      created «namespace» name owner certificate key
        (s.serve (creating «namespace» name owner certificate key)).2 =
          .done (Tls.fileName certificate key) := by
  have isStored : Secret.objectType.kind ≠ "Event" := by decide
  obtain ⟨leaves, y, decoded⟩ := leaves_of_accepted
    (r := creating «namespace» name owner certificate key)
    (keeping_newSecret owner certificate key) Verb.noConfusion (by omega)
    (Server.serve_create_absent isStored _ absent)
  refine ⟨leaves, ?_⟩
  rw [created, decoded]

/-- A secret that is there is not created, but replaced by the next request. -/
theorem serve_creating_there (owner : Option OwnerReference) (certificate key : Bytes)
    (there : object s «namespace» name ≠ none) :
    (s.serve (creating «namespace» name owner certificate key)).1 = s ∧
    (s.serve (creating «namespace» name owner certificate key)).2.isFailure = true ∧
      created «namespace» name owner certificate key
        (s.serve (creating «namespace» name owner certificate key)).2 =
          replacing certificate key (newSecret «namespace» name owner certificate key) := by
  obtain ⟨old, there⟩ := Option.ne_none_iff_exists'.1 there
  have refused : s.serve (creating «namespace» name owner certificate key) =
      (s, .failing 409 "AlreadyExists" (name ++ " already exists")) := by
    have isStored : Secret.objectType.kind ≠ "Event" := by decide
    have found : s.objects.find? ⟨Secret.objectType.kind, «namespace», name⟩ = some old := there
    rw [creating, Server.serve_create isStored, found]
  rw [refused]
  refine ⟨rfl, Response.isFailure_failing (by omega) _ _, ?_⟩
  rw [created, Response.decode_failing _ (by omega)]
  rfl

/-! ### The callers -/

section

variable {ι : Type}

/-- Where a caller is, after some requests of its own and of others: it has not begun, it has found
no secret or one, its secret was created by somebody else, or its write has been granted. That there
is a secret now is known once one has been found. -/
inductive Stage (owner : Option OwnerReference) (certificate key : Bytes)
    («namespace» name : String) (start now : Option Json) : List (ι × Exchange) →
    Program Failure String → Prop
  | waiting : Stage owner certificate key «namespace» name start now []
      (synthesize «namespace» name owner certificate key)
  | missed {r : ι × Exchange} (absent : start = none) :
    Stage owner certificate key «namespace» name start now [r]
      (storing «namespace» name owner certificate key none)
  | found {r : ι × Exchange} {x : Secret} (sound : x.metadata.Sound)
    (named : Named «namespace» name (some x))
    (alike : ∀ j ∈ start, x.Alike (Secret.format.read j)) (there : now ≠ none) :
    Stage owner certificate key «namespace» name start now [r]
      (storing «namespace» name owner certificate key (some x))
  | collided {r c : ι × Exchange} (absent : start = none) (there : now ≠ none) :
    Stage owner certificate key «namespace» name start now [r, c]
      (replacing certificate key (newSecret «namespace» name owner certificate key))
  | ended {own : List (ι × Exchange)} (few : own.length ≤ 3) (wrote : ∃ t ∈ own, t.2.Writes) :
    Stage owner certificate key «namespace» name start now own
      (.done (Tls.fileName certificate key))

/-- What a request has done: nothing, or it has left certificate and key as all that is in the
secret, which is otherwise the one from the beginning. -/
inductive Effect (certificate key : Bytes) («namespace» name : String) (start : Option Json)
    (e : Exchange) : Prop
  | quiet (same : e.after = e.before) (still : ¬ e.Writes)
  | wrote (writes : e.Writes) (holds : HoldsOnly «namespace» name certificate key e.after)
    (alike : ∀ j₀ ∈ start, ∃ j, object e.after «namespace» name = some j ∧
      (Secret.format.read j).Alike (Secret.format.read j₀))

/-- Of a write that leaves certificate and key the effect is known. -/
theorem Effect.of_leaves {x : Secret} {start : Option Json} {e : Exchange}
    (h : Leaves «namespace» name certificate key x e)
    (alike : ∀ j ∈ start, x.Alike (Secret.format.read j)) :
    Effect certificate key «namespace» name start e := by
  obtain ⟨j, now, same⟩ := h.alike
  exact .wrote h.writes h.holds fun j₀ mem => ⟨j, now, same.trans (alike j₀ mem)⟩

/-- A place from which a caller goes on is one of four, each with its request. -/
inductive Due (owner : Option OwnerReference) (certificate key : Bytes)
    («namespace» name : String) (start now : Option Json) : List (ι × Exchange) → Request →
    (Response → Program Failure String) → Prop
  | reads : Due owner certificate key «namespace» name start now [] (reading «namespace» name)
      fun r => (Program.ofExcept (Secret.stored.found r)).bind
        (storing «namespace» name owner certificate key)
  | creates {r : ι × Exchange} (absent : start = none) :
    Due owner certificate key «namespace» name start now [r]
      (creating «namespace» name owner certificate key)
      (created «namespace» name owner certificate key)
  | puts {own : List (ι × Exchange)} {x : Secret} (few : own.length < 3)
    (keeping : Keeping «namespace» name certificate key x)
    (alike : ∀ j ∈ start, x.Alike (Secret.format.read j)) (there : now ≠ none) :
    Due owner certificate key «namespace» name start now own (putting «namespace» name x)
      (replied «namespace» name certificate key)

/-- A call begins with reading the secret. -/
theorem synthesize_request (plain : Request.Addressable Secret.objectType «namespace» name) :
    synthesize «namespace» name owner certificate key =
      .request (reading «namespace» name) fun r =>
        (Program.ofExcept (Secret.stored.found r)).bind
          (storing «namespace» name owner certificate key) := by
  rw [synthesize_eq, Storable.read_eq (t := Secret.stored) plain]
  rfl

/-- A caller that has not ended has a request due. -/
theorem Stage.due {start now : Option Json} {own : List (ι × Exchange)}
    {p : Program Failure String} (plain : Request.Addressable Secret.objectType «namespace» name)
    (h : Stage owner certificate key «namespace» name start now own p) :
    (p = .done (Tls.fileName certificate key) ∧ own.length ≤ 3 ∧ ∃ t ∈ own, t.2.Writes) ∨
      own.length < 3 ∧ ∃ r next, p = .request r next ∧
        Due owner certificate key «namespace» name start now own r next := by
  -- one case for each place, with what is known at it
  cases h with
  | waiting =>
    exact .inr ⟨by simp, _, _, synthesize_request plain, .reads⟩
  | missed absent =>
    exact .inr ⟨by simp, _, _, storing_request plain, .creates absent⟩
  | found sound named alike there =>
    have keeping := keeping_replaced certificate key sound named
    exact .inr ⟨by simp, _, _, replacing_eq plain keeping, .puts (by simp) keeping
      (fun j mem => (alike_replaced _).trans (alike j mem)) there⟩
  | collided absent there =>
    refine .inr ⟨by simp, _, _, replacing_eq plain (keeping_newSecret owner certificate key),
      .puts (by simp) (keeping_newSecret owner certificate key) ?_ there⟩
    rw [absent]
    exact fun j mem => (Option.not_mem_none j mem).elim
  | ended few wrote => exact .inl ⟨rfl, few, wrote⟩

/-- A caller stays where it is while others make requests, if the secret is not deleted. -/
theorem Stage.congr {start now now' : Option Json} {own : List (ι × Exchange)}
    {p : Program Failure String}
    (h : Stage owner certificate key «namespace» name start now own p)
    (remains : now ≠ none → now' ≠ none) :
    Stage owner certificate key «namespace» name start now' own p := by
  cases h with
  | waiting => exact .waiting
  | missed absent => exact .missed absent
  | found sound named alike there => exact .found sound named alike (remains there)
  | collided absent there => exact .collided absent (remains there)
  | ended few wrote => exact .ended few wrote

/-- What is known of the secret at any time. -/
structure Since («namespace» name : String) (start now : Option Json) : Prop where
  legible : Legible «namespace» name now
  alike : ∀ j₀ ∈ start, ∃ j, now = some j ∧
    (Secret.format.read j).Alike (Secret.format.read j₀)

/-- What is known of the secret stays known after every request. -/
theorem Since.after {start : Option Json} {e : Exchange}
    (h : Since «namespace» name start (object e.before «namespace» name))
    (effect : Effect certificate key «namespace» name start e) :
    Since «namespace» name start (object e.after «namespace» name) ∧
      (object e.before «namespace» name ≠ none → object e.after «namespace» name ≠ none) := by
  cases effect with
  | quiet same =>
    rw [same]
    exact ⟨h, id⟩
  | wrote _ holds alike =>
    refine ⟨⟨holds.legible, alike⟩, fun _ absent => ?_⟩
    have data := holds.data
    change (object e.after «namespace» name).bind _ = _ at data
    rw [absent] at data
    cases data

/-- A request that is due does what it is to do, and the caller goes on from its next place. -/
theorem Due.step {start : Option Json} {own : List (ι × Exchange)} {r : Request}
    {next : Response → Program Failure String} {i : ι}
    (h : Due owner certificate key «namespace» name start (object s «namespace» name) own r next)
    (since : Since «namespace» name start (object s «namespace» name)) :
    Effect certificate key «namespace» name start (s.exchange r) ∧
      Stage owner certificate key «namespace» name start
        (object (s.serve r).1 «namespace» name) (own ++ [(i, s.exchange r)])
        (next (s.serve r).2) := by
  cases h with
  | reads =>
    -- it reads what is there at that time
    obtain ⟨same, answer⟩ := serve_reading s «namespace» name
    refine ⟨.quiet same fun writes => writes.1 rfl, ?_⟩
    rw [same]
    have isSeen := since.legible.seen_eq
    change seen (s.objects.find? (secretKey «namespace» name)) = _ at isSeen
    dsimp only
    rw [answer, isSeen]
    cases there : object s «namespace» name with
    | none =>
      refine .missed (Option.eq_none_iff_forall_not_mem.2 fun j₀ mem => ?_)
      obtain ⟨j, isThere, -⟩ := since.alike j₀ mem
      rw [there] at isThere
      cases isThere
    | some j =>
      have legible := since.legible
      rw [there] at legible
      refine .found (legible.sound _ rfl) (legible.named) (fun j₀ mem => ?_) (by rintro ⟨⟩)
      obtain ⟨_, isThere, alike⟩ := since.alike j₀ mem
      rw [there] at isThere
      cases isThere
      exact (Secret.alike_reread _).trans alike
  | creates absent =>
    -- it is created, unless somebody else has done so in the meantime
    by_cases there : object s «namespace» name = none
    · obtain ⟨leaves, ended⟩ := serve_creating_absent owner certificate key there
      rw [ended]
      refine ⟨.of_leaves leaves ?_, .ended (by simp) ?_⟩
      · rw [absent]
        exact fun j mem => (Option.not_mem_none j mem).elim
      · exact ⟨_, List.mem_append_right _ (List.mem_singleton_self _), leaves.writes⟩
    · obtain ⟨same, fails, next⟩ := serve_creating_there owner certificate key there
      rw [next, same]
      refine ⟨.quiet same fun writes => ?_, .collided absent there⟩
      exact absurd fails (ne_true_of_eq_false writes.2)
  | puts few keeping alike there =>
    -- it is put in the place of what is there, whatever that is
    obtain ⟨leaves, ended⟩ := serve_putting keeping there
    rw [ended]
    refine ⟨.of_leaves leaves alike, .ended ?_ ?_⟩
    · rw [List.length_append, List.length_singleton]
      omega
    · exact ⟨_, List.mem_append_right _ (List.mem_singleton_self _), leaves.writes⟩

/-! ### Every request -/

variable [DecidableEq ι] {owners : ι → Option OwnerReference} {certificates keys : ι → Bytes}
  {s₀ : Server} {turns : List (ι × Exchange)} {programs : ι → Program Failure String}

/-- What holds of several callers after some of their requests, from the beginning on. -/
structure Contest (owners : ι → Option OwnerReference) (certificates keys : ι → Bytes)
    («namespace» name : String) (start : Option Json) (turns : List (ι × Exchange)) (s : Server)
    (programs : ι → Program Failure String) : Prop where
  stages : ∀ i, Stage (owners i) (certificates i) (keys i) «namespace» name start
    (object s «namespace» name) (turns.filter (·.1 = i)) (programs i)
  since : Since «namespace» name start (object s «namespace» name)
  effects : ∀ t ∈ turns, Effect (certificates t.1) (keys t.1) «namespace» name start t.2
  last : ∀ earlier t later, turns = earlier ++ t :: later → (∀ u ∈ later, ¬ u.2.Writes) →
    object s «namespace» name = object t.2.after «namespace» name

namespace Contest

/-- At the beginning nobody has asked for anything. -/
theorem start (legible : Legible «namespace» name (object s «namespace» name)) :
    Contest owners certificates keys «namespace» name (object s «namespace» name) [] s
      fun i => synthesize «namespace» name (owners i) (certificates i) (keys i) where
  stages _ := .waiting
  since := ⟨legible, fun j₀ there => ⟨j₀, there, Secret.alike_refl _⟩⟩
  effects _ mem := absurd mem List.not_mem_nil
  last earlier t later split := by
    have mem : t ∈ ([] : List (ι × Exchange)) := split ▸ List.mem_append_right _ List.mem_cons_self
    exact absurd mem List.not_mem_nil

/-- Every step of every caller preserves what holds of all of them. -/
theorem request (plain : Request.Addressable Secret.objectType «namespace» name)
    {start : Option Json}
    (h : Contest owners certificates keys «namespace» name start turns s programs) {i : ι}
    {r : Request} {next : Response → Program Failure String} (due : programs i = .request r next) :
    Contest owners certificates keys «namespace» name start (turns ++ [(i, s.exchange r)])
      (s.serve r).1 (Function.update programs i (next (s.serve r).2)) := by
  obtain ⟨ended, -⟩ | ⟨-, r', next', place, isDue⟩ := (h.stages i).due plain
  · cases due.symm.trans ended
  -- the caller makes the request that is due at its place
  obtain ⟨rfl, rfl⟩ := Program.request.inj (due.symm.trans place)
  obtain ⟨effect, stage⟩ := isDue.step (i := i) h.since
  obtain ⟨since, remains⟩ := Since.after (e := s.exchange r) h.since effect
  -- the caller whose turn it is goes on, and the others see that the secret is still there
  refine ⟨fun j => ?_, since, fun t mem => ?_, fun earlier t later split quiet => ?_⟩
  · by_cases same : j = i
    · subst same
      rw [Function.update_self, filter_concat_self]
      exact stage
    · rw [Function.update_of_ne same, filter_concat_ne _ same]
      exact (h.stages j).congr remains
  · rcases List.mem_append.1 mem with mem | mem
    · exact h.effects t mem
    · obtain rfl := List.mem_singleton.1 mem
      exact effect
  · -- the request is the last one, or comes after it and has changed nothing
    rcases List.eq_nil_or_concat later with rfl | ⟨later', u, rfl⟩
    · obtain ⟨rfl, same⟩ := List.append_inj' split rfl
      obtain rfl := (List.cons.inj same).1
      rfl
    · rw [List.concat_eq_append, ← List.cons_append, ← List.append_assoc] at split
      obtain ⟨rfl, same⟩ := List.append_inj' split rfl
      obtain rfl := (List.cons.inj same).1
      have still := quiet (i, s.exchange r) (by simp)
      cases effect with
      | quiet unchanged =>
        have before := h.last earlier t later' rfl fun u mem => quiet u (by simp [mem])
        exact (congrArg (object · «namespace» name) unchanged).trans before
      | wrote writes => exact absurd writes still

/-- What holds of every run of any callers. -/
theorem run (plain : Request.Addressable Secret.objectType «namespace» name)
    (legible : Legible «namespace» name (object s₀ «namespace» name))
    (h : Interleaves s₀
      (fun i => synthesize «namespace» name (owners i) (certificates i) (keys i)) turns s
      programs) :
    Contest owners certificates keys «namespace» name (object s₀ «namespace» name) turns s
      programs := by
  -- a caller neither reads the clock nor counts anything
  have asks {p : Program Failure String} {q : Program Failure String} {start now : Option Json}
      {own : List (ι × Exchange)} {i : ι}
      (stage : Stage (owners i) (certificates i) (keys i) «namespace» name start now own p)
      (place : p = q) : (∃ f, q = .done f) ∨ ∃ r next, q = .request r next := by
    subst place
    obtain ⟨ended, -⟩ | ⟨-, r, next, place, -⟩ := stage.due plain
    · exact .inl ⟨_, ended⟩
    · exact .inr ⟨r, next, place⟩
  -- by induction on the run, one request at a time
  induction h with
  | start => exact .start legible
  | request before due ih => exact ih.request plain due
  | clock before due now ih =>
    obtain ⟨f, place⟩ | ⟨r, next, place⟩ := asks (ih.stages _) due <;> cases place
  | measure before due ih =>
    obtain ⟨f, place⟩ | ⟨r, next, place⟩ := asks (ih.stages _) due <;> cases place

end Contest

/-- Callers that keep certificates and keys in one secret, in any order of their requests. None of
them fails: after at most three requests and a granted write it ends with the name of its own file.
After every granted write certificate and key of who has made it are all that is in the secret, so
that at any time it is those of the last one. A secret that was there from the beginning stays
otherwise as it was. -/
theorem synthesize_interleaved (plain : Request.Addressable Secret.objectType «namespace» name)
    (legible : Legible «namespace» name (object s₀ «namespace» name))
    (run : Interleaves s₀
      (fun i => synthesize «namespace» name (owners i) (certificates i) (keys i)) turns s
      programs) :
    (∀ i, (programs i = .done (Tls.fileName (certificates i) (keys i)) ∧
        (turns.filter (·.1 = i)).length ≤ 3 ∧ ∃ t ∈ turns, t.1 = i ∧ t.2.Writes) ∨
      (turns.filter (·.1 = i)).length < 3 ∧ ∃ r next, programs i = .request r next) ∧
    (∀ t ∈ turns, t.2.Writes →
      HoldsOnly «namespace» name (certificates t.1) (keys t.1) t.2.after) ∧
    (∀ earlier t later, turns = earlier ++ t :: later → t.2.Writes →
      (∀ u ∈ later, ¬ u.2.Writes) →
      HoldsOnly «namespace» name (certificates t.1) (keys t.1) s) ∧
    ∀ j₀, object s₀ «namespace» name = some j₀ → ∃ j, object s «namespace» name = some j ∧
      (Secret.format.read j).Alike (Secret.format.read j₀) := by
  -- what holds of the run holds of each caller, wherever it is
  have h := Contest.run plain legible run
  have holds (t : ι × Exchange) (mem : t ∈ turns) (writes : t.2.Writes) :
      HoldsOnly «namespace» name (certificates t.1) (keys t.1) t.2.after := by
    cases h.effects t mem with
    | quiet _ still => exact absurd writes still
    | wrote _ holds => exact holds
  refine ⟨fun i => ?_, holds, ?_, fun j₀ there => h.since.alike j₀ there⟩
  · obtain ⟨ended, few, t, mem, writes⟩ | ⟨few, r, next, place, -⟩ := (h.stages i).due plain
    · obtain ⟨isTurn, own⟩ := List.mem_filter.1 mem
      exact .inl ⟨ended, few, t, isTurn, of_decide_eq_true own, writes⟩
    · exact .inr ⟨few, r, next, place⟩
  · intro earlier t later split writes quiet
    have mem : t ∈ turns := split ▸ List.mem_append_right _ List.mem_cons_self
    exact (holds t mem writes).congr (h.last earlier t later split quiet)

end

/-- Two callers that both find no secret: the one whose creation comes second puts its own material
in the place of what the first one has created, and both have their result. -/
theorem synthesize_interleaved_two_creators :
    ∃ turns s programs,
      Interleaves {} (fun i : Bool => synthesize "prod" "db-tls" none [i.toUInt8] [0]) turns s
        programs ∧
      Request.Addressable Secret.objectType "prod" "db-tls" ∧
      Legible "prod" "db-tls" (object {} "prod" "db-tls") ∧
      (∀ i, programs i = .done (Tls.fileName [i.toUInt8] [0])) ∧
      (turns.filter (·.1 = true)).length = 3 ∧ HoldsOnly "prod" "db-tls" [1] [0] s := by
  let call (i : Bool) := synthesize "prod" "db-tls" none [i.toUInt8] [0]
  let create (i : Bool) := creating "prod" "db-tls" none [i.toUInt8] [0]
  let s₀ : Server := {}
  let s₁ := (s₀.serve (create false)).1
  -- the names are plain, and the secret is not there at the beginning
  have plain : Request.Addressable Secret.objectType "prod" "db-tls" := by decide
  obtain ⟨unchanged, answer⟩ := serve_reading s₀ "prod" "db-tls"
  have missed (i : Bool) : (Program.ofExcept (Secret.stored.found
      (s₀.serve (reading "prod" "db-tls")).2)).bind (storing "prod" "db-tls" none [i.toUInt8] [0]) =
        storing "prod" "db-tls" none [i.toUInt8] [0] none := by
    rw [answer]
    rfl
  obtain ⟨leaves, isCreated⟩ := serve_creating_absent none [false.toUInt8] [0]
    (show object s₀ "prod" "db-tls" = none from rfl)
  have there : object s₁ "prod" "db-tls" ≠ none := by
    obtain ⟨j, now, -⟩ := leaves.alike
    exact Option.ne_none_iff_exists'.2 ⟨j, now⟩
  obtain ⟨same, -, next⟩ := serve_creating_there none [true.toUInt8] [0] there
  obtain ⟨put, isPut⟩ := serve_putting (keeping_newSecret none [true.toUInt8] [0]) there
  -- both read, both try to create, and the second one puts
  have begins : Interleaves s₀ call [] s₀ call := .start
  have first := begins.request (i := false) (synthesize_request plain)
  rw [unchanged, missed] at first
  have second := first.request (i := true) (by
    rw [Function.update_of_ne Bool.noConfusion]
    exact synthesize_request plain)
  rw [unchanged, missed] at second
  have third := second.request (i := false) (by
    rw [Function.update_of_ne Bool.noConfusion, Function.update_self]
    exact storing_request plain)
  rw [isCreated] at third
  have fourth := third.request (i := true) (by
    rw [Function.update_of_ne Bool.noConfusion, Function.update_self]
    exact storing_request plain)
  rw [next, same] at fourth
  have fifth := fourth.request (i := true) (by
    rw [Function.update_self]
    exact replacing_eq plain (keeping_newSecret none [true.toUInt8] [0]))
  rw [isPut] at fifth
  obtain ⟨-, -, last, -⟩ := synthesize_interleaved plain .none fifth
  refine ⟨_, _, _, fifth, plain, .none, ?_, by simp, ?_⟩
  · rintro (_ | _)
    · rw [Function.update_of_ne Bool.noConfusion, Function.update_of_ne Bool.noConfusion,
        Function.update_self]
    · rw [Function.update_self]
  · exact last _ _ [] rfl put.writes fun u mem => absurd mem List.not_mem_nil

end Material

end ReplicaSetOperator
