import Mathlib.Data.List.Pairwise
import Mathlib.Logic.Relation
import ReplicaSetOperator.Proofs.Automation.DocumentText
import ReplicaSetOperator.Proofs.Operator.Configuration
import ReplicaSetOperator.Proofs.Server.Interleaving

/-!
# Pushes of several writers

Any number of pushes for the secret of one cluster, each with a cluster and a modification of its
own, whose requests arrive in any order (`Interleaves`). The server moves from one document to the
next (`Configuration.Replaces`), never back, so that two documents with one version are one
document (`Configuration.Later.versions`). What one push can be doing is its `Stage`, and
`Configuration.Contest` is what all steps of all pushes preserve.
-/

namespace ReplicaSetOperator

namespace Configuration

/-! ### One document after another -/

/-- An object of the server, or none, gives way to one that holds the document that follows. -/
structure Replaces (before : Option Json) (d : Document) (object : Json) : Prop where
  follows : ∃ previous, held before = .ok previous ∧ d.Follows previous
  entry : (Secret.format.read object).data = some (entries d)
  older : age before < age (some object)

namespace Replaces

variable {before : Option Json} {d : Document} {object : Json}

/-- What is held afterwards, if it is a document, has the version of the one that was written. -/
theorem version (h : Replaces before d object) {q : Option Document}
    (now : held (some object) = .ok q) : ∃ e, q = some e ∧ e.version = d.version := by
  rw [held, seen] at now
  split at now
  · next existing isRead =>
    split at isRead
    · obtain rfl := Except.ok.inj isRead
      rw [stored_entries (s := (Secret.format.read object).reread) h.entry] at now
      split at now
      · next e decoded =>
        exact ⟨e, (Except.ok.inj now).symm, Document.version_ofBytes decoded⟩
      · cases now
    · cases isRead
  · cases now

end Replaces

/-- An object of the server has been left alone or replaced, any number of times. -/
def Later : Option Json → Option Json → Prop :=
  Relation.ReflTransGen fun before after =>
    ∃ d object, after = some object ∧ Replaces before d object

namespace Later

variable {x y z : Option Json}

theorem refl (x : Option Json) : Later x x := Relation.ReflTransGen.refl

theorem trans (h : Later x y) (h' : Later y z) : Later x z := Relation.ReflTransGen.trans h h'

/-- A document that takes the place of another one is later. -/
theorem replaces {d : Document} {object : Json} (h : Replaces x d object) :
    Later x (some object) :=
  Relation.ReflTransGen.single ⟨d, object, rfl, h⟩

/-- What is later has been written more often. -/
theorem age_le (h : Later x y) : age x ≤ age y := by
  induction h with
  | refl => exact Nat.le_refl _
  | tail _ step ih =>
    obtain ⟨d, object, rfl, step⟩ := step
    exact Nat.le_of_lt (Nat.lt_of_le_of_lt ih step.older)

/-- What is of the same age is the same. -/
theorem eq_of_age (h : Later x y) (same : age x = age y) : x = y := by
  cases h with
  | refl => rfl
  | tail before step =>
    obtain ⟨d, object, rfl, step⟩ := step
    have older := Nat.lt_of_le_of_lt (age_le before) step.older
    omega

/-- A later document has a greater version, unless nothing was written in between. -/
theorem version_lt (h : Later x y) : x = y ∨
    ∀ q, held y = .ok q → ∃ e, q = some e ∧
      ∀ p, held x = .ok (some p) → p.version.toInt < e.version.toInt := by
  -- by induction on what has happened since, one document after another
  induction h with
  | refl => exact .inl rfl
  | @tail y z before step ih =>
    obtain ⟨d, object, rfl, step⟩ := step
    refine .inr fun q now => ?_
    obtain ⟨e, rfl, version⟩ := step.version now
    refine ⟨e, rfl, fun p first => ?_⟩
    obtain ⟨previous, last, follows⟩ := step.follows
    -- the document that was replaced is the first one, or a later one with a greater version
    obtain ⟨r, rfl, le⟩ : ∃ r, previous = some r ∧ p.version.toInt ≤ r.version.toInt := by
      rcases ih with rfl | ih
      · exact ⟨p, Except.ok.inj (last.symm.trans first), Int.le_refl _⟩
      · obtain ⟨r, rfl, lt⟩ := ih previous last
        exact ⟨r, rfl, Int.le_of_lt (lt p first)⟩
    calc p.version.toInt
        ≤ r.version.toInt := le
      _ < r.version.toInt + 1 := Int.lt_succ _
      _ = d.version.toInt := follows.1.symm
      _ = e.version.toInt := by rw [version]

/-- Two documents with one version, of which one is there later, are the same object. -/
theorem versions (h : Later x y) {p q : Document} (first : held x = .ok (some p))
    (last : held y = .ok (some q)) (same : p.version = q.version) : x = y := by
  rcases h.version_lt with eq | lt
  · exact eq
  · obtain ⟨e, isLast, lt⟩ := lt _ last
    obtain rfl := Option.some.inj isLast
    have less := lt p first
    rw [same] at less
    omega

end Later

/-! ### The pushes -/

section

variable {ι : Type} [DecidableEq ι] {clusters : ι → Cluster}
  {modifications : ι → Document → Document} {«namespace» name : String}

/-- Every push is for the secret of one name in one namespace. -/
structure Shares (clusters : ι → Cluster) («namespace» name : String) : Prop where
  plain : Request.Addressable Secret.objectType «namespace» name
  inNamespace : ∀ i, (clusters i).metadata.namespace = some «namespace»
  named : ∀ i, (clusters i).configSecretName = name

omit [DecidableEq ι] in
/-- Every push reads the same secret first. -/
theorem Shares.push_eq (shares : Shares clusters «namespace» name) (i : ι) :
    push (clusters i) (modifications i) = .request (reading «namespace» name) fun r =>
      continued (clusters i) «namespace» (modifications i) (Secret.stored.found r) := by
  obtain rfl := shares.named i
  exact Configuration.push_eq (shares.inNamespace i) shares.plain

/-- The object under which a server holds the document. -/
def object (s : Server) («namespace» name : String) : Option Json :=
  s.objects.find? (secretKey «namespace» name)

omit [DecidableEq ι] in
/-- What it does then depends on what it has read. -/
theorem Shares.course (shares : Shares clusters «namespace» name) (i : ι) {s : Server}
    (kept : KeptUnder «namespace» name (object s «namespace» name)) :
    Course (clusters i) «namespace» (modifications i) (seen (object s «namespace» name))
      (continued (clusters i) «namespace» (modifications i)
        (seen (object s «namespace» name))) := by
  obtain rfl := shares.named i
  exact continued_cases shares.plain fun existing isRead => (names_of_seen kept isRead).1

/-- Where a push is, after some requests of its own and of others: it has not begun, it has read
the secret, or its only write has been answered. -/
inductive Stage (clusters : ι → Cluster) (modifications : ι → Document → Document)
    («namespace» name : String) (turns : List (ι × Exchange)) (i : ι) :
    Program Failure Document → Prop
  | waiting (unheard : turns.filter (·.1 = i) = []) :
    Stage clusters modifications «namespace» name turns i (push (clusters i) (modifications i))
  | read {r : Server}
    (heard : turns.filter (·.1 = i) = [(i, r.exchange (reading «namespace» name))]) :
    Stage clusters modifications «namespace» name turns i
      (continued (clusters i) «namespace» (modifications i) (seen (object r «namespace» name)))
  | ended {r w : Server} {existing : Option Secret} (d : Document)
    (refusal : ClientError → StoreError)
    (heard : turns.filter (·.1 = i) =
      [(i, r.exchange (reading «namespace» name)),
       (i, w.exchange (writing (clusters i) «namespace» existing d))])
    (isRead : seen (object r «namespace» name) = .ok existing) :
    Stage clusters modifications «namespace» name turns i
      (concluded d refusal (w.serve (writing (clusters i) «namespace» existing d)).2)

/-- What a request has done to the object with the document: nothing when it reads, nothing when it
is refused, and otherwise it has put the document that follows there. -/
inductive Effect («namespace» name : String) (e : Exchange) : Prop
  | reads (verb : e.request.verb = .get) (same : e.after = e.before)
  | refused (verb : e.request.verb ≠ .get) (failure : e.response.isFailure = true)
    (same : e.after = e.before)
  | accepted {d : Document} {j : Json} (verb : e.request.verb ≠ .get)
    (success : e.response.isFailure = false) (now : object e.after «namespace» name = some j)
    (replaces : Replaces (object e.before «namespace» name) d j)

/-- What holds of several pushes after some of their requests, from the beginning on. -/
structure Contest (clusters : ι → Cluster) (modifications : ι → Document → Document)
    («namespace» name : String) (turns : List (ι × Exchange)) (s : Server)
    (programs : ι → Program Failure Document) : Prop where
  stages : ∀ i, Stage clusters modifications «namespace» name turns i (programs i)
  kept : KeptUnder «namespace» name (object s «namespace» name)
  keptBefore : ∀ t ∈ turns, KeptUnder «namespace» name (object t.2.before «namespace» name)
  effects : ∀ t ∈ turns, Effect «namespace» name t.2
  order : turns.Pairwise fun t u =>
    Later (object t.2.after «namespace» name) (object u.2.before «namespace» name)
  now : ∀ t ∈ turns, Later (object t.2.after «namespace» name) (object s «namespace» name)

/-- A place from which a push goes on is its beginning, or what follows its reading. -/
theorem Stage.cases_due {turns : List (ι × Exchange)} {i : ι} {p : Program Failure Document}
    (shares : Shares clusters «namespace» name)
    (h : Stage clusters modifications «namespace» name turns i p)
    (kept : ∀ t ∈ turns, KeptUnder «namespace» name (object t.2.before «namespace» name)) :
    (∃ a, p = .done a) ∨ (∃ e, p = .fail e) ∨ p = .overflow ∨
    (turns.filter (·.1 = i) = [] ∧ p = .request (reading «namespace» name) fun r =>
      continued (clusters i) «namespace» (modifications i) (Secret.stored.found r)) ∨
    ∃ r existing previous d refusal,
      turns.filter (·.1 = i) = [(i, r.exchange (reading «namespace» name))] ∧
      seen (object r «namespace» name) = .ok existing ∧ stored existing = .ok previous ∧
      d.Follows previous ∧
      p = .request (writing (clusters i) «namespace» existing d) (concluded d refusal) := by
  -- one case for each place at which a push can be
  cases h with
  | waiting unheard =>
    exact .inr (.inr (.inr (.inl ⟨unheard, shares.push_eq i⟩)))
  | @read r heard =>
    have mem : (i, r.exchange (reading «namespace» name)) ∈ turns :=
      (List.mem_filter.1 (heard ▸ List.mem_singleton_self _)).1
    -- after the reading it has failed, is done, or is about to write
    have course : Course (clusters i) «namespace» (modifications i)
        (seen (object r «namespace» name)) _ := shares.course i (kept _ mem)
    generalize continued (clusters i) «namespace» (modifications i)
      (seen (object r «namespace» name)) = p at course
    cases course with
    | fails f => exact .inr (.inl ⟨f, rfl⟩)
    | overflows => exact .inr (.inr (.inl rfl))
    | keeps => exact .inl ⟨_, rfl⟩
    | writes refusal isRead held follows =>
      exact .inr (.inr (.inr (.inr ⟨r, _, _, _, refusal, heard, isRead, held, follows, rfl⟩)))
  | ended d refusal heard isRead =>
    rw [concluded]
    split
    · exact .inl ⟨d, rfl⟩
    · exact .inr (.inl ⟨_, rfl⟩)

/-- Whatever a request does to the secret, what is there then is the same or later. -/
theorem Effect.later {e : Exchange} (h : Effect «namespace» name e) :
    Later (object e.before «namespace» name) (object e.after «namespace» name) := by
  cases h with
  | reads _ same => exact same ▸ .refl _
  | refused _ _ same => exact same ▸ .refl _
  | accepted _ _ now replaces => exact now ▸ .replaces replaces

/-- A granted write leaves an object that has been written more often. -/
theorem Effect.age_lt {e : Exchange} (h : Effect «namespace» name e) (writes : e.Writes) :
    age (object e.before «namespace» name) < age (object e.after «namespace» name) := by
  cases h with
  | reads verb => exact absurd verb writes.1
  | refused _ failure => exact absurd failure (ne_true_of_eq_false writes.2)
  | accepted _ _ now replaces =>
    rw [now]
    exact replaces.older

/-- A request has put a document in the place of the one that was held, or of none. -/
structure Wrote («namespace» name : String) (e : Exchange) (d : Document) : Prop where
  writes : e.Writes
  follows : ∃ previous, held (object e.before «namespace» name) = .ok previous ∧ d.Follows previous
  stored : ∃ j, object e.after «namespace» name = some j ∧
    (Secret.format.read j).data = some (entries d)
  version : ∀ q, held (object e.after «namespace» name) = .ok q →
    ∃ stored, q = some stored ∧ stored.version = d.version

/-- A request that has written has written a document. -/
theorem Effect.wrote {e : Exchange} (h : Effect «namespace» name e) (writes : e.Writes) :
    ∃ d, Wrote «namespace» name e d := by
  cases h with
  | reads verb => exact absurd verb writes.1
  | refused _ failure =>
    rw [writes.2] at failure
    cases failure
  | @accepted d j _ _ now replaces =>
    refine ⟨d, writes, replaces.follows, ⟨j, now, replaces.entry⟩, fun q isHeld => ?_⟩
    rw [now] at isHeld
    exact replaces.version isHeld

/-- Documents that are written one after the other have growing versions. -/
theorem Wrote.version_lt {e e' : Exchange} {d d' : Document} (h : Wrote «namespace» name e d)
    (h' : Wrote «namespace» name e' d')
    (later : Later (object e.after «namespace» name) (object e'.before «namespace» name)) :
    d.version.toInt < d'.version.toInt := by
  obtain ⟨previous, isHeld, follows⟩ := h'.follows
  obtain ⟨q, first⟩ : ∃ q, held (object e.after «namespace» name) = .ok q := by
    rcases Relation.ReflTransGen.cases_head later with same | ⟨_, ⟨_, _, _, step⟩, _⟩
    · exact ⟨previous, same ▸ isHeld⟩
    · exact step.follows.imp fun _ => And.left
  obtain ⟨stored, rfl, version⟩ := h.version q first
  obtain ⟨p, rfl, le⟩ : ∃ p, previous = some p ∧ d.version.toInt ≤ p.version.toInt := by
    rcases later.version_lt with same | lt
    · rw [← same] at isHeld
      exact ⟨stored, Except.ok.inj (isHeld.symm.trans first), Int.le_of_eq (by rw [version])⟩
    · obtain ⟨p, rfl, lt⟩ := lt previous isHeld
      exact ⟨p, rfl, version ▸ Int.le_of_lt (lt stored first)⟩
  have next : d'.version.toInt = p.version.toInt + 1 := follows.1
  omega

/-- A state of the server before or after one of some requests. -/
def Passed (turns : List (ι × Exchange)) (s : Server) : Prop :=
  ∃ t ∈ turns, s = t.2.before ∨ s = t.2.after

/-! ### Every request -/

/-- A request of another push is none of its own. -/
theorem filter_concat_ne {turns : List (ι × Exchange)} {i j : ι} (e : Exchange) (apart : j ≠ i) :
    (turns ++ [(i, e)]).filter (·.1 = j) = turns.filter (·.1 = j) := by
  rw [List.filter_append, List.filter_cons_of_neg (by simpa using apart.symm), List.filter_nil,
    List.append_nil]

/-- One of its own is the last of them. -/
theorem filter_concat_self {turns : List (ι × Exchange)} {i : ι} (e : Exchange) :
    (turns ++ [(i, e)]).filter (·.1 = i) = turns.filter (·.1 = i) ++ [(i, e)] := by
  rw [List.filter_append, List.filter_cons_of_pos (by simp), List.filter_nil]

/-- A push stays where it is while others make requests. -/
theorem Stage.concat {turns : List (ι × Exchange)} {i j : ι} {p : Program Failure Document}
    (h : Stage clusters modifications «namespace» name turns j p) (e : Exchange) (apart : j ≠ i) :
    Stage clusters modifications «namespace» name (turns ++ [(i, e)]) j p := by
  cases h with
  | waiting unheard => exact .waiting (by rw [filter_concat_ne e apart, unheard])
  | read heard => exact .read (by rw [filter_concat_ne e apart, heard])
  | ended d refusal heard isRead =>
    exact .ended d refusal (by rw [filter_concat_ne e apart, heard]) isRead

namespace Contest

variable {turns : List (ι × Exchange)} {s : Server} {programs : ι → Program Failure Document}

/-- The object that a push has read is earlier than the one that is there now, or the same. -/
theorem later_of_reading (h : Contest clusters modifications «namespace» name turns s programs)
    {i : ι} {r : Server} (mem : (i, r.exchange (reading «namespace» name)) ∈ turns) :
    Later (object r «namespace» name) (object s «namespace» name) := by
  have same : (r.serve (reading «namespace» name)).1 = r := (serve_reading r _ _).1
  have now := h.now _ mem
  rw [Server.exchange, same] at now
  exact now

/-- A document is written over the one that was read, as the one that follows it, or not at all. -/
theorem effect_of_writing (shares : Shares clusters «namespace» name)
    (h : Contest clusters modifications «namespace» name turns s programs) {i : ι} {r : Server}
    {existing : Option Secret} {previous : Option Document} {d : Document}
    (mem : (i, r.exchange (reading «namespace» name)) ∈ turns)
    (isRead : seen (object r «namespace» name) = .ok existing)
    (isHeld : stored existing = .ok previous) (follows : d.Follows previous) :
    Effect «namespace» name (s.exchange (writing (clusters i) «namespace» existing d)) ∧
    KeptUnder «namespace» name
      (object (s.serve (writing (clusters i) «namespace» existing d)).1 «namespace» name) := by
  have verb : (writing (clusters i) «namespace» existing d).verb ≠ .get := by
    cases existing <;> exact Verb.noConfusion
  have keptRead := h.keptBefore _ mem
  rcases serve_writing (s := s) d (shares.named i) keptRead isRead with
    ⟨sameAge, code, low, high, accepted⟩ | ⟨-, answer, failure, refused⟩
  · -- the object that was read is the one that is replaced
    have same := (h.later_of_reading mem).eq_of_age sameAge.symm
    have now : object (s.serve (writing (clusters i) «namespace» existing d)).1 «namespace» name =
        some (storedAs (clusters i) «namespace» d existing (object s «namespace» name)) := by
      rw [accepted, object, Server.find?_accept, if_pos rfl]
      rfl
    have heldNow : held (object s «namespace» name) = .ok previous := by
      rw [← same, held, isRead]
      exact isHeld
    obtain ⟨named, tidy, -⟩ := names_of_seen keptRead isRead
    constructor
    · refine .accepted (d := d) verb ?_ now ⟨⟨previous, heldNow, follows⟩, ?_, ?_⟩
      · show (s.serve (writing (clusters i) «namespace» existing d)).2.isFailure = false
        rw [accepted]
        exact Server.isFailure_accept s code _ _ high
      · exact data_storedAs d existing _
      · -- the object is younger now
        show age (object s «namespace» name) < _
        rw [age.eq_def (some _)]
        dsimp only
        rw [storedAs, Json.stamp_stamped]
        cases object s «namespace» name with
        | none => exact Nat.zero_lt_succ _
        | some j => exact Nat.lt_succ_self _
    · rw [now]
      rintro j ⟨⟩
      exact kept_storedAs d (shares.named i) named tidy _
  · -- it is refused, and nothing changes
    constructor
    · refine .refused verb ?_ ?_
      · show (s.serve (writing (clusters i) «namespace» existing d)).2.isFailure = true
        rw [refused]
        exact failure
      · show (s.serve (writing (clusters i) «namespace» existing d)).1 = s
        rw [refused]
    · rw [refused]
      exact h.kept

/-- One more request, by a push that goes on then from a given place. -/
theorem concat (h : Contest clusters modifications «namespace» name turns s programs) {i : ι}
    {r : Request} {p : Program Failure Document}
    (effect : Effect «namespace» name (s.exchange r))
    (kept : KeptUnder «namespace» name (object (s.serve r).1 «namespace» name))
    (stage : Stage clusters modifications «namespace» name (turns ++ [(i, s.exchange r)]) i p) :
    Contest clusters modifications «namespace» name (turns ++ [(i, s.exchange r)]) (s.serve r).1
      (Function.update programs i p) where
  -- only this push goes on, and the others are where they were
  stages j := by
    by_cases same : j = i
    · subst same
      rw [Function.update_self]
      exact stage
    · rw [Function.update_of_ne same]
      exact (h.stages j).concat _ same
  kept := kept
  keptBefore t mem := by
    rcases List.mem_append.1 mem with mem | mem
    · exact h.keptBefore t mem
    · obtain rfl := List.mem_singleton.1 mem
      exact h.kept
  effects t mem := by
    rcases List.mem_append.1 mem with mem | mem
    · exact h.effects t mem
    · obtain rfl := List.mem_singleton.1 mem
      exact effect
  -- what the others have seen is not later than now
  order := by
    refine List.pairwise_append.2 ⟨h.order, List.pairwise_singleton _ _, fun t mem u last => ?_⟩
    obtain rfl := List.mem_singleton.1 last
    exact h.now t mem
  now t mem := by
    rcases List.mem_append.1 mem with mem | mem
    · exact (h.now t mem).trans effect.later
    · obtain rfl := List.mem_singleton.1 mem
      exact .refl _

/-- Every step of every push preserves what holds of all of them. -/
theorem request (shares : Shares clusters «namespace» name)
    (h : Contest clusters modifications «namespace» name turns s programs) {i : ι} {r : Request}
    {next : Response → Program Failure Document} (due : programs i = .request r next) :
    Contest clusters modifications «namespace» name (turns ++ [(i, s.exchange r)]) (s.serve r).1
      (Function.update programs i (next (s.serve r).2)) := by
  rcases (h.stages i).cases_due shares h.keptBefore with
    ⟨a, place⟩ | ⟨e, place⟩ | place | ⟨unheard, place⟩ |
    ⟨r₀, existing, previous, d, refusal, heard, isRead, isHeld, follows, place⟩
  · cases due.symm.trans place
  · cases due.symm.trans place
  · cases due.symm.trans place
  · -- it reads
    obtain ⟨rfl, rfl⟩ := Program.request.inj (due.symm.trans place)
    obtain ⟨same, found⟩ := serve_reading s «namespace» name
    refine h.concat (.reads rfl same) ?_ ?_
    · rw [same]
      exact h.kept
    · dsimp only
      rw [found]
      exact .read (by rw [filter_concat_self, unheard, List.nil_append])
  · -- it writes over what it has read
    obtain ⟨rfl, rfl⟩ := Program.request.inj (due.symm.trans place)
    have mem : (i, r₀.exchange (reading «namespace» name)) ∈ turns :=
      (List.mem_filter.1 (heard ▸ List.mem_singleton_self _)).1
    obtain ⟨effect, kept⟩ := h.effect_of_writing shares mem isRead isHeld follows
    refine h.concat effect kept (.ended d refusal ?_ isRead)
    rw [filter_concat_self, heard]
    rfl

/-- What holds at the beginning. -/
theorem start (kept : KeptUnder «namespace» name (object s «namespace» name)) :
    Contest clusters modifications «namespace» name [] s
      fun i => push (clusters i) (modifications i) where
  stages _ := .waiting rfl
  kept := kept
  keptBefore _ mem := absurd mem List.not_mem_nil
  effects _ mem := absurd mem List.not_mem_nil
  order := List.Pairwise.nil
  now _ mem := absurd mem List.not_mem_nil

/-- What holds of every run of any pushes. -/
theorem run (shares : Shares clusters «namespace» name) {s₀ : Server}
    (kept : KeptUnder «namespace» name (object s₀ «namespace» name))
    (h : Interleaves s₀ (fun i => push (clusters i) (modifications i)) turns s programs) :
    Contest clusters modifications «namespace» name turns s programs := by
  induction h with
  | start => exact .start kept
  | request before due ih => exact ih.request shares due
  | clock before due now ih =>
    rcases (ih.stages _).cases_due shares ih.keptBefore with
      ⟨a, place⟩ | ⟨e, place⟩ | place | ⟨_, place⟩ | ⟨_, _, _, _, _, _, _, _, _, place⟩ <;>
      cases due.symm.trans place
  | measure before due ih =>
    rcases (ih.stages _).cases_due shares ih.keptBefore with
      ⟨a, place⟩ | ⟨e, place⟩ | place | ⟨_, place⟩ | ⟨_, _, _, _, _, _, _, _, _, place⟩ <;>
      cases due.symm.trans place

/-- The object is younger when a push writes than when it has read, if another has written in
between. -/
theorem age_lt_of_overtaken (h : Contest clusters modifications «namespace» name turns s programs)
    {before between after : List (ι × Exchange)} {t u v : ι × Exchange}
    (order : turns = before ++ t :: (between ++ v :: after)) (mem : u ∈ between)
    (writes : u.2.Writes) :
    age (object t.2.before «namespace» name) < age (object v.2.before «namespace» name) := by
  have pairwise := h.order
  rw [order] at pairwise
  obtain ⟨later, rest⟩ := List.pairwise_cons.1 (List.pairwise_append.1 pairwise).2.1
  have first := (later u (List.mem_append_left _ mem)).age_le
  have last := ((List.pairwise_append.1 rest).2.2 u mem v List.mem_cons_self).age_le
  have mem_t : t ∈ turns := order ▸ List.mem_append_right _ List.mem_cons_self
  have mem_u : u ∈ turns := by rw [order]; simp [mem]
  calc age (object t.2.before «namespace» name)
      ≤ age (object t.2.after «namespace» name) := (h.effects t mem_t).later.age_le
    _ ≤ age (object u.2.before «namespace» name) := first
    _ < age (object u.2.after «namespace» name) := (h.effects u mem_u).age_lt writes
    _ ≤ age (object v.2.before «namespace» name) := last

/-- A push whose reading was overtaken by a write of another is refused when it writes. -/
theorem overtaken (shares : Shares clusters «namespace» name)
    (h : Contest clusters modifications «namespace» name turns s programs)
    {before between after : List (ι × Exchange)} {i : ι} {r w : Exchange}
    (order : turns = before ++ (i, r) :: (between ++ (i, w) :: after))
    (reads : r.request.verb = .get) (writes : w.request.verb ≠ .get)
    (other : ∃ t ∈ between, t.2.Writes) :
    w.after = w.before ∧ ∃ e, programs i = .fail (.plain (.writeFailed e)) := by
  obtain ⟨t, mem, written⟩ := other
  have mem_r : (i, r) ∈ turns := by rw [order]; simp
  have older : age (object r.before «namespace» name) < age (object w.before «namespace» name) :=
    h.age_lt_of_overtaken order mem written
  -- of its own requests the push has made two at least, so that it is past its write
  have mine : [(i, r), (i, w)].Sublist (turns.filter (·.1 = i)) := by
    have both : [(i, r), (i, w)].Sublist turns := by
      rw [order]
      refine List.Sublist.trans ?_ (List.sublist_append_right _ _)
      refine List.Sublist.cons_cons _ (List.Sublist.trans ?_ (List.sublist_append_right _ _))
      exact List.Sublist.cons_cons _ (List.nil_sublist _)
    simpa using both.filter (·.1 = i)
  -- only after its write has it made two requests
  have stage := h.stages i
  generalize programs i = p at stage ⊢
  cases stage with
  | waiting unheard => rw [unheard] at mine; cases mine
  | read heard => rw [heard] at mine; exact absurd mine.length_le (by simp)
  | @ended r' w' existing d refusal heard isRead =>
    rw [heard] at mine
    have same := mine.eq_of_length rfl
    simp only [List.cons.injEq, Prod.mk.injEq, true_and, and_true] at same
    obtain ⟨rfl, rfl⟩ := same
    -- the write is accepted only over an object of the age of the one that was read
    rcases serve_writing (s := w') d (shares.named i) (h.keptBefore _ mem_r) isRead with
      ⟨sameAge, -⟩ | ⟨-, answer, failure, refused⟩
    · change age (object w' «namespace» name) = _ at sameAge
      change age (object r' «namespace» name) < age (object w' «namespace» name) at older
      change age (object w' «namespace» name) = age (object r' «namespace» name) at sameAge
      omega
    · constructor
      · show (w'.serve (writing (clusters i) «namespace» existing d)).1 = w'
        rw [refused]
      · rw [refused, concluded, Response.decode_of_isFailure _ failure]
        exact ⟨_, rfl⟩

/-- A push that is done without having written has what it has read. -/
theorem kept_of_quiet (shares : Shares clusters «namespace» name)
    (h : Contest clusters modifications «namespace» name turns s programs) {i : ι} {d : Document}
    (done : programs i = .done d) (quiet : ∀ t ∈ turns, t.1 = i → t.2.request.verb = .get) :
    ∃ e p, (i, e) ∈ turns ∧ held (object e.before «namespace» name) = .ok (some p) ∧
      p.same d = true := by
  have stage := h.stages i
  rw [done] at stage
  generalize place : Program.done d = p at stage
  cases stage with
  | waiting unheard =>
    -- a push that has not begun is not done
    cases place.trans (shares.push_eq i)
  | @read r heard =>
    have mem : (i, r.exchange (reading «namespace» name)) ∈ turns :=
      (List.mem_filter.1 (heard ▸ List.mem_singleton_self _)).1
    -- what it has read is what it keeps, unless it goes on to write
    have course : Course (clusters i) «namespace» (modifications i)
        (seen (object r «namespace» name)) _ := shares.course i (h.keptBefore _ mem)
    rw [← place] at course
    cases course with
    | @keeps existing p _ isRead isHeld same =>
      refine ⟨_, p, mem, ?_, same⟩
      show held (object r «namespace» name) = _
      rw [held, isRead]
      exact isHeld
  | @ended r w existing d' refusal heard isRead =>
    -- after a write it has not been quiet
    have mem : (i, w.exchange (writing (clusters i) «namespace» existing d')) ∈ turns :=
      (List.mem_filter.1 (heard ▸ List.mem_cons_of_mem _ (List.mem_singleton_self _))).1
    cases existing <;> cases quiet _ mem rfl

/-- Of any two states one is later. -/
theorem later_or_later (h : Contest clusters modifications «namespace» name turns s programs)
    {x y : Server} (passed : Passed turns x) (passed' : Passed turns y) :
    Later (object x «namespace» name) (object y «namespace» name) ∨
      Later (object y «namespace» name) (object x «namespace» name) := by
  obtain ⟨t, mem, at_t⟩ := passed
  obtain ⟨u, mem', at_u⟩ := passed'
  have before_t : Later (object t.2.before «namespace» name) (object x «namespace» name) ∧
      Later (object x «namespace» name) (object t.2.after «namespace» name) := by
    rcases at_t with rfl | rfl
    · exact ⟨.refl _, (h.effects t mem).later⟩
    · exact ⟨(h.effects t mem).later, .refl _⟩
  have before_u : Later (object u.2.before «namespace» name) (object y «namespace» name) ∧
      Later (object y «namespace» name) (object u.2.after «namespace» name) := by
    rcases at_u with rfl | rfl
    · exact ⟨.refl _, (h.effects u mem').later⟩
    · exact ⟨(h.effects u mem').later, .refl _⟩
  -- of two requests one came first, and what it has left is what the other has found or older
  let either (t u : ι × Exchange) : Prop :=
    Later (object t.2.after «namespace» name) (object u.2.before «namespace» name) ∨
    Later (object u.2.after «namespace» name) (object t.2.before «namespace» name)
  have symmetric : Std.Symm either := ⟨fun _ _ => Or.symm⟩
  have ordered : turns.Pairwise either := h.order.imp .inl
  by_cases same : t = u
  · subst same
    rcases at_t with rfl | rfl
    · exact .inl before_u.1
    · exact .inr before_u.2
  · rcases ordered.forall mem mem' same with first | first
    · exact .inl ((before_t.2.trans first).trans before_u.1)
    · exact .inr ((before_u.2.trans first).trans before_t.1)

end Contest

/-- Pushes of any number of writers, in any order of their requests. Every accepted write puts the
document that follows in the place of the one that was held, and the documents that are written
have growing versions. A push that was overtaken fails when it writes and changes nothing, one that
is done without a write gives the document that it has read, and an entry that is no document stays
as it is. Two documents that are held under one version are one document. -/
theorem push_interleaved {s₀ s : Server} {turns : List (ι × Exchange)}
    {programs : ι → Program Failure Document} (shares : Shares clusters «namespace» name)
    (kept : KeptUnder «namespace» name (object s₀ «namespace» name))
    (run : Interleaves s₀ (fun i => push (clusters i) (modifications i)) turns s programs) :
    (∀ t ∈ turns, t.2.Writes → ∃ d, Wrote «namespace» name t.2 d) ∧
    turns.Pairwise (fun t u => ∀ d d', Wrote «namespace» name t.2 d →
      Wrote «namespace» name u.2 d' → d.version.toInt < d'.version.toInt) ∧
    (∀ before between after i r w, turns = before ++ (i, r) :: (between ++ (i, w) :: after) →
      r.request.verb = .get → w.request.verb ≠ .get → (∃ t ∈ between, t.2.Writes) →
      w.after = w.before ∧ ∃ e, programs i = .fail (.plain (.writeFailed e))) ∧
    (∀ i d, programs i = .done d → (∀ t ∈ turns, t.1 = i → t.2.request.verb = .get) →
      ∃ e p, (i, e) ∈ turns ∧ held (object e.before «namespace» name) = .ok (some p) ∧
        p.same d = true) ∧
    (∀ t ∈ turns, ∀ f, held (object t.2.before «namespace» name) = .error f →
      t.2.after = t.2.before) ∧
    (∀ x y, Passed turns x → Passed turns y → ∀ p q,
      held (object x «namespace» name) = .ok (some p) →
      held (object y «namespace» name) = .ok (some q) → p.version = q.version →
      p = q ∧ object x «namespace» name = object y «namespace» name) := by
  have h := Contest.run shares kept run
  refine ⟨fun t mem writes => (h.effects t mem).wrote writes, ?_, ?_, ?_, ?_, ?_⟩
  · exact h.order.imp fun later d d' first second => first.version_lt second later
  · intro before between after i r w order reads writes other
    exact h.overtaken shares order reads writes other
  · intro i d done quiet
    exact h.kept_of_quiet shares done quiet
  -- only a write changes anything, and it needs a document that can be read
  · intro t mem f undecodable
    cases h.effects t mem with
    | reads _ same => exact same
    | refused _ _ same => exact same
    | accepted _ _ _ replaces =>
      obtain ⟨previous, isHeld, -⟩ := replaces.follows
      cases undecodable.symm.trans isHeld
  · intro x y passed passed' p q isHeld isHeld' version
    -- one of the two states is later, so that nothing was written between them
    have same : object x «namespace» name = object y «namespace» name := by
      rcases h.later_or_later passed passed' with later | later
      · exact later.versions isHeld isHeld' version
      · exact (later.versions isHeld' isHeld version.symm).symm
    rw [same] at isHeld
    exact ⟨Option.some.inj (Except.ok.inj (isHeld.symm.trans isHeld')), same⟩

end

/-- A cluster of one member whose secret does not exist yet. -/
def founding : Cluster where
  metadata := { name := some "db", «namespace» := some "prod" }
  spec := { members := 1 }

/-- The two clusters of the example share one secret. -/
theorem founding_shares : Shares (fun _ : Bool => founding) "prod" "db-config" where
  plain := by decide
  inNamespace _ := rfl
  named _ := by decide

/-- The first document of a cluster whose secret does not exist is created. -/
theorem founding_creates : ∃ d refusal,
    continued founding "prod" id (.ok none) =
      .request (writing founding "prod" none d) (concluded d refusal) := by
  have built : ∃ d, (builder founding "prod" none id).build = .ok d := ⟨_, rfl⟩
  obtain ⟨d, build⟩ := built
  have named : Named "prod" founding.configSecretName none :=
    fun _ mem => (Option.not_mem_none _ mem).elim
  have plain : Request.Addressable Secret.objectType "prod" founding.configSecretName := by decide
  obtain ⟨refusal, same⟩ := write_eq d plain named
  refine ⟨d, refusal, ?_⟩
  rw [← same, continued_ok rfl, Configuration.built, build]
  rfl

/-- Two pushes that both find no secret: the one whose creation arrives first wins, and the other
one fails. -/
theorem push_interleaved_two_creators :
    ∃ turns s programs,
      Interleaves {} (fun _ : Bool => push founding id) turns s programs ∧
      Shares (fun _ : Bool => founding) "prod" "db-config" ∧
      KeptUnder "prod" "db-config" (object {} "prod" "db-config") ∧
      (∃ t ∈ turns, t.1 = false ∧ ∃ d, Wrote "prod" "db-config" t.2 d) ∧
      ∃ e, programs true = .fail (.plain (.writeFailed e)) := by
  obtain ⟨d, refusal, creates⟩ := founding_creates
  let read := reading "prod" "db-config"
  let write := writing founding "prod" none d
  let s₀ : Server := {}
  let s₁ := (s₀.serve write).1
  obtain ⟨unchanged, found⟩ := serve_reading s₀ "prod" "db-config"
  have starts : push founding id =
      .request read fun r => continued founding "prod" id (Secret.stored.found r) :=
    push_eq rfl founding_shares.plain
  have goesOn : continued founding "prod" id (Secret.stored.found (s₀.serve read).2) =
      .request write (concluded d refusal) := by
    rw [found]
    exact creates
  have isStored : Secret.objectType.kind ≠ "Event" := by simp [Secret.objectType]
  have accepted : (s₀.exchange write).Writes := by
    refine ⟨Verb.noConfusion, ?_⟩
    show (s₀.serve write).2.isFailure = false
    rw [show s₀.serve write = _ from Server.serve_create isStored _]
    rfl
  -- both read, and then both try to create
  have begins : Interleaves s₀ (fun _ : Bool => push founding id) [] s₀ _ := .start
  have first := begins.request (i := false) starts
  rw [unchanged] at first
  have second := first.request (i := true) (by
    rw [Function.update_of_ne Bool.noConfusion]
    exact starts)
  rw [unchanged] at second
  have third := second.request (i := false) (by
    rw [Function.update_of_ne Bool.noConfusion, Function.update_self]
    exact goesOn)
  have fourth := third.request (i := true) (by
    rw [Function.update_of_ne Bool.noConfusion, Function.update_self]
    exact goesOn)
  have kept : KeptUnder "prod" "db-config" (object s₀ "prod" "db-config") :=
    fun _ mem => (Option.not_mem_none _ mem).elim
  obtain ⟨writes, -, overtaken, -⟩ := push_interleaved founding_shares kept fourth
  refine ⟨_, _, _, fourth, founding_shares, kept, ⟨(false, s₀.exchange write), ?_, rfl, ?_⟩, ?_⟩
  · simp [write]
  · exact writes _ (by simp [write]) accepted
  · refine (overtaken [(false, s₀.exchange read)] [(false, s₀.exchange write)] [] true
      (s₀.exchange read) (s₁.exchange write) rfl rfl Verb.noConfusion
      ⟨_, List.mem_singleton_self _, accepted⟩).2

end Configuration

end ReplicaSetOperator
