import ReplicaSetOperator.Proofs.Operator.Rounds

/-!
# Whether reports about TLS are true in the course of time

A user edits a cluster, its marker included, the members follow what has been applied, and the
operator reconciles the cluster as it is stored, which is refused nothing (`Cluster.Chronicle`).

After every reconciliation that comes to its end the reports about TLS are true of the document that
is stored, except where it has set the marker although it was reported that TLS is on
(`Cluster.Chronicle.truthful`): then the document is for members without TLS, and condition and
gauge still say what was reported before. That takes a user who takes the marker away, or a cluster
that is said to have TLS from the beginning. It does come about (`Cluster.exists_untruthful`).
-/

namespace ReplicaSetOperator

open ReplicaSetOperator.Configuration (held)

namespace Cluster

variable {c x y : Cluster} {«namespace» : String} {edits : Cluster → Cluster → Prop}
  {s₀ s s' : Server} {m : Metrics} {r : Reconciliation} {counted : List Measurement}
  {action : Action}

/-- A server with a cluster to which nothing belongs yet. -/
structure Begun (c : Cluster) («namespace» : String) (s : Server) : Prop where
  shows : ∃ x, s.Shows (c.ownKey «namespace») x
  marks : ∃ complete, s.Marks (c.ownKey «namespace») complete
  absent : ∀ k ∈ c.ownedKeys «namespace», s.objects.find? k = none

/-- A user has edited the cluster, with its marker, or objects of their own. The status is not for
the user to write, and what belongs to the cluster is left to the operator. -/
structure Revised (c : Cluster) («namespace» : String) (edits : Cluster → Cluster → Prop)
    (s s' : Server) : Prop where
  cluster : ∃ x y, s.Shows (c.ownKey «namespace») x ∧ s'.Shows (c.ownKey «namespace») y ∧
    y.metadata.namespace = x.metadata.namespace ∧ y.metadata.name = x.metadata.name ∧
    y.status = x.status ∧ edits x y
  owned : ∀ k ∈ c.ownedKeys «namespace», s'.objects.find? k = s.objects.find? k

/-- What becomes of a server and of the metrics in the course of time, where edits of the cluster
are of some kind. -/
inductive Chronicle (c : Cluster) («namespace» : String) (edits : Cluster → Cluster → Prop)
    (s₀ : Server) : Server → Metrics → Prop
  | start : Chronicle c «namespace» edits s₀ s₀ {}
  | edit {s s' : Server} {m : Metrics} (before : Chronicle c «namespace» edits s₀ s m)
    (revised : c.Revised «namespace» edits s s') : Chronicle c «namespace» edits s₀ s' m
  | follow {s s' : Server} {m : Metrics} (before : Chronicle c «namespace» edits s₀ s m)
    (followed : c.Followed «namespace» s s') : Chronicle c «namespace» edits s₀ s' m
  | reconcile {m : Metrics} {r : Reconciliation} {counted : List Measurement}
    (before : Chronicle c «namespace» edits s₀ r.before m)
    (round : c.Round «namespace» r counted) :
    Chronicle c «namespace» edits s₀ r.after (counted.foldl Metrics.record m)

/-! ### What stays true -/

/-- What a round relies on: the cluster is there, as one that can be read, and so are the two
secrets, as far as they are. -/
structure Watched (c : Cluster) («namespace» : String) (s : Server) : Prop
    extends c.Tended «namespace» s where
  shows : ∃ x, s.Shows (c.ownKey «namespace») x

/-- At the beginning the cluster is watched. -/
theorem Begun.watched (h : c.Begun «namespace» s) : c.Watched «namespace» s where
  toTended := by
    obtain ⟨complete, marks⟩ := h.marks
    exact tended_of_absent marks h.absent
  shows := h.shows

/-- An edit leaves what belongs to the cluster alone. -/
theorem Revised.watched (h : c.Revised «namespace» edits s s') (watched : c.Watched «namespace» s) :
    c.Watched «namespace» s' := by
  obtain ⟨x, y, shows, shows', inNamespace, named, -, -⟩ := h.cluster
  obtain ⟨complete, marks⟩ := watched.marks
  obtain ⟨inNamespace₀, named₀, -⟩ := shows.of_marks marks
  have marks' := shows'.marks (inNamespace.trans inNamespace₀) (named.trans named₀)
  exact ⟨watched.toTended.of_owned marks' h.owned, y, shows'⟩

theorem Followed.watched (h : c.Followed «namespace» s s') (watched : c.Watched «namespace» s) :
    c.Watched «namespace» s' where
  toTended := h.tended watched.toTended
  shows := watched.shows.imp fun _ shows => shows.congr (h.others _ ownKey_ne_statefulSetKey)

/-- A round leaves behind what it relies on. -/
theorem Round.watched (h : c.Round «namespace» r counted) (addressed : c.Addressed «namespace»)
    (watched : c.Watched «namespace» r.before) : c.Watched «namespace» r.after := by
  obtain ⟨x, shows⟩ := watched.shows
  obtain ⟨y, shows', -⟩ := h.effect addressed watched.toTended shows
  exact ⟨h.reconciled.tended_after addressed watched.toTended, y, shows'⟩

/-- The invariant holds at all times. -/
theorem Chronicle.watched (h : c.Chronicle «namespace» edits s₀ s m)
    (addressed : c.Addressed «namespace») (begun : c.Begun «namespace» s₀) :
    c.Watched «namespace» s := by
  induction h with
  | start => exact begun.watched
  | edit before revised ih => exact revised.watched ih
  | follow before followed ih => exact followed.watched ih
  | reconcile before round ih => exact round.watched addressed ih

/-! ### Reports while the marker is left alone -/

/-- A round that leaves behind a report that TLS is on leaves the marker behind, if it has been so
before. -/
theorem Round.marks_of_reportsOn (h : c.Round «namespace» r counted)
    (addressed : c.Addressed «namespace») (watched : c.Watched «namespace» r.before)
    (before : c.ReportsOn «namespace» r.before m →
      r.before.Marks (c.ownKey «namespace») true)
    (on : c.ReportsOn «namespace» r.after (counted.foldl Metrics.record m)) :
    r.after.Marks (c.ownKey «namespace») true := by
  -- marker and status before and after the round
  obtain ⟨complete, marks⟩ := watched.marks
  obtain ⟨complete', marks'⟩ := (h.watched addressed watched).marks
  obtain ⟨x, shows⟩ := watched.shows
  obtain ⟨-, -, isMarked⟩ := shows.of_marks marks
  obtain ⟨y, shows', effect⟩ := h.effect addressed watched.toTended shows
  obtain ⟨-, -, isMarked'⟩ := shows'.of_marks marks'
  cases effect with
  | unapplied fails subdued silent =>
    -- the report is from before, and so is the marker
    have earlier : c.ReportsOn «namespace» r.before m := by
      rw [silent] at on
      refine on.imp_left fun announces => ?_
      exact shows.announcesTls.2 (subdued.announces (shows'.announcesTls.1 announces))
    have complete_eq : complete = true := marks.unique (before earlier)
    rwa [← complete_eq, ← isMarked, ← subdued.marked, isMarked']
  | marked ended unmarked now same silent =>
    rwa [← now, isMarked']
  | reported ended apart announces counts =>
    -- what has been reported is the mode, which is one with TLS only by the marker
    have mode : (r.cluster.descriptor «namespace»).mode ≠ .disabled := by
      rcases on with holds | ⟨n, shown, some⟩
      · exact announces.1 (shows'.announcesTls.1 holds)
      · rw [counts] at shown
        obtain rfl := Option.some.inj
          ((Metrics.tlsMode?_record m «namespace» c.name _).symm.trans shown)
        exact mt TlsMode.number_eq_zero.2 some
    obtain ⟨enabled, marked⟩ := mode_ne_disabled.1 mode
    obtain ⟨same, -, -⟩ := h.reconciled.named marks
    rw [← ownKey_of_name same]
    cases h.reconciled.turn addressed watched.toTended marks with
    | kept now unfinished => exact marked ▸ now
    | set enabled unmarked observed now => exact now
    | cleared disabled now =>
      rw [enabled] at disabled
      cases disabled

/-- As long as users leave the marker alone, it is reported that TLS is on only while the marker is
there. -/
theorem Chronicle.marks_of_reportsOn (h : c.Chronicle «namespace» edits s₀ s m)
    (addressed : c.Addressed «namespace») (begun : c.Begun «namespace» s₀)
    (keeps : ∀ x y, edits x y → x.tlsRolledOut = true → y.tlsRolledOut = true)
    (honest : s₀.AnnouncesTls (c.ownKey «namespace») → s₀.Marks (c.ownKey «namespace») true)
    (on : c.ReportsOn «namespace» s m) : s.Marks (c.ownKey «namespace») true := by
  -- users change neither report, and a round keeps the invariant by what it does to both
  induction h with
  | start =>
    refine honest (on.resolve_right ?_)
    rintro ⟨n, shown, -⟩
    cases shown
  | @edit s s' m before revised ih =>
    obtain ⟨x, y, shows, shows', inNamespace, named, status, edit⟩ := revised.cluster
    have marks := ih (on.imp_left fun announces => shows.announcesTls.2
      ((announcesTls_congr status).symm.trans (shows'.announcesTls.1 announces)))
    obtain ⟨inNamespace₀, named₀, marked⟩ := shows.of_marks marks
    rw [← keeps x y edit marked]
    exact shows'.marks (inNamespace.trans inNamespace₀) (named.trans named₀)
  | follow before followed ih =>
    have own := followed.others _ ownKey_ne_statefulSetKey
    exact (ih (on.imp_left (Server.AnnouncesTls.congr own).1)).congr own
  | reconcile before round ih =>
    exact round.marks_of_reportsOn addressed (before.watched addressed begun) ih on

/-! ### Whether the reports are true -/

/-- After a reconciliation that has come to its end, what is reported about TLS is true of the
document that is stored, exactly unless it has set the marker for members of which it was reported
before that TLS is on. This does not happen where users leave the marker alone. -/
theorem Chronicle.truthful (addressed : c.Addressed «namespace») (begun : c.Begun «namespace» s₀)
    (before : c.Chronicle «namespace» edits s₀ r.before m)
    (round : c.Round «namespace» r counted) (ended : r.outcome = .done action) :
    ∃ d, held (r.after.objects.find? (c.documentSecret «namespace»)) = .ok (some d) ∧
      (c.Truthful «namespace» r.after (counted.foldl Metrics.record m) d ↔
        ¬ (action = .requeue markerRequeue ∧ c.ReportsOn «namespace» r.before m ∧
          0 < r.cluster.spec.members.toInt)) ∧
      ((∀ x y, edits x y → x.tlsRolledOut = true → y.tlsRolledOut = true) →
        (s₀.AnnouncesTls (c.ownKey «namespace») → s₀.Marks (c.ownKey «namespace») true) →
        c.Truthful «namespace» r.after (counted.foldl Metrics.record m) d) := by
  have watched := before.watched addressed begun
  obtain ⟨x, shows⟩ := watched.shows
  obtain ⟨d, isHeld, exact⟩ :=
    round.truthful_iff addressed watched.toTended shows ended m
  refine ⟨d, isHeld, exact, fun keeps honest => exact.2 ?_⟩
  rintro ⟨rfl, on, -⟩
  -- the round has found no marker, and so it was not reported that TLS is on
  have marks := before.marks_of_reportsOn addressed begun keeps honest on
  obtain ⟨-, -, marked⟩ := round.reconciled.named marks
  obtain ⟨y, -, effect⟩ := round.effect addressed watched.toTended shows
  cases effect with
  | unapplied fails subdued silent => exact fails _ ended
  | marked isEnd unmarked now same silent =>
    rw [marked] at unmarked
    cases unmarked
  | reported isEnd apart announces counts =>
    exact apart (Outcome.done.inj (isEnd.symm.trans ended))

/-! ### A marker that is taken away -/

/-- A user may take the marker away. -/
theorem exists_unmarked (shows : s.Shows (c.ownKey «namespace») x) :
    ∃ (s' : Server) (annotations : Labels), s'.Shows (c.ownKey «namespace»)
        { x with metadata := { x.metadata with annotations := some annotations } } ∧
      annotations.lookup rolloutMarker = none ∧
      ∀ k, c.ownKey «namespace» ≠ k → s'.objects.find? k = s.objects.find? k := by
  obtain ⟨object, there, whole, same⟩ := shows
  -- the user sends the patch with which the operator itself would clear it
  obtain ⟨merged, annotations, read, isUnmarked⟩ := whole.mark false
  have put (k : ObjectKey) := ObjectTable.find?_put k (c.ownKey «namespace»)
    ((marking false).merge object) s.objects
  refine ⟨{ s with objects := s.objects.put (c.ownKey «namespace») ((marking false).merge object) },
    annotations, ⟨_, (put _).trans (if_pos rfl), merged, ?_⟩, isUnmarked,
    fun k apart => (put k).trans (if_neg apart.symm)⟩
  rw [read]
  exact congrArg (fun y : Cluster =>
    { y with metadata := { y.metadata with annotations := some annotations } }) same

/-- A reconciliation of the cluster as it is stored, whose members follow at once, is a round. -/
theorem exists_round {images : Images} {certificate key : Bytes} {room : Nat}
    (addressed : c.Addressed «namespace») (small : room ≤ 0x7ffffffffffffffe)
    (shows : s.Shows (c.ownKey «namespace») x) (plain : x.plain = c.plain)
    (ready : c.Ready «namespace» images (room + 1) certificate key s) :
    ∃ r counted action version y, c.Round «namespace» r counted ∧ r.before = s ∧
      r.cluster.plain = c.plain ∧ r.cluster.tlsRolledOut = x.tlsRolledOut ∧
      r.outcome = .done action ∧ r.after.Shows (c.ownKey «namespace») y ∧
      r.cluster.Attained «namespace» version action y ∧
      c.Ready «namespace» images room certificate key r.after := by
  have shown := shows
  obtain ⟨object, there, -, read⟩ := shown
  have same : (format.read object).plain = c.plain := (congrArg Cluster.plain read).trans plain
  have own : (format.read object).ownKey «namespace» = c.ownKey «namespace» :=
    ownKey_of_name (name_of_plain same)
  have settles (e : Exchange) (met : e.Settles (format.read object).spec.members) := met
  obtain ⟨es, action, s', run, -, y, d, status, shows', attained, ready', -⟩ :=
    (reconcile_delivers (addressed.congr same) settles small
      (own.symm ▸ shows.of_read read.symm) (ready.congr same)).exists_run
        (Exchange.exists_settles _)
  -- the entries of the run tell what it has counted
  obtain ⟨js, logs, isExchanges⟩ :=
    (run.mono fun e met => met.grants.mono fun _ _ _ _ => trivial).exists_logs
  exact ⟨⟨format.read object, images, s, es, .done action, s'⟩, _, action, d.version, y,
    ⟨⟨object, there, rfl⟩, js, logs, isExchanges, rfl⟩, rfl, same,
    (congrArg Cluster.tlsRolledOut read :), rfl, own ▸ shows', attained, ready'.congr same.symm⟩

/-- The server of the example has nothing that belongs to the cluster. -/
theorem begun_joining : joining.Begun "prod" joiningServer where
  shows := ⟨joining, shows_joining⟩
  marks := ⟨false, fresh_joining.unmarked⟩
  absent := fresh_joining.absent

/-- A new cluster whose members follow at once is reconciled twice. The first round sets the marker,
the second one finds it and rests. -/
theorem exists_rounds_joining : ∃ r₁ counted₁ x r₂ counted₂ y, ∃ status : ClusterStatus,
    joining.Round "prod" r₁ counted₁ ∧ r₁.before = joiningServer ∧
    r₁.cluster.plain = joining.plain ∧ r₁.after.Shows (joining.ownKey "prod") x ∧
    joining.Round "prod" r₂ counted₂ ∧ r₂.before = r₁.after ∧
    r₂.cluster.plain = joining.plain ∧ r₂.cluster.tlsRolledOut = true ∧
    r₂.outcome = .done (.requeue idleRequeue) ∧ r₂.after.Shows (joining.ownKey "prod") y ∧
    y.plain = joining.plain ∧ y.status = some status ∧
    status.phase = some Phase.running.label ∧
    joining.Ready "prod" {} 1 [99, 101, 114, 116] [107, 101, 121] r₂.after := by
  have small : 2 ≤ 0x7ffffffffffffffe := by omega
  have small' : 1 ≤ 0x7ffffffffffffffe := by omega
  obtain ⟨r₁, counted₁, action₁, version₁, y₁, round₁, start₁, plain₁, unmarked, -, shows₁,
    attained₁, ready₁⟩ := exists_round addressed_joining small shows_joining rfl
      (ready_joining 3)
  have spec₁ : r₁.cluster.spec = joining.spec := spec_of_plain plain₁
  obtain ⟨-, marked⟩ := attained₁.staging ⟨by rw [spec₁]; rfl, unmarked⟩
  obtain ⟨r₂, counted₂, action₂, version₂, y₂, round₂, start₂, plain₂, isMarked, ended, shows₂,
    attained₂, ready₂⟩ := exists_round addressed_joining small' shows₁
      (attained₁.plain.trans plain₁) ready₁
  rw [marked] at isMarked
  obtain ⟨rfl, -, status, isStatus, reports⟩ := attained₂.settled fun staging => by
    rw [staging.2] at isMarked
    cases isMarked
  exact ⟨r₁, counted₁, y₁, r₂, counted₂, y₂, status, round₁, start₁, plain₁, shows₁, round₂,
    start₂, plain₂, isMarked, ended, shows₂, attained₂.plain.trans plain₂, isStatus,
    reports.phase, ready₂⟩

/-- The second round of the new cluster reports that TLS is on. -/
theorem exists_reported_joining (edits : Cluster → Cluster → Prop) :
    ∃ (r : Reconciliation) (m : Metrics) (counted : List Measurement) (x : Cluster),
      joining.Chronicle "prod" edits joiningServer r.before m ∧ joining.Round "prod" r counted ∧
      r.outcome = .done (.requeue idleRequeue) ∧
      r.after.Shows (joining.ownKey "prod") x ∧ x.plain = joining.plain ∧
      x.announcesTls = true ∧
      (counted.foldl Metrics.record m).tlsMode? "prod" "db" = some TlsMode.required.number ∧
      joining.Ready "prod" {} 1 [99, 101, 114, 116] [107, 101, 121] r.after := by
  -- the second of the two rounds reports the mode, which the marker has made one with TLS
  obtain ⟨r₁, counted₁, y₁, r₂, counted₂, y₂, status, round₁, start₁, -, shows₁, round₂, start₂,
    plain₂, isMarked, ended, shows₂, plain, -, -, ready⟩ := exists_rounds_joining
  have chronicle₁ : joining.Chronicle "prod" edits joiningServer r₁.after _ :=
    .reconcile (by rw [start₁]; exact .start) round₁
  rw [← start₂] at chronicle₁ shows₁
  have mode : (r₂.cluster.descriptor "prod").mode = .required := by
    rw [mode_descriptor, spec_of_plain plain₂, isMarked]
    rfl
  -- the effect of the round tells what condition and gauge say
  have tended := (chronicle₁.watched addressed_joining begun_joining).toTended
  obtain ⟨y, shows, effect⟩ := round₂.effect addressed_joining tended shows₁
  cases effect with
  | unapplied fails subdued silent => exact absurd ended (fails _)
  | marked isEnd unmarked now same silent =>
    rw [isMarked] at unmarked
    cases unmarked
  | reported isEnd apart announces counts =>
    rw [mode] at announces counts
    refine ⟨r₂, _, counted₂, y₂, chronicle₁, round₂, ended, shows₂, plain, ?_, ?_, ready⟩
    · rw [← shows₂.announcesTls, shows.announcesTls, announces]
      decide
    · rw [counts]
      exact Metrics.tlsMode?_record _ "prod" "db" .required

/-- The reports about the new cluster are true after its second round. -/
theorem truthful_joining : ∃ (r : Reconciliation) (m : Metrics) (counted : List Measurement)
    (d : Document), joining.Round "prod" r counted ∧
    r.after.AnnouncesTls (joining.ownKey "prod") ∧
    held (r.after.objects.find? (joining.documentSecret "prod")) = .ok (some d) ∧
    joining.Truthful "prod" r.after (counted.foldl Metrics.record m) d := by
  obtain ⟨r, m, counted, x, chronicle, round, ended, shows, -, announces, -⟩ :=
    exists_reported_joining fun x y => x.tlsRolledOut = true → y.tlsRolledOut = true
  obtain ⟨d, isHeld, -, truthful⟩ :=
    chronicle.truthful addressed_joining begun_joining round ended
  refine ⟨r, m, counted, d, round, shows.announcesTls.2 announces, isHeld,
    truthful (fun x y keeps => keeps) fun holds => ?_⟩
  exact absurd (shows_joining.announcesTls.1 holds) (by decide)

/-- When it is reported of the new cluster that TLS is on, a user takes the marker away. The next
reconciliation stores a document without TLS and sets the marker again, and both the condition and
the gauge still say that TLS is on. -/
theorem exists_untruthful : ∃ (r : Reconciliation) (m : Metrics) (counted : List Measurement)
    (d : Document), joining.Begun "prod" joiningServer ∧
    joining.Chronicle "prod" (fun _ _ => True) joiningServer r.before m ∧
    joining.Round "prod" r counted ∧ r.outcome = .done (.requeue markerRequeue) ∧
    held (r.after.objects.find? (joining.documentSecret "prod")) = .ok (some d) ∧
    d.processes ≠ [] ∧ (∀ p ∈ d.processes, p.tls.mode = .disabled) ∧
    r.after.AnnouncesTls (joining.ownKey "prod") ∧
    (counted.foldl Metrics.record m).tlsMode? "prod" "db" = some 2 ∧
    ¬ joining.Truthful "prod" r.after (counted.foldl Metrics.record m) d := by
  obtain ⟨r₁, m, counted₁, x, chronicle, round₁, -, shows₁, plain₁, announces, shown, ready₁⟩ :=
    exists_reported_joining fun _ _ => True
  have chronicle₁ := chronicle.reconcile round₁
  -- the marker is taken away
  obtain ⟨s₂, annotations, shows₂, isUnmarked, others⟩ := exists_unmarked shows₁
  have revised : joining.Revised "prod" (fun _ _ => True) r₁.after s₂ :=
    ⟨⟨x, _, shows₁, shows₂, rfl, rfl, rfl, trivial⟩,
      fun k mem => others k (ownKey_ne_of_owned mem)⟩
  have chronicle₂ := chronicle₁.edit revised
  -- it is set again
  obtain ⟨r, counted, action, version, y, round, rfl, plain, unmarked, ended, -, attained, -⟩ :=
    exists_round addressed_joining (Nat.zero_le _) shows₂ plain₁
      (ready₁.of_same addressed_joining others)
  have spec : r.cluster.spec = joining.spec := spec_of_plain plain
  have unmarked : r.cluster.tlsRolledOut = false :=
    unmarked.trans (tlsRolledOut_of_lookup rfl isUnmarked)
  obtain ⟨rfl, -⟩ := attained.staging ⟨by rw [spec]; rfl, unmarked⟩
  -- with TLS and without the marker the mode is that of the first phase
  have tended := (chronicle₂.watched addressed_joining begun_joining).toTended
  obtain ⟨d, isHeld, modes, length⟩ := round.reconciled.document addressed_joining tended ended
  have members : d.processes ≠ [] := by
    rw [← List.length_pos_iff, length, spec]
    decide
  have off : ∀ p ∈ d.processes, p.tls.mode = .disabled := by
    rw [mode_descriptor, unmarked] at modes
    simpa [TlsMode.resolve] using modes
  -- the round has set the marker, so that it reports nothing
  obtain ⟨z, shows, effect⟩ := round.effect addressed_joining tended shows₂
  cases effect with
  | unapplied fails subdued silent => exact absurd ended (fails _)
  | reported isEnd apart announces counts =>
    exact absurd (Outcome.done.inj (isEnd.symm.trans ended)) apart
  | marked isEnd _ now same silent =>
    have on : r.after.AnnouncesTls (joining.ownKey "prod") :=
      shows.announcesTls.2 (same.trans ((announcesTls_congr rfl).trans announces))
    refine ⟨r, _, counted, d, begun_joining, chronicle₂, round, ended, isHeld, members, off,
      on, ?_, ?_⟩
    · rw [silent]
      exact shown
    · rw [truthful_iff_of_disabled off]
      exact fun still => still ⟨.inl on, members⟩

end Cluster

end ReplicaSetOperator
