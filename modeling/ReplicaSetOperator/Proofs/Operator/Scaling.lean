import Mathlib.Data.List.Nodup
import ReplicaSetOperator.Proofs.Operator.Pods

/-!
# Scaling a replica set

The processes of a document and the members of its replica set are numbered one by one, in two
places, and then changed for the TLS mode. A member keeps its identity, its name and its host only
if no number depends on how many members there are.

* `Document.truncated` is a document with its first processes and members.
* `Document.Numbered` says of a document that each name and each host is there once, and that the
  members are the processes, counted from zero.

`Cluster.scaling_keeps` is that a document for fewer members is one for more, truncated, and that
all documents are numbered.
-/

namespace ReplicaSetOperator

open ReplicaSetOperator.Configuration (tlsBuilder push)

/-! ### Numbers in names -/

/-- Different numbers have different texts. -/
theorem Nat.toString_inj {i j : Nat} : toString i = toString j ↔ i = j := by
  constructor
  · intro same
    have read := Json.index?_toString i
    rw [same, Json.index?_toString] at read
    exact (Option.some.inj read).symm
  · exact congrArg toString

/-- Processes of different ranks have different names. -/
theorem Builder.processName_inj {b : Builder} {i j : Nat} :
    b.processName i = b.processName j ↔ i = j := by
  rw [processName, processName]
  simp only [String.append_right_inj]
  exact Nat.toString_inj

theorem Cluster.host_inj {c : Cluster} {«namespace» : String} {i j : Nat} :
    c.host «namespace» i = c.host «namespace» j ↔ i = j := by
  rw [host, host]
  -- the number stands between texts that do not depend on it
  simp only [String.append_left_inj, String.append_right_inj]
  exact Nat.toString_inj

/-! ### Documents -/

namespace Document

/-- A document with its first processes and the first members of its replica sets. -/
def truncated (n : Nat) (d : Document) : Document :=
  { d with
    processes := d.processes.take n
    replicaSets := d.replicaSets.map fun r => { r with members := r.members.take n } }

/-- The processes of a document have names and hosts of their own. Its one replica set counts them
from zero, and each of its members is called like the process of its rank and like no other. -/
structure Numbered (d : Document) : Prop where
  names : (d.processes.map (·.name)).Nodup
  hosts : (d.processes.map (·.hostName)).Nodup
  members : ∃ r, d.replicaSets = [r] ∧
    r.members.map (·.id.toNat) = List.range d.processes.length ∧
    ∀ (i j : Nat) (m : Member) (p : Process), r.members[i]? = some m →
      d.processes[j]? = some p → (m.host = p.name ↔ i = j)

/-- Where names are there once, members that are the processes one by one are called like no other
process. -/
theorem numbered_of_members {d : Document} {r : ReplicaSet}
    (names : (d.processes.map (·.name)).Nodup) (hosts : (d.processes.map (·.hostName)).Nodup)
    (isSet : d.replicaSets = [r])
    (members : r.members.map (fun m => (m.id.toNat, m.host)) =
      d.processes.mapIdx fun i p => (i, p.name)) : d.Numbered where
  names := names
  hosts := hosts
  members := by
    refine ⟨r, isSet, ?_, ?_⟩
    · have ids := congrArg (List.map Prod.fst) members
      rw [List.map_map] at ids
      refine ids.trans (List.ext_getElem (by simp) fun i _ _ => ?_)
      rw [List.getElem_map, List.getElem_mapIdx, List.getElem_range]
    · intro i j m p isMember isProcess
      have there := congrArg (·[i]?) members
      simp only [List.getElem?_map, List.getElem?_mapIdx, isMember, Option.map_some] at there
      -- the member has the name of the process `q` of its rank
      obtain ⟨q, isRanked, same⟩ := Option.map_eq_some_iff.1 there.symm
      obtain ⟨-, called⟩ := Prod.mk.inj same
      rw [← called]
      constructor
      · intro shared
        have inside : i < (d.processes.map (·.name)).length := by
          rw [List.length_map]
          exact (List.getElem?_eq_some_iff.1 isRanked).1
        refine (List.getElem?_inj inside names).1 ?_
        rw [List.getElem?_map, List.getElem?_map, isRanked, isProcess]
        exact congrArg some shared
      · rintro rfl
        exact congrArg Process.name (Option.some.inj (isRanked.symm.trans isProcess))

/-- The settings of a process do not depend on those that come after it. -/
theorem truncated_switchTls (n : Nat) (mode : TlsMode) (file : String) (d : Document) :
    (d.truncated n).switchTls mode file = (d.switchTls mode file).truncated n := by
  simp only [truncated, switchTls, List.map_take]

end Document

/-- The place of an item among the first ones is its place in the list. -/
theorem mapIdx_take {α β : Type} (f : Nat → α → β) (xs : List α) (n : Nat) :
    (xs.take n).mapIdx f = (xs.mapIdx f).take n := by
  refine List.ext_getElem? fun i => ?_
  rw [List.getElem?_mapIdx, List.getElem?_take, List.getElem?_take, List.getElem?_mapIdx]
  split <;> rfl

/-- A builder that is given the first hosts only makes a document with the first processes and
members. -/
theorem Builder.base_take (b : Builder) (n : Nat) :
    ({ b with hosts := b.hosts.take n } : Builder).base = b.base.truncated n := by
  -- the settings of a process are read from the builder, but not from its hosts
  simp only [base, Document.truncated, mapIdx_take, List.map_cons, List.map_nil]
  rfl

variable {c : Cluster} {«namespace» : String} {mode : TlsMode} {file : String}
  {previous : Option Document} {d : Document}

namespace Cluster

/-- The cluster with another number of members. -/
def scaled (c : Cluster) (members : Int32) : Cluster :=
  { c with spec := { c.spec with members := members } }

/-- Fewer members have the first hosts. -/
theorem hosts_scaled {n m : Int32} (le : n ≤ m) :
    (c.scaled n).hosts «namespace» = ((c.scaled m).hosts «namespace»).take n.toInt.toNat := by
  have fewer : n.toInt.toNat ≤ m.toInt.toNat := Int.toNat_le_toNat (Int32.le_iff_toInt_le.1 le)
  have hosts (k : Int32) : (c.scaled k).hosts «namespace» =
      (List.range k.toInt.toNat).map (c.host «namespace») := rfl
  rw [hosts, hosts, ← List.map_take, List.take_range, Nat.min_eq_left fewer]

end Cluster

namespace Configuration

/-- For fewer members the same is built, truncated. -/
theorem modified_scaled {n m : Int32} (le : n ≤ m) (previous previous' : Option Document) :
    (tlsBuilder (c.scaled n) «namespace» previous mode file).modified =
      (tlsBuilder (c.scaled m) «namespace» previous' mode file).modified.truncated
        n.toInt.toNat := by
  have base : (tlsBuilder (c.scaled n) «namespace» previous mode file).base =
      (tlsBuilder (c.scaled m) «namespace» previous' mode file).base.truncated n.toInt.toNat := by
    rw [← Builder.base_take]
    show Builder.base
        { name := c.name, hosts := (c.scaled n).hosts «namespace»
          databaseVersion := c.spec.version
          featureCompatibilityVersion := c.spec.featureCompatibilityVersion } =
      Builder.base
        { name := c.name, hosts := ((c.scaled m).hosts «namespace»).take n.toInt.toNat
          databaseVersion := c.spec.version
          featureCompatibilityVersion := c.spec.featureCompatibilityVersion }
    rw [Cluster.hosts_scaled le]
  have modified (k : Int32) (previous : Option Document) :
      (tlsBuilder (c.scaled k) «namespace» previous mode file).modified =
        (tlsBuilder (c.scaled k) «namespace» previous mode file).base.switchTls mode file := rfl
  rw [modified, modified, base, Document.truncated_switchTls]

/-- A document that is built for fewer members is one that is built for more, truncated: what was
there before has an influence on its version only. -/
theorem Built.truncated {n m : Int32} {e : Document} (le : n ≤ m)
    (fewer : Built (c.scaled n) «namespace» mode file d)
    (more : Built (c.scaled m) «namespace» mode file e) :
    d = { e.truncated n.toInt.toNat with version := d.version } := by
  obtain ⟨previous, build⟩ := fewer
  obtain ⟨previous', build'⟩ := more
  have small := Builder.eq_of_build build
  rw [modified_scaled le previous previous'] at small
  have large := congrArg (fun e : Document =>
    { e.truncated n.toInt.toNat with version := d.version }) (Builder.eq_of_build build')
  exact small.trans large.symm

/-- The processes of a document that is built are numbered. -/
theorem numbered_of_build (h : (tlsBuilder c «namespace» previous mode file).build = .ok d) :
    d.Numbered := by
  have processes := processes_of_build h
  have names : (d.processes.map (·.name)).Nodup := by
    rw [processes, List.map_map]
    exact List.nodup_range.map fun i j same => Builder.processName_inj.1 same
  have hosts : (d.processes.map (·.hostName)).Nodup := by
    rw [processes, List.map_map]
    exact List.nodup_range.map fun i j same => Cluster.host_inj.1 same
  obtain ⟨r, isSet, members⟩ := members_of_build h
  exact Document.numbered_of_members names hosts isSet members

end Configuration

namespace Cluster

open ReplicaSetOperator.Configuration (Built)

/-- Whatever is asked of TLS, a change of the number of members alone keeps the members that stay.
The document for fewer members is the one for more with its first processes and members, apart from
the version. A document is built for every number of members unless it takes more than a version
that is left, with as many processes as there are members, and all are numbered. What a push enters
into the secret is such a document. -/
theorem scaling_keeps (inNamespace : c.metadata.namespace = some «namespace») (mode : TlsMode)
    (file : String) :
    (∀ n m : Int32, n ≤ m → ∀ d e, Built (c.scaled n) «namespace» mode file d →
      Built (c.scaled m) «namespace» mode file e →
        d = { e.truncated n.toInt.toNat with version := d.version }) ∧
    ∀ n : Int32,
      (∀ previous,
        (tlsBuilder (c.scaled n) «namespace» previous mode file).Overflows ∧
          (tlsBuilder (c.scaled n) «namespace» previous mode file).build =
            .error .versionOverflow ∨
        ∃ d, (tlsBuilder (c.scaled n) «namespace» previous mode file).build = .ok d ∧
          (d.processes.length : Int) = max 0 n.toInt ∧ d.Numbered) ∧
      (push (c.scaled n) (Change.apply (.tls mode file))).Conforms
        ((c.scaled n).Faithful «namespace»)
        (fun r => r.verb = .get ∨ ∃ d, Built (c.scaled n) «namespace» mode file d ∧ d.Numbered ∧
          r.Enters «namespace» c.configSecretName documentKey d)
        (fun d => Built (c.scaled n) «namespace» mode file d ∧ d.Numbered)
        fun f => f.violates = false := by
  -- growing keeps what is there, and each size has documents of its own
  refine ⟨fun n m le d e fewer more => fewer.truncated le more, fun n => ⟨fun previous => ?_, ?_⟩⟩
  · rcases Configuration.overflows_or_exists_build previous with overflow | ⟨d, build, many⟩
    · exact .inl overflow
    · exact .inr ⟨d, build, many, Configuration.numbered_of_build build⟩
  · have named : (c.scaled n).metadata.namespace = some «namespace» := inNamespace
    refine (Configuration.push_enters named mode file).mono ?_ ?_
    · rintro r (verb | ⟨d, ⟨previous, build⟩, enters⟩)
      · exact .inl verb
      · exact .inr ⟨d, ⟨previous, build⟩, Configuration.numbered_of_build build, enters⟩
    · rintro d ⟨previous, build⟩
      exact ⟨⟨previous, build⟩, Configuration.numbered_of_build build⟩

/-- A cluster with TLS grows from two members to eleven. Its first two processes stay, and the last
one, whose number has one digit more, is not taken for the second one. -/
theorem scaling_keeps_joining : ∃ d e,
    joining.metadata.namespace = some "prod" ∧ (2 : Int32) ≤ 11 ∧
    (tlsBuilder (joining.scaled 2) "prod" none .required "a.pem").build = .ok d ∧
    (tlsBuilder (joining.scaled 11) "prod" (some d) .required "a.pem").build = .ok e ∧
    d.processes = e.processes.take 2 ∧ d.processes.map (·.name) = ["db-0", "db-1"] ∧
    (e.processes.map (·.name))[10]? = some "db-10" ∧ e.Numbered := by
  have inNamespace : joining.metadata.namespace = some "prod" := rfl
  have le : (2 : Int32) ≤ 11 := by decide
  obtain ⟨keeps, sizes⟩ := scaling_keeps inNamespace .required "a.pem"
  obtain ⟨builds, -⟩ := sizes 2
  rcases builds none with ⟨⟨p, there, -⟩, -⟩ | ⟨d, build, -, -⟩
  · cases there
  obtain ⟨grows, -⟩ := sizes 11
  rcases grows (some d) with ⟨⟨p, there, greatest, -⟩, -⟩ | ⟨e, build', -, numbered⟩
  · -- the first document does not have the last version
    obtain rfl := Option.some.inj there
    have first : (1 : Int64) = d.version := Except.ok.inj (Builder.nextVersion_of_build build)
    rw [← first] at greatest
    exact absurd greatest (by decide)
  have kept := keeps 2 11 le d e ⟨none, build⟩ ⟨some d, build'⟩
  refine ⟨d, e, inNamespace, le, build, build', congrArg Document.processes kept, ?_, ?_, numbered⟩
  · rw [Configuration.processes_of_build build]
    rfl
  · rw [Configuration.processes_of_build build']
    rfl

end Cluster

end ReplicaSetOperator
