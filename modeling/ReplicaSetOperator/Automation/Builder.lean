import ReplicaSetOperator.Automation.Consistency

/-!
# Building the document

A `Builder` makes the document of one replica set: one process and one member for every host, in
order, changed by the modifications in the order in which they were added. The version of the
result counts the changes of content: it is that of the previous document if nothing else
differs, and the next one otherwise, whatever the modifications did to it.
-/

namespace ReplicaSetOperator

/-- The port on which every member listens. -/
def databasePort : Int32 := 27017

/-- The directory in which every member keeps its data. -/
def databasePath : String := "/data"

/-- What a document is made from. -/
structure Builder where
  name : String := ""
  hosts : List String := []
  databaseVersion : String := ""
  featureCompatibilityVersion : Option String := none
  previous : Option Document := none
  modifications : List (Document → Document) := []

/-- Why no document could be built. -/
inductive BuildError where
  | versionOverflow
  | inconsistent (violation : Inconsistency)
deriving DecidableEq, Inhabited

namespace Builder

/-- The name of the process of a given rank. -/
def processName (b : Builder) (i : Nat) : String :=
  s!"{b.name}-{i}"

/-- The process on a host. -/
def process (b : Builder) (i : Nat) (host : String) : Process :=
  { name := b.processName i
    hostName := host
    arguments :=
      { net := { port := databasePort }
        replication := { replSetName := b.name }
        storage := { dbPath := databasePath } }
    featureCompatibilityVersion := b.featureCompatibilityVersion
    processType := "mongod"
    version := b.databaseVersion
    authSchemaVersion := 5 }

/-- The member of the replica set that is the process of a given rank. -/
def member (i : Nat) (p : Process) : Member :=
  { id := UInt64.ofNat i
    host := p.name
    priority := .finite false 1 0
    arbiterOnly := false
    votes := 1 }

/-- The document before any modification. -/
def base (b : Builder) : Document :=
  let processes := b.hosts.mapIdx b.process
  { version := 0
    processes := processes
    replicaSets :=
      [{ id := b.name, members := processes.mapIdx member, protocolVersion := "1" }] }

/-- The document after all modifications. -/
def modified (b : Builder) : Document :=
  b.modifications.foldl (fun d change => change d) b.base

/-- The version of a document that follows another one, or follows none. -/
def nextVersion (previous : Option Document) (d : Document) : Except BuildError Int64 :=
  match previous with
  | none => .ok 1
  | some p =>
    if Document.same { d with version := p.version } p then .ok p.version
    else if p.version = Int64.maxValue then .error .versionOverflow
    else .ok (p.version + 1)

/-- The document with its version, if it is consistent. -/
def build (b : Builder) : Except BuildError Document :=
  match nextVersion b.previous b.modified with
  | .error e => .error e
  | .ok version =>
    let d := { b.modified with version := version }
    match d.validate with
    | .error i => .error (.inconsistent i)
    | .ok () => .ok d

/-- The builder as the next one of a chain: unless it has a previous document of its own, that is
the last one that the chain has built. -/
def following (b : Builder) (last : Option Document) : Builder :=
  if b.previous.isSome then b else { b with previous := last }

/-- The results of a chain of builders, of which each follows the last success. -/
def chain (last : Option Document) : List Builder → List (Except BuildError Document)
  | [] => []
  | b :: rest =>
    let result := (b.following last).build
    result :: chain (result.toOption.or last) rest

end Builder

end ReplicaSetOperator
