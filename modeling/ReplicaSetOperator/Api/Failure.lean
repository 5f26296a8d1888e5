import ReplicaSetOperator.Json.Basic

/-!
# Failures

Why an operation came to nothing. A `ClientError` is what a request comes to, a `StoreError` what
the reading or writing of an object comes to, and a `Failure` what an operation of the operator
comes to: a `Cause`, and perhaps the time after which it should be tried again. The work around
the finalizer of a cluster wraps the failures of what it guards.

`Failure.message?` is the text of a failure. It has none if its text is not laid down here, which
is so where a decoder or a client is at the bottom.
-/

namespace ReplicaSetOperator

/-- What a request came to. -/
inductive ClientError where
  /-- The server answered a failure. -/
  | refused (code : Nat) (reason : String)
  /-- The answer is not what was expected. -/
  | undecodable
  /-- The request could not be made. -/
  | unsendable
  /-- Anything else. -/
  | other
deriving DecidableEq, Inhabited

/-- What the reading or writing of an object came to. -/
inductive StoreError where
  | alreadyExists (kind «namespace» name : String)
  | conflict (kind «namespace» name : String)
  | notFound (kind «namespace» name : String)
  | invalidObject (missing : String)
  | client (error : ClientError)
deriving DecidableEq, Inhabited

/-- The text of a store error. -/
def StoreError.message? : StoreError → Option String
  | .alreadyExists kind ns name => some s!"{kind} {ns}/{name} already exists"
  | .conflict kind ns name => some s!"{kind} {ns}/{name} was modified concurrently"
  | .notFound kind ns name => some s!"{kind} {ns}/{name} not found"
  | .invalidObject missing => some s!"object is missing {missing}"
  | .client _ => none

/-- What is missing of the material that a user has to provide for TLS. -/
inductive MissingMaterial where
  | noConfigMap
  | configMap («namespace» name : String)
  | configMapEntry (entry name : String)
  | noSecret
  | secret («namespace» name : String)
  | secretEntry (entry name : String)
deriving DecidableEq, Inhabited

/-- The text that says what is missing. -/
def MissingMaterial.message : MissingMaterial → String
  | .noConfigMap => "no CA configmap configured"
  | .configMap ns name => s!"configmap {ns}/{name} not found"
  | .configMapEntry entry name => s!"{entry} not found in configmap {name}"
  | .noSecret => "no certificate key secret configured"
  | .secret ns name => s!"secret {ns}/{name} not found"
  | .secretEntry entry name => s!"{entry} not found in secret {name}"

mutual

/-- Why an operation of the operator came to nothing. -/
inductive Cause where
  | json (error : DecodeError)
  | client (error : ClientError)
  | finalizer (failure : FinalizerFailure)
  | metadataMissing (what : String)
  | materialMissing (what : String)
  | readFailed (error : StoreError)
  | writeFailed (error : StoreError)
  | invariant (violation : String)

/-- A cause, and perhaps the time in milliseconds after which to try again. -/
inductive Failure where
  | plain (cause : Cause)
  | retry (cause : Cause) (milliseconds : Nat)

/-- What the work around the finalizer of an object came to. -/
inductive FinalizerFailure where
  | apply (failure : Failure)
  | cleanup (failure : Failure)
  | add (error : ClientError)
  | remove (error : ClientError)
  | unnamed
  | invalid

end

instance : Inhabited Cause := ⟨.invariant ""⟩

instance : Inhabited Failure := ⟨.plain default⟩

instance : Inhabited FinalizerFailure := ⟨.unnamed⟩

namespace Cause

/-- The name under which failures are counted. -/
def label : Cause → String
  | .json _ => "jsonserializationerror"
  | .client _ => "kubeerror"
  | .finalizer _ => "finalizererror"
  | .metadataMissing _ => "metadatamissing"
  | .materialMissing _ => "sourcematerialmissing"
  | .readFailed _ => "storereadfailed"
  | .writeFailed _ => "storewritefailed"
  | .invariant _ => "invariantviolation"

end Cause

mutual

/-- The text of a cause. -/
def Cause.message? : Cause → Option String
  | .json _ | .client _ => none
  | .finalizer f => f.message?.map ("Finalizer Error: " ++ ·)
  | .metadataMissing what => some ("MetadataMissing: " ++ what)
  | .materialMissing what => some ("SourceMaterialMissing: " ++ what)
  | .readFailed e => e.message?.map ("StoreReadFailed: " ++ ·)
  | .writeFailed e => e.message?.map ("StoreWriteFailed: " ++ ·)
  | .invariant violation => some ("InvariantViolation: " ++ violation)

/-- The text of a failure. -/
def Failure.message? : Failure → Option String
  | .plain c => c.message?.map ("Standard Error: " ++ ·)
  | .retry c _ => c.message?.map ("Error With Requeue: " ++ ·)

/-- The text of what the work around a finalizer came to. -/
def FinalizerFailure.message? : FinalizerFailure → Option String
  | .apply f => f.message?.map ("failed to apply object: " ++ ·)
  | .cleanup f => f.message?.map ("failed to clean up object: " ++ ·)
  | .add _ | .remove _ => none
  | .unnamed => some "object has no name"
  | .invalid => some "invalid finalizer"

end

/-- The cause of a failure. -/
def Failure.cause : Failure → Cause
  | .plain c | .retry c _ => c

/-- The name under which a failure is counted. -/
def Failure.label (f : Failure) : String := f.cause.label

end ReplicaSetOperator
