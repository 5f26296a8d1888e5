import ReplicaSetOperator.Text.Sha256

/-!
# The name of the certificate file

The certificate and its key are kept in one file that is named for its content, so a new
certificate always has a new name. The name is the digest of the two digests, so bytes that move
from the certificate to the key change it as well.
-/

namespace ReplicaSetOperator

namespace Tls

/-- The name of the file with a certificate and its key. -/
def fileName (certificate key : Bytes) : String :=
  String.ofList (Sha256.digest (Sha256.digest certificate ++ Sha256.digest key)).hex ++ ".pem"

end Tls

end ReplicaSetOperator
