/-!
# Where the TLS files are

The directories in which every member container finds the CA certificate and the certificate with
its key, and the names under which the user's objects hold them.
-/

namespace ReplicaSetOperator

namespace Tls

/-- The directory with the CA certificate. -/
def caMountPath : String := "/mongodb-automation/tls/ca/"

/-- The directory with the certificate and its key. -/
def secretMountPath : String := "/mongodb-automation/tls/"

/-- The entry of the CA certificate. -/
def caCertificateName : String := "ca.crt"

/-- The entry of the certificate. -/
def certificateName : String := "tls.crt"

/-- The entry of the key. -/
def keyName : String := "tls.key"

/-- The path of the CA certificate. -/
def caFilePath : String := caMountPath ++ caCertificateName

/-- The path of the certificate and key that are kept in a given file. -/
def pemKeyFilePath (file : String) : String := secretMountPath ++ file

end Tls

end ReplicaSetOperator
