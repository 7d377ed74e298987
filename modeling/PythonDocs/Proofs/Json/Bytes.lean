import PythonDocs.Json.Reader
import PythonDocs.Proofs.Text.Utf8

namespace PythonDocs.Json

open Text (Bytes)

end PythonDocs.Json
