import Mathlib.Data.List.Forall2
import PythonDocs.Client.Reply

namespace PythonDocs

namespace Json

variable {name text : String} {record value : Json}

end Json

namespace Reply

open Json

variable {record : Json} {text : String}

end Reply

namespace Provider

open Json Reply

end Provider

end PythonDocs
