import PythonDocs.FilePath

namespace PythonDocs

def insertReason (path : FilePath) (reason : String) :
    List (FilePath × String) → List (FilePath × String)
  | [] => [(path, reason)]
  | (other, kept) :: rest =>
    if FilePath.components path = FilePath.components other then (other, reason) :: rest
    else if FilePath.isLess path other then (path, reason) :: (other, kept) :: rest
    else (other, kept) :: insertReason path reason rest

structure Report where
  outputs : List FilePath := []
  symbols : Nat := 0
  skipped : List (FilePath × String) := []
  deriving DecidableEq, Repr

namespace Report

def plural (count : Nat) : String := if count = 1 then "" else "s"

def summary (report : Report) : String :=
  "Generated " ++ toString report.outputs.length ++ " module document"
    ++ plural report.outputs.length ++ " covering " ++ toString report.symbols ++ " symbol"
    ++ plural report.symbols
    ++ if report.skipped.isEmpty then ""
      else ", " ++ toString report.skipped.length ++ " file(s) skipped"

def addPage (report : Report) (output : FilePath) (symbols : Nat) : Report :=
  { report with
    outputs := report.outputs ++ [output]
    symbols := report.symbols + symbols }

def skip (report : Report) (path : FilePath) (reason : String) : Report :=
  { report with skipped := insertReason path reason report.skipped }

end Report

end PythonDocs
