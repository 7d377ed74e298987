import PythonDocs.Client
import PythonDocs.Diagram
import PythonDocs.Discovery
import PythonDocs.Environment.Load
import PythonDocs.Extraction
import PythonDocs.Main
import PythonDocs.ModuleName
import PythonDocs.Page
import PythonDocs.Program
import PythonDocs.Python.Outline
import PythonDocs.Run
import PythonDocs.Settings.Overrides
import PythonDocs.Symbol.Encoding
import PythonDocs.Template
import PythonDocs.Proofs.Discovery.Files
import PythonDocs.Proofs.Extraction.Listing
import PythonDocs.Proofs.FileTree.Directories
import PythonDocs.Proofs.FileTree.Documents
import PythonDocs.Proofs.Page.Entries
import PythonDocs.Proofs.Program.Failures
import PythonDocs.Proofs.Program.Rejections
import PythonDocs.Proofs.Python.Definitions
import PythonDocs.Proofs.Python.ImportRoots
import PythonDocs.Proofs.Run.Accounts
import PythonDocs.Proofs.Run.Again
import PythonDocs.Proofs.Run.Answers
import PythonDocs.Proofs.Run.Below
import PythonDocs.Proofs.Run.Independence
import PythonDocs.Proofs.Run.Ledger
import PythonDocs.Proofs.Run.Modules
import PythonDocs.Proofs.Run.Sources
import PythonDocs.Proofs.Settings.DefaultModel
import PythonDocs.Proofs.Settings.Key
import PythonDocs.Proofs.Symbol.RoundTrip
import PythonDocs.Proofs.FileTree.Whole
import PythonDocs.Proofs.Client.Answers
import PythonDocs.Proofs.Client.Endpoint
import PythonDocs.Proofs.Text.Utf8
import PythonDocs.Proofs.Python.Entries
import PythonDocs.Proofs.Extraction.Enclosing
import PythonDocs.Proofs.Python.Correspondence
import PythonDocs.Proofs.Python.Functions
import PythonDocs.Proofs.Python.Parameters
import PythonDocs.Proofs.Python.Signatures
import PythonDocs.Proofs.Discovery.Defaults
import PythonDocs.Proofs.Discovery.Selected
import PythonDocs.Proofs.Extraction.Faults
import PythonDocs.Proofs.Extraction.Pruned
import PythonDocs.Proofs.Diagram.Lines
import PythonDocs.Proofs.Run.Packages
import PythonDocs.Proofs.Settings.Merged
import PythonDocs.Proofs.Run.Stops
import PythonDocs.Proofs.Program.Agreement
import PythonDocs.Proofs.Client.Keys
import PythonDocs.Proofs.Page.Template
import PythonDocs.Proofs.Dependencies.Requests
import PythonDocs.Proofs.Python.RecordedText
import PythonDocs.Proofs.Python.Margins
import PythonDocs.Proofs.Settings.Filled
