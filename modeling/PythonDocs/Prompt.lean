import PythonDocs.Symbol

namespace PythonDocs.Prompt

def docstring (symbol : Symbol) : String :=
  let kind := symbol.kind.name
  let args := if symbol.args.isEmpty then "none" else Text.join ", " symbol.args
  "Generate a complete Google-style Python docstring for the following " ++ kind ++ ".\n"
    ++ "The docstring must include a summary, an 'Args:' section covering every argument ("
    ++ args ++ "), and a 'Returns:' section.\n"
    ++ "Only return the docstring itself, enclosed in triple quotes. Do not return the " ++ kind
    ++ " signature.\n\nCode:\n" ++ symbol.source ++ "\n"

def readme (symbols : List Symbol) (module : String) : String :=
  "Generate a README in Markdown format for a Python module named '" ++ module ++ "'.\n"
    ++ "The module contains these classes and functions: ["
    ++ Text.join ", " (symbols.map Symbol.name) ++ "].\n"
    ++ "The README should have a one-paragraph summary of the module's purpose and a list of "
    ++ "its main components.\n"

end PythonDocs.Prompt
