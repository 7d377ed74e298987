import PythonDocs.Text.Ranges

namespace PythonDocs.Text

def blanks : Ranges :=
  [(0x9, 0xD), (0x20, 0x20), (0x85, 0x85), (0xA0, 0xA0), (0x1680, 0x1680), (0x2000, 0x200A),
   (0x2028, 0x2029), (0x202F, 0x202F), (0x205F, 0x205F), (0x3000, 0x3000)]

def isBlank (c : Char) : Bool := blanks.has c

def dropEnd (p : Char → Bool) (text : List Char) : List Char :=
  (text.reverse.dropWhile p).reverse

def trimEnd (text : List Char) : List Char := dropEnd isBlank text

def trim (text : List Char) : List Char := trimEnd (text.dropWhile isBlank)

def trimmed (text : String) : String := .ofList (trim text.toList)

def isBlankText (text : String) : Bool := text.toList.all isBlank

end PythonDocs.Text
