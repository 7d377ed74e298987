namespace PythonDocs.Text

def splitOn (separator : Char) : List Char → List (List Char)
  | [] => [[]]
  | c :: rest =>
    if c = separator then [] :: splitOn separator rest
    else
      match splitOn separator rest with
      | piece :: pieces => (c :: piece) :: pieces
      | [] => [[c]]

def splitFirst (mark : Char) (text : List Char) : List Char × Option (List Char) :=
  match text.dropWhile (· ≠ mark) with
  | [] => (text, none)
  | _ :: rest => (text.takeWhile (· ≠ mark), some rest)

def joinWith (separator : List Char) : List (List Char) → List Char
  | [] => []
  | [piece] => piece
  | piece :: pieces => piece ++ separator ++ joinWith separator pieces

def join (separator : String) (pieces : List String) : String :=
  .ofList (joinWith separator.toList (pieces.map String.toList))

def isIndentation (c : Char) : Bool := c == ' ' || c == '\t'

/-- A line without its indentation, of which at most `width` characters are dropped. -/
def dropIndentation (width : Nat) (line : List Char) : List Char :=
  line.drop ((line.take width).takeWhile isIndentation).length

def dedent (width : Nat) (text : List Char) : List Char :=
  match splitOn '\n' text with
  | [] => []
  | first :: rest => joinWith ['\n'] (first :: rest.map (dropIndentation width))

def byteLength (text : List Char) : Nat :=
  text.foldr (fun c length => c.utf8Size + length) 0

def slice (text : List Char) (start stop : Nat) : List Char :=
  (text.drop start).take (stop - start)

/-- The bytes between the start of a line and an offset in it. -/
def columnAt (text : List Char) (offset : Nat) : Nat :=
  byteLength ((text.take offset).reverse.takeWhile (· ≠ '\n'))

def lineAt (text : List Char) (offset : Nat) : Nat :=
  (text.take offset).count '\n'

theorem splitOn_eq (separator : Char) (text : List Char) :
    splitOn separator text = text.splitOn separator := by
  induction text with
  | nil => rfl
  | cons c rest ih =>
    have step : (c :: rest).splitOn separator =
        if c == separator then [] :: rest.splitOn separator
        else (rest.splitOn separator).modifyHead (c :: ·) :=
      List.splitOnP_cons_eq_if_modifyHead c rest
    rw [step, splitOn, ih]
    cases split : rest.splitOn separator with
    | nil => exact absurd split (List.splitOn_ne_nil separator rest)
    | cons piece pieces => simp

theorem joinWith_eq (separator : List Char) (pieces : List (List Char)) :
    joinWith separator pieces = separator.intercalate pieces := by
  induction pieces with
  | nil => rfl
  | cons piece rest ih =>
    cases rest with
    | nil => simp [joinWith]
    | cons next more =>
      rw [joinWith, ih, List.intercalate_cons_cons]
      exact List.cons_ne_nil next more

theorem splitOn_ne_nil (separator : Char) (text : List Char) : splitOn separator text ≠ [] :=
  splitOn_eq separator text ▸ List.splitOn_ne_nil separator text

theorem joinWith_splitOn (separator : Char) (text : List Char) :
    joinWith [separator] (splitOn separator text) = text := by
  rw [joinWith_eq, splitOn_eq, List.intercalate_splitOn]

end PythonDocs.Text
