/-!
Paths of an address, with the dot segments resolved.  A path is written with a
slash before each segment, so a path of one empty segment is a lone slash.
-/

namespace ScoreSheet

/-- Whether a character separates path segments. Addresses of the web take a
backslash for a slash. -/
def isPathSeparator (web : Bool) (character : Char) : Bool :=
  character == '/' || web && character == '\\'

def isBreak (character : Char) : Bool :=
  character == '\t' || character == '\n' || character == '\r'

def withoutBreaks (text : List Char) : List Char :=
  text.filter fun character => !isBreak character

namespace Path

def withDots : List Char → List Char
  | '%' :: '2' :: 'e' :: rest => '.' :: withDots rest
  | '%' :: '2' :: 'E' :: rest => '.' :: withDots rest
  | first :: rest => first :: withDots rest
  | [] => []

def isSingleDot (segment : List Char) : Bool :=
  withDots segment == ['.']

def isDoubleDot (segment : List Char) : Bool :=
  withDots segment == ['.', '.']

def isDriveMark (mark : Char) : Bool :=
  mark == ':' || mark == '|'

def isDrive (segment : List Char) : Bool :=
  match segment with
  | [letter, mark] => letter.isAlpha && isDriveMark mark
  | _ => false

def beginsWithDrive (segment : List Char) : Bool :=
  match segment with
  | letter :: mark :: rest =>
      letter.isAlpha && isDriveMark mark && (rest.isEmpty || rest.head? == some '\\')
  | _ => false

def segmentsOf (web : Bool) : List Char → List (List Char)
  | [] => [[]]
  | first :: rest =>
      if isPathSeparator web first then [] :: segmentsOf web rest
      else
        match segmentsOf web rest with
        | [] => [[first]]
        | segment :: segments => (first :: segment) :: segments

/-- A path without its last segment. A drive stays, wherever it stands. -/
def parent (path : List (List Char)) : List (List Char) :=
  if path.getLast?.any beginsWithDrive then path else path.dropLast

/-- Appends segments to a path. A single dot adds nothing and a double dot goes
back; as the last segment, either one leaves an empty segment. -/
def resolve (path : List (List Char)) : List (List Char) → List (List Char)
  | [] => path
  | segment :: rest =>
      let last := rest.isEmpty
      let next :=
        if isDoubleDot segment then
          parent path ++ if last then [[]] else []
        else if isSingleDot segment then
          path ++ if last then [[]] else []
        else path ++ [segment]
      resolve next rest

def resolved (web : Bool) (text : List Char) : List (List Char) :=
  resolve [] (segmentsOf web text)

def written (path : List (List Char)) : List Char :=
  path.flatMap ('/' :: ·)

def read (web : Bool) (text : List Char) : List Char :=
  written (resolved web text)

/-- The text of a file's path without tabs and line breaks. One right after a
drive that begins the path ends the drive, as a slash does. -/
def fileText (text : List Char) : List Char :=
  match text.dropWhile isBreak with
  | letter :: rest =>
      match rest.dropWhile isBreak with
      | ':' :: mark :: others =>
          if letter.isAlpha && isBreak mark then letter :: ':' :: '/' :: withoutBreaks others
          else withoutBreaks text
      | _ => withoutBreaks text
  | [] => []

/-- The path of a file. Empty segments in front of others do not count. -/
def readFile (text : List Char) : List Char :=
  match (resolved true (fileText text)).dropWhile List.isEmpty with
  | [] => ['/']
  | segments => written segments

end Path
end ScoreSheet
