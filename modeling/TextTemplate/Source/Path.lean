import TextTemplate.Text.Utf8

/-!
# Paths

A path is shown and looked up in its normal form: neighbouring slashes count as one, the current
directory is left out, and nothing at all stands for it. Exactly two slashes in front are kept.
-/

namespace TextTemplate.Path

/-- Whether a character separates the names of a path. -/
def isSlash (c : CodePoint) : Bool :=
  c == .char '/'

def here : Text := ['.']

def above : Text := ['.', '.']

/-- The names of a path: its parts between slashes, but for empty ones. -/
def names (path : Text) : List Text :=
  let (first, others) := path.splitWhere isSlash
  (first :: others).filter (!·.isEmpty)

/-- The slashes in front of a path that its normal form keeps. -/
def root (path : Text) : Text :=
  match (path.takeWhile isSlash).length with
  | 0 => []
  | 2 => ['/', '/']
  | _ => ['/']

def normal (path : Text) : Text :=
  match root path ++ Text.intercalate ['/'] ((names path).filter (· != here)) with
  | [] => here
  | shown => shown

def isAbsolute (path : Text) : Bool :=
  (path.head?.map isSlash).getD false

/-- Whether a path ends in a slash, so that it can only lead to a directory. -/
def endsInSlash (path : Text) : Bool :=
  (path.getLast?.map isSlash).getD false

/-- The directory in which the last name of a path is looked up. -/
def parent (path : Text) : Text :=
  match (path.trimEndOf isSlash).trimEndOf (!isSlash ·) with
  | [] => if isAbsolute path then ['/'] else here
  | directory => directory

/-- A path as messages show it, with a sign in the place of bytes that are no character. -/
def shown (path : Text) : Text :=
  .ofChars (Text.decodeLossy none (path.flatMap CodePoint.bytes))

end TextTemplate.Path
