import TextTemplate.Source.Path

/-!
# File trees

What is found at a path, or why nothing is. A path is followed name by name, from the root or from the
working directory. Every name but the last has to lead to a directory, and the last one too if a slash
follows it.
-/

namespace TextTemplate

/-- Why no file is opened at a path. -/
inductive Obstacle where
  | missing
  /-- Something on the way is a file and not a directory. -/
  | notDirectory
  | directory
  | nameTooLong
  /-- The path holds a null character, which no path can. -/
  | nullCharacter
  deriving DecidableEq, Repr

namespace Obstacle

def reason : Obstacle → String
  | missing => "No such file or directory"
  | notDirectory => "Not a directory"
  | directory => "Is a directory"
  | nameTooLong => "File name too long"
  | nullCharacter => "embedded null byte"

/-- The number by which a system reports an obstacle. -/
def code : Obstacle → Nat
  | missing => 2
  | notDirectory => 20
  | directory => 21
  | nameTooLong => 36
  | nullCharacter => 22

end Obstacle

/-- What is found at a path: the bytes of a file, or what is in the way. -/
abbrev Entry := Except Obstacle (List UInt8)

namespace Path

/-- The number of bytes that a text takes in a path. -/
def byteCount (t : Text) : Nat :=
  (t.flatMap CodePoint.bytes).length

/-- The number of bytes that a name may have. -/
def maxNameBytes : Nat := 255

/-- The number of bytes that a path may have. -/
def maxPathBytes : Nat := 4095

/-- What keeps a path from being followed at all. -/
def obstacle? (path : Text) : Option Obstacle :=
  if path.contains '\x00' then some .nullCharacter
  else if maxPathBytes < byteCount path then some .nameTooLong
  else if path.isEmpty then some .missing
  else none

end Path

/-- Files and directories, each under the names that lead to it from the root. -/
structure FileTree where
  workingDirectory : List Text
  files : List (List Text × List UInt8)
  /-- Directories, apart from those on the way to a file or to the working directory. -/
  directories : List (List Text)

namespace FileTree

def isDirectory (tree : FileTree) (place : List Text) : Bool :=
  place.isPrefixOf tree.workingDirectory || tree.directories.any place.isPrefixOf ||
    tree.files.any fun (names, _) => place.isPrefixOf names && place != names

/-- What is at a place. The last of several files at one place counts. -/
def entryAt (tree : FileTree) (place : List Text) : Entry :=
  match tree.files.reverse.lookup place with
  | some bytes => .ok bytes
  | none => if tree.isDirectory place then .error .directory else .error .missing

def step (place : List Text) (name : Text) : List Text :=
  if name = Path.here then place
  else if name = Path.above then place.dropLast
  else place ++ [name]

/-- What is found by following names from a place. -/
def follow (tree : FileTree) (place : List Text) : List Text → Entry
  | [] => tree.entryAt place
  | name :: rest =>
    match tree.entryAt place with
    | .ok _ => .error .notDirectory
    | .error .directory =>
      if Path.maxNameBytes < Path.byteCount name then .error .nameTooLong
      else tree.follow (step place name) rest
    | .error obstacle => .error obstacle

def start (tree : FileTree) (path : Text) : List Text :=
  if Path.isAbsolute path then [] else tree.workingDirectory

def place (tree : FileTree) (path : Text) : List Text :=
  (Path.names path).foldl step (tree.start path)

def find (tree : FileTree) (path : Text) : Entry :=
  match Path.obstacle? path with
  | some obstacle => .error obstacle
  | none =>
    let slash := if Path.endsInSlash path then [Path.here] else []
    tree.follow (tree.start path) (Path.names path ++ slash)

end FileTree

end TextTemplate
