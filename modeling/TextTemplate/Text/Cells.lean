import TextTemplate.Failure
import TextTemplate.Text.Width

/-!
# Cells

The number of cells that a text takes. A joiner glues the character after it to those in front, so
that it takes no cells of its own, and the picture selector widens a narrow character that has a
picture. A text is cut between clusters: a character with all that is glued to it.
-/

namespace TextTemplate.Text

/-- Glues the next character to the ones before it. -/
def joiner : CodePoint := '\u200d'

/-- Asks for the picture of the character in front. -/
def pictureSelector : CodePoint := '\ufe0f'

/-- The cells that a picture selector adds to the character in front of it. -/
def widening : Option CodePoint → Nat
  | some c => if hasPicture c then 1 else 0
  | none => 0

/-- The beginning of a text, measured. -/
structure Measured where
  cells : Nat := 0
  /-- The last character that takes a cell, unless a selector has been applied to it. -/
  last? : Option CodePoint := none
  joined : Bool := false

def Measured.add (m : Measured) (c : CodePoint) : Measured :=
  if m.joined then { m with joined := false }
  else if c = joiner then { m with joined := true }
  else if c = pictureSelector then { m with cells := m.cells + widening m.last?, last? := none }
  else if cellWidth c = 0 then m
  else { m with cells := m.cells + cellWidth c, last? := some c }

def cells (t : Text) : Nat :=
  (t.foldl Measured.add {}).cells

/-- A character with all that is glued to it, and the cells that it takes. -/
structure Cluster where
  text : Text
  cells : Nat
  deriving DecidableEq, Repr

/-- A cluster with one more character, which adds some cells. -/
def Cluster.extend (k : Cluster) (c : CodePoint) (more : Nat) : Cluster :=
  ⟨k.text ++ [c], k.cells + more⟩

/-- The clusters of a text whose beginning has been gathered in a cluster. -/
def clustersFrom (joined : Bool) (current : Cluster) (last? : Option CodePoint) : Text → List Cluster
  | [] => [current]
  | c :: rest =>
    if joined then clustersFrom false (current.extend c 0) last? rest
    else if c = joiner then clustersFrom true (current.extend c 0) last? rest
    else if c = pictureSelector then
      clustersFrom false (current.extend c (widening last?)) none rest
    else if cellWidth c = 0 then clustersFrom false (current.extend c 0) last? rest
    else current :: clustersFrom false ⟨[c], cellWidth c⟩ (some c) rest

def clusters : Text → List Cluster
  | [] => []
  | c :: rest =>
    clustersFrom false ⟨[c], cellWidth c⟩ (if cellWidth c = 0 then none else some c) rest

theorem flatMap_clustersFrom (joined : Bool) (current : Cluster) (last? : Option CodePoint) (t : Text) :
    (clustersFrom joined current last? t).flatMap Cluster.text = current.text ++ t := by
  induction t generalizing joined current last? with
  | nil => simp [clustersFrom]
  | cons c rest ih =>
    simp only [clustersFrom]
    repeat' split
    all_goals simp [ih, Cluster.extend]

theorem flatMap_clusters (t : Text) : (clusters t).flatMap Cluster.text = t := by
  cases t with
  | nil => rfl
  | cons c rest => simp [clusters, flatMap_clustersFrom]

/-- As many clusters as fit into some cells, if there are so many. A wide one that fits by half leaves
a space. -/
def fitting : Nat → List Cluster → Except Failure Text
  | 0, _ => .ok []
  | _ + 1, [] => .error .outOfRange
  | n + 1, k :: rest =>
    if k.cells ≤ n + 1 then (fitting (n + 1 - k.cells) rest).map (k.text ++ ·) else .ok [' ']

/-- A text cut to a number of cells. A text that starts with joiners may have fewer cells in its
clusters than in all; if those are too few, or none, it cannot be cut. -/
def crop (limit : Nat) (t : Text) : Except Failure Text :=
  if cells t ≤ limit then .ok t
  else if 0 < limit ∧ (clusters t).all (·.cells = 0) then .error .divisionByZero
  else fitting limit (clusters t)

/-- Gather clusters into pieces that are no wider than a limit. -/
def gather (limit : Nat) (current : Cluster) : List Cluster → List Text
  | [] => [current.text]
  | k :: rest =>
    if current.cells + k.cells ≤ limit then
      gather limit ⟨current.text ++ k.text, current.cells + k.cells⟩ rest
    else current.text :: gather limit k rest

theorem flatten_gather (limit : Nat) (current : Cluster) (ks : List Cluster) :
    (gather limit current ks).flatten = current.text ++ ks.flatMap Cluster.text := by
  induction ks generalizing current with
  | nil => simp [gather]
  | cons k rest ih =>
    simp only [gather]
    split <;> simp [ih]

/-- The pieces of a text, each as wide as a limit allows. -/
def pieces (limit : Nat) (t : Text) : List Text :=
  gather limit ⟨[], 0⟩ (clusters t)

theorem flatten_pieces (limit : Nat) (t : Text) : (pieces limit t).flatten = t := by
  simp [pieces, flatten_gather, flatMap_clusters]

end TextTemplate.Text
