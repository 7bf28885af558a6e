import TextTemplate.CommandLine.EmojiNames
import TextTemplate.Text.Cells
import TextTemplate.Text.LowerCase

/-!
# Pictures by name

A name between colons stands for a picture. The name may be followed by a dash and the word `emoji` or
`text`, which asks for one of two forms of the picture. Letters count without regard to case, a name
holds no blanks, and what names no picture is left as it is, with both its colons.
-/

namespace TextTemplate.Emoji

def wordsOf (lines : List String) : List Text :=
  lines.flatMap fun line =>
    let (first, others) := Text.splitWhere (· == .char ' ') line.text
    first :: others

def inPairs : List Text → List (Text × Text)
  | a :: b :: rest => (a, b) :: inPairs rest
  | _ => []

/-- The pictures of all names without a skin tone. -/
def pictures : List (Text × Text) :=
  inPairs (wordsOf pictureLines)

/-- The names that may be followed by a skin tone. -/
def tonedNames : List Text :=
  wordsOf tonedLines

/-- The skin tones, and the characters that give them to a picture. -/
def tones : List (String × CodePoint) :=
  [("light", '🏻'), ("medium-light", '🏼'), ("medium", '🏽'), ("medium-dark", '🏾'), ("dark", '🏿')]

/-- The text before an ending, if a text has that ending. -/
def before? (ending t : Text) : Option Text :=
  if ending.isSuffixOf t then some (t.take (t.length - ending.length)) else none

/-- A picture in a skin tone. The tone takes the place of a picture selector. -/
def withTone (tone : CodePoint) : Text → Text
  | c :: d :: rest => if d = Text.pictureSelector then c :: tone :: rest else c :: tone :: d :: rest
  | [c] => [c, tone]
  | [] => [tone]

def picture? (name : Text) : Option Text :=
  (pictures.lookup name).or
    (tones.findSome? fun (tone, modifier) => do
      let plain ← before? s!"_{tone}_skin_tone" name
      guard (tonedNames.contains plain)
      return withTone modifier (← pictures.lookup plain))

/-- Asks for the plain form of the picture in front. -/
def textSelector : CodePoint := '\ufe0e'

/-- What stands between two colons, as a name and the selector that it asks for. -/
def nameAndSelector (inside : Text) : Text × Text :=
  match before? "-emoji".text inside, before? "-text".text inside with
  | some name, _ => (name, [Text.pictureSelector])
  | none, some name => (name, [textSelector])
  | none, none => (inside, [])

def between? (inside : Text) : Option Text :=
  let (name, selector) := nameAndSelector inside
  (picture? (Text.lower name)).map (· ++ selector)

/-- Put in the pictures, given the parts of a text that follow a colon each. -/
def afterColons : List Text → Text
  | [] => []
  | [last] => ':' :: last
  | inside :: next :: rest =>
    if inside.any Text.isBlank then .char ':' :: inside ++ afterColons (next :: rest)
    else (between? inside).getD (.char ':' :: inside ++ [.char ':']) ++ next ++ afterColons rest

/-- A text with pictures in place of their names. -/
def replace (t : Text) : Text :=
  let (first, others) := Text.splitWhere (· == .char ':') t
  first ++ afterColons others

end TextTemplate.Emoji
