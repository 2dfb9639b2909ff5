import SourceIndex.Text.Blank

/-!
# Lines and segments

Cutting a text at a character: the lines of a text, the segments of a path, and the part before or
after the last occurrence of a character.
-/

set_option autoImplicit false

namespace SourceIndex.Text

/-- Drops one given ending, when the text has it. -/
def dropEnding (ending text : List Char) : List Char :=
  match List.isSuffixOf? ending text with
  | some start => start
  | none => text

/-- The lines of a text. A line ends with a line feed, which one carriage return may precede; the
last line may lack its end, and a text that ends with a line feed has no empty line after it. -/
def lines (text : List Char) : List (List Char) :=
  match (text.splitOn '\n').reverse with
  | [] => []
  | last :: earlier =>
    let ended := earlier.reverse.map (dropEnding ['\r'])
    if last.isEmpty then ended else ended ++ [last]

/-- The part before the first occurrence of a character, and the part after it if there is one. -/
def splitFirst (mark : Char) (text : List Char) : List Char × Option (List Char) :=
  match text.dropWhile (· != mark) with
  | [] => (text, none)
  | _ :: rest => (text.takeWhile (· != mark), some rest)

/-- The part after the last occurrence of a character, or the whole text if there is none. -/
def afterLast (mark : Char) (text : List Char) : List Char :=
  (text.reverse.takeWhile (· != mark)).reverse

/-- Replaces every occurrence of one character by another. -/
def replaceChar (old new : Char) (text : List Char) : List Char :=
  text.map fun character => if character = old then new else character

/-- Applies a function on character lists to a string. -/
def onString (change : List Char → List Char) (text : String) : String :=
  String.ofList (change text.toList)

end SourceIndex.Text
