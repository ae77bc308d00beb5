import CharAtlas.OrderedSet
import CharAtlas.Text.Alphanumeric
import CharAtlas.Text.Lowercase

/-! # Trigrams

The trigrams of a text are the stretches of three characters of its words, each word in lower case
and with two spaces before and one behind it. Main definition: `trigrams`. -/

namespace CharAtlas

/-- The longest stretches of alphanumeric characters; empty ones stand between two separators. -/
def wordsOf (cs : List Char) : List (List Char) :=
  cs.splitOnP fun c => !Text.isAlphanumeric c

/-- Every three neighbours, as texts. -/
def windows : List Char → List String
  | a :: b :: c :: cs => String.ofList [a, b, c] :: windows (b :: c :: cs)
  | _ => []

def wordTrigrams (word : List Char) : List String :=
  if word.isEmpty then []
  else windows (' ' :: ' ' :: word.flatMap Text.lowercase ++ [' '])

def trigrams (text : String) : OrderedSet String :=
  .ofList ((wordsOf text.toList).flatMap wordTrigrams)

end CharAtlas
