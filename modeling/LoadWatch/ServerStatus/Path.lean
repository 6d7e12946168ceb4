/-
  ServerStatus/Path.lean --- fields of a reply selected by their path.

  A path names members of nested objects, separated by dots.  It leads to a
  field if that is neither an object nor an array.  With the ending `.diff()` a
  path shows how much the field has grown since the previous sample, with
  `.rate()` how much per second.  What cannot be shown is `INVALID`.
-/
import LoadWatch.ServerStatus.Rate
import LoadWatch.Text.Pieces
import LoadWatch.Units

set_option autoImplicit false

namespace LoadWatch.ServerStatus

open Json

/-- The document that a list of keys leads to. -/
def descend : List String → Value → Option Value
  | [], value => some value
  | key :: keys, value => (value.member? key).bind (descend keys)

/-- The keys of a path. -/
def pathKeys (path : List Char) : List String := (Text.pieces '.' path).map String.ofList

/-- The field that a path leads to. -/
def field? (reply : Value) (path : List Char) : Option Value :=
  (descend (pathKeys path) reply).filter fun value => !value.isContainer

/-- The number that a path leads to, as a counter. -/
def counter? (reply : Value) (path : List Char) : Option Int :=
  ((field? reply path).bind Value.number?).map Number.toCounter

/-- How a field is shown: a text as it is, anything else as a document. -/
def fieldText : Value → String
  | .string text => text
  | value => value.render

/-- The text before an ending. -/
def stripEnding? (ending text : List Char) : Option (List Char) :=
  if ending.isSuffixOf text then some (text.take (text.length - ending.length)) else none

/-- What is shown for a path that leads nowhere. -/
def invalid : String := "INVALID"

/-- What a path with an ending shows, made from the numbers of the current and of the previous
sample. -/
def comparison (path : List Char) (current previous : Sample) (combine : Int → Int → Int) :
    String :=
  match counter? current.reply path, counter? previous.reply path with
  | some now, some before => decimal (combine now before)
  | _, _ => invalid

/-- The cell of a column that is selected by a path. -/
def pathCell (path : String) (current previous : Sample) : String :=
  match stripEnding? ".diff()".toList path.toList with
  | some stem => comparison stem current previous change
  | none =>
    match stripEnding? ".rate()".toList path.toList with
    | some stem =>
      comparison stem current previous fun now before =>
        rate now before (sampleSeconds current previous)
    | none => ((field? current.reply path.toList).map fieldText).getD invalid

end LoadWatch.ServerStatus
