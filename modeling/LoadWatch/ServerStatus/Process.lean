/-
  ServerStatus/Process.lean --- telling a router by its process name.

  A process is a router if its name has an occurrence of `mongos` as a whole
  word that is not part of a path: up to the next blank, or up to the end, no
  slash or backslash follows it.  Only the first line of the name counts.
-/
import LoadWatch.Text.Blank
import LoadWatch.Text.WordCharacter

set_option autoImplicit false

namespace LoadWatch.ServerStatus

/-- The name of the router program. -/
def routerName : List Char := "mongos".toList

/-- No word goes on at this end of a word. -/
def isWordEdge (neighbour : Option Char) : Bool :=
  match neighbour with
  | some c => !Text.isWordCharacter c
  | none => true

/-- The text goes on without a separator of path segments, up to its end or up to a blank with no
line break after it. -/
def leavesPath : List Char → Bool
  | [] => true
  | c :: rest =>
    (Text.isBlank c && !rest.contains '\n') || (c ≠ '/' && c ≠ '\\' && leavesPath rest)

/-- The router name stands at the start of the text as a whole word outside of a path. -/
def startsWithRouter (before : Option Char) (text : List Char) : Bool :=
  routerName.isPrefixOf text && isWordEdge before &&
    isWordEdge (text.drop routerName.length).head? && leavesPath (text.drop routerName.length)

/-- The router name stands somewhere in the text, on its first line. -/
def namesRouter : Option Char → List Char → Bool
  | _, [] => false
  | before, c :: rest =>
    startsWithRouter before (c :: rest) || (c ≠ '\n' && namesRouter (some c) rest)

/-- The process is a router. -/
def isRouterProcess (process : String) : Bool := namesRouter none process.toList

end LoadWatch.ServerStatus
