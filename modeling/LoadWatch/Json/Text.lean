/-
  Json/Text.lean --- JSON documents as text.

  Writing turns a document into tokens and those into characters, without any
  blank, on one line.  Reading goes the other way: the tokens of a text drive a
  reader that keeps the containers which are still open on a stack.  A reader
  that would open more containers than its limit refuses the text, and so does
  one that is not left with exactly one finished document.
-/
import LoadWatch.Json.Token

set_option autoImplicit false

namespace LoadWatch.Json

/-! ## Writing -/

namespace Value

mutual

/-- The tokens of a document. -/
def tokens : Value → List Token
  | .null => [.null]
  | .bool b => [.bool b]
  | .number n => [.number n]
  | .string text => [.string text]
  | .array items => .openArray :: firstItemTokens items
  | .object members => .openObject :: firstMemberTokens members

/-- The tokens of an array after its opening bracket. -/
def firstItemTokens : List Value → List Token
  | [] => [.closeArray]
  | value :: rest => value.tokens ++ moreItemTokens rest

/-- The tokens of an array after one of its elements. -/
def moreItemTokens : List Value → List Token
  | [] => [.closeArray]
  | value :: rest => .comma :: (value.tokens ++ moreItemTokens rest)

/-- The tokens of an object after its opening brace. -/
def firstMemberTokens : List (String × Value) → List Token
  | [] => [.closeObject]
  | member :: rest =>
    .string member.1 :: .colon :: (member.2.tokens ++ moreMemberTokens rest)

/-- The tokens of an object after one of its members. -/
def moreMemberTokens : List (String × Value) → List Token
  | [] => [.closeObject]
  | member :: rest =>
    .comma :: .string member.1 :: .colon :: (member.2.tokens ++ moreMemberTokens rest)

end

/-- The characters of a document, on one line and without blanks. -/
def chars (value : Value) : List Char := value.tokens.flatMap Token.chars

/-- The text of a document, on one line and without blanks. -/
def render (value : Value) : String := String.ofList value.chars

end Value

/-! ## Reading -/

/-- A container that is still open. -/
inductive Frame where
  /-- An array with the elements before the one being read, the last first. -/
  | element (before : List Value)
  /-- An object with the members before the one being read, the last first, and its key. -/
  | member (before : List (String × Value)) (key : String)

/-- What a reader expects next. The stack holds the open containers, the innermost first. -/
inductive Reader where
  /-- A document must follow. -/
  | document (stack : List Frame)
  /-- The first element of an array, or its end. -/
  | firstElement (stack : List Frame)
  /-- The first key of an object, or its end. -/
  | firstKey (stack : List Frame)
  /-- Another key of an object. -/
  | nextKey (stack : List Frame) (before : List (String × Value))
  /-- The colon after a key. -/
  | colon (stack : List Frame) (before : List (String × Value)) (key : String)
  /-- A document is complete: the end of its container, a comma, or the end of the text. -/
  | complete (stack : List Frame) (value : Value)

namespace Reader

/-- One token where a document must start. At most `limit` containers may be open. -/
def start (limit : Nat) (stack : List Frame) : Token → Option Reader
  | .null => some (.complete stack .null)
  | .bool b => some (.complete stack (.bool b))
  | .number n => some (.complete stack (.number n))
  | .string text => some (.complete stack (.string text))
  | .openArray => if stack.length < limit then some (.firstElement stack) else none
  | .openObject => if stack.length < limit then some (.firstKey stack) else none
  | _ => none

/-- One token after a complete document. -/
def proceed (value : Value) : List Frame → Token → Option Reader
  | .element before :: stack, .comma => some (.document (.element (value :: before) :: stack))
  | .element before :: stack, .closeArray =>
    some (.complete stack (.array (value :: before).reverse))
  | .member before key :: stack, .comma => some (.nextKey stack ((key, value) :: before))
  | .member before key :: stack, .closeObject =>
    some (.complete stack (Value.ofMembers ((key, value) :: before).reverse))
  | _, _ => none

/-- One token. -/
def step (limit : Nat) : Reader → Token → Option Reader
  | .document stack, token => start limit stack token
  | .firstElement stack, .closeArray => some (.complete stack (.array []))
  | .firstElement stack, token => start limit (.element [] :: stack) token
  | .firstKey stack, .closeObject => some (.complete stack (.object []))
  | .firstKey stack, .string text => some (.colon stack [] text)
  | .firstKey _, _ => none
  | .nextKey stack before, .string text => some (.colon stack before text)
  | .nextKey _ _, _ => none
  | .colon stack before key, .colon => some (.document (.member before key :: stack))
  | .colon _ _ _, _ => none
  | .complete stack value, token => proceed value stack token

/-- All tokens of a list. -/
def run (limit : Nat) : Reader → List Token → Option Reader
  | reader, [] => some reader
  | reader, token :: rest =>
    match step limit reader token with
    | some next => run limit next rest
    | none => none

/-- The document of a reader that has nothing left to read. -/
def result? : Reader → Option Value
  | .complete [] value => some value
  | _ => none

end Reader

/-- The most containers that the text of a reply may nest. -/
def nestingLimit : Nat := 127

/-- The document that a text stands for, with at most `limit` nested containers. -/
def Value.ofTextWithin? (limit : Nat) (text : String) : Option Value :=
  match Token.scan text.toList with
  | some tokens =>
    match Reader.run limit (.document []) tokens with
    | some reader => reader.result?
    | none => none
  | none => none

/-- The document that a text stands for, none if the text is not a JSON document or nests too
deep. -/
def Value.ofText? (text : String) : Option Value := Value.ofTextWithin? nestingLimit text

end LoadWatch.Json
