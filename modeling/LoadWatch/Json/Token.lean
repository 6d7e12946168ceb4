/-
  Json/Token.lean --- the tokens of a JSON text.

  A text is a sequence of tokens with blanks between them: punctuation marks,
  strings, and words, which are the literals and the numbers.  `Token.scan`
  takes a text apart, `Token.chars` writes a token.

  Main property: scanning a punctuation mark or a written string gives its token
  in front of the tokens of what follows (`scan_mark`, `scan_string`).
-/
import LoadWatch.Json.NumberText
import LoadWatch.Json.StringText

set_option autoImplicit false

namespace LoadWatch.Json

/-- A token of a JSON text. -/
inductive Token where
  | openArray
  | closeArray
  | openObject
  | closeObject
  | comma
  | colon
  | null
  | bool (b : Bool)
  | number (n : Number)
  | string (text : String)

namespace Token

/-- The text of a token. -/
def chars : Token → List Char
  | .openArray => ['[']
  | .closeArray => [']']
  | .openObject => ['\x7b']
  | .closeObject => ['\x7d']
  | .comma => [',']
  | .colon => [':']
  | .null => ['n', 'u', 'l', 'l']
  | .bool true => ['t', 'r', 'u', 'e']
  | .bool false => ['f', 'a', 'l', 's', 'e']
  | .number n => n.text
  | .string text => stringText text.toList

/-- The blanks that may stand between tokens. -/
def isSpace (c : Char) : Bool := c = ' ' || c = '\n' || c = '\r' || c = '\t'

/-- The token of a punctuation mark. -/
def ofMark? (c : Char) : Option Token :=
  if c = '[' then some .openArray
  else if c = ']' then some .closeArray
  else if c = '\x7b' then some .openObject
  else if c = '\x7d' then some .closeObject
  else if c = ',' then some .comma
  else if c = ':' then some .colon
  else none

/-- The characters of words: literals and numbers. -/
def isWordPart (c : Char) : Bool := c.isAlphanum || c = '+' || c = '-' || c = '.'

/-- The token of a word, none if it is neither a literal nor a number. -/
def ofWord? (word : List Char) : Option Token :=
  if word = ['n', 'u', 'l', 'l'] then some .null
  else if word = ['t', 'r', 'u', 'e'] then some (.bool true)
  else if word = ['f', 'a', 'l', 's', 'e'] then some (.bool false)
  else (Number.ofText? word).map .number

/-- The tokens of a text, none if some part of it is no token. -/
def scan (text : List Char) : Option (List Token) :=
  match text with
  | [] => some []
  | c :: rest =>
    if isSpace c then scan rest
    else
      match ofMark? c with
      | some mark => (scan rest).map (mark :: ·)
      | none =>
        if c = '"' then
          match _read : readString rest with
          | some (content, after) =>
            (scan after).map (.string (String.ofList content) :: ·)
          | none => none
        else
          match ofWord? (c :: rest.takeWhile isWordPart) with
          | some word => (scan (rest.dropWhile isWordPart)).map (word :: ·)
          | none => none
termination_by text.length
decreasing_by
  · simp
  · simp
  · have := length_readString _read
    simp only [List.length_cons]
    omega
  · have := (List.dropWhile_suffix isWordPart (l := rest)).length_le
    simp only [List.length_cons]
    omega

/-- A punctuation mark is scanned as its token. -/
theorem scan_mark {c : Char} {mark : Token} (space : isSpace c = false)
    (h : ofMark? c = some mark) (rest : List Char) :
    scan (c :: rest) = (scan rest).map (mark :: ·) := by
  rw [scan]
  simp [space, h]

/-- A written string is scanned as its token. -/
theorem scan_string (text : String) (rest : List Char) :
    scan ((Token.string text).chars ++ rest) = (scan rest).map (.string text :: ·) := by
  have hread := readString_stringText text.toList rest
  have hsplit : (Token.string text).chars ++ rest =
      '"' :: ((stringText text.toList).drop 1 ++ rest) := rfl
  have hspace : isSpace '"' = false := by decide
  have hmark : ofMark? '"' = none := by decide
  rw [hsplit, scan]
  simp only [hspace, hmark, Bool.false_eq_true, if_false, if_true]
  split
  · rename_i content after hr
    rw [hread] at hr
    obtain ⟨rfl, rfl⟩ := Prod.mk.inj (Option.some.inj hr)
    rw [String.ofList_toList]
  · rename_i hr
    rw [hread] at hr
    contradiction

end Token

end LoadWatch.Json
