import LineEditor.Text.Reader

/-! The words of a command text.

Words are separated by white space. A backslash stands for the character behind it. Text between
single quotes is taken as it is; between double quotes a backslash stands for a following double
quote or backslash, and for itself before anything else. Quoted and plain parts that touch belong to
one word, so an empty pair of quotes is an empty word. -/
namespace LineEditor

inductive WordError where
  | singleQuote
  | doubleQuote
  | escapedCharacter
  deriving DecidableEq, Repr

def WordError.message : WordError → String
  | singleQuote => "no closing quotation (')"
  | doubleQuote => "no closing quotation (\")"
  | escapedCharacter => "no character after escape"

namespace Words

inductive Place where
  | gap
  | word
  | single
  | double
  deriving DecidableEq, Repr

/-- The word that ends here, if one has begun. Words and characters are collected backwards. -/
def close : Place → List Char → List (List Char) → List (List Char)
  | .gap, _, done => done
  | _, letters, done => letters.reverse :: done

def read : Place → List Char → List (List Char) → List Char → Except WordError (List (List Char))
  | .single, _, _, [] => .error .singleQuote
  | .double, _, _, [] => .error .doubleQuote
  | place, letters, done, [] => .ok (close place letters done).reverse
  | .single, letters, done, c :: rest =>
    if c = '\'' then read .word letters done rest
    else read .single (c :: letters) done rest
  | .double, _, _, ['\\'] => .error .doubleQuote
  | .double, letters, done, '\\' :: c :: rest =>
    if c = '"' ∨ c = '\\' then read .double (c :: letters) done rest
    else read .double (c :: '\\' :: letters) done rest
  | .double, letters, done, c :: rest =>
    if c = '"' then read .word letters done rest
    else read .double (c :: letters) done rest
  | _, _, _, ['\\'] => .error .escapedCharacter
  | _, letters, done, '\\' :: c :: rest => read .word (c :: letters) done rest
  | place, letters, done, c :: rest =>
    if Text.isBlank c then read .gap [] (close place letters done) rest
    else if c = '\'' then read .single letters done rest
    else if c = '"' then read .double letters done rest
    else read .word (c :: letters) done rest

end Words

def words (text : List Char) : Except WordError (List String) :=
  (Words.read .gap [] [] text).map (·.map String.ofList)

structure CommandLine where
  name : String
  arguments : List String
  deriving DecidableEq, Repr

/-- There is no command if there is no word, or if the first one is empty. -/
def CommandLine.ofWords? : List String → Option CommandLine
  | [] => none
  | name :: arguments => if name.isEmpty then none else some ⟨name, arguments⟩

end LineEditor
