/-! What readers of a text share: the white space between words, and taking one step after the other. A
reader takes what it understands off the head of a text and gives back the rest; it gives nothing if the
text is malformed. -/
namespace LineEditor.Text

/-- The characters with the Unicode property `White_Space`: the ASCII controls from tab to carriage return,
the space, and the spaces and separators beyond ASCII. -/
def isBlank (c : Char) : Bool :=
  let n := c.toNat
  (0x09 ≤ n && n ≤ 0x0D) || n == 0x20 || n == 0x85 || n == 0xA0 || n == 0x1680 ||
    (0x2000 ≤ n && n ≤ 0x200A) || n == 0x2028 || n == 0x2029 || n == 0x202F || n == 0x205F ||
    n == 0x3000

/-- A command text that holds nothing but white space counts as empty. -/
def allBlank (text : List Char) : Bool :=
  text.all isBlank

@[simp] theorem allBlank_nil : allBlank [] = true := rfl

@[simp] theorem allBlank_cons (c : Char) (text : List Char) :
    allBlank (c :: text) = (isBlank c && allBlank text) := rfl

inductive Step (σ β : Type) where
  | more (state : σ) (rest : List Char)
  | done (result : β) (rest : List Char)

/-- Repeats a step until it is done. Every step but the last has to use up some of the text. -/
def iterate (step : σ → List Char → Option (Step σ β)) (state : σ) (text : List Char) :
    Option (β × List Char) :=
  match step state text with
  | none => none
  | some (.done result rest) => some (result, rest)
  | some (.more state rest) =>
    if rest.length < text.length then iterate step state rest else none
termination_by text.length

end LineEditor.Text
