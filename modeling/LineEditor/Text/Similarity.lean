import LineEditor.Number.Binary64

/-! How much two words are alike, as a number between zero and one.

Letters are paired if they are equal and stand nearly in the same place. What counts is the share of
paired letters in each word, and how many of the pairs keep their order. The mean of the three shares is
worked out in floating point numbers and rounded at every step, so that two words of exactly the same
likeness to a third may still be told apart. -/
namespace LineEditor.Text

def reach (a b : List Char) : Nat :=
  max a.length b.length / 2 - 1

/-- Pairs the letters of `a`, from first to last, with the first free letter of `b` that will do. The
places in `b` come in the order of the letters of `a`. -/
def pairedPlaces (a b : List Char) : List Nat :=
  let far := reach a b
  a.zipIdx.foldl
    (fun taken (c, i) =>
      let place := (List.range b.length).find? fun j =>
        i ≤ j + far && j ≤ i + far && b[j]? == some c && !taken.contains j
      taken ++ place.toList)
    []

/-- The number of pairs that have changed places with another one. -/
def exchanged (b : List Char) (places : List Nat) : Nat :=
  let inOrder := (List.range b.length).filter places.contains
  ((places.zip inOrder).countP fun (i, j) => b[i]? != b[j]?) / 2

def similarity (a b : List Char) : Number.Binary64 :=
  let places := pairedPlaces a b
  let pairs := places.length
  let share (part whole : Nat) := Number.Binary64.ofFraction part whole
  if places.isEmpty then ⟨0⟩
  else
    (((share pairs a.length).addMagnitudes (share pairs b.length)).addMagnitudes
      (share (pairs - exchanged b places) pairs)).divMagnitude 3

end LineEditor.Text
