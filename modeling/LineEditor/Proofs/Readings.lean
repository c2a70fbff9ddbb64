import LineEditor.Proofs.Followed
import Mathlib.Data.List.Induction

/-! One reader for many texts. What it keeps from the texts that it has read is the last move made by `;`,
also where the text was refused later on. Each text is read as by a new reader of the document with its
current line moved there. -/
namespace LineEditor

def ParsedRange.placed (p : ParsedRange) : List Char × LineRange :=
  (p.rest, p.range)

/-- The move that a range reports: a line alone reports none, and a range with an operator the last one. -/
def RangeForm.reported (last : Option Nat) : RangeForm → Option Nat
  | span _ _ _ => last
  | _ => none

namespace RangeReader

/-- A text has `;` behind a first address or in its place, and moves to the line that it names or to
the current one. Nothing is said about what stands behind. -/
inductive Moves (cursor : Option Nat) (count : Nat) : List Char → Nat → Prop where
  | addressed : Address.resolve cursor count text = .ok (some ⟨';' :: rest, index⟩) →
      Address.validate index count .first = .ok line → Moves cursor count text line
  | omitted (rest : List Char) : cursor = some line → Moves cursor count (';' :: rest) line

/-- The last move of some texts, one read after the other. A text starts from the move in front of it, or
from the current line if there was none. -/
inductive LastMove (cursor : Option Nat) (count : Nat) : List (List Char) → Option Nat → Prop where
  | none : LastMove cursor count [] none
  | moved : LastMove cursor count before last → Moves (last.or cursor) count text line →
      LastMove cursor count (before ++ [text]) (some line)
  | kept : LastMove cursor count before last → (∀ line, ¬ Moves (last.or cursor) count text line) →
      LastMove cursor count (before ++ [text]) last

def readAll (r : RangeReader) :
    List (List Char) → List (Except AddressError (Option ParsedRange) × RangeReader)
  | [] => []
  | text :: later => r.read text :: (r.read text).2.readAll later

def behind (r : RangeReader) (texts : List (List Char)) : RangeReader :=
  texts.foldl (fun r text => (r.read text).2) r

variable {r : RangeReader} {text : List Char} {texts : List (List Char)} {cursor : Option Nat}
  {count line : Nat}

theorem readAll_getElem? (r : RangeReader) (texts : List (List Char)) (k : Nat) :
    (r.readAll texts)[k]? = texts[k]?.map (r.behind (texts.take k)).read := by
  induction texts generalizing r k with
  | nil => rfl
  | cons first later ih =>
    cases k with
    | zero => rfl
    | succ k => exact ih (r.read first).2 k

theorem behind_concat (r : RangeReader) (before : List (List Char)) (text : List Char) :
    r.behind (before ++ [text]) = ((r.behind before).read text).2 := by
  simp [behind]

/-! ### One text -/

theorem endpoint_semicolon (r : RangeReader) (rest : List Char) :
    r.endpoint .first (';' :: rest) = .ok none := by
  refine r.endpoint_of_none .first (.none fun form left reads => ?_)
  have begins := Address.exists_reads_cons_iff.mp ⟨form, left, reads⟩
  simp [Address.Begins] at begins

theorem endpoint_eq_ok_some (found : r.endpoint which text = .ok (some (line, rest))) :
    ∃ index, Address.resolve r.cursor r.count text = .ok (some ⟨rest, index⟩) ∧
      Address.validate index r.count which = .ok line := by
  unfold endpoint at found
  obtain ⟨place, resolved, checked⟩ := except_bind_eq_ok_iff.mp found
  cases place with
  | none => cases checked
  | some place =>
    obtain ⟨i, valid, done⟩ := except_bind_eq_ok_iff.mp checked
    cases done
    exact ⟨place.index, resolved, valid⟩

theorem Moves.read (moves : Moves r.cursor r.count text line) : (r.read text).2 = r.moveTo line := by
  cases moves with
  | addressed resolved valid =>
    rename_i rest index
    have found : r.endpoint .first text = .ok (some (line, ';' :: rest)) := by
      simp only [endpoint, resolved, bind, Except.bind, valid]
      rfl
    rw [RangeReader.read, found]
    rfl
  | omitted rest here =>
    rw [RangeReader.read, r.endpoint_semicolon rest]
    simp only [Option.elim, Option.map, Option.or, here]

theorem read_of_not_moves (still : ∀ line, ¬ Moves r.cursor r.count text line) :
    (r.read text).2 = r := by
  unfold RangeReader.read
  cases found : r.endpoint .first text with
  | error e => rfl
  | ok first =>
    dsimp only
    split
    · rfl
    · rename_i rest behind
      cases first with
      | some place =>
        obtain ⟨line, left⟩ := place
        obtain rfl : left = ';' :: rest := behind
        obtain ⟨index, resolved, valid⟩ := endpoint_eq_ok_some found
        exact (still line (.addressed resolved valid)).elim
      | none =>
        obtain rfl : text = ';' :: rest := behind
        cases here : r.cursor with
        | none => rfl
        | some line => exact (still line (.omitted rest here)).elim
    · rfl

theorem Moves.lt (moves : Moves cursor count text line) (inside : ∀ i ∈ cursor, i < count) :
    line < count := by
  cases moves with
  | addressed _ valid =>
    unfold Address.validate at valid
    split at valid
    · cases valid
      omega
    · contradiction
  | omitted rest here => exact inside line here

/-- The move that a reader keeps does not touch what it finds. -/
theorem finish_placed (count : Nat) (cursor a b : Option Nat) (first : Nat) (text : List Char) :
    ((⟨count, cursor, a⟩ : RangeReader).finish first text).map ParsedRange.placed =
      ((⟨count, cursor, b⟩ : RangeReader).finish first text).map ParsedRange.placed := by
  have same : (⟨count, cursor, a⟩ : RangeReader).endpoint .last text =
      (⟨count, cursor, b⟩ : RangeReader).endpoint .last text := rfl
  rw [finish, finish, same]
  cases (⟨count, cursor, b⟩ : RangeReader).endpoint .last text with
  | error e => rfl
  | ok last =>
    cases last with
    | none => rfl
    | some last =>
      by_cases reversed : last.1 < first
      · simp [reversed, Except.map, bind, Except.bind, throw, throwThe, MonadExceptOf.throw]
      · simp [reversed, Except.map, bind, Except.bind, pure, Except.pure, ParsedRange.placed]

theorem read_placed (count : Nat) (cursor a b : Option Nat) (text : List Char) :
    ((⟨count, cursor, a⟩ : RangeReader).read text).1.map (Option.map ParsedRange.placed) =
      ((⟨count, cursor, b⟩ : RangeReader).read text).1.map (Option.map ParsedRange.placed) := by
  have same : (⟨count, cursor, a⟩ : RangeReader).endpoint .first text =
      (⟨count, cursor, b⟩ : RangeReader).endpoint .first text := rfl
  have some (x : Except AddressError ParsedRange) :
      (x.map some).map (Option.map ParsedRange.placed) = (x.map ParsedRange.placed).map some := by
    cases x <;> rfl
  rw [read, read, same]
  cases (⟨count, cursor, b⟩ : RangeReader).endpoint .first text with
  | error e => rfl
  | ok first =>
    dsimp only
    split
    · rw [some, some, finish_placed count cursor a b]
    · cases (first.map (·.1)).or cursor with
      | none => rfl
      | some line => rfl
    · rfl

theorem finish_moved (finished : r.finish first text = .ok p) : p.moved = r.moved := by
  unfold finish at finished
  obtain ⟨last, -, checked⟩ := except_bind_eq_ok_iff.mp finished
  cases last with
  | none =>
    cases checked
    rfl
  | some last =>
    dsimp only at checked
    split at checked
    · contradiction
    · cases checked
      rfl

/-- What stands behind the first address is what the grammar leaves. -/
theorem endpoint_rest (reads : Address.ReadsOptional text address rest)
    (found : r.endpoint which text = .ok first) : first.elim text (·.2) = rest := by
  cases reads with
  | none absent =>
    rw [r.endpoint_of_none which (.none absent)] at found
    cases found
    rfl
  | some reads =>
    cases first with
    | none => exact (Address.resolve_ne_none reads _ _ (resolve_of_endpoint found)).elim
    | some place =>
      obtain ⟨line, behind⟩ := place
      obtain ⟨index, resolved, -⟩ := endpoint_eq_ok_some found
      obtain ⟨other, same⟩ := Address.rest_of_resolve reads resolved
      exact congrArg Address.Resolved.rest (Option.some.inj same)

theorem read_of_noOperator (found : r.endpoint .first text = .ok first)
    (plain : RangeForm.NoOperator (first.elim text (·.2))) :
    r.read text = (.ok (first.map fun (i, rest) => ⟨rest, ⟨i, i + 1⟩, none⟩), r) := by
  unfold read
  simp only [found]
  split
  · rename_i behind
    exact ((plain ',' (by rw [behind]; rfl)).1 rfl).elim
  · rename_i behind
    exact ((plain ';' (by rw [behind]; rfl)).2 rfl).elim
  · rfl

/-- A range reports what the reader keeps if it has an operator, and otherwise nothing. -/
theorem read_reported (reads : RangeForm.Reads text form rest)
    (parsed : (r.read text).1 = .ok (some p)) : p.moved = form.reported (r.read text).2.moved := by
  cases found : r.endpoint .first text with
  | error e => simp [read, found] at parsed
  | ok first =>
    have alone (plain : RangeForm.NoOperator (first.elim text (·.2))) : p.moved = none := by
      rw [read_of_noOperator found plain] at parsed
      obtain ⟨place, -, rfl⟩ := Option.map_eq_some_iff.mp (Except.ok.inj parsed)
      rfl
    cases reads with
    | absent skipped plain => exact alone ((endpoint_rest skipped found).symm ▸ plain)
    | line address front plain => exact alone ((endpoint_rest front found).symm ▸ plain)
    | @span middle rest operator address last front tail =>
      have behind := endpoint_rest front found
      rw [RangeForm.reported]
      unfold read at parsed ⊢
      simp only [found, behind] at parsed ⊢
      cases operator with
      | comma => exact finish_moved (finish_of_map parsed)
      | semicolon =>
        simp only [RangeOperator.sign] at parsed ⊢
        cases start : (first.map (·.1)).or r.cursor with
        | none => simp [start] at parsed
        | some line =>
          simp only [start] at parsed
          exact finish_moved (finish_of_map parsed)

/-! ### Many texts -/

/-- The reader behind some texts has its current line where the last move went. -/
theorem LastMove.behind (last : LastMove cursor count texts move) :
    (new cursor count).behind texts = ⟨count, move.or cursor, move⟩ := by
  induction last with
  | none => rfl
  | @moved before last text line _ moves ih =>
    have moves : Moves (⟨count, last.or cursor, last⟩ : RangeReader).cursor count text line := moves
    rw [behind_concat, ih, moves.read]
    rfl
  | @kept before last text _ still ih =>
    have still : ∀ line, ¬ Moves (⟨count, last.or cursor, last⟩ : RangeReader).cursor count text line :=
      still
    rw [behind_concat, ih, read_of_not_moves still]

theorem LastMove.unique (last : LastMove cursor count texts a) (other : LastMove cursor count texts b) :
    a = b :=
  congrArg RangeReader.moved (last.behind.symm.trans other.behind)

theorem exists_lastMove (cursor : Option Nat) (count : Nat) (texts : List (List Char)) :
    ∃ move, LastMove cursor count texts move := by
  induction texts using List.reverseRecOn with
  | nil => exact ⟨none, .none⟩
  | append_singleton before text ih =>
    obtain ⟨last, before⟩ := ih
    by_cases moves : ∃ line, Moves (last.or cursor) count text line
    · obtain ⟨line, moves⟩ := moves
      exact ⟨some line, .moved before moves⟩
    · exact ⟨last, .kept before (not_exists.mp moves)⟩

/-- Every move goes to a line of the document. -/
theorem LastMove.lt (last : LastMove cursor count texts move) (inside : ∀ i ∈ cursor, i < count) :
    ∀ line ∈ move, line < count := by
  induction last with
  | none => nofun
  | @moved before last text line _ moves ih =>
    have here : ∀ i ∈ last.or cursor, i < count := by
      intro i member
      rcases Option.or_eq_some_iff.mp member with old | ⟨-, start⟩
      · exact ih i old
      · exact inside i start
    intro i same
    cases same
    exact moves.lt here
  | kept _ _ ih => exact ih

end RangeReader

open RangeReader (LastMove)

/-- A reader that has read some texts reads the next one as a new reader of the document would, if the
current line were where the last `;` of those texts has moved it. Behind the text it keeps the last move,
which goes to a line of the document, and it has seen the same document all along. The range that it finds
reports this move if it has an operator. -/
theorem Buffer.readAll_fresh (b : Buffer) (valid : b.Valid) (texts : List (List Char)) (k : Nat)
    (next : texts[k]? = some text) :
    ∃ old new outcome,
      (∀ move, LastMove b.cursor b.count (texts.take k) move ↔ move = old) ∧
      (∀ move, LastMove b.cursor b.count (texts.take (k + 1)) move ↔ move = new) ∧
      ((RangeReader.new b.cursor b.count).readAll texts)[k]? =
        some (outcome, ⟨b.count, new.or b.cursor, new⟩) ∧
      outcome.map (Option.map ParsedRange.placed) =
        ({ b with cursor := old.or b.cursor }.range text).map (Option.map ParsedRange.placed) ∧
      (∀ line ∈ new, line < b.count) ∧
      ∀ form rest p, RangeForm.Reads text form rest → outcome = .ok (some p) →
        p.moved = form.reported new := by
  obtain ⟨old, before⟩ := RangeReader.exists_lastMove b.cursor b.count (texts.take k)
  obtain ⟨new, after⟩ := RangeReader.exists_lastMove b.cursor b.count (texts.take (k + 1))
  have read : (RangeReader.mk b.count (old.or b.cursor) old).read text =
      (((RangeReader.mk b.count (old.or b.cursor) old).read text).1, ⟨b.count, new.or b.cursor, new⟩) := by
    have behind := after.behind
    rw [List.take_add_one, next, Option.toList_some, RangeReader.behind_concat, before.behind] at behind
    exact Prod.ext rfl behind
  have run : ((RangeReader.new b.cursor b.count).readAll texts)[k]? =
      some ((RangeReader.mk b.count (old.or b.cursor) old).read text) := by
    rw [RangeReader.readAll_getElem?, next, before.behind]
    rfl
  refine ⟨old, new, _, fun move => ⟨fun other => other.unique before, fun same => same ▸ before⟩,
    fun move => ⟨fun other => other.unique after, fun same => same ▸ after⟩, run.trans (congrArg some read),
    RangeReader.read_placed b.count (old.or b.cursor) old none text, after.lt (b.cursor_lt valid), ?_⟩
  intro form rest p reads parsed
  have reported := RangeReader.read_reported reads parsed
  rwa [read] at reported

/-- A refused text has moved the current line for the next one. -/
theorem Buffer.readAll_fresh_refused :
    let b := Buffer.ofLines ["a", "b", "c", "d"]
    let texts := ["2;9".toList, ".,+1p".toList]
    b.Valid ∧ texts[1]? = some ".,+1p".toList ∧ LastMove b.cursor b.count (texts.take 1) (some 1) ∧
      ∃ outcome reader, ((RangeReader.new b.cursor b.count).readAll texts)[1]? = some (outcome, reader) ∧
        outcome.map (Option.map ParsedRange.placed) = .ok (some (['p'], ⟨1, 3⟩)) ∧
        reader = ⟨4, some 1, some 1⟩ := by
  intro b texts
  have valid : b.Valid := by decide
  have next : texts[1]? = some ".,+1p".toList := rfl
  obtain ⟨old, new, outcome, before, after, run, same, -⟩ := b.readAll_fresh valid texts 1 next
  have resolved : Address.resolve b.cursor b.count "2;9".toList =
      .ok (some ⟨';' :: ['9'], 1⟩) := by decide +kernel
  have first : LastMove b.cursor b.count ["2;9".toList] (some 1) :=
    .moved .none (.addressed resolved (by decide))
  have still : ∀ line, ¬ RangeReader.Moves (some 1) 4 ".,+1p".toList line := by
    intro line moves
    have unmoved : ((RangeReader.new (some 1) 4).read ".,+1p".toList).2.moved = none := by decide +kernel
    have moves : RangeReader.Moves (RangeReader.new (some 1) 4).cursor 4 ".,+1p".toList line := moves
    rw [moves.read] at unmoved
    contradiction
  obtain rfl : some 1 = old := (before _).mp first
  obtain rfl : some 1 = new := (after _).mp (.kept first still)
  exact ⟨valid, next, first, outcome, _, run, same.trans (by decide +kernel), rfl⟩

end LineEditor
