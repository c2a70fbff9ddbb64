import LineEditor.Proofs.Stored

/-! What a stored text is loaded as. It falls apart in one way, its lines and its terminator can be told from
the parts, and since the characters of terminators are single bytes, which no other character holds, it
does not matter whether characters or bytes are cut. -/
namespace LineEditor

namespace LineEnding

def rank : LineEnding → Nat
  | crlf => 0
  | lf => 1
  | cr => 2

/-- The terminator occurs most often of those found, or as often as others that have a later place. Where
none is found it is LF. -/
def Prevails (ending : LineEnding) (found : List LineEnding) : Prop :=
  if found = [] then ending = lf
  else ∀ other, found.count other < found.count ending ∨
    found.count other = found.count ending ∧ ending.rank ≤ other.rank

theorem rank_inj {a b : LineEnding} (same : a.rank = b.rank) : a = b := by
  revert same
  cases a <;> cases b <;> decide

theorem Prevails.unique {a b : LineEnding} (first : a.Prevails found) (second : b.Prevails found) : a = b := by
  unfold Prevails at first second
  split at first
  · rename_i none
    rw [if_pos none] at second
    exact first.trans second.symm
  · rename_i some
    rw [if_neg some] at second
    have ahead := first b
    have behind := second a
    exact rank_inj (by omega)

theorem exists_count (some : found ≠ []) : ∃ ending : LineEnding, 0 < found.count ending := by
  obtain ⟨ending, later, rfl⟩ := List.exists_cons_of_ne_nil some
  exact ⟨ending, List.count_pos_iff.mpr List.mem_cons_self⟩

theorem majority_prevails (found : List LineEnding) : (majority found).Prevails found := by
  by_cases none : found = []
  · subst none
    rfl
  · obtain ⟨ending, positive⟩ := exists_count none
    have occurs : 0 < found.count crlf ∨ 0 < found.count lf ∨ 0 < found.count cr := by
      cases ending with
      | lf => exact .inr (.inl positive)
      | crlf => exact .inl positive
      | cr => exact .inr (.inr positive)
    rw [Prevails, if_neg none]
    intro other
    unfold majority
    dsimp only
    split
    case isTrue most =>
      cases other with
      | crlf => exact .inr ⟨rfl, Nat.le_refl _⟩
      | lf | cr => simp only [rank]; omega
    case isFalse fewer =>
      split
      case isTrue most =>
        cases other with
        | lf => exact .inr ⟨rfl, Nat.le_refl _⟩
        | crlf | cr => simp only [rank]; omega
      case isFalse less =>
        cases other with
        | cr => exact .inr ⟨rfl, Nat.le_refl _⟩
        | crlf | lf => simp only [rank]; omega

theorem prevails_iff (found : List LineEnding) (ending : LineEnding) :
    ending.Prevails found ↔ majority found = ending := by
  constructor
  · exact (majority_prevails found).unique
  · rintro rfl
    exact majority_prevails found

theorem mixed_iff (found : List LineEnding) : mixed found = true ↔ ∃ a ∈ found, ∃ b ∈ found, a ≠ b := by
  simp only [mixed, List.any_eq_true, bne_iff_ne]
  constructor
  · rintro ⟨a, first, b, second, other⟩
    exact ⟨a, first, b, second, other.symm⟩
  · rintro ⟨a, first, b, second, other⟩
    exact ⟨a, first, b, second, other.symm⟩

end LineEnding

namespace Text

/-! ### Bytes -/

def bytes (text : List Char) : List UInt8 :=
  text.flatMap String.utf8EncodeChar

def UnbrokenBytes (line : List UInt8) : Prop := ∀ b ∈ line, b ≠ 10 ∧ b ≠ 13

/-- Bytes consist of lines with their terminators and a tail. A CR ends a line alone only if no LF follows. -/
inductive ApartBytes : List UInt8 → List (List UInt8 × LineEnding) → List UInt8 → Prop where
  | last : UnbrokenBytes tail → ApartBytes tail [] tail
  | line : UnbrokenBytes line → (ending = .cr → rest.head? ≠ some 10) → ApartBytes rest parts tail →
      ApartBytes (line ++ bytes ending.chars ++ rest) ((line, ending) :: parts) tail

theorem bytes_toList (text : String) : text.toUTF8.data.toList = bytes text.toList := by
  have whole : text.toUTF8 = (bytes text.toList).toByteArray := by
    rw [bytes, ← List.utf8Encode, ← String.toByteArray_ofList, String.ofList_toList,
      String.toUTF8_eq_toByteArray]
  rw [whole, List.data_toByteArray]

theorem bytes_append (front back : List Char) : bytes (front ++ back) = bytes front ++ bytes back :=
  List.flatMap_append

theorem toNat_ofUInt8 (b : UInt8) : (Char.ofUInt8 b).toNat = b.toNat :=
  b.toNat_toUInt32

/-- A byte of seven bits stands for a character alone: all bytes of one that takes more have the eighth bit
set. -/
theorem eq_ofUInt8_of_mem {c : Char} {b : UInt8} (member : b ∈ String.utf8EncodeChar c)
    (small : b.toNat < 128) : c = Char.ofUInt8 b := by
  have encoded : String.utf8EncodeChar c =
      (let v := c.val.toNat
      if v ≤ 0x7f then [UInt8.ofNat v]
      else if v ≤ 0x7ff then [UInt8.ofNat (v / 64 % 32 + 192), UInt8.ofNat (v % 64 + 128)]
      else if v ≤ 0xffff then
        [UInt8.ofNat (v / 4096 % 16 + 224), UInt8.ofNat (v / 64 % 64 + 128), UInt8.ofNat (v % 64 + 128)]
      else [UInt8.ofNat (v / 262144 % 8 + 240), UInt8.ofNat (v / 4096 % 64 + 128),
        UInt8.ofNat (v / 64 % 64 + 128), UInt8.ofNat (v % 64 + 128)]) := rfl
  rw [encoded] at member
  dsimp only at member
  have beyond {n : Nat} (least : 128 ≤ n) (most : n < 256) (same : b = UInt8.ofNat n) : False := by
    rw [same, UInt8.toNat_ofNat'] at small
    omega
  split at member
  case isTrue one =>
    obtain rfl := List.mem_singleton.mp member
    rw [← Char.toNat_inj, toNat_ofUInt8, UInt8.toNat_ofNat']
    exact (Nat.mod_eq_of_lt (Nat.lt_of_le_of_lt one (by decide))).symm
  case isFalse =>
    exfalso
    split at member
    case isTrue two =>
      simp only [List.mem_cons, List.not_mem_nil, or_false] at member
      rcases member with same | same <;> exact beyond (by omega) (by omega) same
    case isFalse =>
      split at member
      case isTrue three =>
        simp only [List.mem_cons, List.not_mem_nil, or_false] at member
        rcases member with same | same | same <;> exact beyond (by omega) (by omega) same
      case isFalse four =>
        simp only [List.mem_cons, List.not_mem_nil, or_false] at member
        rcases member with same | same | same | same <;> exact beyond (by omega) (by omega) same

/-- A byte of a terminator is no part of another character. -/
theorem Unbroken.bytes (unbroken : Unbroken line) : UnbrokenBytes (bytes line) := by
  intro b member
  obtain ⟨c, inside, part⟩ := List.mem_flatMap.mp member
  obtain ⟨feed, ret⟩ := unbroken c inside
  constructor
  · rintro rfl
    exact feed (eq_ofUInt8_of_mem part (by decide))
  · rintro rfl
    exact ret (eq_ofUInt8_of_mem part (by decide))

theorem head?_bytes (alone : rest.head? ≠ some '\n') : (bytes rest).head? ≠ some 10 := by
  cases rest with
  | nil => nofun
  | cons c rest =>
    intro feed
    rw [bytes, List.flatMap_cons, List.head?_append_of_ne_nil _ String.utf8EncodeChar_ne_nil] at feed
    have first := List.mem_of_head? feed
    exact alone (congrArg some (eq_ofUInt8_of_mem first (by decide)))

theorem Apart.bytes (apart : Apart text parts tail) :
    ApartBytes (bytes text) (parts.map fun part => (bytes part.1, part.2)) (bytes tail) := by
  induction apart with
  | last unbroken => exact .last unbroken.bytes
  | line unbroken alone _ ih =>
    rw [bytes_append, bytes_append]
    exact .line unbroken.bytes (fun cr => head?_bytes (alone cr)) ih

theorem ofUInt8_injective : Function.Injective Char.ofUInt8 := by
  intro a b same
  rw [← UInt8.toNat_inj, ← toNat_ofUInt8 a, ← toNat_ofUInt8 b, same]

theorem UnbrokenBytes.ofUInt8 (unbroken : UnbrokenBytes line) : Unbroken (line.map Char.ofUInt8) := by
  intro c member
  obtain ⟨b, inside, rfl⟩ := List.mem_map.mp member
  obtain ⟨feed, ret⟩ := unbroken b inside
  exact ⟨fun same => feed (ofUInt8_injective same), fun same => ret (ofUInt8_injective same)⟩

/-- Bytes that are read as one character each fall apart where they did. -/
theorem ApartBytes.ofUInt8 (apart : ApartBytes text parts tail) :
    Apart (text.map Char.ofUInt8) (parts.map fun part => (part.1.map Char.ofUInt8, part.2))
      (tail.map Char.ofUInt8) := by
  induction apart with
  | last unbroken => exact .last unbroken.ofUInt8
  | @line line ending rest parts tail unbroken alone _ ih =>
    have ended : (Text.bytes ending.chars).map Char.ofUInt8 = ending.chars := by
      cases ending <;> decide
    rw [List.map_append, List.map_append, ended]
    refine .line unbroken.ofUInt8 (fun cr feed => ?_) ih
    rw [List.head?_map, Option.map_eq_some_iff] at feed
    obtain ⟨b, first, same⟩ := feed
    obtain rfl : b = 10 := ofUInt8_injective same
    exact alone cr first

theorem ApartBytes.unique (apart : ApartBytes text parts tail) (other : ApartBytes text parts' tail') :
    parts = parts' ∧ tail = tail' := by
  obtain ⟨sameParts, sameTail⟩ := apart.ofUInt8.unique other.ofUInt8
  have injective := List.map_injective_iff.mpr ofUInt8_injective
  refine ⟨List.map_injective_iff.mpr ?_ sameParts, injective sameTail⟩
  rintro ⟨a, own⟩ ⟨b, other⟩ same
  obtain ⟨lines, endings⟩ := Prod.mk.inj same
  exact Prod.ext (injective lines) endings

/-- Cutting the bytes of a text is cutting its characters. -/
theorem Apart.bytes_iff (apart : Apart text parts tail) :
    ApartBytes (Text.bytes text) cuts rest ↔
      cuts = parts.map (fun part => (Text.bytes part.1, part.2)) ∧ rest = Text.bytes tail := by
  constructor
  · exact fun cut => cut.unique apart.bytes
  · rintro ⟨rfl, rfl⟩
    exact apart.bytes

/-- Loading cuts a text at its terminators, in the one way there is. The lines are the parts without their
terminators, with the tail if it is not empty. The terminator of the document prevails among those found,
and they are mixed if two of them differ. Where the bytes of the text are cut is where its characters are. -/
theorem loaded_exact (text : String) :
    ∃ parts tail, (∀ parts' tail', Apart text.toList parts' tail' ↔ parts' = parts ∧ tail' = tail) ∧
      (Loaded.ofText text).lines =
        parts.map (fun part => String.ofList part.1) ++ (if tail = [] then [] else [String.ofList tail]) ∧
      (∀ ending : LineEnding, ending.Prevails (parts.map (·.2)) ↔ (Loaded.ofText text).ending = ending) ∧
      ((Loaded.ofText text).mixed = true ↔ ∃ a ∈ parts, ∃ b ∈ parts, a.2 ≠ b.2) ∧
      ∀ cuts rest, ApartBytes text.toUTF8.data.toList cuts rest ↔
        cuts = parts.map (fun part => (bytes part.1, part.2)) ∧ rest = bytes tail := by
  obtain ⟨parts, tail, apart⟩ := exists_apart text.toList
  have loaded : Loaded.ofText text = _ := apart.loaded
  refine ⟨parts, tail, fun parts' tail' => ?_, ?_, fun ending => ?_, ?_, fun cuts rest => ?_⟩
  · constructor
    · exact fun other => other.unique apart
    · rintro ⟨rfl, rfl⟩
      exact apart
  · rw [loaded, partLines, List.map_append, List.map_map]
    cases tail <;> rfl
  · rw [loaded]
    exact LineEnding.prevails_iff _ ending
  · rw [loaded, LineEnding.mixed_iff]
    simp only [List.mem_map, exists_exists_and_eq_and]
  · rw [bytes_toList]
    exact apart.bytes_iff

end Text
end LineEditor
