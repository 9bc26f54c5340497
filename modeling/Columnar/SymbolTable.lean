/-
This file holds symbol tables: one-to-one matches between the codes from zero up to below a size
and distinct texts. A dictionary keeps both directions, a list in which a code finds its text and a
map in which a text finds its code. One loop fills the map from the list: it enters each text under
its position, in place of whatever code the text had, and stops at the first one that had a code.
What the map holds at any point of the loop are the texts so far and their positions, and a
dictionary carries this of the whole list. The other table is that of the partition schemes, which
is fixed and found by name whatever the case of the letters. Looking up a text that a table does not
have gives the code of NULL, and looking up that code gives no text.
-/

import Columnar.Fault
import Columnar.Partition

namespace Columnar

/-- Why texts do not make a dictionary. -/
inductive DictionaryError
  /-- The text has occurred before; the code is the one it would have had. -/
  | duplicate (text : String) (code : Nat)
  /-- There are more texts than codes. -/
  | tooMany (size : Nat)
deriving DecidableEq, Repr

/-- The report of a dictionary that cannot be built. -/
def DictionaryError.message : DictionaryError → String
  | .duplicate text code => "Duplicate symbol value: '" ++ text ++ "' at code " ++ toString code
  | .tooMany size => "Symbol table too large: " ++ toString size ++ " values"

/-- The count of codes that are not negative. -/
def Dictionary.maxSize : Nat := 0x80000000

/-! ### Maps of codes -/

/-- The codes that texts are entered under. -/
@[ext]
structure CodeMap where
  /-- The code of a text. -/
  find? : String → Option Int32

namespace CodeMap

variable {codes other filled : CodeMap} {earlier rest texts : List String} {text : String}
  {code : Int32} {position : Nat}

/-- No text is entered. -/
def empty : CodeMap where
  find? _ := none

/-- Enter a text under a code. The code that it had before is replaced and given back. -/
def insert (codes : CodeMap) (text : String) (code : Int32) : Option Int32 × CodeMap :=
  (codes.find? text, ⟨fun other => if other = text then some code else codes.find? other⟩)

theorem find?_insert_self (codes : CodeMap) (text : String) (code : Int32) :
    (codes.insert text code).2.find? text = some code := by
  unfold insert
  exact if_pos rfl

theorem find?_insert_other (codes : CodeMap) {text other : String} (code : Int32)
    (differs : other ≠ text) : (codes.insert text code).2.find? other = codes.find? other := by
  unfold insert
  exact if_neg differs

/-- Enter the texts of a list under the positions from the given one on. A text that is entered
already is an error. -/
def fill (codes : CodeMap) (position : Nat) : List String → Except DictionaryError CodeMap
  | [] => .ok codes
  | text :: rest =>
    let (previous, entered) := codes.insert text (Int32.ofNat position)
    if previous.isSome then .error (.duplicate text position)
    else fill entered (position + 1) rest

theorem fill_cons_of_known (known : codes.find? text = some code) :
    codes.fill position (text :: rest) = .error (.duplicate text position) := by
  show (if (codes.find? text).isSome then _ else _) = _
  rw [known]
  rfl

theorem fill_cons_of_fresh (fresh : codes.find? text = none) :
    codes.fill position (text :: rest) =
      (codes.insert text (Int32.ofNat position)).2.fill (position + 1) rest := by
  show (if (codes.find? text).isSome then _ else _) = _
  rw [fresh]
  rfl

/-- The texts of the list are entered, each under its positions, and no other text is. -/
def Numbers (codes : CodeMap) (texts : List String) : Prop :=
  ∀ text code, codes.find? text = some code ↔
    ∃ index, texts[index]? = some text ∧ code = Int32.ofNat index

theorem numbers_empty : empty.Numbers [] := by
  intro text code
  constructor
  · nofun
  · rintro ⟨index, stands, -⟩
    cases stands

/-- A list is numbered by no other map. -/
theorem Numbers.unique (numbers : codes.Numbers texts) (numbersToo : other.Numbers texts) :
    codes = other := by
  ext text code
  exact (numbers text code).trans (numbersToo text code).symm

theorem Numbers.find?_eq_none_iff (numbers : codes.Numbers texts) :
    codes.find? text = none ↔ text ∉ texts := by
  rw [Option.eq_none_iff_forall_ne_some, List.mem_iff_getElem?]
  constructor
  · rintro unknown ⟨index, stands⟩
    exact unknown _ ((numbers text _).mpr ⟨index, stands, rfl⟩)
  · intro absent code known
    obtain ⟨index, stands, -⟩ := (numbers text code).mp known
    exact absent ⟨index, stands⟩

/-- A text stands in a list with one more text at its end where it has stood before, or it is the
last one. -/
theorem getElem?_concat_eq_some_iff {index : Nat} {last : String} :
    (earlier ++ [last])[index]? = some text ↔
      earlier[index]? = some text ∨ index = earlier.length ∧ last = text := by
  grind

/-- A step of the loop: what numbers the texts so far numbers them with one more at their end, once
this one is entered under their count. -/
theorem Numbers.insert (numbers : codes.Numbers earlier) (fresh : codes.find? text = none) :
    (codes.insert text (Int32.ofNat earlier.length)).2.Numbers (earlier ++ [text]) := by
  intro other code
  simp only [getElem?_concat_eq_some_iff, or_and_right, exists_or]
  rw [← numbers other code]
  by_cases same : other = text
  · subst same
    rw [find?_insert_self, fresh]
    constructor
    · intro entered
      cases entered
      exact Or.inr ⟨_, ⟨rfl, rfl⟩, rfl⟩
    · rintro (before | ⟨_, ⟨rfl, -⟩, rfl⟩)
      · cases before
      · rfl
  · rw [find?_insert_other codes _ same]
    exact (or_iff_left fun ⟨_, ⟨_, isLast⟩, _⟩ => same isLast.symm).symm

/-- The run of the loop: from a map that numbers the texts so far it comes to one that numbers the
whole list. -/
theorem Numbers.of_fill (numbers : codes.Numbers earlier)
    (fills : codes.fill earlier.length rest = .ok filled) : filled.Numbers (earlier ++ rest) := by
  induction rest generalizing codes earlier with
  | nil =>
    cases fills
    rw [List.append_nil]
    exact numbers
  | cons text rest inductionHypothesis =>
    cases found : codes.find? text with
    | some code =>
      rw [fill_cons_of_known found] at fills
      cases fills
    | none =>
      rw [fill_cons_of_fresh found] at fills
      have numbered := inductionHypothesis (numbers.insert found) (by rwa [List.length_append])
      rw [List.append_assoc, List.singleton_append] at numbered
      exact numbered

end CodeMap

/-! ### Dictionaries -/

/-- Texts whose positions are their codes. -/
structure Dictionary where
  /-- The texts in the order of their codes. -/
  texts : List String
  /-- The codes that the texts are entered under. -/
  codes : CodeMap
  numbered : codes.Numbers texts
  size_lt : texts.length < Dictionary.maxSize

namespace Dictionary

/-- Dictionaries of the same texts are the same. -/
theorem eq_iff {entries other : Dictionary} : entries = other ↔ entries.texts = other.texts := by
  refine ⟨congrArg texts, fun same => ?_⟩
  obtain ⟨texts, codes, numbered, small⟩ := entries
  obtain ⟨otherTexts, otherCodes, otherNumbered, otherSmall⟩ := other
  obtain rfl : texts = otherTexts := same
  obtain rfl := numbered.unique otherNumbered
  rfl

instance : DecidableEq Dictionary := fun _ _ => decidable_of_iff _ eq_iff.symm

/-- The dictionary of a list of texts. -/
def ofList (texts : List String) : Except DictionaryError Dictionary :=
  if small : texts.length < maxSize then
    match fills : CodeMap.empty.fill 0 texts with
    | .ok codes => .ok ⟨texts, codes, CodeMap.numbers_empty.of_fill fills, small⟩
    | .error error => .error error
  else .error (.tooMany texts.length)

end Dictionary

/-- A symbol table. -/
inductive SymbolTable
  /-- The table of the partition schemes. -/
  | schemes
  /-- The table of a dictionary. -/
  | dictionary (entries : Dictionary)
deriving DecidableEq

namespace SymbolTable

/-- The texts of a table in the order of their codes. -/
def texts : SymbolTable → List String
  | .schemes => Scheme.all.map Scheme.name
  | .dictionary entries => entries.texts

/-- The count of codes. -/
def size (table : SymbolTable) : Nat :=
  table.texts.length

/-- The code of a text, or that of NULL. -/
def code : SymbolTable → String → Int32
  | .schemes, text =>
    match Scheme.ofName? text with
    | some scheme => scheme.code
    | none => Null.code
  | .dictionary entries, text =>
    (entries.codes.find? text).getD Null.code

/-- The text of a code; NULL has none. -/
def text (table : SymbolTable) (code : Int32) : Except Fault (Option String) :=
  if code = Null.code then .ok none
  else if code < 0 then .error (.unknownCode code table.size)
  else
    match table.texts[code.toNatClampNeg]? with
    | some text => .ok (some text)
    | none => .error (.unknownCode code table.size)

end SymbolTable

end Columnar
