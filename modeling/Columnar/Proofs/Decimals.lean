/-
This file proves that the reader of integers accepts the signed decimals within its bounds and
nothing else, and says which fault it reports of any other text. Each digit that is read makes the
number larger or leaves it as it is, so a run of digits that has left the bounds never comes back,
and it is out of bounds at some digit if and only if the whole run denotes a number out of bounds.
The reader therefore answers as if it looked at the first whole run of digits, compared its number
with the bounds, and only then asked what follows the run. A minus sign mirrors all of this: reading
downward is reading upward between the negatives of the bounds.
-/

import Columnar.Numeral.Integer
import Mathlib.Data.List.TakeWhile

namespace Columnar.Numeral

variable {bounds : Bounds} {characters digits rest : List Char} {number : Int}

/-! ### Decimals -/

/-- The text is an optional sign followed by one or more digits, which denote the number. -/
inductive IsDecimal : List Char → Int → Prop
  | unsigned {digits : List Char} (nonempty : digits ≠ [])
    (areDigits : ∀ character ∈ digits, character.isDigit = true) :
    IsDecimal digits (Nat.ofDigitChars 10 digits 0 : Nat)
  | positive {digits : List Char} (nonempty : digits ≠ [])
    (areDigits : ∀ character ∈ digits, character.isDigit = true) :
    IsDecimal ('+' :: digits) (Nat.ofDigitChars 10 digits 0 : Nat)
  | negative {digits : List Char} (nonempty : digits ≠ [])
    (areDigits : ∀ character ∈ digits, character.isDigit = true) :
    IsDecimal ('-' :: digits) (-(Nat.ofDigitChars 10 digits 0 : Nat))

/-- The characters of a decimal are digits and signs. -/
theorem IsDecimal.digit_or_sign (decimal : IsDecimal characters number) :
    ∀ character ∈ characters,
      character.isDigit = true ∨ character = '+' ∨ character = '-' := by
  cases decimal with
  | unsigned _ areDigits => exact fun character member => Or.inl (areDigits character member)
  | positive _ areDigits =>
    refine List.forall_mem_cons.mpr ⟨Or.inr (Or.inl rfl), ?_⟩
    exact fun character member => Or.inl (areDigits character member)
  | negative _ areDigits =>
    refine List.forall_mem_cons.mpr ⟨Or.inr (Or.inr rfl), ?_⟩
    exact fun character member => Or.inl (areDigits character member)

/-- The bounds include the number. -/
def Bounds.Include (bounds : Bounds) (number : Int) : Prop :=
  bounds.least ≤ number ∧ number ≤ bounds.greatest

/-- What follows the sign, if the text begins with one. -/
def afterSign : List Char → List Char
  | '+' :: rest => rest
  | '-' :: rest => rest
  | characters => characters

/-- The number that the first whole run of digits denotes, with the sign before it. -/
def leadingNumber (characters : List Char) : Int :=
  let magnitude := Nat.ofDigitChars 10 ((afterSign characters).takeWhile Char.isDigit) 0
  if characters.head? = some '-' then -magnitude else magnitude

/-- The fault of a text that is no decimal within the bounds: it has no characters, or its first run
of digits denotes a number on one side of the bounds, or neither. -/
def refusal (bounds : Bounds) (characters : List Char) : IntegerError :=
  if characters = [] then .empty
  else if bounds.greatest < leadingNumber characters then .tooLarge
  else if leadingNumber characters < bounds.least then .tooSmall
  else .invalidDigit

/-- The text after the sign is made of digits, and there is at least one. -/
def isWhole (characters : List Char) : Bool :=
  !(afterSign characters).isEmpty && (afterSign characters).all Char.isDigit

theorem isWhole_iff : isWhole characters = true ↔
    afterSign characters ≠ [] ∧ ∀ character ∈ afterSign characters, character.isDigit = true := by
  rw [isWhole, Bool.and_eq_true, Bool.not_eq_true', List.isEmpty_eq_false_iff, List.all_eq_true]

/-- The text does not begin with a sign. -/
def Unsigned (characters : List Char) : Prop :=
  characters.head? ≠ some '+' ∧ characters.head? ≠ some '-'

/-- A text begins with one of the two signs, or with none. -/
theorem sign_cases (characters : List Char) :
    (∃ rest, characters = '+' :: rest) ∨ (∃ rest, characters = '-' :: rest) ∨
      Unsigned characters := by
  by_cases isPlus : characters.head? = some '+'
  · exact Or.inl (List.head?_eq_some_iff.mp isPlus)
  · by_cases isMinus : characters.head? = some '-'
    · exact Or.inr (Or.inl (List.head?_eq_some_iff.mp isMinus))
    · exact Or.inr (Or.inr ⟨isPlus, isMinus⟩)

theorem afterSign_of_unsigned (noSign : Unsigned characters) :
    afterSign characters = characters := by
  unfold afterSign
  split
  · exact absurd rfl noSign.1
  · exact absurd rfl noSign.2
  · rfl

theorem readInteger_of_unsigned (noSign : Unsigned characters) (nonempty : characters ≠ []) :
    readInteger bounds characters = readUp bounds 0 characters := by
  unfold readInteger
  split
  · exact absurd rfl nonempty
  · exact absurd rfl noSign.1
  · exact absurd rfl noSign.2
  · exact absurd rfl noSign.1
  · exact absurd rfl noSign.2
  · rfl

/-- Digits have no sign before them. -/
theorem unsigned_of_areDigits (areDigits : ∀ character ∈ digits, character.isDigit = true) :
    Unsigned digits := by
  constructor
  · intro isPlus
    obtain ⟨rest, rfl⟩ := List.head?_eq_some_iff.mp isPlus
    cases areDigits '+' List.mem_cons_self
  · intro isMinus
    obtain ⟨rest, rfl⟩ := List.head?_eq_some_iff.mp isMinus
    cases areDigits '-' List.mem_cons_self

/-- The decimals are the texts with nothing but digits after the sign, and such a text denotes the
number of its first run. -/
theorem isDecimal_iff :
    IsDecimal characters number ↔
      isWhole characters = true ∧ number = leadingNumber characters := by
  rw [isWhole_iff]
  constructor
  · intro decimal
    cases decimal with
    | unsigned nonempty areDigits =>
      have noSign := unsigned_of_areDigits areDigits
      rw [leadingNumber, afterSign_of_unsigned noSign, if_neg noSign.2,
        List.takeWhile_eq_self_iff.mpr areDigits]
      exact ⟨⟨nonempty, areDigits⟩, rfl⟩
    | positive nonempty areDigits =>
      refine ⟨⟨nonempty, areDigits⟩, ?_⟩
      rw [leadingNumber, afterSign, List.takeWhile_eq_self_iff.mpr areDigits]
      rfl
    | negative nonempty areDigits =>
      refine ⟨⟨nonempty, areDigits⟩, ?_⟩
      rw [leadingNumber, afterSign, List.takeWhile_eq_self_iff.mpr areDigits]
      rfl
  · rintro ⟨⟨nonempty, areDigits⟩, rfl⟩
    rw [leadingNumber, List.takeWhile_eq_self_iff.mpr areDigits]
    rcases sign_cases characters with ⟨rest, rfl⟩ | ⟨rest, rfl⟩ | noSign
    · exact .positive nonempty areDigits
    · exact .negative nonempty areDigits
    · rw [afterSign_of_unsigned noSign] at nonempty areDigits ⊢
      rw [if_neg noSign.2]
      exact .unsigned nonempty areDigits

/-! ### Runs of digits -/

/-- What a text that is not empty is read as, told from the number of its first run. -/
def outcome (bounds : Bounds) (whole : Bool) (leading : Int) : Except IntegerError Int :=
  if bounds.greatest < leading then .error .tooLarge
  else if leading < bounds.least then .error .tooSmall
  else if whole then .ok leading
  else .error .invalidDigit

theorem outcome_of_include {whole : Bool} (included : bounds.Include number) :
    outcome bounds whole number = if whole then .ok number else .error .invalidDigit := by
  rw [outcome, if_neg (Int.not_lt.mpr included.2), if_neg (Int.not_lt.mpr included.1)]

theorem outcome_eq_ok_iff {whole : Bool} {leading : Int} :
    outcome bounds whole leading = .ok number ↔
      (whole = true ∧ number = leading) ∧ bounds.Include number := by
  by_cases included : bounds.Include leading
  · rw [outcome_of_include included]
    cases whole with
    | false => exact ⟨nofun, fun ⟨⟨whole, _⟩, _⟩ => nomatch whole⟩
    | true =>
      rw [if_pos rfl, Except.ok.injEq]
      exact ⟨fun same => ⟨⟨rfl, same.symm⟩, same ▸ included⟩, fun ⟨⟨_, same⟩, _⟩ => same.symm⟩
  · refine ⟨fun answers => ?_, fun ⟨⟨_, same⟩, inside⟩ => absurd (same ▸ inside) included⟩
    unfold outcome at answers
    split at answers
    · cases answers
    · next notAbove =>
      split at answers
      · cases answers
      · next notBelow =>
        exact absurd ⟨Int.not_lt.mp notBelow, Int.not_lt.mp notAbove⟩ included

/-- Reading more digits never makes the number smaller. -/
theorem le_ofDigitChars (digits : List Char) (total : Nat) :
    total ≤ Nat.ofDigitChars 10 digits total := by
  induction digits generalizing total with
  | nil => exact Nat.le_of_eq Nat.ofDigitChars_nil.symm
  | cons head rest inductionHypothesis =>
    rw [Nat.ofDigitChars_cons]
    exact Nat.le_trans (by omega) (inductionHypothesis _)

theorem digit?_of_isDigit {character : Char} (isDigit : character.isDigit = true) :
    digit? character = some (character.toNat - '0'.toNat) :=
  if_pos isDigit

/-- Reading upward answers by the number of the first run of digits. -/
theorem readUp_eq {total : Nat} (included : bounds.Include total) :
    readUp bounds total characters =
      outcome bounds (characters.all Char.isDigit)
        (Nat.ofDigitChars 10 (characters.takeWhile Char.isDigit) total : Nat) := by
  induction characters generalizing total with
  | nil =>
    rw [readUp, List.takeWhile_nil, Nat.ofDigitChars_nil, outcome_of_include included]
    rfl
  | cons head rest inductionHypothesis =>
    rw [readUp]
    by_cases isDigit : head.isDigit = true
    · have next : 10 * (total : Int) + (head.toNat - '0'.toNat : Nat) =
          (10 * total + (head.toNat - '0'.toNat) : Nat) := by omega
      simp only [digit?_of_isDigit isDigit, next, List.all_cons, isDigit, Bool.true_and,
        List.takeWhile_cons_of_pos, Nat.ofDigitChars_cons]
      split
      · next inside => exact inductionHypothesis ⟨Int.le_trans included.1 (by omega), inside⟩
      · next outside =>
        have grows := le_ofDigitChars (rest.takeWhile Char.isDigit)
          (10 * total + (head.toNat - '0'.toNat))
        rw [outcome, if_pos (by omega)]
    · rw [digit?, if_neg isDigit, List.all_cons, Bool.eq_false_iff.mpr isDigit,
        List.takeWhile_cons_of_neg isDigit, Nat.ofDigitChars_nil, outcome_of_include included]
      rfl

/-! ### Reading downward -/

/-- The negatives of the bounds. -/
def Bounds.mirrored (bounds : Bounds) : Bounds :=
  ⟨-bounds.greatest, -bounds.least⟩

/-- An answer seen from the other side of zero. -/
def mirror : Except IntegerError Int → Except IntegerError Int
  | .ok number => .ok (-number)
  | .error .tooLarge => .error .tooSmall
  | .error .tooSmall => .error .tooLarge
  | .error cause => .error cause

theorem mirror_outcome (ordered : bounds.least ≤ bounds.greatest) (whole : Bool) (leading : Int) :
    mirror (outcome bounds.mirrored whole leading) = outcome bounds whole (-leading) := by
  unfold outcome Bounds.mirrored
  dsimp only
  by_cases above : -bounds.least < leading
  · have belowNow : -leading < bounds.least := by omega
    have notAboveNow : ¬ bounds.greatest < -leading := by omega
    rw [if_pos above, if_neg notAboveNow, if_pos belowNow]
    rfl
  · have notBelowNow : ¬ -leading < bounds.least := by omega
    rw [if_neg above, if_neg notBelowNow]
    by_cases below : leading < -bounds.greatest
    · have aboveNow : bounds.greatest < -leading := by omega
      rw [if_pos below, if_pos aboveNow]
      rfl
    · have notAboveNow : ¬ bounds.greatest < -leading := by omega
      rw [if_neg below, if_neg notAboveNow]
      cases whole <;> rfl

/-- Reading downward is reading upward on the other side of zero. -/
theorem readDown_eq_mirror (total : Int) :
    readDown bounds (-total) characters = mirror (readUp bounds.mirrored total characters) := by
  induction characters generalizing total with
  | nil => rfl
  | cons head rest inductionHypothesis =>
    rw [readDown, readUp]
    cases digit? head with
    | none => rfl
    | some digit =>
      have step : 10 * -total - digit = -(10 * total + digit) := by omega
      have same : bounds.least ≤ -(10 * total + digit) ↔
          10 * total + digit ≤ bounds.mirrored.greatest := Int.le_neg_iff
      simp only [step, same, inductionHypothesis]
      split <;> rfl

/-! ### Whole texts -/

/-- A text that is not empty is read by the number of its first run of digits. -/
theorem readInteger_eq_outcome (zero : bounds.Include 0) (nonempty : characters ≠ []) :
    readInteger bounds characters =
      outcome bounds (isWhole characters) (leadingNumber characters) := by
  rcases sign_cases characters with ⟨rest, rfl⟩ | ⟨rest, rfl⟩ | noSign
  · cases rest with
    | nil => exact (@outcome_of_include bounds 0 false zero).symm
    | cons head rest => exact readUp_eq zero
  · cases rest with
    | nil => exact (@outcome_of_include bounds 0 false zero).symm
    | cons head rest =>
      have ordered : bounds.least ≤ bounds.greatest := Int.le_trans zero.1 zero.2
      have mirroredZero : bounds.mirrored.Include (0 : Nat) :=
        ⟨Int.neg_nonpos_of_nonneg zero.2, Int.neg_nonneg_of_nonpos zero.1⟩
      calc readInteger bounds ('-' :: head :: rest)
          = mirror (readUp bounds.mirrored 0 (head :: rest)) := readDown_eq_mirror 0
        _ = mirror (outcome bounds.mirrored ((head :: rest).all Char.isDigit)
              (Nat.ofDigitChars 10 ((head :: rest).takeWhile Char.isDigit) 0 : Nat)) :=
            congrArg mirror (readUp_eq mirroredZero)
        _ = outcome bounds (isWhole ('-' :: head :: rest)) (leadingNumber ('-' :: head :: rest)) :=
            mirror_outcome ordered _ _
  · rw [readInteger_of_unsigned noSign nonempty, leadingNumber, if_neg noSign.2, isWhole,
      afterSign_of_unsigned noSign, List.isEmpty_eq_false_iff.mpr nonempty]
    exact readUp_eq zero

/-- A text reads as a number exactly if it is a decimal of the number and the bounds include it. -/
theorem readInteger_eq_ok_iff (zero : bounds.Include 0) :
    readInteger bounds characters = .ok number ↔
      IsDecimal characters number ∧ bounds.Include number := by
  rw [isDecimal_iff]
  by_cases empty : characters = []
  · subst empty
    exact ⟨nofun, fun ⟨⟨whole, _⟩, _⟩ => nomatch whole⟩
  · rw [readInteger_eq_outcome zero empty, outcome_eq_ok_iff]

/-- A text that is no decimal within the bounds is refused for its first fault. -/
theorem readInteger_eq_refusal (zero : bounds.Include 0)
    (refused : ∀ number, IsDecimal characters number → ¬ bounds.Include number) :
    readInteger bounds characters = .error (refusal bounds characters) := by
  unfold refusal
  split
  · next empty =>
    rw [empty]
    rfl
  · next nonempty =>
    rw [readInteger_eq_outcome zero nonempty, outcome]
    split
    · rfl
    · next notAbove =>
      split
      · rfl
      · next notBelow =>
        have included : bounds.Include (leadingNumber characters) :=
          ⟨Int.not_lt.mp notBelow, Int.not_lt.mp notAbove⟩
        exact if_neg fun whole => refused _ (isDecimal_iff.mpr ⟨whole, rfl⟩) included

/-! ### Words -/

theorem include_toInt_word32 (word : Int32) : Bounds.word32.Include word.toInt :=
  ⟨Int32.le_toInt word, Int.le_of_lt_add_one (Int32.toInt_lt word)⟩

theorem include_toInt_word64 (word : Int64) : Bounds.word64.Include word.toInt :=
  ⟨Int64.le_toInt word, Int.le_of_lt_add_one (Int64.toInt_lt word)⟩

theorem include_zero_word32 : Bounds.word32.Include 0 :=
  include_toInt_word32 0

theorem include_zero_word64 : Bounds.word64.Include 0 :=
  include_toInt_word64 0

/-- A text reads as a word of 32 bits exactly if it is a decimal of what the word holds. -/
theorem readInt32_eq_ok_iff {word : Int32} :
    readInt32 characters = .ok word ↔ IsDecimal characters word.toInt := by
  unfold readInt32
  constructor
  · intro read
    cases denotes : readInteger .word32 characters with
    | error cause =>
      rw [denotes] at read
      cases read
    | ok number =>
      rw [denotes] at read
      cases read
      obtain ⟨decimal, above, below⟩ := (readInteger_eq_ok_iff include_zero_word32).mp denotes
      rw [Int32.toInt_ofInt_of_le above (Int.lt_add_one_of_le below)]
      exact decimal
  · intro decimal
    have denotes := (readInteger_eq_ok_iff include_zero_word32).mpr
      ⟨decimal, include_toInt_word32 word⟩
    rw [denotes, Except.map, Int32.ofInt_toInt]

end Columnar.Numeral
