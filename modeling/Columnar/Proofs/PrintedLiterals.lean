/-
This file proves that what is printed for a value reads back as the value. A printed number is a
decimal of it, a decimal has no blanks in it, and a string that was read has none at its ends, so
blanks around the printed text change nothing. The word for NULL prints no other value: a string
that is this word in any case of its letters was never read, for the word itself was, and the least
number of a type was read as NULL too.
-/

import Columnar.Proofs.Literals

namespace Columnar

namespace Blank

variable {text : String}

theorem padded_self (text : String) : Padded text text :=
  ⟨[], [], by rw [List.nil_append, List.append_nil], List.forall_mem_nil _, List.forall_mem_nil _⟩

theorem bare_of_noBlanks (noBlanks : text.toList.any isBlank = false) : Bare text := by
  have kept (character : Char) (member : character ∈ text.toList) : isBlank character = false :=
    Bool.eq_false_iff.mpr (List.any_eq_false.mp noBlanks character member)
  exact ⟨fun character isHead => kept character (List.mem_of_head? isHead),
    fun character isLast => kept character (List.mem_of_getLast? isLast)⟩

theorem not_isBlank_of_isDigit {character : Char} (isDigit : character.isDigit = true) :
    ¬ isBlank character = true := by
  obtain ⟨above, below⟩ := Char.isDigit_iff_toNat.mp isDigit
  have isLow : '0'.toNat = 48 := rfl
  have isHigh : '9'.toNat = 57 := rfl
  intro blank
  simp only [isBlank, Bool.or_eq_true, Bool.and_eq_true, decide_eq_true_eq, beq_iff_eq] at blank
  omega

end Blank

namespace Numeral

/-- A printed number is a decimal of it. -/
theorem isDecimal_toString (number : Int) : IsDecimal (toString number).toList number := by
  have areDigits (magnitude : Nat) :
      ∀ character ∈ Nat.toDigits 10 magnitude, character.isDigit = true := fun _ member =>
    Nat.isDigit_of_mem_toDigits (by decide) (by decide) member
  rw [Int.toString_eq_repr, Int.repr_eq_if]
  split
  · next notNegative =>
    rw [Nat.repr_eq_ofList_toDigits, String.toList_ofList]
    have decimal := IsDecimal.unsigned Nat.toDigits_ne_nil (areDigits number.toNat)
    rw [Nat.ofDigitChars_ten_toDigits, Int.toNat_of_nonneg notNegative] at decimal
    exact decimal
  · next negative =>
    rw [Nat.repr_eq_ofList_toDigits, String.toList_append, String.toList_ofList,
      String.toList_ofList]
    have decimal := IsDecimal.negative Nat.toDigits_ne_nil (areDigits (-number).toNat)
    rw [Nat.ofDigitChars_ten_toDigits, Int.toNat_of_nonneg (by omega), Int.neg_neg] at decimal
    exact decimal

theorem IsDecimal.bare {text : String} {number : Int} (decimal : IsDecimal text.toList number) :
    Blank.Bare text := by
  refine Blank.bare_of_noBlanks (List.any_eq_false.mpr fun character member => ?_)
  rcases decimal.digit_or_sign character member with isDigit | rfl | rfl
  · exact Blank.not_isBlank_of_isDigit isDigit
  · exact Bool.false_ne_true
  · exact Bool.false_ne_true

end Numeral

namespace Value

open Numeral

variable {type : ColumnType} {text body : String} {number : Int} {value : Value}

/-- What is printed for the value reads as the value, also with blanks around it. -/
def ReadsBack (type : ColumnType) (value : Value) : Prop :=
  read type value.render = .ok value ∧
    ∀ text, Blank.Padded text value.render → read type text = .ok value

theorem readsBack_of_bare (bare : Blank.Bare value.render)
    (reads : (if Ascii.sameName value.render "null" then .ok .null
      else readTyped type value.render) = .ok value) : ReadsBack type value :=
  ⟨(read_of_padded (Blank.padded_self _) bare).trans reads,
    fun _ padded => (read_of_padded padded bare).trans reads⟩

theorem readsBack_null (type : ColumnType) : ReadsBack type .null :=
  readsBack_of_bare (Blank.bare_of_noBlanks rfl) rfl

theorem readsBack_boolean (word : Bool) : ReadsBack .boolean (.boolean word) := by
  cases word <;> exact readsBack_of_bare (Blank.bare_of_noBlanks rfl) rfl

theorem render_of_number? (means : value.number? = some number) :
    value.render = toString number := by
  cases value with
  | int word => rw [render, Word.toInt_of_int? means]
  | long word => rw [render, Word.toInt_of_long? means]
  | date micros => rw [render, Word.toInt_of_long? means]
  | null | boolean | double | symbol | string => cases means

/-- The value of every number reads back, that of the least as NULL. -/
theorem readsBack_ofNumber (offered : type.offers .long = true)
    (included : type.literalBounds.Include number) : ReadsBack type (ofNumber type number) := by
  by_cases least : number = type.literalBounds.least
  · rw [(ofNumber_eq_null_iff offered included).mpr least]
    exact readsBack_null type
  · have means := number?_ofNumber offered included
    rw [if_neg least] at means
    have decimal := isDecimal_toString number
    rw [← render_of_number? means] at decimal
    refine readsBack_of_bare decimal.bare ?_
    rw [sameName_null_of_isDecimal decimal, if_neg Bool.false_ne_true]
    exact (readTyped_eq_ok_iff offered).mpr ⟨number, decimal, included, rfl⟩

theorem readsBack_int {word : Int32} (known : word ≠ Null.int) : ReadsBack .int (.int word) := by
  have same : ofNumber .int word.toInt = .int word :=
    (congrArg ofInt (Int32.ofInt_toInt word)).trans (if_neg known)
  exact same ▸ @readsBack_ofNumber .int _ rfl (include_toInt_word32 word)

theorem readsBack_long {word : Int64} (known : word ≠ Null.long) :
    ReadsBack .long (.long word) := by
  have same : ofNumber .long word.toInt = .long word :=
    (congrArg ofLong (Int64.ofInt_toInt word)).trans (if_neg known)
  exact same ▸ @readsBack_ofNumber .long _ rfl (include_toInt_word64 word)

theorem readsBack_date {micros : Int64} (known : micros ≠ Null.date) :
    ReadsBack .date (.date micros) := by
  have same : ofNumber .date micros.toInt = .date micros :=
    (congrArg ofDate (Int64.ofInt_toInt micros)).trans (if_neg known)
  exact same ▸ @readsBack_ofNumber .date _ rfl (include_toInt_word64 micros)

/-- What a type reads from a text without blanks at its ends reads back. -/
theorem readsBack_of_readTyped (member : type ∈ [.boolean, .int, .long, .date, .string])
    (bare : Blank.Bare body) (notNamed : Ascii.sameName body "null" = false)
    (accepted : readTyped type body = .ok value) : ReadsBack type value := by
  have number (offered : type.offers .long = true) : ReadsBack type value := by
    obtain ⟨number, -, included, rfl⟩ := (readTyped_eq_ok_iff offered).mp accepted
    exact readsBack_ofNumber offered included
  cases type with
  | boolean =>
    rw [readTyped, readBoolean] at accepted
    split at accepted
    · cases accepted
      exact readsBack_boolean true
    · split at accepted <;> cases accepted
      exact readsBack_boolean false
  | int | long | date => exact number rfl
  | string =>
    rw [readTyped] at accepted
    cases accepted
    refine readsBack_of_bare bare ?_
    rw [render, notNamed, if_neg Bool.false_ne_true, readTyped]
  | double | symbol => exact absurd member (by decide)

/-- What a text is read as, be it a boolean, an integer, a timestamp or a string, prints to a text
that reads back as it, also with blanks around it. So does every value of these types other than the
strings, unless it is a reserved word, and NULL prints to a text that reads as NULL for every
type. -/
theorem rendered_literals_read_back :
    (∀ type ∈ [.boolean, .int, .long, .date, .string], ∀ text value,
        read type text = .ok value → ReadsBack type value) ∧
      (∀ word : Int32, word ≠ Null.int → ReadsBack .int (.int word)) ∧
      (∀ word : Int64, word ≠ Null.long → ReadsBack .long (.long word)) ∧
      (∀ micros : Int64, micros ≠ Null.date → ReadsBack .date (.date micros)) ∧
      (∀ word, ReadsBack .boolean (.boolean word)) ∧
      ∀ type, ReadsBack type .null := by
  refine ⟨fun type member text value accepted => ?_, fun _ => readsBack_int,
    fun _ => readsBack_long, fun _ => readsBack_date, readsBack_boolean, readsBack_null⟩
  rw [read] at accepted
  split at accepted
  · cases accepted
    exact readsBack_null type
  · next notNamed =>
    exact readsBack_of_readTyped member (Blank.bare_trim text) (Bool.eq_false_iff.mpr notNamed)
      accepted

/-- The number above the least one, a string with a blank inside, and a number between blanks. -/
theorem rendered_literals_read_back_between_blanks :
    ReadsBack .long (.long (-9223372036854775807)) ∧ ReadsBack .string (.string "DAY OF") ∧
      read .int "\t-7\n" = .ok (.int (-7)) := by
  obtain ⟨readLiterals, ints, longs, -⟩ := rendered_literals_read_back
  refine ⟨longs _ (by decide), readLiterals .string (by decide) " DAY OF " _ rfl, ?_⟩
  refine (ints (-7) (by decide)).2 "\t-7\n" ⟨['\t'], ['\n'], rfl, ?_, ?_⟩
  · exact List.forall_mem_singleton.mpr rfl
  · exact List.forall_mem_singleton.mpr rfl

end Value

end Columnar
