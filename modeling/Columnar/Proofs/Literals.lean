/-
This file says which texts are literals of the integer types, of timestamps and of symbol codes. The
blanks at both ends are no part of a literal, and taking them off leaves the only text without such
blanks that the given one can be made from. What is left is the word for NULL, or a signed decimal
within the bounds of the type, or it is refused for its first fault. The least number of a type is
its word for NULL and reads as such; codes have no least number to spare, and every negative one is
refused.
-/

import Columnar.Value.Literal
import Columnar.Proofs.Decimals
import Columnar.Proofs.NullLeaves

namespace Columnar

namespace Blank

variable {characters : List Char} {text body : String}

/-! ### Blanks at the ends -/

/-- The text is the other one with blanks before and after it. -/
def Padded (text body : String) : Prop :=
  ∃ before after : List Char, text.toList = before ++ body.toList ++ after ∧
    (∀ character ∈ before, isBlank character = true) ∧
    ∀ character ∈ after, isBlank character = true

/-- The characters neither begin nor end with a blank. -/
def BareList (characters : List Char) : Prop :=
  (∀ character, characters.head? = some character → isBlank character = false) ∧
    ∀ character, characters.getLast? = some character → isBlank character = false

/-- The text neither begins nor ends with a blank. -/
def Bare (text : String) : Prop :=
  BareList text.toList

/-- Nothing is dropped where the first character is to be kept. -/
theorem dropWhile_eq_self (kept : ∀ character, characters.head? = some character →
    isBlank character = false) : characters.dropWhile isBlank = characters := by
  cases characters with
  | nil => rfl
  | cons head rest =>
    rw [List.dropWhile_cons_of_neg]
    rw [kept head rfl]
    exact Bool.false_ne_true

/-- What is kept begins with a character that is not dropped. -/
theorem head?_dropWhile {character : Char}
    (isHead : (characters.dropWhile isBlank).head? = some character) :
    isBlank character = false := by
  have kept := List.head?_dropWhile_not isBlank characters
  rw [isHead] at kept
  exact kept

/-- Dropping the blanks at the end splits them off. -/
theorem exists_suffix (characters : List Char) :
    ∃ after, characters = (characters.reverse.dropWhile isBlank).reverse ++ after ∧
      ∀ character ∈ after, isBlank character = true := by
  refine ⟨(characters.reverse.takeWhile isBlank).reverse, ?_, fun character member => ?_⟩
  · rw [← List.reverse_append, List.takeWhile_append_dropWhile, List.reverse_reverse]
  · exact List.mem_takeWhile_imp (List.mem_reverse.mp member)

/-- Taking the blanks off leaves the part between them. -/
theorem trimList_of_bareList {before after : List Char} (bare : BareList characters)
    (beforeBlank : ∀ character ∈ before, isBlank character = true)
    (afterBlank : ∀ character ∈ after, isBlank character = true) :
    trimList (before ++ characters ++ after) = characters := by
  have afterDropped : (characters ++ after).reverse.dropWhile isBlank = characters.reverse := by
    rw [List.reverse_append, List.dropWhile_append_of_pos, dropWhile_eq_self]
    · intro character isLast
      exact bare.2 character (List.head?_reverse.symm.trans isLast)
    · exact fun character member => afterBlank character (List.mem_reverse.mp member)
  rw [trimList, List.append_assoc, List.dropWhile_append_of_pos beforeBlank]
  cases characters with
  | nil =>
    rw [List.nil_append, List.dropWhile_eq_nil_iff.mpr afterBlank]
    rfl
  | cons head rest =>
    have beforeDropped : (head :: rest ++ after).dropWhile isBlank = head :: rest ++ after :=
      dropWhile_eq_self bare.1
    rw [beforeDropped, afterDropped, List.reverse_reverse]

/-- The blanks that are taken off stand at the ends. -/
theorem padded_trim (text : String) : Padded text (trim text) := by
  obtain ⟨after, split, afterBlank⟩ := exists_suffix (text.toList.dropWhile isBlank)
  refine ⟨text.toList.takeWhile isBlank, after, ?_, fun _ => List.mem_takeWhile_imp, afterBlank⟩
  rw [trim, String.toList_ofList, trimList, List.append_assoc, ← split,
    List.takeWhile_append_dropWhile]

/-- No blanks are left at the ends. -/
theorem bare_trim (text : String) : Bare (trim text) := by
  obtain ⟨after, split, -⟩ := exists_suffix (text.toList.dropWhile isBlank)
  rw [Bare, trim, String.toList_ofList, trimList]
  constructor
  · intro character isHead
    have startsKept : (text.toList.dropWhile isBlank).head? = some character := by
      rw [split, List.head?_append, isHead]
      rfl
    exact head?_dropWhile startsKept
  · intro character isLast
    rw [List.getLast?_reverse] at isLast
    exact head?_dropWhile isLast

/-- Taking the blanks off gives the one text that has none at its ends and makes the given one. -/
theorem eq_trim_iff : body = trim text ↔ Padded text body ∧ Bare body := by
  constructor
  · rintro rfl
    exact ⟨padded_trim text, bare_trim text⟩
  · rintro ⟨⟨before, after, split, beforeBlank, afterBlank⟩, bare⟩
    rw [trim, split, trimList_of_bareList bare beforeBlank afterBlank, String.ofList_toList]

end Blank

namespace ColumnType

/-- The bounds of the numbers that a literal of the type may denote. -/
def literalBounds : ColumnType → Numeral.Bounds
  | .int | .symbol => .word32
  | _ => .word64

theorem include_zero (type : ColumnType) : type.literalBounds.Include 0 := by
  cases type <;> first | exact Numeral.include_zero_word32 | exact Numeral.include_zero_word64

theorem include_least (type : ColumnType) :
    type.literalBounds.Include type.literalBounds.least := by
  cases type <;> exact ⟨by decide, by decide⟩

end ColumnType

namespace Value

open Numeral

variable {type : ColumnType} {text body : String} {number : Int}

/-! ### The word for NULL -/

/-- A literal with blanks around it is read as what stands between them. -/
theorem read_of_padded (padded : Blank.Padded text body) (bare : Blank.Bare body) :
    read type text = if Ascii.sameName body "null" then .ok .null else readTyped type body := by
  rw [read, ← Blank.eq_trim_iff.mpr ⟨padded, bare⟩]

/-- No decimal is the word for NULL, whose letters do not become digits or signs in either case. -/
theorem sameName_null_of_isDecimal (decimal : IsDecimal body.toList number) :
    Ascii.sameName body "null" = false := by
  refine Bool.eq_false_iff.mpr fun named => ?_
  have lowered : body.toList.map Char.toLower = ['n', 'u', 'l', 'l'] :=
    String.ofList_injective (Ascii.sameName_iff.mp named)
  obtain ⟨first, rest, split, isN, -⟩ := List.map_eq_cons_iff.mp lowered
  have member : first ∈ body.toList := by
    rw [split]
    exact List.mem_cons_self
  rcases decimal.digit_or_sign first member with isDigit | rfl | rfl
  · have small : first.toNat ≤ '9'.toNat := (Char.isDigit_iff_toNat.mp isDigit).2
    have unchanged : first.toLower = first :=
      dif_neg fun isUpper => absurd (Nat.le_trans isUpper.1 small) (by decide)
    rw [unchanged.symm.trans isN] at isDigit
    cases isDigit
  · cases isN
  · cases isN

/-! ### Numbers -/

/-- The value of a number that a literal of the type denotes. -/
def ofNumber : ColumnType → Int → Value
  | .int, number => ofInt (Int32.ofInt number)
  | .date, number => ofDate (Int64.ofInt number)
  | _, number => ofLong (Int64.ofInt number)

theorem proper_ofNumber (offered : type.offers .long = true) (number : Int) :
    (ofNumber type number).Proper type := by
  cases type with
  | int => exact proper_ofInt _
  | long => exact proper_ofLong _
  | date => exact proper_ofDate _
  | boolean | double | symbol | string => cases offered

/-- The value of a number stands for it, unless it is the least of its type. -/
theorem number?_ofNumber (offered : type.offers .long = true)
    (included : type.literalBounds.Include number) :
    (ofNumber type number).number? =
      if number = type.literalBounds.least then none else some number := by
  have word64 (inside : Bounds.word64.Include number) : Word.long? (Int64.ofInt number) =
      if number = Bounds.word64.least then none else some number := by
    rw [Word.long?_eq_ite, Int64.toInt_ofInt_of_le inside.1 (Int.lt_add_one_of_le inside.2)]
    rfl
  cases type with
  | int =>
    rw [ofNumber, number?_ofInt, Word.int?_eq_ite,
      Int32.toInt_ofInt_of_le included.1 (Int.lt_add_one_of_le included.2)]
    rfl
  | long => exact (number?_ofLong _).trans (word64 included)
  | date => exact (number?_ofDate _).trans (word64 included)
  | boolean | double | symbol | string => cases offered

/-- The value of the least number is NULL, and that of no other is. -/
theorem ofNumber_eq_null_iff (offered : type.offers .long = true)
    (included : type.literalBounds.Include number) :
    ofNumber type number = .null ↔ number = type.literalBounds.least := by
  have means := number?_ofNumber offered included
  constructor
  · intro isNull
    rw [isNull] at means
    by_contra known
    rw [if_neg known] at means
    cases means
  · intro least
    rw [if_pos least] at means
    exact eq_null_of_number? (proper_ofNumber offered number) offered means

/-- The value is of the type, and the number is what it stands for. -/
def IsNumber (type : ColumnType) (number : Int) (value : Value) : Prop :=
  value.type? = some type ∧ value.number? = some number

theorem isNumber_ofNumber_iff {other : Int} (offered : type.offers .long = true)
    (included : type.literalBounds.Include other) :
    (ofNumber type other).IsNumber type number ↔
      other = number ∧ type.literalBounds.least < number := by
  have means := number?_ofNumber offered included
  constructor
  · rintro ⟨-, isNumber⟩
    rw [means] at isNumber
    split at isNumber
    · cases isNumber
    · next known =>
      cases isNumber
      exact ⟨rfl, Int.lt_iff_le_and_ne.mpr ⟨included.1, Ne.symm known⟩⟩
  · rintro ⟨rfl, above⟩
    rw [if_neg (Int.ne_of_gt above)] at means
    refine ⟨(fits_iff.mp (proper_ofNumber offered other).1).resolve_left fun isNull => ?_, means⟩
    rw [isNull] at means
    cases means

/-! ### Reading -/

theorem readTyped_of_offers_long (offered : type.offers .long = true) (text : String) :
    readTyped type text =
      match readInteger type.literalBounds text.toList with
      | .ok number => .ok (ofNumber type number)
      | .error cause => .error (.integer type text cause) := by
  cases type with
  | int =>
    dsimp only [readTyped, readInt, readInt32, ColumnType.literalBounds]
    cases readInteger .word32 text.toList <;> rfl
  | long =>
    dsimp only [readTyped, readLong, readInt64, ColumnType.literalBounds]
    cases readInteger .word64 text.toList <;> rfl
  | date =>
    dsimp only [readTyped, readDate, readInt64, ColumnType.literalBounds]
    cases readInteger .word64 text.toList <;> rfl
  | boolean | double | symbol | string => cases offered

/-- No decimal of a number within the bounds is left of the text. -/
def NoDecimal (bounds : Bounds) (body : String) : Prop :=
  ∀ number, IsDecimal body.toList number → ¬ bounds.Include number

theorem readTyped_of_noDecimal (offered : type.offers .long = true)
    (noDecimal : NoDecimal type.literalBounds body) :
    readTyped type body = .error (.integer type body (refusal type.literalBounds body.toList)) := by
  rw [readTyped_of_offers_long offered, readInteger_eq_refusal type.include_zero noDecimal]

/-- A text is read as the value of the number that it denotes, or not at all. -/
theorem readTyped_eq_ok_iff {value : Value} (offered : type.offers .long = true) :
    readTyped type body = .ok value ↔
      ∃ number, IsDecimal body.toList number ∧ type.literalBounds.Include number ∧
        ofNumber type number = value := by
  constructor
  · intro accepted
    rw [readTyped_of_offers_long offered] at accepted
    cases denotes : readInteger type.literalBounds body.toList with
    | error cause =>
      rw [denotes] at accepted
      cases accepted
    | ok number =>
      rw [denotes] at accepted
      obtain ⟨decimal, included⟩ := (readInteger_eq_ok_iff type.include_zero).mp denotes
      exact ⟨number, decimal, included, Except.ok.inj accepted⟩
  · rintro ⟨number, decimal, included, rfl⟩
    have denotes := (readInteger_eq_ok_iff type.include_zero).mpr ⟨decimal, included⟩
    rw [readTyped_of_offers_long offered, denotes]

/-- How a text is read as an integer or a timestamp, told from what is left of it without blanks. -/
structure ReadsNumbers (type : ColumnType) (text body : String) : Prop where
  null_iff : read type text = .ok .null ↔
    Ascii.sameName body "null" = true ∨ IsDecimal body.toList type.literalBounds.least
  number_iff (number : Int) :
    (∃ value, read type text = .ok value ∧ value.IsNumber type number) ↔
      IsDecimal body.toList number ∧ type.literalBounds.least < number ∧
        number ≤ type.literalBounds.greatest
  refused : Ascii.sameName body "null" = false → NoDecimal type.literalBounds body →
    read type text = .error (.integer type body (refusal type.literalBounds body.toList))

theorem readsNumbers_of_null (named : Ascii.sameName body "null" = true)
    (reads : read type text = .ok .null) : ReadsNumbers type text body where
  null_iff := ⟨fun _ => Or.inl named, fun _ => reads⟩
  number_iff number := by
    constructor
    · rintro ⟨value, read, isTyped, -⟩
      cases reads.symm.trans read
      cases isTyped
    · rintro ⟨decimal, -⟩
      cases named.symm.trans (sameName_null_of_isDecimal decimal)
  refused notNamed := nomatch named.symm.trans notNamed

theorem readsNumbers_of_readTyped (offered : type.offers .long = true)
    (notNamed : Ascii.sameName body "null" = false) (reads : read type text = readTyped type body) :
    ReadsNumbers type text body where
  null_iff := by
    rw [reads, readTyped_eq_ok_iff offered]
    constructor
    · rintro ⟨number, decimal, included, isNull⟩
      rw [ofNumber_eq_null_iff offered included] at isNull
      exact Or.inr (isNull ▸ decimal)
    · rintro (named | decimal)
      · cases notNamed.symm.trans named
      · have included := type.include_least
        exact ⟨_, decimal, included, (ofNumber_eq_null_iff offered included).mpr rfl⟩
  number_iff number := by
    rw [reads]
    constructor
    · rintro ⟨value, accepted, isNumber⟩
      obtain ⟨other, decimal, included, rfl⟩ := (readTyped_eq_ok_iff offered).mp accepted
      obtain ⟨rfl, above⟩ := (isNumber_ofNumber_iff offered included).mp isNumber
      exact ⟨decimal, above, included.2⟩
    · rintro ⟨decimal, above, below⟩
      have included : type.literalBounds.Include number := ⟨Int.le_of_lt above, below⟩
      exact ⟨_, (readTyped_eq_ok_iff offered).mpr ⟨number, decimal, included, rfl⟩,
        (isNumber_ofNumber_iff offered included).mpr ⟨rfl, above⟩⟩
  refused _ noDecimal := reads.trans (readTyped_of_noDecimal offered noDecimal)

/-! ### Codes -/

theorem readTyped_of_code {code : Int32} (decimal : IsDecimal body.toList code.toInt) :
    readTyped .symbol body =
      if code < 0 then .error (.negativeCode code) else .ok (.symbol code) := by
  rw [readTyped, readSymbol, readInt32_eq_ok_iff.mpr decimal]

theorem readTyped_symbol_of_noDecimal (noDecimal : NoDecimal .word32 body) :
    readTyped .symbol body = .error (.integer .symbol body (refusal .word32 body.toList)) := by
  have rejected : readInt32 body.toList = .error (refusal .word32 body.toList) := by
    rw [readInt32, readInteger_eq_refusal include_zero_word32 noDecimal, Except.map]
  rw [readTyped, readSymbol, rejected]

/-- A text is read as the code that it denotes, or not at all. -/
theorem readTyped_symbol_eq_ok_iff {value : Value} :
    readTyped .symbol body = .ok value ↔
      ∃ code : Int32, IsDecimal body.toList code.toInt ∧ 0 ≤ code.toInt ∧ .symbol code = value := by
  constructor
  · intro accepted
    cases denotes : readInt32 body.toList with
    | error cause =>
      rw [readTyped, readSymbol, denotes] at accepted
      cases accepted
    | ok code =>
      have decimal := readInt32_eq_ok_iff.mp denotes
      rw [readTyped_of_code decimal] at accepted
      split at accepted
      · cases accepted
      · next notNegative =>
        refine ⟨code, decimal, ?_, Except.ok.inj accepted⟩
        exact Int.not_lt.mp fun negative => notNegative (Int32.lt_iff_toInt_lt.mpr negative)
  · rintro ⟨code, decimal, notNegative, rfl⟩
    rw [readTyped_of_code decimal, if_neg]
    exact fun negative => Int.not_lt.mpr notNegative (Int32.lt_iff_toInt_lt.mp negative)

/-- How a text is read as a symbol code, told from what is left of it without blanks. -/
structure ReadsCodes (text body : String) : Prop where
  null_iff : read .symbol text = .ok .null ↔ Ascii.sameName body "null" = true
  code_iff (code : Int32) : read .symbol text = .ok (.symbol code) ↔
    IsDecimal body.toList code.toInt ∧ 0 ≤ code.toInt
  negative (code : Int32) : IsDecimal body.toList code.toInt → code.toInt < 0 →
    read .symbol text = .error (.negativeCode code)
  refused : Ascii.sameName body "null" = false → NoDecimal .word32 body →
    read .symbol text = .error (.integer .symbol body (refusal .word32 body.toList))

theorem readsCodes_of_null (named : Ascii.sameName body "null" = true)
    (reads : read .symbol text = .ok .null) : ReadsCodes text body where
  null_iff := ⟨fun _ => named, fun _ => reads⟩
  code_iff code := by
    constructor
    · intro read
      cases reads.symm.trans read
    · rintro ⟨decimal, -⟩
      cases named.symm.trans (sameName_null_of_isDecimal decimal)
  negative _ decimal := nomatch named.symm.trans (sameName_null_of_isDecimal decimal)
  refused notNamed := nomatch named.symm.trans notNamed

theorem readsCodes_of_readTyped (notNamed : Ascii.sameName body "null" = false)
    (reads : read .symbol text = readTyped .symbol body) : ReadsCodes text body where
  null_iff := by
    rw [reads, readTyped_symbol_eq_ok_iff]
    exact ⟨nofun, fun named => nomatch notNamed.symm.trans named⟩
  code_iff code := by
    rw [reads, readTyped_symbol_eq_ok_iff]
    constructor
    · rintro ⟨other, decimal, notNegative, same⟩
      cases same
      exact ⟨decimal, notNegative⟩
    · rintro ⟨decimal, notNegative⟩
      exact ⟨code, decimal, notNegative, rfl⟩
  negative code decimal negative := by
    rw [reads, readTyped_of_code decimal, if_pos (Int32.lt_iff_toInt_lt.mpr negative)]
  refused _ noDecimal := reads.trans (readTyped_symbol_of_noDecimal noDecimal)

/-- Taking the blanks off a text gives the one text that has none at its ends and makes the given
one with blanks around it. Whether that is the word for NULL or a signed decimal within the bounds
of the type, and of which number, says what the text is read as; if it is neither, the text is
refused. As a literal of an integer type or of timestamps the least number is NULL; as a symbol
code every negative number is refused. -/
theorem read_integer_literals (text : String) :
    (∀ body, body = Blank.trim text ↔ Blank.Padded text body ∧ Blank.Bare body) ∧
      (∀ type ∈ [ColumnType.int, .long, .date], ReadsNumbers type text (Blank.trim text)) ∧
      ReadsCodes text (Blank.trim text) := by
  have reads (type : ColumnType) := @read_of_padded type text (Blank.trim text)
    (Blank.padded_trim text) (Blank.bare_trim text)
  refine ⟨fun _ => Blank.eq_trim_iff, ?_⟩
  cases named : Ascii.sameName (Blank.trim text) "null" with
  | true =>
    have isNull (type : ColumnType) : read type text = .ok .null :=
      (reads type).trans (if_pos named)
    exact ⟨fun type _ => readsNumbers_of_null named (isNull type),
      readsCodes_of_null named (isNull .symbol)⟩
  | false =>
    have isTyped (type : ColumnType) : read type text = readTyped type (Blank.trim text) :=
      (reads type).trans (if_neg (Bool.eq_false_iff.mp named))
    refine ⟨fun type member => ?_, readsCodes_of_readTyped named (isTyped .symbol)⟩
    exact readsNumbers_of_readTyped (ColumnType.offers_long_iff_mem.mpr member) named (isTyped type)

/-- The least integer is NULL, leading zeros count for nothing, a run of digits that leaves the
bounds is out of range whatever follows it, and a negative code is refused. -/
theorem read_integer_literals_edges :
    read .int "\t-2147483648 " = .ok .null ∧
      (∃ value, read .long "+007" = .ok value ∧ value.IsNumber .long 7) ∧
      read .date "-9223372036854775809x" =
        .error (.integer .date "-9223372036854775809x" .tooSmall) ∧
      read .symbol "-1" = .error (.negativeCode (-1)) := by
  refine ⟨?_, ?_, ?_, ?_⟩
  · have numbers := (read_integer_literals "\t-2147483648 ").2.1 .int (by decide)
    exact numbers.null_iff.mpr (Or.inr (isDecimal_iff.mpr ⟨rfl, rfl⟩))
  · have numbers := (read_integer_literals "+007").2.1 .long (by decide)
    exact (numbers.number_iff 7).mpr ⟨isDecimal_iff.mpr ⟨rfl, rfl⟩, by decide, by decide⟩
  · have numbers := (read_integer_literals "-9223372036854775809x").2.1 .date (by decide)
    refine numbers.refused rfl fun number decimal => ?_
    cases (isDecimal_iff.mp decimal).1
  · have codes := (read_integer_literals "-1").2.2
    exact codes.negative (-1) (isDecimal_iff.mpr ⟨rfl, rfl⟩) (by decide)

end Value

end Columnar
