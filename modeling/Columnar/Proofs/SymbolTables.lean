/-
This file proves that a symbol table matches codes and texts one to one. A dictionary keeps its
texts in a list and their codes in a map, which one loop over the list fills. The loop never comes
to a map that disagrees with the list: after any texts without a repeat the map numbers exactly
these, by their positions. So the text that it stops at, because the map has a code for it already,
is the first one of the list that has stood before, and a list makes a dictionary if and only if no
text stands in it twice. In a table the codes are then the positions of its texts. Whatever finds
the position of a text, and NULL for every other one, gives a match; a dictionary does so for the
text itself, and the table of the schemes for every text that differs from a name in the case of its
letters alone. No other code has a text: NULL has none, and the rest are faults.
-/

import Columnar.SymbolTable
import Mathlib.Data.List.Nodup

namespace Columnar

namespace Dictionary

variable {texts earlier : List String} {text : String} {index : Nat} {entries : Dictionary}

/-! ### Repeats -/

/-- The text stands at the position, and at an earlier one too. -/
def RepeatsAt (texts : List String) (index : Nat) (text : String) : Prop :=
  texts[index]? = some text ∧ ∃ before < index, texts[before]? = some text

/-- The text is the first one that stands at an earlier position too. -/
def FirstRepeatsAt (texts : List String) (index : Nat) (text : String) : Prop :=
  RepeatsAt texts index text ∧ ∀ before < index, ∀ other, ¬ RepeatsAt texts before other

theorem nodup_iff : texts.Nodup ↔ ∀ index text, ¬ RepeatsAt texts index text := by
  rw [List.nodup_iff_getElem?_ne_getElem?]
  constructor
  · rintro distinct index text ⟨here, before, order, there⟩
    obtain ⟨inside, -⟩ := List.getElem?_eq_some_iff.mp here
    exact distinct before index order inside (there.trans here.symm)
  · intro noRepeat before index order inside same
    have here := List.getElem?_eq_getElem inside
    exact noRepeat index texts[index] ⟨here, before, order, same.trans here⟩

/-- What stands in the first part of a list repeats there as in the whole list. -/
theorem repeatsAt_append (inside : index < earlier.length) :
    RepeatsAt (earlier ++ texts) index text ↔ RepeatsAt earlier index text := by
  unfold RepeatsAt
  rw [List.getElem?_append_left inside]
  refine and_congr_right fun _ => exists_congr fun before => and_congr_right fun order => ?_
  rw [List.getElem?_append_left (Nat.lt_trans order inside)]

/-- After distinct texts one of them is the first repeat. -/
theorem firstRepeatsAt_length (distinct : earlier.Nodup) (known : text ∈ earlier) :
    FirstRepeatsAt (earlier ++ text :: texts) earlier.length text := by
  obtain ⟨before, there⟩ := List.mem_iff_getElem?.mp known
  obtain ⟨inside, -⟩ := List.getElem?_eq_some_iff.mp there
  refine ⟨⟨?_, before, inside, ?_⟩, fun place order other => ?_⟩
  · rw [List.getElem?_append_right (Nat.le_refl _), Nat.sub_self]
    rfl
  · rw [List.getElem?_append_left inside]
    exact there
  · rw [repeatsAt_append order]
    exact nodup_iff.mp distinct place other

/-- The codes of a dictionary tell the positions of a text apart, so a text has only one. -/
theorem distinct (entries : Dictionary) : entries.texts.Nodup := by
  refine nodup_iff.mpr fun index text ⟨here, before, order, there⟩ => ?_
  obtain ⟨inside, -⟩ := List.getElem?_eq_some_iff.mp here
  have code := (entries.numbered text _).mpr ⟨index, here, rfl⟩
  have codeToo := (entries.numbered text _).mpr ⟨before, there, rfl⟩
  have same : (Int32.ofNat index).toInt = (Int32.ofNat before).toInt :=
    congrArg Int32.toInt (Option.some.inj (code.symm.trans codeToo))
  have small := entries.size_lt
  rw [Int32.toInt_ofNat_of_lt (Nat.lt_trans inside small),
    Int32.toInt_ofNat_of_lt (Nat.lt_trans order (Nat.lt_trans inside small))] at same
  omega

end Dictionary

namespace CodeMap

variable {codes filled : CodeMap} {earlier rest texts : List String} {text : String}
  {position : Nat} {error : DictionaryError}

/-! ### The loop that fills the map -/

/-- The loop over a list goes on from what it comes to over the first part. -/
theorem fill_append (fills : codes.fill position earlier = .ok filled) :
    codes.fill position (earlier ++ rest) = filled.fill (position + earlier.length) rest := by
  induction earlier generalizing codes position with
  | nil =>
    cases fills
    rfl
  | cons text earlier inductionHypothesis =>
    rw [List.cons_append, List.length_cons, Nat.add_comm earlier.length, ← Nat.add_assoc]
    cases found : codes.find? text with
    | some code =>
      rw [fill_cons_of_known found] at fills
      cases fills
    | none =>
      rw [fill_cons_of_fresh found] at fills ⊢
      exact inductionHypothesis fills

/-- Entering a text that has stood before gives back the code of its position there. -/
theorem Numbers.fst_insert (numbers : codes.Numbers earlier) (known : text ∈ earlier)
    (code : Int32) : ∃ before, earlier[before]? = some text ∧
      (codes.insert text code).1 = some (Int32.ofNat before) := by
  obtain ⟨before, stands⟩ := List.mem_iff_getElem?.mp known
  exact ⟨before, stands, (numbers text _).mpr ⟨before, stands, rfl⟩⟩

/-- Where the texts so far are distinct and numbered, the loop fails at the first repeat alone. -/
theorem Numbers.firstRepeatsAt_of_fill (numbers : codes.Numbers earlier) (distinct : earlier.Nodup)
    (fails : codes.fill earlier.length rest = .error error) :
    ∃ index text, error = .duplicate text index ∧
      Dictionary.FirstRepeatsAt (earlier ++ rest) index text := by
  induction rest generalizing codes earlier with
  | nil => cases fails
  | cons text rest inductionHypothesis =>
    by_cases known : text ∈ earlier
    · obtain ⟨before, -, givenBack⟩ := numbers.fst_insert known (Int32.ofNat earlier.length)
      rw [fill_cons_of_known givenBack] at fails
      cases fails
      exact ⟨_, _, rfl, Dictionary.firstRepeatsAt_length distinct known⟩
    · have fresh := numbers.find?_eq_none_iff.mpr known
      have extended : (earlier ++ [text]).Nodup :=
        distinct.append (List.nodup_singleton text) (List.disjoint_singleton.mpr known)
      rw [fill_cons_of_fresh fresh] at fails
      have first := inductionHypothesis (numbers.insert fresh) extended
        (by rwa [List.length_append])
      rwa [List.append_assoc, List.singleton_append] at first

/-- Over distinct texts the loop comes to a map that numbers them. -/
theorem exists_fill (distinct : texts.Nodup) :
    ∃ codes, empty.fill 0 texts = .ok codes ∧ codes.Numbers texts := by
  cases result : empty.fill 0 texts with
  | ok codes => exact ⟨codes, rfl, numbers_empty.of_fill result⟩
  | error error =>
    obtain ⟨index, text, -, first⟩ := numbers_empty.firstRepeatsAt_of_fill List.nodup_nil result
    exact absurd first.1 (Dictionary.nodup_iff.mp distinct index text)

/-- Wherever the texts so far are distinct, the loop has come to a map that numbers them, and goes
on from this map. -/
theorem exists_fill_prefix (earlier rest : List String) (distinct : earlier.Nodup) :
    ∃ codes, empty.fill 0 earlier = .ok codes ∧ codes.Numbers earlier ∧
      empty.fill 0 (earlier ++ rest) = codes.fill earlier.length rest := by
  obtain ⟨codes, fills, numbers⟩ := exists_fill distinct
  refine ⟨codes, fills, numbers, ?_⟩
  rw [fill_append fills, Nat.zero_add]

end CodeMap

namespace Dictionary

variable {texts : List String} {entries : Dictionary}

/-! ### Building a dictionary -/

/-- The codes of what is built are those that the loop comes to, and its failure is the loop's. -/
theorem map_codes_ofList (small : texts.length < maxSize) :
    (ofList texts).map codes = CodeMap.empty.fill 0 texts := by
  unfold ofList
  rw [dif_pos small]
  split
  · next fills => exact fills.symm
  · next fails => exact fails.symm

theorem texts_of_ofList (built : ofList texts = .ok entries) : entries.texts = texts := by
  unfold ofList at built
  split at built
  · split at built
    · cases built
      rfl
    · cases built
  · cases built

/-- Of a list with a repeat the first one is reported. -/
theorem ofList_of_repeat (small : texts.length < maxSize) (repeated : ¬ texts.Nodup) :
    ∃ index text, ofList texts = .error (.duplicate text index) ∧
      FirstRepeatsAt texts index text := by
  have loop := map_codes_ofList small
  cases built : ofList texts with
  | ok entries => exact absurd (texts_of_ofList built ▸ entries.distinct) repeated
  | error error =>
    rw [built] at loop
    obtain ⟨index, text, rfl, first⟩ :=
      CodeMap.numbers_empty.firstRepeatsAt_of_fill List.nodup_nil loop.symm
    exact ⟨index, text, rfl, first⟩

/-- A list makes a dictionary if and only if its texts are distinct. -/
theorem exists_ofList_iff (small : texts.length < maxSize) :
    (∃ entries, ofList texts = .ok entries) ↔ texts.Nodup := by
  constructor
  · rintro ⟨entries, built⟩
    rw [← texts_of_ofList built]
    exact entries.distinct
  · intro distinct
    obtain ⟨codes, fills, -⟩ := CodeMap.exists_fill distinct
    rw [← map_codes_ofList small] at fills
    cases built : ofList texts with
    | ok entries => exact ⟨entries, rfl⟩
    | error error =>
      rw [built] at fills
      cases fills

end Dictionary

namespace Scheme

/-- Names are told apart whatever the case of their letters. -/
theorem ofName?_name (scheme : Scheme) : ofName? scheme.name = some scheme := by
  cases scheme <;> decide

theorem ofName?_eq_some_iff {text : String} {scheme : Scheme} :
    ofName? text = some scheme ↔ Ascii.sameName text scheme.name = true := by
  rw [Ascii.sameName_iff]
  constructor
  · intro found
    unfold ofName? at found
    have alike := List.find?_some found
    exact (Ascii.sameName_iff.mp alike).symm
  · intro alike
    rw [← ofName?_name scheme]
    simp only [ofName?, Ascii.sameName, alike]

end Scheme

namespace SymbolTable

variable {table : SymbolTable} {alike : String → String → Prop} {code : Int32}

/-! ### Codes and positions -/

/-- A code that is not negative stands for the text at its position. -/
theorem text_of_toInt {index : Nat} {text : String} (position : code.toInt = index)
    (found : table.texts[index]? = some text) : table.text code = .ok (some text) := by
  have notNull : code ≠ Null.code := by
    rintro rfl
    rw [show (Null.code).toInt = -1 from rfl] at position
    omega
  have notNegative : ¬ code < 0 := by
    rw [Int32.lt_iff_toInt_lt, Int32.toInt_zero]
    omega
  have clamped : code.toNatClampNeg = index := by
    rw [Int32.toNatClampNeg, position, Int.toNat_natCast]
  unfold SymbolTable.text
  rw [if_neg notNull, if_neg notNegative, clamped, found]

/-- A code that is neither NULL nor a position is a fault. -/
theorem text_of_outside (notNull : code ≠ Null.code)
    (outside : ¬ (0 ≤ code.toInt ∧ code.toInt < table.size)) :
    table.text code = .error (.unknownCode code table.size) := by
  unfold SymbolTable.text
  rw [if_neg notNull]
  split
  · rfl
  · next notNegative =>
    rw [Int32.lt_iff_toInt_lt, Int32.toInt_zero] at notNegative
    have beyond : table.texts.length ≤ code.toNatClampNeg := by
      have size : (table.texts.length : Int) = table.size := rfl
      have clamped : code.toNatClampNeg = code.toInt.toNat := rfl
      omega
    rw [List.getElem?_eq_none beyond]

/-- Every text of a table has a position, which is its code. -/
theorem exists_position {text : String} (read : table.text code = .ok (some text)) :
    ∃ index : Nat, code.toInt = index ∧ table.texts[index]? = some text := by
  have notNull : code ≠ Null.code := by
    rintro rfl
    cases read
  have inside : 0 ≤ code.toInt ∧ code.toInt < table.texts.length := by
    refine Decidable.byContradiction fun outside => ?_
    rw [text_of_outside notNull outside] at read
    cases read
  obtain ⟨index, position⟩ := Int.eq_ofNat_of_zero_le inside.1
  have found := List.getElem?_eq_getElem (show index < table.texts.length by omega)
  rw [text_of_toInt position found] at read
  cases read
  exact ⟨index, position, found⟩

/-! ### One-to-one matches -/

/-- The table matches the codes from zero up to the count of the texts with the texts, one to one;
a text is looked up under every text that is alike. -/
structure Matches (table : SymbolTable) (texts : List String) (alike : String → String → Prop) :
    Prop where
  size : table.size = texts.length
  position (index : Nat) (inside : index < texts.length) : ∃ code : Int32, code.toInt = index ∧
    table.text code = .ok (some texts[index]) ∧ table.code texts[index] = code
  found_iff (text : String) (code : Int32) : 0 ≤ code.toInt →
    (table.code text = code ↔ ∃ name, table.text code = .ok (some name) ∧ alike text name)
  missing_iff (text : String) : table.code text = -1 ↔ ∀ name ∈ texts, ¬ alike text name
  found (text : String) : table.code text ≠ -1 →
    ∃ name, table.text (table.code text) = .ok (some name) ∧ alike text name
  null : table.text (-1) = .ok none
  fault (code : Int32) : code ≠ -1 → ¬ (0 ≤ code.toInt ∧ code.toInt < table.size) →
    table.text code = .error (.unknownCode code table.size)

/-- Looking up a text gives the position of a text that it is alike to, and NULL if there is
none. -/
structure LooksUp (table : SymbolTable) (alike : String → String → Prop) : Prop where
  found (text name : String) (index : Nat) : table.texts[index]? = some name → alike text name →
    table.code text = Int32.ofNat index
  missing (text : String) : (∀ name ∈ table.texts, ¬ alike text name) → table.code text = Null.code

/-- A text is looked up under a position where a text stands that it is alike to, or it is alike to
none. -/
theorem LooksUp.found_or_missing (looksUp : table.LooksUp alike) (text : String) :
    (∃ index name, table.texts[index]? = some name ∧ alike text name ∧
        table.code text = Int32.ofNat index) ∨
      (∀ name ∈ table.texts, ¬ alike text name) ∧ table.code text = Null.code := by
  by_cases known : ∃ name ∈ table.texts, alike text name
  · obtain ⟨name, member, isAlike⟩ := known
    obtain ⟨index, found⟩ := List.mem_iff_getElem?.mp member
    exact Or.inl ⟨index, name, found, isAlike, looksUp.found text name index found isAlike⟩
  · have unknown : ∀ name ∈ table.texts, ¬ alike text name :=
      fun name member isAlike => known ⟨name, member, isAlike⟩
    exact Or.inr ⟨unknown, looksUp.missing text unknown⟩

/-- A table that looks up positions matches codes and texts one to one. -/
theorem matches_of_looksUp (small : table.texts.length < Dictionary.maxSize)
    (alikeSelf : ∀ text, alike text text) (looksUp : table.LooksUp alike) :
    table.Matches table.texts alike := by
  have toInt {index : Nat} {name : String} (found : table.texts[index]? = some name) :
      (Int32.ofNat index).toInt = index := by
    obtain ⟨inside, -⟩ := List.getElem?_eq_some_iff.mp found
    exact Int32.toInt_ofNat_of_lt (Nat.lt_trans inside small)
  have reads {index : Nat} {name : String} (found : table.texts[index]? = some name) :
      table.text (Int32.ofNat index) = .ok (some name) :=
    text_of_toInt (toInt found) found
  refine ⟨rfl, ?_, ?_, ?_, ?_, rfl, fun code => text_of_outside⟩
  · intro index inside
    have found := List.getElem?_eq_getElem inside
    exact ⟨_, toInt found, reads found, looksUp.found _ _ index found (alikeSelf _)⟩
  · intro text code notNegative
    constructor
    · rintro rfl
      rcases looksUp.found_or_missing text with ⟨index, name, found, isAlike, same⟩ | ⟨-, null⟩
      · rw [same]
        exact ⟨name, reads found, isAlike⟩
      · rw [null] at notNegative
        exact absurd notNegative (by decide)
    · rintro ⟨name, read, isAlike⟩
      obtain ⟨index, position, found⟩ := exists_position read
      rw [looksUp.found text name index found isAlike]
      exact Int32.toInt_inj.mp ((toInt found).trans position.symm)
  · intro text
    refine ⟨fun null name member isAlike => ?_, looksUp.missing text⟩
    obtain ⟨index, found⟩ := List.mem_iff_getElem?.mp member
    have positive := toInt found
    rw [← looksUp.found text name index found isAlike, null] at positive
    rw [show (-1 : Int32).toInt = -1 from rfl] at positive
    omega
  · intro text known
    rcases looksUp.found_or_missing text with ⟨index, name, found, isAlike, same⟩ | ⟨-, null⟩
    · rw [same]
      exact ⟨name, reads found, isAlike⟩
    · exact absurd null known

theorem looksUp_dictionary (entries : Dictionary) : (dictionary entries).LooksUp (· = ·) := by
  constructor
  · rintro text _ index found rfl
    have known : entries.codes.find? text = some (Int32.ofNat index) :=
      (entries.numbered text _).mpr ⟨index, found, rfl⟩
    rw [SymbolTable.code, known, Option.getD_some]
  · intro text unknown
    have missing : entries.codes.find? text = none :=
      entries.numbered.find?_eq_none_iff.mpr fun member => unknown text member rfl
    rw [SymbolTable.code, missing, Option.getD_none]

theorem looksUp_schemes : schemes.LooksUp fun text name => Ascii.sameName text name = true := by
  constructor
  · intro text name index found isAlike
    have found : (Scheme.all[index]?).map Scheme.name = some name := by
      rw [← List.getElem?_map]
      exact found
    obtain ⟨scheme, position, rfl⟩ := Option.map_eq_some_iff.mp found
    have known := Scheme.ofName?_eq_some_iff.mpr isAlike
    simp only [SymbolTable.code, known]
    match index with
    | 0 | 1 | 2 | 3 =>
      cases position
      rfl
    | index + 4 => cases position
  · intro text unknown
    cases known : Scheme.ofName? text with
    | none => simp only [SymbolTable.code, known]
    | some scheme =>
      have member : scheme.name ∈ schemes.texts :=
        List.mem_map_of_mem (Scheme.mem_all scheme)
      exact absurd (Scheme.ofName?_eq_some_iff.mp known) (unknown scheme.name member)

/-- A list of texts makes a dictionary if and only if they are distinct, and otherwise the first
repeat is reported. At every point before it the loop over the list has come to a map of codes that
holds the texts so far under their positions, and no other text. The dictionary has the codes that
the loop comes to in the end, and matches the codes with the texts of the list one to one. So does
the table of the schemes with their names, which it finds whatever the case of their letters. -/
theorem tables_match {texts : List String} (small : texts.length < Dictionary.maxSize) :
    ((∃ entries, Dictionary.ofList texts = .ok entries) ↔ texts.Nodup) ∧
      (¬ texts.Nodup → ∃ index text,
        Dictionary.ofList texts = .error (.duplicate text index) ∧
          Dictionary.FirstRepeatsAt texts index text) ∧
      (∀ earlier rest, texts = earlier ++ rest → earlier.Nodup →
        ∃ codes, CodeMap.empty.fill 0 earlier = .ok codes ∧ codes.Numbers earlier ∧
          CodeMap.empty.fill 0 texts = codes.fill earlier.length rest) ∧
      (∀ entries, Dictionary.ofList texts = .ok entries →
        CodeMap.empty.fill 0 texts = .ok entries.codes ∧ entries.codes.Numbers texts ∧
          (dictionary entries).Matches texts (· = ·)) ∧
      schemes.Matches ["NONE", "DAY", "MONTH", "YEAR"]
        (fun text name => Ascii.sameName text name = true) := by
  refine ⟨Dictionary.exists_ofList_iff small, Dictionary.ofList_of_repeat small, ?_, ?_, ?_⟩
  · rintro earlier rest rfl distinct
    exact CodeMap.exists_fill_prefix earlier rest distinct
  · intro entries built
    have loop := Dictionary.map_codes_ofList small
    rw [built] at loop
    obtain rfl := Dictionary.texts_of_ofList built
    exact ⟨loop.symm, entries.numbered,
      matches_of_looksUp small (fun _ => rfl) (looksUp_dictionary entries)⟩
  · exact matches_of_looksUp (by decide) Ascii.sameName_self looksUp_schemes

/-- Three distinct texts make a dictionary, and one that occurs again is reported. -/
theorem tables_match_three_texts :
    (∃ entries, Dictionary.ofList ["AAPL", "MSFT", "GOOG"] = .ok entries ∧
        (dictionary entries).Matches ["AAPL", "MSFT", "GOOG"] (· = ·)) ∧
      ∃ index text, Dictionary.ofList ["AAPL", "MSFT", "AAPL"] = .error (.duplicate text index) ∧
        Dictionary.FirstRepeatsAt ["AAPL", "MSFT", "AAPL"] index text := by
  obtain ⟨builds, -, -, isMatch, -⟩ :=
    tables_match (show ["AAPL", "MSFT", "GOOG"].length < Dictionary.maxSize by decide)
  obtain ⟨-, reports, -⟩ :=
    tables_match (show ["AAPL", "MSFT", "AAPL"].length < Dictionary.maxSize by decide)
  obtain ⟨entries, built⟩ := builds.mpr (by decide)
  exact ⟨⟨entries, built, (isMatch entries built).2.2⟩, reports (by decide)⟩

end SymbolTable

end Columnar
