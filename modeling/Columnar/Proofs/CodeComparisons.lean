/-
This file proves that a column with a dictionary is compared for equality by its codes. The
comparison itself looks the texts of the codes up and compares these; but a dictionary matches codes
and texts one to one, so two codes have the same text only if they are the same, and the code that a
text is looked up under is the only one that has this text. The code of NULL needs care, for it
stands both in a cell that is NULL and for a text that the dictionary does not have. As a cell it
has no text, so every comparison with it is false, and it never equals a text that is not found.
-/

import Columnar.Proofs.Orders
import Columnar.Proofs.SymbolTables

namespace Columnar

namespace ComparisonOp

variable {Place : Type} [DecidableEq Place] [LT Place] [DecidableLT Place]
  {left right : Option Place}

/-- Equality holds of two places that are the same, and difference of two that are not. -/
theorem relates_equal_iff :
    equal.relates left right = true ↔ left.isSome = true ∧ right.isSome = true ∧ left = right := by
  constructor
  · intro holds
    obtain ⟨place, other, rfl, rfl⟩ := exists_of_relates holds
    exact ⟨rfl, rfl, congrArg some (of_decide_eq_true holds)⟩
  · rintro ⟨present, -, rfl⟩
    rw [relates_equal_self, present]

theorem relates_notEqual_iff :
    notEqual.relates left right = true ↔
      left.isSome = true ∧ right.isSome = true ∧ left ≠ right := by
  constructor
  · intro holds
    obtain ⟨place, other, rfl, rfl⟩ := exists_of_relates holds
    exact ⟨rfl, rfl, mt Option.some.inj (of_decide_eq_true holds)⟩
  · rintro ⟨leftPresent, rightPresent, differ⟩
    obtain ⟨place, rfl⟩ := Option.isSome_iff_exists.mp leftPresent
    obtain ⟨other, rfl⟩ := Option.isSome_iff_exists.mp rightPresent
    exact decide_eq_true (mt (congrArg some) differ)

end ComparisonOp

namespace SymbolTable

variable {table : SymbolTable} {entries : Dictionary} {code other : Int32} {text : String}

/-! ### Codes and their texts -/

theorem matches_dictionary (entries : Dictionary) :
    (dictionary entries).Matches entries.texts (· = ·) :=
  matches_of_looksUp entries.size_lt (fun _ => rfl) (looksUp_dictionary entries)

/-- Every code but that of NULL has a text. -/
theorem isSome_text?_iff (holds : table.Holds code) :
    (table.text? code).isSome = true ↔ code ≠ Null.code := by
  rw [← Option.not_isNone, isNone_text? holds, Bool.not_eq_true', ← Bool.not_eq_true,
    Option.isNone_iff_eq_none, Word.code?_eq_none_iff]

/-- A code has a text exactly if the text is looked up under the code. -/
theorem text?_eq_some_iff (holds : (dictionary entries).Holds code) (known : code ≠ Null.code) :
    (dictionary entries).text? code = some text ↔ code = (dictionary entries).code text := by
  have notNegative : 0 ≤ code.toInt := (holds.resolve_left known).1
  rw [eq_comm (a := code), (matches_dictionary entries).found_iff text code notNegative,
    text_of_holds holds]
  simp only [Except.ok.injEq, exists_eq_right']

/-- Two codes have the same text only if they are the same. -/
theorem text?_inj (holds : (dictionary entries).Holds code)
    (holdsToo : (dictionary entries).Holds other) (known : code ≠ Null.code)
    (otherKnown : other ≠ Null.code) :
    (dictionary entries).text? code = (dictionary entries).text? other ↔ code = other := by
  refine ⟨fun same => ?_, congrArg _⟩
  obtain ⟨text, found⟩ := Option.isSome_iff_exists.mp ((isSome_text?_iff holdsToo).mpr otherKnown)
  rw [found, text?_eq_some_iff holds known] at same
  rw [same, (text?_eq_some_iff holdsToo otherKnown).mp found]

/-! ### Comparisons of texts by their codes -/

section Relates

variable (holds : (dictionary entries).Holds code)

include holds

theorem relates_equal_text :
    ComparisonOp.equal.relates ((dictionary entries).text? code) (some text) = true ↔
      code ≠ Null.code ∧ code = (dictionary entries).code text := by
  rw [ComparisonOp.relates_equal_iff, isSome_text?_iff holds]
  refine and_congr_right fun known => ?_
  rw [text?_eq_some_iff holds known]
  exact and_iff_right rfl

theorem relates_notEqual_text :
    ComparisonOp.notEqual.relates ((dictionary entries).text? code) (some text) = true ↔
      code ≠ Null.code ∧ code ≠ (dictionary entries).code text := by
  rw [ComparisonOp.relates_notEqual_iff, isSome_text?_iff holds]
  refine and_congr_right fun known => ?_
  rw [ne_eq, text?_eq_some_iff holds known]
  exact and_iff_right rfl

variable (holdsToo : (dictionary entries).Holds other)

include holdsToo

theorem relates_equal_texts :
    ComparisonOp.equal.relates ((dictionary entries).text? code)
        ((dictionary entries).text? other) = true ↔
      code ≠ Null.code ∧ other ≠ Null.code ∧ code = other := by
  rw [ComparisonOp.relates_equal_iff, isSome_text?_iff holds, isSome_text?_iff holdsToo]
  exact and_congr_right fun known => and_congr_right fun otherKnown =>
    text?_inj holds holdsToo known otherKnown

theorem relates_notEqual_texts :
    ComparisonOp.notEqual.relates ((dictionary entries).text? code)
        ((dictionary entries).text? other) = true ↔
      code ≠ Null.code ∧ other ≠ Null.code ∧ code ≠ other := by
  rw [ComparisonOp.relates_notEqual_iff, isSome_text?_iff holds, isSome_text?_iff holdsToo]
  exact and_congr_right fun known => and_congr_right fun otherKnown =>
    not_congr (text?_inj holds holdsToo known otherKnown)

end Relates

end SymbolTable

/-- The cell at the position holds the code: one of the table, or that of NULL if the cell is
NULL. -/
def Row.HoldsCode (row : Row) (position : Nat) (table : SymbolTable) (code : Int32) : Prop :=
  row.cell position = .ok .null ∧ code = Null.code ∨
    row.cell position = .ok (.symbol code) ∧ table.Holds code

namespace Expr

variable {row : Row} {table : SymbolTable} {position other : Nat} {code otherCode : Int32}
  {left right : Expr}

/-! ### Columns with a table -/

theorem holds_of_holdsCode (held : row.HoldsCode position table code) : table.Holds code := by
  rcases held with ⟨-, rfl⟩ | ⟨-, holds⟩
  · exact Or.inl rfl
  · exact holds

theorem readable_bound (held : row.HoldsCode position table code) :
    (Expr.bound position table).Readable row := by
  refine ⟨.column _ _, conforms_column.mpr ?_⟩
  rcases held with ⟨isNull, -⟩ | ⟨isCode, holds⟩
  · exact ⟨.null, isNull, rfl, nofun⟩
  · refine ⟨.symbol code, isCode, rfl, fun bound held isBound isHeld => ?_⟩
    cases isBound
    cases isHeld
    exact holds

theorem text?_bound (held : row.HoldsCode position table code) :
    (Expr.bound position table).text? row = table.text? code := by
  rw [bound, text?]
  rcases held with ⟨isNull, rfl⟩ | ⟨isCode, -⟩
  · rw [Row.value_of_cell isNull, SymbolTable.text?, if_pos rfl]
    rfl
  · rw [Row.value_of_cell isCode]
    rfl

theorem readable_ofString (row : Row) (text : String) : (Expr.ofString text).Readable row :=
  ⟨.constant rfl, conforms_of_isConstant rfl row⟩

/-! ### Comparisons -/

/-- The comparison of the two expressions can be built, the check accepts it, it answers on the row,
and the answer is whether the condition holds. -/
def ComparesBy (row : Row) (op : ComparisonOp) (left right : Expr) (condition : Prop) : Prop :=
  ∃ built verdict, inferBinary (.comparison op) left right = .ok built ∧
    built.check none = .ok .boolean ∧ built.readBoolean row = .ok verdict ∧
    (verdict = true ↔ condition)

/-- Expressions that meet as texts are compared by what their texts are. -/
theorem comparesBy_text {op : ComparisonOp} {condition : Prop} (leftReadable : left.Readable row)
    (rightReadable : right.Readable row) (shared : left.domain? right = some .text)
    (answers : op.relates (left.text? row) (right.text? row) = true ↔ condition) :
    ComparesBy row op left right condition := by
  have compares : resultType? (.comparison op) left right left.type right.type = some .boolean :=
    resultType?_comparison.mpr ⟨⟨_, shared⟩, rfl⟩
  refine ⟨.binary .boolean (.comparison op) left right, _, ?_, ?_, ?_, answers⟩
  · exact inferBinary_eq_ok_iff.mpr ⟨.boolean, compares, rfl⟩
  · exact check_none_iff.mpr ⟨.comparison leftReadable.typed rightReadable.typed shared, rfl⟩
  · exact readBoolean_of_text leftReadable.typed rightReadable.typed leftReadable.conforms
      rightReadable.conforms shared

/-- Distinct texts make a dictionary. A column with the dictionary equals a text exactly if its cell
is not NULL and holds the code that the text is looked up under, and differs from it exactly if its
cell is not NULL and holds another code; this includes the texts that are not in the dictionary. Two
columns with the dictionary are equal exactly if neither cell is NULL and both hold the same code,
and differ exactly if neither is NULL and the codes differ. -/
theorem dictionary_compares_by_code {texts : List String} (distinct : texts.Nodup)
    (small : texts.length < Dictionary.maxSize) :
    ∃ entries table, Dictionary.ofList texts = .ok entries ∧ table = .dictionary entries ∧
      (∀ row position code text, Row.HoldsCode row position table code →
        ComparesBy row .equal (.bound position table) (.ofString text)
            (code ≠ Null.code ∧ code = table.code text) ∧
          ComparesBy row .notEqual (.bound position table) (.ofString text)
            (code ≠ Null.code ∧ code ≠ table.code text)) ∧
      ∀ row position other code otherCode, Row.HoldsCode row position table code →
        Row.HoldsCode row other table otherCode →
        ComparesBy row .equal (.bound position table) (.bound other table)
            (code ≠ Null.code ∧ otherCode ≠ Null.code ∧ code = otherCode) ∧
          ComparesBy row .notEqual (.bound position table) (.bound other table)
            (code ≠ Null.code ∧ otherCode ≠ Null.code ∧ code ≠ otherCode) := by
  obtain ⟨entries, built⟩ := (Dictionary.exists_ofList_iff small).mpr distinct
  refine ⟨entries, _, built, rfl, ?_, ?_⟩
  · intro row position code text held
    have holds := holds_of_holdsCode held
    have compares (op : ComparisonOp) {condition : Prop} (answers : op.relates
        ((SymbolTable.dictionary entries).text? code) (some text) = true ↔ condition) :
        ComparesBy row op (.bound position (.dictionary entries)) (.ofString text) condition := by
      refine comparesBy_text (readable_bound held) (readable_ofString row text) rfl ?_
      rwa [text?_bound held]
    exact ⟨compares .equal (SymbolTable.relates_equal_text holds),
      compares .notEqual (SymbolTable.relates_notEqual_text holds)⟩
  · intro row position other code otherCode held otherHeld
    have holds := holds_of_holdsCode held
    have otherHolds := holds_of_holdsCode otherHeld
    have compares (op : ComparisonOp) {condition : Prop} (answers : op.relates
        ((SymbolTable.dictionary entries).text? code)
        ((SymbolTable.dictionary entries).text? otherCode) = true ↔ condition) :
        ComparesBy row op (.bound position (.dictionary entries))
          (.bound other (.dictionary entries)) condition := by
      refine comparesBy_text (readable_bound held) (readable_bound otherHeld) rfl ?_
      rwa [text?_bound held, text?_bound otherHeld]
    exact ⟨compares .equal (SymbolTable.relates_equal_texts holds otherHolds),
      compares .notEqual (SymbolTable.relates_notEqual_texts holds otherHolds)⟩

/-- On a row whose cell has the code of another text, a column differs from a text that its
dictionary does not have, and does not equal it. -/
theorem dictionary_compares_by_code_not_found :
    ∃ entries table, Dictionary.ofList ["AAPL", "MSFT"] = .ok entries ∧
      table = .dictionary entries ∧
      (∃ built, inferBinary (.comparison .equal) (.bound 0 table) (.ofString "GOOG") = .ok built ∧
        built.readBoolean (.cells [.symbol 1]) = .ok false) ∧
      ∃ built, inferBinary (.comparison .notEqual) (.bound 0 table) (.ofString "GOOG") =
          .ok built ∧ built.readBoolean (.cells [.symbol 1]) = .ok true := by
  obtain ⟨entries, table, built, isTable, againstText, -⟩ :=
    dictionary_compares_by_code (show ["AAPL", "MSFT"].Nodup by decide) (by decide)
  have texts : entries.texts = ["AAPL", "MSFT"] := Dictionary.texts_of_ofList built
  have held : Row.HoldsCode (.cells [.symbol 1]) 0 table 1 := by
    refine Or.inr ⟨rfl, Or.inr ⟨by decide, ?_⟩⟩
    rw [isTable, SymbolTable.size, SymbolTable.texts, texts]
    decide
  have notFound : table.code "GOOG" = Null.code := by
    rw [isTable]
    refine (SymbolTable.looksUp_dictionary entries).missing "GOOG" ?_
    rw [SymbolTable.texts, texts]
    decide
  obtain ⟨⟨equal, verdict, builtEqual, -, reads, holds⟩,
    ⟨differs, verdictToo, builtDiffers, -, readsToo, holdsToo⟩⟩ :=
    againstText (.cells [.symbol 1]) 0 1 "GOOG" held
  rw [notFound] at holds holdsToo
  have notEqual : verdict = false := Bool.eq_false_iff.mpr fun equals =>
    absurd (holds.mp equals).2 (by decide)
  have different : verdictToo = true := holdsToo.mpr ⟨by decide, by decide⟩
  rw [notEqual] at reads
  rw [different] at readsToo
  exact ⟨entries, table, built, isTable, ⟨equal, builtEqual, reads⟩, differs, builtDiffers,
    readsToo⟩

end Expr

end Columnar
