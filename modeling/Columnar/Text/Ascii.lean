/-
This file compares names without regard to the case of the letters `A` to `Z`. Those 26 letters
are the only ones that change: a name spelled with any other letter, a long `ſ` or a fullwidth
`Ａ` say, is a different name.
-/

namespace Columnar.Ascii

/-- The text with its letters `A` to `Z` made small. -/
def lower (text : String) : String :=
  String.ofList (text.toList.map Char.toLower)

/-- Whether two texts differ at most in the case of the letters `A` to `Z`. -/
def sameName (left right : String) : Bool :=
  lower left == lower right

theorem sameName_iff {left right : String} :
    sameName left right = true ↔ lower left = lower right :=
  beq_iff_eq

theorem sameName_self (name : String) : sameName name name = true :=
  sameName_iff.mpr rfl

end Columnar.Ascii
