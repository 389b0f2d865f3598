import Inventory.Unicode.Category
/-!
# Printable characters

The characters that quoting writes as themselves: letters, marks, numbers, punctuation and
symbols of every script (the general categories `L`, `M`, `N`, `P` and `S` of Unicode 17.0),
and the ASCII space. Every other character (controls, format characters, surrogates, private
use, unassigned code points, and the separators other than the ASCII space) is written as an
escape.
-/

set_option autoImplicit false

namespace Inventory.Text

/-- **A printable character.** -/
def isPrintable (c : Char) : Bool :=
  c.toNat == 0x20 ||
    match (Unicode.category c.toNat).toList.head? with
    | some 'L' | some 'M' | some 'N' | some 'P' | some 'S' => true
    | _ => false

end Inventory.Text
