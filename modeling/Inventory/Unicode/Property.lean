import Inventory.Unicode.Category
import Inventory.Unicode.Script
/-!
# Unicode property names

A character-class escape names a set of code points by a Unicode property value:

* a general category, by its short name (`Lu`, `Nd`) or long name (`Uppercase_Letter`,
  `Decimal_Number`); a one-letter name (`L`, `C`) is the union of the categories it heads, so
  `C` holds the unassigned code points as well, and `LC` is the cased letters `Lu`, `Ll`, `Lt`;
* a script (`Greek`, `Zanabazar_Square`) by its long name; the four-letter codes are not names
  here;
* `Any` (every code point), `ASCII` (the first 128) and `Assigned` (every code point not in
  `Cn`).

Names are matched loosely: letter case, spaces, underscores and hyphens are ignored, so
`uppercase letter`, `Uppercase-Letter` and `UPPERCASELETTER` name one set.
-/

set_option autoImplicit false

namespace Inventory.Unicode

/-- A name with letter case, spaces, underscores and hyphens set aside. -/
def looseName (s : String) : String :=
  String.ofList ((s.toList.filter fun c => c != ' ' && c != '_' && c != '-').map Char.toLower)

/-- The long names and other aliases of the general categories and their unions. -/
def categoryAliases : List (String × String) :=
  [("Other", "C"), ("Control", "Cc"), ("cntrl", "Cc"), ("Format", "Cf"), ("Unassigned", "Cn"),
   ("Private_Use", "Co"), ("Surrogate", "Cs"), ("Letter", "L"), ("Cased_Letter", "LC"),
   ("Lowercase_Letter", "Ll"), ("Modifier_Letter", "Lm"), ("Other_Letter", "Lo"),
   ("Titlecase_Letter", "Lt"), ("Uppercase_Letter", "Lu"), ("Mark", "M"),
   ("Combining_Mark", "M"), ("Spacing_Mark", "Mc"), ("Enclosing_Mark", "Me"),
   ("Nonspacing_Mark", "Mn"), ("Number", "N"), ("Decimal_Number", "Nd"), ("digit", "Nd"),
   ("Letter_Number", "Nl"), ("Other_Number", "No"), ("Punctuation", "P"), ("punct", "P"),
   ("Connector_Punctuation", "Pc"), ("Dash_Punctuation", "Pd"), ("Close_Punctuation", "Pe"),
   ("Final_Punctuation", "Pf"), ("Initial_Punctuation", "Pi"), ("Other_Punctuation", "Po"),
   ("Open_Punctuation", "Ps"), ("Symbol", "S"), ("Currency_Symbol", "Sc"),
   ("Modifier_Symbol", "Sk"), ("Math_Symbol", "Sm"), ("Other_Symbol", "So"),
   ("Separator", "Z"), ("Line_Separator", "Zl"), ("Paragraph_Separator", "Zp"),
   ("Space_Separator", "Zs")]

/-- The categories a short category name stands for: itself, the categories a one-letter name
heads, or the cased letters for `LC`. -/
def categoryMembers? (short : String) : Option (List String) :=
  if short == "LC" then some ["Lu", "Ll", "Lt"]
  else if categoryNames.contains short then some [short]
  else
    match short.toList with
    | [major] =>
      match categoryNames.filter (fun n => n.toList.head? == some major) with
      | [] => none
      | ms => some ms
    | _ => none

/-- The short category name a loose name matches, by short name first, then by alias. -/
def categoryShort? (loose : String) : Option String :=
  let shorts := "LC" :: categoryNames ++ ["C", "L", "M", "N", "P", "S", "Z"]
  match shorts.find? (fun s => looseName s == loose) with
  | some s => some s
  | none => (categoryAliases.find? fun (a, _) => looseName a == loose).map Prod.snd

/-- **The code points a property name stands for**, if it names one: a special name, a general
category, or a script, in that order. -/
def property? (name : String) : Option Ranges :=
  let loose := looseName name
  if loose == "any" then some [(0, maxCode)]
  else if loose == "ascii" then some [(0, 0x7F)]
  else if loose == "assigned" then some (Ranges.complement (categoryRanges ["Cn"]))
  else
    match (categoryShort? loose).bind categoryMembers? with
    | some members => some (categoryRanges members)
    | none =>
      match scriptNames.find? (fun s => looseName s == loose) with
      | some s => scriptRanges? s
      | none => none

end Inventory.Unicode
