import CppIdioms.Literal.Number

/-!
# Replacements that are one literal

A replacement that only names a constant is one literal, perhaps with a sign in front of a number,
perhaps in parentheses.

## Contents

* `unparenthesize`: tokens without the parentheses around all of them.
* `singleLiteral?`: the literal that tokens consist of.
-/

namespace CppIdioms.Literal

/-- The tokens without the parentheses around them, as long as something stands between an opening
one at the start and a closing one at the end. -/
def unparenthesize (ts : List String) : List String :=
  if 3 ≤ ts.length && ts.head? == some "(" && ts.getLast? == some ")" then
    unparenthesize (ts.drop 1).dropLast
  else ts
termination_by ts.length
decreasing_by
  simp_all only [Bool.and_eq_true, decide_eq_true_eq, List.length_dropLast, List.length_drop]
  omega

/-- The literal that the tokens between parentheses consist of. -/
def bareLiteral? : List String → Option String
  | [t] => if isNumber t.toList || isString t.toList || isChar t.toList then some t else none
  | [sign, t] =>
    if (sign == "-" || sign == "+") && isNumber t.toList then some (sign ++ t) else none
  | _ => none

/-- The literal that tokens consist of, if they consist of one (`_single_literal`). -/
def singleLiteral? (ts : List String) : Option String := bareLiteral? (unparenthesize ts)

end CppIdioms.Literal
