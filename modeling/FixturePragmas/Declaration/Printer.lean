import FixturePragmas.Declaration
import FixturePragmas.Text.Numeral

/-!
# Printing declarations

An issue prints as its column, its message between double quotes, or both; one without either prints
as an empty message. A declaration prints as its code in brackets, followed by a colon and its
issues if it has some. Declarations are joined by semicolons.
-/

namespace FixturePragmas

/-- Texts with `separator` between them. -/
def Text.joined (separator : List Char) : List (List Char) → List Char
  | [] => []
  | [t] => t
  | t :: ts => t ++ separator ++ Text.joined separator ts

/-- A message between double quotes. -/
def Issue.quotation (i : Issue) : List Char := '"' :: i.message.toList ++ ['"']

/-- The written form of an issue. -/
def Issue.render (i : Issue) : List Char :=
  if i.column = 0 then i.quotation
  else if i.message = "" then Text.Numeral.ofInt i.column
  else Text.Numeral.ofInt i.column ++ ' ' :: i.quotation

/-- The written form of a declaration. -/
def Declaration.render (d : Declaration) : List Char :=
  let code := '[' :: d.code.toList ++ [']']
  if d.issues = [] then code
  else code ++ [':', ' '] ++ Text.joined [',', ' '] (d.issues.map Issue.render)

/-- The written form of several declarations. -/
def Declaration.renderAll (ds : List Declaration) : List Char :=
  Text.joined [';', ' '] (ds.map Declaration.render)

end FixturePragmas
