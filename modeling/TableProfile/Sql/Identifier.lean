/-!
# Quoted identifiers

A name in a statement stands between double quotes, and each double quote
of the name is written twice. Reading takes the text up to the first
double quote that no other follows; a doubled one stands for one. So no
name can end its own quotation, whatever characters it has.
-/

namespace TableProfile.Sql

/-- The characters of a name with each double quote written twice. -/
def doubled : List Char → List Char
  | [] => []
  | c :: rest => if c = '"' then '"' :: '"' :: doubled rest else c :: doubled rest

/-- **A name as a quoted identifier.** -/
def quote (name : String) : String :=
  String.ofList ('"' :: doubled name.toList ++ ['"'])

/-- **A table of a schema**: both names quoted, with a dot between. -/
def qualified (schema table : String) : String :=
  quote schema ++ "." ++ quote table

/-- The name up to the quote that closes it, and the text after that. -/
def quotedName? : List Char → Option (List Char × List Char)
  | [] => none
  | '"' :: '"' :: rest => (quotedName? rest).map fun (name, rest) => ('"' :: name, rest)
  | c :: rest =>
    if c = '"' then some ([], rest)
    else (quotedName? rest).map fun (name, rest) => (c :: name, rest)

/-- **Reads a quoted identifier**, and gives the text after it. -/
def readQuoted? : List Char → Option (List Char × List Char)
  | '"' :: rest => quotedName? rest
  | _ => none

/-- Reads two quoted identifiers with a dot between, and gives the text
after them. -/
def readQualified? (text : List Char) : Option (List Char × List Char × List Char) :=
  match readQuoted? text with
  | some (schema, '.' :: rest) =>
    (readQuoted? rest).map fun (table, rest) => (schema, table, rest)
  | _ => none

end TableProfile.Sql
