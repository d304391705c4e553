/-!
# JSON documents

The decoded records of a stream can be shown as a JSON document.  A number is kept as its text, so
that the document decides nothing about digits.  A document is written compactly on one line, or
pretty with one entry per line and two spaces per level.
-/

namespace Patchbay

/-- A JSON document; the fields of an object keep their order. -/
inductive Json where
  | number (text : String)
  | bool (b : Bool)
  | string (s : String)
  | array (items : List Json)
  | object (fields : List (String × Json))

namespace Json

/-- The hexadecimal digit of a number below sixteen. -/
def hexDigit (n : Nat) : Char :=
  Nat.digitChar n

/-- How a character is written inside a string. -/
def escapedChar (c : Char) : List Char :=
  if c == '"' then ['\\', '"']
  else if c == '\\' then ['\\', '\\']
  else if c == '\x08' then ['\\', 'b']
  else if c == '\t' then ['\\', 't']
  else if c == '\n' then ['\\', 'n']
  else if c == '\x0c' then ['\\', 'f']
  else if c == '\r' then ['\\', 'r']
  else if c.toNat < 0x20 then
    ['\\', 'u', '0', '0', hexDigit (c.toNat / 16), hexDigit (c.toNat % 16)]
  else [c]

/-- A string between double quotes. -/
def quoted (s : String) : String :=
  "\"" ++ String.ofList (s.toList.flatMap escapedChar) ++ "\""

mutual

/-- The document on one line, without blanks. -/
def compact : Json → String
  | number text => text
  | bool b => if b then "true" else "false"
  | string s => quoted s
  | array items => "[" ++ ",".intercalate (compactItems items) ++ "]"
  | object fields => "\x7b" ++ ",".intercalate (compactFields fields) ++ "\x7d"

/-- The items of an array, each on one line. -/
def compactItems : List Json → List String
  | [] => []
  | item :: rest => item.compact :: compactItems rest

/-- The fields of an object, each on one line. -/
def compactFields : List (String × Json) → List String
  | [] => []
  | (key, value) :: rest => (quoted key ++ ":" ++ value.compact) :: compactFields rest

end

/-- The start of a line at a level. -/
def lineStart (level : Nat) : String :=
  "\n" ++ String.ofList (List.replicate (2 * level) ' ')

/-- Entries between brackets, one per line, a level deeper than the brackets. -/
def block (opening closing : String) (level : Nat) (entries : List String) : String :=
  if entries.isEmpty then opening ++ closing
  else
    opening ++ ",".intercalate (entries.map (lineStart (level + 1) ++ ·)) ++ lineStart level ++
      closing

mutual

/-- The document with one entry per line, standing at a level. -/
def prettyAt (level : Nat) : Json → String
  | number text => text
  | bool b => if b then "true" else "false"
  | string s => quoted s
  | array items => block "[" "]" level (prettyItems level items)
  | object fields => block "\x7b" "\x7d" level (prettyFields level fields)

/-- The items of an array that stands at a level. -/
def prettyItems (level : Nat) : List Json → List String
  | [] => []
  | item :: rest => item.prettyAt (level + 1) :: prettyItems level rest

/-- The fields of an object that stands at a level. -/
def prettyFields (level : Nat) : List (String × Json) → List String
  | [] => []
  | (key, value) :: rest =>
    (quoted key ++ ": " ++ value.prettyAt (level + 1)) :: prettyFields level rest

end

/-- The document with one entry per line. -/
def pretty (document : Json) : String :=
  document.prettyAt 0

end Json

end Patchbay
