/-!
# UTF-8

Scripts arrive as bytes and are read line by line as text.  Encoding writes each character in
its one shortest form.  Reading is done one step at a time: a step looks at the front of a byte
list and finds either a character or an ill-formed sequence, in both cases with the number of
further bytes it covers.  The strict reader refuses ill-formed sequences; the lenient one writes
U+FFFD for each of them.

An ill-formed sequence is as long as the longest beginning of a well-formed one, so a character
that is cut short gives a single replacement.
-/

namespace Patchbay

/-- A finite sequence of bytes. -/
abbrev Bytes := List UInt8

namespace Utf8

/-- The bytes of one character. -/
def encodeChar (c : Char) : Bytes :=
  let n := c.toNat
  if n < 0x80 then [UInt8.ofNat n]
  else if n < 0x800 then [UInt8.ofNat (0xC0 + n / 0x40), UInt8.ofNat (0x80 + n % 0x40)]
  else if n < 0x10000 then
    [UInt8.ofNat (0xE0 + n / 0x1000), UInt8.ofNat (0x80 + n / 0x40 % 0x40),
      UInt8.ofNat (0x80 + n % 0x40)]
  else
    [UInt8.ofNat (0xF0 + n / 0x40000), UInt8.ofNat (0x80 + n / 0x1000 % 0x40),
      UInt8.ofNat (0x80 + n / 0x40 % 0x40), UInt8.ofNat (0x80 + n % 0x40)]

/-- The bytes of a text. -/
def encode (text : List Char) : Bytes :=
  text.flatMap encodeChar

/-- A text without its first `count` bytes, if these are whole characters. -/
def dropBytes? : List Char → Nat → Option (List Char)
  | text, 0 => some text
  | [], _ + 1 => none
  | c :: rest, count + 1 =>
    let size := (encodeChar c).length
    if size ≤ count + 1 then dropBytes? rest (count + 1 - size) else none

/-- What stands at the front of a byte sequence, after its first byte: a character that takes
`more` further bytes, or an ill-formed sequence of `more` further bytes. -/
inductive Step where
  | character (c : Char) (more : Nat)
  | illFormed (more : Nat)
deriving DecidableEq, Repr

/-- The number of bytes beyond the first that a step covers. -/
def Step.more : Step → Nat
  | character _ n => n
  | illFormed n => n

/-- A byte that continues a character: `10xxxxxx`. -/
def continues (b : UInt8) : Bool :=
  0x80 ≤ b && b ≤ 0xBF

/-- The six bits that a continuing byte carries. -/
def payload (b : UInt8) : Nat :=
  b.toNat % 0x40

/-- The second bytes that may follow a lead byte: the ranges after `E0` and `F0` leave out the
longer forms of small characters, those after `ED` and `F4` the surrogates and what lies beyond
U+10FFFF. -/
def secondAllowed (lead second : UInt8) : Bool :=
  if lead == 0xE0 then 0xA0 ≤ second && second ≤ 0xBF
  else if lead == 0xED then 0x80 ≤ second && second ≤ 0x9F
  else if lead == 0xF0 then 0x90 ≤ second && second ≤ 0xBF
  else if lead == 0xF4 then 0x80 ≤ second && second ≤ 0x8F
  else continues second

/-- Reads the front of a byte sequence that begins with `lead`. -/
def step (lead : UInt8) (rest : Bytes) : Step :=
  let n := lead.toNat
  if n < 0x80 then .character (Char.ofNat n) 0
  else if n < 0xC2 then .illFormed 0
  else if n < 0xE0 then
    match rest with
    | b :: _ =>
      if continues b then .character (Char.ofNat (n % 0x20 * 0x40 + payload b)) 1
      else .illFormed 0
    | [] => .illFormed 0
  else if n < 0xF0 then
    match rest with
    | b :: c :: _ =>
      if secondAllowed lead b then
        if continues c then
          .character (Char.ofNat (n % 0x10 * 0x1000 + payload b * 0x40 + payload c)) 2
        else .illFormed 1
      else .illFormed 0
    | [b] => if secondAllowed lead b then .illFormed 1 else .illFormed 0
    | [] => .illFormed 0
  else if n < 0xF5 then
    match rest with
    | b :: c :: d :: _ =>
      if secondAllowed lead b then
        if continues c then
          if continues d then
            .character
              (Char.ofNat (n % 0x08 * 0x40000 + payload b * 0x1000 + payload c * 0x40 + payload d))
              3
          else .illFormed 2
        else .illFormed 1
      else .illFormed 0
    | [b, c] =>
      if secondAllowed lead b then if continues c then .illFormed 2 else .illFormed 1
      else .illFormed 0
    | [b] => if secondAllowed lead b then .illFormed 1 else .illFormed 0
    | [] => .illFormed 0
  else .illFormed 0

/-- The text of a well-formed byte sequence. -/
def decode? : Bytes → Option (List Char)
  | [] => some []
  | lead :: rest =>
    match step lead rest with
    | .character c more => (decode? (rest.drop more)).map (c :: ·)
    | .illFormed _ => none
termination_by bytes => bytes.length
decreasing_by
  simp only [List.length_drop, List.length_cons]
  omega

/-- What stands for an ill-formed sequence in a text read leniently. -/
def replacement : Char := Char.ofNat 0xFFFD

/-- The text of any byte sequence, with one replacement for each ill-formed part. -/
def decodeLossy : Bytes → List Char
  | [] => []
  | lead :: rest =>
    match step lead rest with
    | .character c more => c :: decodeLossy (rest.drop more)
    | .illFormed more => replacement :: decodeLossy (rest.drop more)
termination_by bytes => bytes.length
decreasing_by
  all_goals
    simp only [List.length_drop, List.length_cons]
    omega

end Utf8

end Patchbay
