import Patchbay.Source.Fault
import Patchbay.Source.Lines

/-!
# Reading a script through a buffer

A reader hands out the bytes of a script through a buffer of limited capacity, which is refilled
only when it is used up.  It remembers the line most recently consumed, which is the line that an
error in a script points at; it does so byte by byte, so that it does not matter where the buffer
cuts a line.
-/

namespace Patchbay

/-- A script that is being read. -/
structure Reader where
  /-- The path of the script, if it is a file. -/
  path : Option String
  /-- The most bytes that the buffer takes at once. -/
  capacity : Nat
  /-- The bytes in the buffer. -/
  buffer : Bytes
  /-- The bytes that have not reached the buffer. -/
  rest : Bytes
  /-- What the source answers when it has no more bytes: a fault, or the end. -/
  fault : Option SystemError
  /-- The bytes consumed since the last line feed. -/
  current : Bytes
  /-- The last complete line, without its line feed. -/
  last : Bytes
deriving DecidableEq, Repr

namespace Reader

/-- A reader before the first byte. -/
def new (path : Option String) (capacity : Nat) (script : Bytes) : Reader :=
  ⟨path, capacity, [], script, none, [], []⟩

/-- A reader of a source that cannot be read. -/
def unreadable (path : Option String) (fault : SystemError) : Reader :=
  ⟨path, 1, [], [], some fault, [], []⟩

/-- The name of the script in messages. -/
def name (reader : Reader) : String :=
  reader.path.getD "<stdin>"

/-- The bytes that have not been consumed. -/
def unread (reader : Reader) : Bytes :=
  reader.buffer ++ reader.rest

/-- Refills the buffer if it is empty. -/
def fill (reader : Reader) : Except SystemError Reader :=
  if !reader.buffer.isEmpty then .ok reader
  else if reader.rest.isEmpty then
    match reader.fault with
    | some fault => .error fault
    | none => .ok reader
  else
    .ok { reader with
      buffer := reader.rest.take reader.capacity
      rest := reader.rest.drop reader.capacity }

/-- Takes a consumed byte into the memory of the last line. -/
def note (reader : Reader) (b : UInt8) : Reader :=
  if b == Source.lineFeed then { reader with last := reader.current, current := [] }
  else { reader with current := reader.current ++ [b] }

/-- Consumes bytes from the buffer as it stands, at most all of them. -/
def drain (count : Nat) (reader : Reader) : Reader :=
  let noted := (reader.buffer.take count).foldl note reader
  { noted with buffer := reader.buffer.drop count }

/-- Consumes bytes from the buffer, which is refilled first if it is empty. -/
def consume (count : Nat) (reader : Reader) : Reader :=
  match reader.fill with
  | .ok filled => filled.drain count
  | .error _ => reader

/-- The bytes in the buffer, which is refilled first if it is empty. -/
def peek (reader : Reader) : Except SystemError (Bytes × Reader) :=
  reader.fill.map (fun filled => (filled.buffer, filled))

/-- Reads at most `count` bytes, and at most what is in the buffer. -/
def read (count : Nat) (reader : Reader) : Except SystemError (Bytes × Reader) :=
  reader.fill.map (fun filled => (filled.buffer.take count, filled.drain count))

/-- The last line consumed: what follows the last line feed if there is any of it, and the last
complete line otherwise, without one carriage return at its end. -/
def lastLine (reader : Reader) : List Char :=
  let line := if reader.current.isEmpty then reader.last else reader.current
  Utf8.decodeLossy (Source.withoutReturn line)

/-- The number of bytes up to and including the first line feed, or all of them. -/
def lineLength (bytes : Bytes) : Nat :=
  let front := (bytes.takeWhile (· != Source.lineFeed)).length
  min (front + 1) bytes.length

theorem unread_of_fill {reader filled : Reader} (h : reader.fill = .ok filled) :
    filled.unread = reader.unread := by
  unfold fill at h
  split at h
  · cases h; rfl
  · next hempty =>
    have hnil : reader.buffer = [] := by simpa using hempty
    split at h
    · split at h <;> cases h
      rfl
    · cases h
      simp [unread, hnil]

theorem foldl_note_rest (bytes : Bytes) (reader : Reader) :
    (bytes.foldl note reader).rest = reader.rest := by
  induction bytes generalizing reader with
  | nil => rfl
  | cons b bytes ih =>
    rw [List.foldl_cons, ih]
    unfold note
    split <;> rfl

theorem unread_drain (count : Nat) (reader : Reader) :
    (reader.drain count).unread = reader.buffer.drop count ++ reader.rest := by
  simp [drain, unread, foldl_note_rest]

theorem lineLength_pos {bytes : Bytes} (h : bytes ≠ []) : 0 < lineLength bytes := by
  have := List.length_pos_iff.2 h
  simp only [lineLength]
  omega

/-- Reads up to and including the next line feed, or up to the end, refilling the buffer as often
as needed. -/
def readLine (reader : Reader) : Except SystemError (Bytes × Reader) :=
  match _fill : reader.fill with
  | .error fault => .error fault
  | .ok filled =>
    if _empty : filled.buffer = [] then .ok ([], filled)
    else
      let count := lineLength filled.buffer
      let part := filled.buffer.take count
      let next := filled.drain count
      if part.getLast? == some Source.lineFeed then .ok (part, next)
      else next.readLine.map (fun (more, final) => (part ++ more, final))
termination_by reader.unread.length
decreasing_by
  rw [unread_drain, ← unread_of_fill _fill]
  have := lineLength_pos _empty
  have := List.length_pos_iff.2 _empty
  simp only [unread, List.length_append, List.length_drop]
  omega

theorem unread_of_readLine {reader next : Reader} {line : Bytes}
    (h : reader.readLine = .ok (line, next)) : line ++ next.unread = reader.unread := by
  fun_induction readLine reader generalizing line next with
  | case1 reader fault hfill => cases h
  | case2 reader filled hfill hempty =>
    cases h
    simpa using unread_of_fill hfill
  | case3 reader filled hfill hempty count part =>
    cases h
    rw [← unread_of_fill hfill, unread_drain, ← List.append_assoc, List.take_append_drop]
    rfl
  | case4 reader filled hfill hempty count part next' =>
    rename_i ih
    cases hmore : next'.readLine with
    | error fault => rw [hmore] at h; cases h
    | ok answer =>
      obtain ⟨more, final⟩ := answer
      rw [hmore] at h
      cases h
      rw [List.append_assoc, ih hmore, ← unread_of_fill hfill, unread_drain,
        ← List.append_assoc, List.take_append_drop]
      rfl

end Reader

end Patchbay
