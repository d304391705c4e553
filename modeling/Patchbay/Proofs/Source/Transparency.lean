import Mathlib.Data.List.Induction
import Patchbay.Proofs.Source.Reading

/-!
# A reader takes nothing away

A reader stands between a source and whoever reads it, and nothing should be seen of it but the
memory of the last line.  There are four calls to get at the bytes: to read some of them, to read a
line, to look at the buffer, and to consume what was seen there.  They can be made in any order, and
each of them may find the buffer used up and refill it.

Every call takes bytes off the front of what is left, and does to the memory what these bytes do
(`make_cases`).  So after any calls the bytes taken so far are the beginning of the source, with
nothing lost and nothing twice, and the line that the reader remembers is the one that these bytes
end with (`makeAll_transparent`).
-/

namespace Patchbay

namespace Source

/-! ## The line at the end -/

/-- What follows the last line feed. -/
def behindLastFeed (bytes : Bytes) : Bytes :=
  (bytes.reverse.takeWhile (· != lineFeed)).reverse

/-- The line that bytes end with: what follows the last line feed if there is any of it, and the
last complete line otherwise, which is empty if there is none. -/
def endingLine (bytes : Bytes) : Bytes :=
  if (behindLastFeed bytes).isEmpty then behindLastFeed bytes.dropLast else behindLastFeed bytes

theorem behindLastFeed_append_lineFeed (bytes : Bytes) :
    behindLastFeed (bytes ++ [lineFeed]) = [] := by
  rw [behindLastFeed, List.reverse_append, List.reverse_singleton, List.singleton_append,
    List.takeWhile_cons_of_neg (by simp), List.reverse_nil]

theorem behindLastFeed_append_of_ne (bytes : Bytes) {b : UInt8} (hb : b ≠ lineFeed) :
    behindLastFeed (bytes ++ [b]) = behindLastFeed bytes ++ [b] := by
  rw [behindLastFeed, List.reverse_append, List.reverse_singleton, List.singleton_append,
    List.takeWhile_cons_of_pos (by simpa using hb), List.reverse_cons, behindLastFeed]

end Source

namespace Reader

open Source

/-- A reader remembers of the bytes it has consumed what follows their last line feed, and while
this is empty also the line before. -/
theorem foldl_remember_eq (bytes : Bytes) :
    (bytes.foldl remember ([], [])).1 = behindLastFeed bytes ∧
      (behindLastFeed bytes = [] →
        (bytes.foldl remember ([], [])).2 = behindLastFeed bytes.dropLast) := by
  induction bytes using List.reverseRecOn with
  | nil => exact ⟨rfl, fun _ => rfl⟩
  | append_singleton bytes b ih =>
      rw [List.foldl_append, List.foldl_cons, List.foldl_nil, List.dropLast_concat, remember]
      by_cases hb : b = lineFeed
      · rw [hb, behindLastFeed_append_lineFeed, if_pos (by simp)]
        exact ⟨rfl, fun _ => ih.1⟩
      · rw [behindLastFeed_append_of_ne bytes hb, if_neg (by simpa using hb), ih.1]
        exact ⟨rfl, fun hnil => absurd hnil (by simp)⟩

theorem shown_foldl_remember_nil (bytes : Bytes) :
    shown (bytes.foldl remember ([], [])) = endingLine bytes := by
  obtain ⟨hcurrent, hlast⟩ := foldl_remember_eq bytes
  rw [shown, endingLine, hcurrent]
  split
  · next hempty => exact hlast (List.isEmpty_iff.1 hempty)
  · rfl

/-! ## Calls -/

/-- A call on a reader. -/
inductive Call where
  | read (count : Nat)
  | readLine
  | peek
  | consume (count : Nat)
deriving DecidableEq, Repr

/-- Makes a call, and answers with the bytes that it takes: those that are read, and of those that
looking shows the ones that are consumed.  Looking itself takes none. -/
def make (reader : Reader) : Call → Except SystemError (Bytes × Reader)
  | .read count => reader.read count
  | .readLine => reader.readLine
  | .peek => reader.peek.map fun (_, next) => ([], next)
  | .consume count => reader.peek.map fun (seen, _) => (seen.take count, reader.consume count)

/-- Makes calls one after the other. -/
def makeAll (reader : Reader) : List Call → Except SystemError (List Bytes × Reader)
  | [] => .ok ([], reader)
  | call :: calls => do
      let (taken, next) ← reader.make call
      let (more, final) ← next.makeAll calls
      return (taken :: more, final)

/-- What was there before a call is what it has taken and what is there now, and the memory is that
of the bytes taken. -/
structure Passes (reader : Reader) (taken : Bytes) (next : Reader) : Prop where
  ready : next.Ready
  unread : taken ++ next.unread = reader.unread
  memory : next.memory = taken.foldl remember reader.memory

theorem passes_of_fill {reader filled : Reader} (hfill : reader.fill = .ok filled)
    (hready : filled.Ready) (hmemory : filled.memory = reader.memory) :
    Passes reader [] filled :=
  ⟨hready, unread_of_fill hfill, hmemory⟩

theorem passes_of_drain {reader filled : Reader} (hfill : reader.fill = .ok filled)
    (hready : filled.Ready) (hmemory : filled.memory = reader.memory) (count : Nat) :
    Passes reader (filled.buffer.take count) (filled.drain count) := by
  refine ⟨hready.drain count, unread_take_drain hfill count, ?_⟩
  rw [memory_drain, hmemory]

/-- No call fails, and each takes bytes off the front. -/
theorem make_cases {reader : Reader} (h : reader.Ready) (call : Call) :
    ∃ taken next, reader.make call = .ok (taken, next) ∧ Passes reader taken next := by
  obtain ⟨filled, hfill, hready, hmemory, -⟩ := fill_cases h
  cases call with
  | read count =>
      refine ⟨_, _, ?_, passes_of_drain hfill hready hmemory count⟩
      rw [make, read, hfill]
      rfl
  | readLine =>
      obtain ⟨raw, next, hread, hnext, hremember, -⟩ := readLine_cases h
      exact ⟨raw, next, hread, hnext, unread_of_readLine hread, hremember⟩
  | peek =>
      refine ⟨_, _, ?_, passes_of_fill hfill hready hmemory⟩
      rw [make, peek, hfill]
      rfl
  | consume count =>
      refine ⟨_, _, ?_, passes_of_drain hfill hready hmemory count⟩
      rw [make, peek, consume, hfill]
      rfl

theorem makeAll_cases {reader : Reader} (h : reader.Ready) (calls : List Call) :
    ∃ taken final, reader.makeAll calls = .ok (taken, final) ∧
      Passes reader taken.flatten final := by
  induction calls generalizing reader with
  | nil => exact ⟨[], reader, rfl, h, rfl, rfl⟩
  | cons call calls ih =>
      obtain ⟨taken, next, hmake, hpasses⟩ := make_cases h call
      obtain ⟨more, final, hmore, hfinal⟩ := ih hpasses.ready
      refine ⟨taken :: more, final, ?_, hfinal.ready, ?_, ?_⟩
      · rw [makeAll, hmake]
        change (next.makeAll calls >>= _) = _
        rw [hmore]
        rfl
      · rw [List.flatten_cons, List.append_assoc, hfinal.unread, hpasses.unread]
      · rw [List.flatten_cons, List.foldl_append, hfinal.memory, hpasses.memory]

/-! ## What the calls take -/

/-- What each call does next: reading some bytes, reading a line and looking all go on where the
reader stands and come to nothing only at the end, and as many bytes as were seen can be
consumed. -/
structure Serves (reader : Reader) : Prop where
  read : ∀ count, ∃ part next, reader.make (.read count) = .ok (part, next) ∧
    part <+: reader.unread ∧ part.length ≤ count ∧
      (part = [] → count = 0 ∨ reader.unread = [])
  readLine : ∃ next, reader.make .readLine =
    .ok ((rawLines reader.unread).head?.getD [], next)
  peek : ∃ seen next, reader.peek = .ok (seen, next) ∧ seen <+: reader.unread ∧
    (seen = [] → reader.unread = []) ∧
      ∀ count ≤ seen.length, ∃ next, reader.make (.consume count) =
        .ok (reader.unread.take count, next)

theorem serves_of_ready {reader : Reader} (h : reader.Ready) : reader.Serves := by
  obtain ⟨filled, hfill, -, -, hend⟩ := fill_cases h
  have hbuffer : filled.buffer <+: reader.unread := by
    rw [← unread_of_fill hfill]
    exact List.prefix_append _ _
  refine ⟨?_, ?_, ?_⟩
  · intro count
    refine ⟨filled.buffer.take count, filled.drain count, ?_,
      (List.take_prefix count _).trans hbuffer, List.length_take_le count _, ?_⟩
    · rw [make, read, hfill]
      rfl
    · intro hnil
      exact (List.take_eq_nil_iff.1 hnil).imp id hend
  · obtain ⟨raw, next, hread, -, -, ⟨rfl, hnil⟩ | ⟨-, hlines⟩⟩ := readLine_cases h
    · exact ⟨next, by rw [hnil]; exact hread⟩
    · exact ⟨next, by rw [hlines]; exact hread⟩
  · refine ⟨filled.buffer, filled, by rw [peek, hfill]; rfl, hbuffer, hend, ?_⟩
    intro count hcount
    obtain ⟨rest, hrest⟩ := hbuffer
    refine ⟨filled.drain count, ?_⟩
    rw [make, peek, consume, hfill, ← hrest, List.take_append_of_le_length hcount]
    rfl

/-- Whatever calls are made on a reader, and wherever its buffer cuts the source, the bytes that the
calls take are a beginning of the source, and what is left is the rest of it.  The line that the
reader remembers depends on these bytes alone: it is the one that they end with, without one
carriage return.  Every call takes what it should of the rest. -/
theorem makeAll_transparent (path : Option String) {capacity : Nat} (hcapacity : 0 < capacity)
    (source : Bytes) (calls : List Call) :
    ∃ taken reader, (Reader.new path capacity source).makeAll calls = .ok (taken, reader) ∧
      taken.flatten ++ reader.unread = source ∧
        reader.lastLine = Utf8.decodeLossy (withoutReturn (endingLine taken.flatten)) ∧
          reader.Serves := by
  have hready : (Reader.new path capacity source).Ready := ⟨hcapacity, rfl⟩
  obtain ⟨taken, reader, hmake, hpasses⟩ := makeAll_cases hready calls
  have hmemory : reader.memory = taken.flatten.foldl remember ([], []) := hpasses.memory
  refine ⟨taken, reader, hmake, hpasses.unread, ?_, serves_of_ready hpasses.ready⟩
  rw [lastLine_eq, hmemory, shown_foldl_remember_nil]

/-- A buffer of two bytes cuts a line between its carriage return and its line feed.  Its bytes are
taken in parts, up to the line feed; one of them is no UTF-8. -/
theorem makeAll_transparent_cut_ending :
    0 < 2 ∧ ∃ reader, (Reader.new none 2 [0x61, 0xFF, 0x62, 0x0D, 0x0A, 0x63]).makeAll
        [.peek, .consume 1, .read 9, .read 2, .consume 1] =
          .ok ([[], [0x61], [0xFF], [0x62, 0x0D], [0x0A]], reader) ∧
      reader.unread = [0x63] ∧ reader.lastLine = ['a', '\uFFFD', 'b'] := by
  obtain ⟨taken, reader, hmake, hunread, hlast, -⟩ := makeAll_transparent none
    (show 0 < 2 by decide) [0x61, 0xFF, 0x62, 0x0D, 0x0A, 0x63]
    [.peek, .consume 1, .read 9, .read 2, .consume 1]
  have htaken : taken = [[], [0x61], [0xFF], [0x62, 0x0D], [0x0A]] := by
    have hanswers : ((Reader.new none 2 [0x61, 0xFF, 0x62, 0x0D, 0x0A, 0x63]).makeAll
        [.peek, .consume 1, .read 9, .read 2, .consume 1]).map Prod.fst =
          .ok [[], [0x61], [0xFF], [0x62, 0x0D], [0x0A]] := by
      rfl
    rw [hmake] at hanswers
    exact Except.ok.inj hanswers
  subst htaken
  refine ⟨by decide, reader, hmake, ?_, ?_⟩
  · simpa using hunread
  · rw [hlast]
    decide +kernel

end Reader

end Patchbay
