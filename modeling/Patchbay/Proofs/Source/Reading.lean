import Patchbay.Proofs.Source.Lines
import Patchbay.Source.Reader

/-!
# Lines read through a buffer

A reader refills its buffer whenever it is used up, so a line may come out of it in many parts.  The
parts add up to the line: `readLine_cases` says that a reader hands out the raw lines of what has
not been consumed, one after the other, whatever the capacity of its buffer is.

Beside the bytes a reader keeps a memory of the last line.  `remember` is what one byte does to this
memory, and reading a line does to it what the bytes of the line do.  Hence a reader that has read a
line shows this line (`readLine_between`).
-/

namespace Patchbay

namespace Source

/-- A line without the line feed at its end. -/
def withoutFeed (raw : Bytes) : Bytes :=
  if raw.getLast? == some lineFeed then raw.dropLast else raw

theorem withoutFeed_append (line : Bytes) : withoutFeed (line ++ [lineFeed]) = line := by
  rw [withoutFeed, if_pos (by simp), List.dropLast_concat]

theorem withoutFeed_of_notMem {raw : Bytes} (h : lineFeed ∉ raw) : withoutFeed raw = raw := by
  rw [withoutFeed, if_neg]
  intro hlast
  exact h (List.mem_of_getLast? (eq_of_beq hlast))

/-- A line that is read as a text is one without its line feed and a carriage return, too. -/
theorem exists_text_of_content {raw : Bytes} {text : List Char}
    (h : content raw = Utf8.encode text) :
    ∃ line, withoutReturn (withoutFeed raw) = Utf8.encode line := by
  unfold content at h
  unfold withoutFeed
  split
  · next hfeed => exact ⟨text, by rwa [if_pos hfeed] at h⟩
  · next hfeed =>
      rw [if_neg hfeed] at h
      exact ⟨withoutReturnChar text, by rw [h, withoutReturn_encode]⟩

/-! ## Raw lines in front -/

/-- What stands before the first line feed goes to the first line. -/
theorem rawLines_append_of_cons {front back line : Bytes} {others : List Bytes}
    (hfront : lineFeed ∉ front) (hback : rawLines back = line :: others) :
    rawLines (front ++ back) = (front ++ line) :: others := by
  induction front with
  | nil => exact hback
  | cons b front ih =>
      rw [List.mem_cons, not_or] at hfront
      rw [List.cons_append, rawLines_cons_of_cons (Ne.symm hfront.1) (ih hfront.2),
        List.cons_append]

theorem rawLines_append_lineFeed {line : Bytes} (hline : lineFeed ∉ line) (rest : Bytes) :
    rawLines (line ++ [lineFeed] ++ rest) = (line ++ [lineFeed]) :: rawLines rest := by
  rw [List.append_assoc, List.singleton_append]
  exact rawLines_append_of_cons hline (rawLines_cons_lineFeed rest)

theorem rawLines_of_notMem {line : Bytes} (hline : lineFeed ∉ line) (hne : line ≠ []) :
    rawLines line = [line] := by
  obtain ⟨front, b, rfl⟩ := (List.eq_nil_or_concat line).resolve_left hne
  rw [List.concat_eq_append] at hline ⊢
  rw [List.mem_append, List.mem_singleton, not_or] at hline
  exact rawLines_append_of_cons hline.1 (rawLines_cons_of_nil (Ne.symm hline.2) rfl)

/-- A raw line ends with its only line feed, or it has none and is not empty. -/
theorem cases_of_mem_rawLines {script raw : Bytes} (h : raw ∈ rawLines script) :
    (∃ line, lineFeed ∉ line ∧ raw = line ++ [lineFeed]) ∨ lineFeed ∉ raw ∧ raw ≠ [] := by
  induction script generalizing raw with
  | nil => cases h
  | cons b rest ih =>
      by_cases hb : b = lineFeed
      · rw [hb, rawLines_cons_lineFeed, List.mem_cons] at h
        rcases h with rfl | h
        · exact .inl ⟨[], by simp, rfl⟩
        · exact ih h
      · cases hrest : rawLines rest with
        | nil =>
            rw [rawLines_cons_of_nil hb hrest, List.mem_singleton] at h
            exact .inr ⟨by simp [h, Ne.symm hb], by simp [h]⟩
        | cons first others =>
            rw [rawLines_cons_of_cons hb hrest, List.mem_cons] at h
            rcases h with rfl | h
            · rcases ih (hrest ▸ List.mem_cons_self) with ⟨line, hline, rfl⟩ | ⟨hfirst, -⟩
              · exact .inl ⟨b :: line, by simp [hline, Ne.symm hb], rfl⟩
              · exact .inr ⟨by simp [hfirst, Ne.symm hb], by simp⟩
            · exact ih (hrest ▸ List.mem_cons_of_mem first h)

end Source

namespace Reader

open Source

/-! ## Memory -/

/-- The bytes since the last line feed, and the last complete line. -/
def memory (reader : Reader) : Bytes × Bytes :=
  (reader.current, reader.last)

/-- What a consumed byte does to the memory. -/
def remember (memory : Bytes × Bytes) (b : UInt8) : Bytes × Bytes :=
  if b == lineFeed then ([], memory.1) else (memory.1 ++ [b], memory.2)

/-- The line that a memory shows. -/
def shown (memory : Bytes × Bytes) : Bytes :=
  if memory.1.isEmpty then memory.2 else memory.1

theorem lastLine_eq (reader : Reader) :
    reader.lastLine = Utf8.decodeLossy (withoutReturn (shown reader.memory)) := rfl

theorem memory_foldl_note (bytes : Bytes) (reader : Reader) :
    (bytes.foldl note reader).memory = bytes.foldl remember reader.memory := by
  induction bytes generalizing reader with
  | nil => rfl
  | cons b bytes ih =>
      have hnote : (reader.note b).memory = remember reader.memory b := by
        unfold note remember memory
        split <;> rfl
      rw [List.foldl_cons, List.foldl_cons, ih, hnote]

theorem foldl_remember_of_notMem {bytes : Bytes} (hbytes : lineFeed ∉ bytes)
    (memory : Bytes × Bytes) : bytes.foldl remember memory = (memory.1 ++ bytes, memory.2) := by
  induction bytes generalizing memory with
  | nil => rw [List.foldl_nil, List.append_nil]
  | cons b bytes ih =>
      rw [List.mem_cons, not_or] at hbytes
      have hremember : remember memory b = (memory.1 ++ [b], memory.2) := by
        rw [remember, if_neg (by simpa using Ne.symm hbytes.1)]
      rw [List.foldl_cons, hremember, ih hbytes.2, List.append_assoc, List.singleton_append]

theorem foldl_remember_line {line : Bytes} (hline : lineFeed ∉ line) (memory : Bytes × Bytes) :
    (line ++ [lineFeed]).foldl remember memory = ([], memory.1 ++ line) := by
  rw [List.foldl_append, foldl_remember_of_notMem hline]
  rfl

/-! ## Parts of a line -/

/-- The part of a line that a buffer holds goes up to the first line feed, or it is all of the
buffer. -/
theorem lineLength_cases (buffer : Bytes) :
    (∃ front rest, lineFeed ∉ front ∧ buffer = front ++ [lineFeed] ++ rest ∧
        lineLength buffer = (front ++ [lineFeed]).length) ∨
      lineFeed ∉ buffer ∧ lineLength buffer = buffer.length := by
  by_cases hmem : lineFeed ∈ buffer
  · obtain ⟨front, rest, rfl, hfront⟩ := List.eq_append_cons_of_mem hmem
    left
    refine ⟨front, rest, hfront, by simp, ?_⟩
    have htake : (front ++ lineFeed :: rest).takeWhile (· != lineFeed) = front := by
      rw [List.takeWhile_append_of_pos, List.takeWhile_cons_of_neg (by simp), List.append_nil]
      intro b hb
      simpa using ne_of_mem_of_not_mem hb hfront
    rw [lineLength, htake, List.length_append, List.length_cons]
    simp
  · right
    have htake : buffer.takeWhile (· != lineFeed) = buffer := by
      have hfree : ∀ b ∈ buffer, (b != lineFeed) = true := by
        intro b hb
        simpa using ne_of_mem_of_not_mem hb hmem
      have hall : (buffer ++ []).takeWhile (· != lineFeed) = buffer ++ [] := by
        rw [List.takeWhile_append_of_pos hfree, List.takeWhile_nil]
      rwa [List.append_nil] at hall
    refine ⟨hmem, ?_⟩
    rw [lineLength, htake]
    omega

/-! ## Whole lines -/

/-- A reader whose buffer can be refilled, and whose source has no fault. -/
structure Ready (reader : Reader) : Prop where
  capacity_pos : 0 < reader.capacity
  fault_eq : reader.fault = none

theorem Ready.foldl_note {reader : Reader} (h : reader.Ready) (bytes : Bytes) :
    (bytes.foldl note reader).Ready := by
  induction bytes generalizing reader with
  | nil => exact h
  | cons b bytes ih =>
      refine ih ?_
      unfold note
      split <;> exact ⟨h.capacity_pos, h.fault_eq⟩

theorem Ready.drain {reader : Reader} (h : reader.Ready) (count : Nat) :
    (reader.drain count).Ready :=
  ⟨(h.foldl_note _).capacity_pos, (h.foldl_note _).fault_eq⟩

theorem memory_drain (count : Nat) (reader : Reader) :
    (reader.drain count).memory = (reader.buffer.take count).foldl remember reader.memory :=
  memory_foldl_note (reader.buffer.take count) reader

/-- Refilling changes neither what is left nor the memory, and leaves the buffer empty only at the
end. -/
theorem fill_cases {reader : Reader} (h : reader.Ready) :
    ∃ filled, reader.fill = .ok filled ∧ filled.Ready ∧ filled.memory = reader.memory ∧
      (filled.buffer = [] → reader.unread = []) := by
  obtain ⟨hcapacity, hfault⟩ := h
  unfold fill
  split
  · next hbuffer =>
      refine ⟨reader, rfl, ⟨hcapacity, hfault⟩, rfl, ?_⟩
      intro hempty
      simp [hempty] at hbuffer
  · next hbuffer =>
      have hnil : reader.buffer = [] := by simpa using hbuffer
      split
      · next hrest =>
          rw [hfault]
          refine ⟨reader, rfl, ⟨hcapacity, hfault⟩, rfl, ?_⟩
          intro _
          simpa [unread, hnil] using hrest
      · next hrest =>
          refine ⟨_, rfl, ⟨hcapacity, hfault⟩, rfl, ?_⟩
          intro hempty
          -- a buffer of at least one byte takes something of what is left
          have htake : reader.rest = [] := by
            rcases List.take_eq_nil_iff.1 hempty with hzero | hrest
            · omega
            · exact hrest
          simp [htake] at hrest

theorem unread_take_drain {reader filled : Reader} (hfill : reader.fill = .ok filled)
    (count : Nat) :
    filled.buffer.take count ++ (filled.drain count).unread = reader.unread := by
  rw [← unread_of_fill hfill, unread_drain, ← List.append_assoc, List.take_append_drop]
  rfl

/-- A reader hands out the next raw line, or nothing at the end; its memory is then the one that the
bytes of the line leave. -/
theorem readLine_cases {reader : Reader} (h : reader.Ready) :
    ∃ raw next, reader.readLine = .ok (raw, next) ∧ next.Ready ∧
      next.memory = raw.foldl remember reader.memory ∧
        ((raw = [] ∧ reader.unread = []) ∨
          raw ≠ [] ∧ rawLines reader.unread = raw :: rawLines next.unread) := by
  fun_induction readLine reader with
  | case1 reader fault hfill =>
      obtain ⟨filled, hok, -⟩ := fill_cases h
      rw [hfill] at hok
      cases hok
  | case2 reader filled hfill hempty =>
      obtain ⟨filled', hok, hready, hmemory, hend⟩ := fill_cases h
      rw [hfill] at hok
      cases hok
      exact ⟨[], filled, rfl, hready, hmemory, .inl ⟨rfl, hend hempty⟩⟩
  | case3 reader filled hfill hempty count part next hlast =>
      obtain ⟨filled', hok, hready, hmemory, -⟩ := fill_cases h
      rw [hfill] at hok
      cases hok
      have hpart : part ++ next.unread = reader.unread := unread_take_drain hfill count
      rcases lineLength_cases filled.buffer with
        ⟨front, rest, hfront, hbuffer, hcount⟩ | ⟨hfree, hcount⟩
      · have hline : part = front ++ [lineFeed] := by
          simp only [part, count, hcount, hbuffer, List.take_left']
        refine ⟨part, next, rfl, hready.drain count, ?_, .inr ⟨by simp [hline], ?_⟩⟩
        · rw [memory_drain, hmemory]
        · rw [← hpart, hline]
          exact rawLines_append_lineFeed hfront next.unread
      · -- without a line feed in the buffer the part does not end with one
        have hmem : lineFeed ∈ part := List.mem_of_getLast? (eq_of_beq hlast)
        exact absurd (List.mem_of_mem_take hmem) hfree
  | case4 reader filled hfill hempty count part next hlast ih =>
      obtain ⟨filled', hok, hready, hmemory, -⟩ := fill_cases h
      rw [hfill] at hok
      cases hok
      have hpart : part ++ next.unread = reader.unread := unread_take_drain hfill count
      rcases lineLength_cases filled.buffer with
        ⟨front, rest, hfront, hbuffer, hcount⟩ | ⟨hfree, hcount⟩
      · have hline : part = front ++ [lineFeed] := by
          simp only [part, count, hcount, hbuffer, List.take_left']
        simp [hline] at hlast
      · have hall : part = filled.buffer := by
          simp only [part, count, hcount, List.take_length]
        rw [← hall] at hempty hfree
        obtain ⟨more, final, hmore, hfinal, hremember, hrest⟩ := ih (hready.drain count)
        refine ⟨part ++ more, final, ?_, hfinal, ?_, .inr ⟨by simp [hempty], ?_⟩⟩
        · rw [hmore]
          rfl
        · rw [hremember, memory_drain, hmemory, List.foldl_append]
        · rw [← hpart]
          rcases hrest with ⟨rfl, hend⟩ | ⟨-, hlines⟩
          · have hnil : final.unread = [] := by
              have hleft := unread_of_readLine hmore
              rwa [hend, List.nil_append] at hleft
            rw [hend, hnil, List.append_nil, rawLines_of_notMem hfree hempty]
            rfl
          · exact rawLines_append_of_cons hfree hlines

/-- A memory without the beginning of a line shows the line whose bytes come next. -/
theorem shown_foldl_remember {script raw : Bytes} (hraw : raw ∈ rawLines script) (last : Bytes) :
    shown (raw.foldl remember ([], last)) = withoutFeed raw := by
  rcases cases_of_mem_rawLines hraw with ⟨line, hline, rfl⟩ | ⟨hfree, hne⟩
  · rw [foldl_remember_line hline, withoutFeed_append]
    rfl
  · rw [foldl_remember_of_notMem hfree, withoutFeed_of_notMem hfree, shown, List.nil_append]
    exact if_neg (by simpa using hne)

/-- A reader that has consumed whole lines, of which only the last may have no line feed. -/
def BetweenLines (reader : Reader) : Prop :=
  reader.current = [] ∨ reader.unread = []

/-- Behind a raw line without a line feed there is nothing. -/
theorem eq_nil_of_rawLines {raw rest : Bytes} (hraw : lineFeed ∉ raw)
    (hlines : rawLines (raw ++ rest) = raw :: rawLines rest) : rest = [] := by
  cases hrest : rawLines rest with
  | nil =>
      rw [← flatten_rawLines rest, hrest]
      rfl
  | cons line others =>
      rw [rawLines_append_of_cons hraw hrest, hrest] at hlines
      have hempty : line = [] := by
        have hhead := (List.cons.inj hlines).1
        simpa using hhead
      have hline : line ∈ rawLines rest := by simp [hrest]
      rcases cases_of_mem_rawLines hline with ⟨front, -, rfl⟩ | ⟨-, hne⟩
      · simp at hempty
      · exact absurd hempty hne

/-- A reader between two lines is at the end, or reads the next line and shows it. -/
theorem readLine_between {reader : Reader} (h : reader.Ready) (hbetween : reader.BetweenLines) :
    (reader.unread = [] ∧ ∃ next, reader.readLine = .ok ([], next)) ∨
      ∃ raw next, reader.readLine = .ok (raw, next) ∧ raw ≠ [] ∧
        rawLines reader.unread = raw :: rawLines next.unread ∧ next.Ready ∧ next.BetweenLines ∧
          shown next.memory = withoutFeed raw := by
  obtain ⟨raw, next, hread, hready, hmemory, ⟨rfl, hend⟩ | ⟨hne, hlines⟩⟩ := readLine_cases h
  · exact .inl ⟨hend, next, hread⟩
  · have hunread := unread_of_readLine hread
    have hraw : raw ∈ rawLines reader.unread := by simp [hlines]
    have hcurrent : reader.current = [] := by
      refine hbetween.resolve_right ?_
      intro hend
      rw [hend] at hlines
      cases hlines
    have hempty : reader.memory = ([], reader.last) := by
      rw [memory, hcurrent]
    rw [hempty] at hmemory
    refine .inr ⟨raw, next, hread, hne, hlines, hready, ?_, ?_⟩
    · rcases cases_of_mem_rawLines hraw with ⟨line, hline, rfl⟩ | ⟨hfree, -⟩
      · left
        rw [foldl_remember_line hline] at hmemory
        exact congrArg Prod.fst hmemory
      · right
        rw [← hunread] at hlines
        exact eq_nil_of_rawLines hfree hlines
    · rw [hmemory]
      exact shown_foldl_remember hraw reader.last

end Reader

end Patchbay
