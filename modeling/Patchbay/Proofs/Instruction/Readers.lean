import Mathlib.Data.List.TakeWhile
import Patchbay.Instruction.Decoder
import Patchbay.Proofs.Value.Codec

/-!
# What the readers of a stream accept

Every reader of the decoder takes something off the front of a cursor.  `Passes cursor bytes next`
says that `next` is the cursor behind `bytes`, and for each reader there is one lemma of the form

    read cursor = .ok (x, next) ↔ x is well formed ∧ cursor.Passes x.wire next

so that a reader accepts the written forms of well-formed things and nothing else.  The lemmas of
the larger readers follow from those of the smaller ones, because passing a concatenation is passing
its parts in turn (`passes_append_iff`).

The one reader that does not fit is that of instructions: two empty strings are the operands of an
instruction that adds an instance, and the beginning of those of one that clears all instances.
Which of the two it is shows in the byte that follows.
-/

namespace Patchbay

/-! ## Well-formed instructions -/

/-- The name is ASCII without NUL, and the value is one of its tag. -/
structure Assignment.WellFormed (a : Assignment) : Prop where
  name : canTravel a.name.toList = true
  value : a.value.tag.Holds a.value.value

/-- The values of a block are well formed, and one byte can count them. -/
structure Assignment.WellFormedList (values : List Assignment) : Prop where
  limit : values.length ≤ 255
  all : ∀ a ∈ values, a.WellFormed

/-- All strings are ASCII without NUL, and all values belong to their tags. -/
def Instruction.WellFormed : Instruction → Prop
  | clearInstances => True
  | addInstance id name => canTravel id.toList = true ∧ canTravel name.toList = true
  | removeInstance name => canTravel name.toList = true
  | setValues element values =>
      canTravel element.toList = true ∧ Assignment.WellFormedList values
  | updateValues element values =>
      canTravel element.toList = true ∧ Assignment.WellFormedList values
  | updateValue element value => canTravel element.toList = true ∧ value.WellFormed
  | deleteValue element control => canTravel element.toList = true ∧ canTravel control.toList = true
  | connect sink source => canTravel sink.toList = true ∧ canTravel source.toList = true
  | disconnect origin destination =>
      canTravel origin.toList = true ∧ canTravel destination.toList = true

namespace TaggedValue

/-- The bytes of a value behind the code of its tag; the terminator of a string is one of them. -/
def payload (v : TaggedValue) : Bytes :=
  v.bytes ++ if v.tag = .string then [terminator] else []

theorem wire_eq (v : TaggedValue) : v.wire = [v.tag.codeByte] ++ v.payload := rfl

theorem payload_of_width {v : TaggedValue} {width : Nat} (h : v.tag.width? = some width) :
    v.payload = v.value.bytes width := by
  have hstring : v.tag ≠ .string := by
    intro hstring
    rw [hstring] at h
    cases h
  rw [payload, bytes, h, if_neg hstring, List.append_nil, Option.getD_some]

theorem payload_of_string {v : TaggedValue} (h : v.tag = .string) :
    v.payload = v.value.bytes 0 ++ [terminator] := by
  rw [payload, bytes, h, if_pos rfl]
  rfl

end TaggedValue

/-- A byte is read as an opcode exactly when it is the letter of the opcode. -/
theorem Opcode.ofByte?_eq_some_iff {b : UInt8} {opcode : Opcode} :
    ofByte? b = some opcode ↔ b = opcode.byte := by
  constructor
  · intro h
    rw [byte, letter_of_ofLetter? h, toNat_ofNat_toNat, UInt8.ofNat_toNat]
  · rintro rfl
    exact ofByte?_byte opcode

namespace Cursor

/-! ## Passing bytes -/

/-- `next` is the cursor behind `bytes`. -/
structure Passes (cursor : Cursor) (bytes : Bytes) (next : Cursor) : Prop where
  rest : cursor.rest = bytes ++ next.rest
  offset : next.offset = cursor.offset + bytes.length

theorem Passes.eq_drop {cursor next : Cursor} {bytes : Bytes} (h : cursor.Passes bytes next) :
    next = ⟨cursor.offset + bytes.length, cursor.rest.drop bytes.length⟩ := by
  obtain ⟨offset, rest⟩ := next
  rw [h.rest, List.drop_left, ← h.offset]

theorem passes_append_iff {cursor next : Cursor} {front back : Bytes} :
    cursor.Passes (front ++ back) next ↔
      ∃ middle : Cursor, cursor.Passes front middle ∧ middle.Passes back next := by
  constructor
  · rintro ⟨hrest, hoffset⟩
    refine ⟨⟨cursor.offset + front.length, back ++ next.rest⟩, ⟨?_, rfl⟩, ⟨rfl, ?_⟩⟩
    · rw [hrest, List.append_assoc]
    · rw [hoffset, List.length_append, Nat.add_assoc]
  · rintro ⟨middle, ⟨hrest, hoffset⟩, ⟨hrest', hoffset'⟩⟩
    refine ⟨?_, ?_⟩
    · rw [hrest, hrest', List.append_assoc]
    · rw [hoffset', hoffset, List.length_append, Nat.add_assoc]

theorem passes_nil_iff {cursor next : Cursor} : cursor.Passes [] next ↔ cursor = next := by
  constructor
  · rintro ⟨hrest, hoffset⟩
    obtain ⟨offset, rest⟩ := next
    obtain ⟨offset', rest'⟩ := cursor
    simp only [List.nil_append, List.length_nil, Nat.add_zero] at hrest hoffset
    rw [hrest, hoffset]
  · rintro rfl
    exact ⟨rfl, rfl⟩

theorem bind_eq_ok_iff {α β : Type} {first : Except StreamFault α}
    {next : α → Except StreamFault β} {b : β} :
    (first >>= next) = .ok b ↔ ∃ a, first = .ok a ∧ next a = .ok b := by
  constructor
  · exact bind_eq_ok
  · rintro ⟨a, rfl, h⟩
    exact h

/-! ## Bytes and strings -/

section

variable {record : Nat} {cursor next : Cursor}

theorem byte_eq_ok_iff {b : UInt8} :
    cursor.byte record = .ok (b, next) ↔ cursor.Passes [b] next := by
  unfold byte
  constructor
  · intro h
    split at h
    · cases h
    · next hrest =>
        cases h
        exact ⟨hrest, rfl⟩
  · intro h
    rw [h.rest, h.eq_drop, h.rest]
    rfl

theorem take_eq_ok_iff {count : Nat} {bytes : Bytes} :
    cursor.take record count = .ok (bytes, next) ↔
      bytes.length = count ∧ cursor.Passes bytes next := by
  unfold take
  constructor
  · intro h
    split at h
    · next hcount =>
        cases h
        have hlength : (cursor.rest.take count).length = count := List.length_take_of_le hcount
        refine ⟨hlength, ?_, ?_⟩
        · rw [List.take_append_drop]
        · rw [hlength]
    · cases h
  · rintro ⟨rfl, h⟩
    have hle : bytes.length ≤ cursor.rest.length := by
      rw [h.rest, List.length_append]
      exact Nat.le_add_right _ _
    rw [if_pos hle, ← h.eq_drop, h.rest, List.take_left]

theorem ne_terminator_iff {b : UInt8} : (b != terminator) = true ↔ b.toNat ≠ 0 := by
  rw [bne_iff_ne, ne_eq, ← UInt8.toNat_inj]
  rfl

theorem eq_append_of_dropWhile {rest tail : Bytes} {b : UInt8}
    (h : rest.dropWhile (· != terminator) = b :: tail) :
    rest = rest.takeWhile (· != terminator) ++ terminator :: tail := by
  have hb : b = terminator := by
    have hhead := List.head?_dropWhile_not (· != terminator) rest
    rw [h] at hhead
    simpa using hhead
  calc rest = rest.takeWhile (· != terminator) ++ rest.dropWhile (· != terminator) :=
        List.takeWhile_append_dropWhile.symm
    _ = rest.takeWhile (· != terminator) ++ terminator :: tail := by rw [h, hb]

theorem splitAt_terminator {body : Bytes} (h : ∀ b ∈ body, b.toNat ≠ 0) (tail : Bytes) :
    (body ++ terminator :: tail).takeWhile (· != terminator) = body ∧
      (body ++ terminator :: tail).dropWhile (· != terminator) = terminator :: tail := by
  have hbody : ∀ b ∈ body, (b != terminator) = true := by
    intro b hb
    exact ne_terminator_iff.2 (h b hb)
  rw [List.takeWhile_append_of_pos hbody, List.dropWhile_append_of_pos hbody]
  simp

/-- A string ends at its terminator, which is none of its own bytes. -/
theorem string_eq_ok_iff {s : String} :
    cursor.string = .ok (s, next) ↔
      canTravel s.toList = true ∧ cursor.Passes (wireString s) next := by
  unfold string wireString
  constructor
  · intro h
    simp only at h
    split at h
    · cases h
    · next b rest hdrop =>
        split at h
        · next hascii =>
            cases h
            have hbytes : ∀ c ∈ cursor.rest.takeWhile (· != terminator),
                c.toNat < 128 ∧ c.toNat ≠ 0 := by
              intro c hc
              have hlt := List.all_eq_true.1 hascii c hc
              have hne := List.mem_takeWhile_imp hc
              exact ⟨UInt8.lt_iff_toNat_lt.1 (of_decide_eq_true hlt), ne_terminator_iff.1 hne⟩
            -- so the bytes before the terminator are those of the string that was read
            obtain ⟨htravel, hencode⟩ := asciiText_eq_iff.1 ⟨hbytes, rfl⟩
            refine ⟨htravel, ?_, ?_⟩
            · rw [hencode, List.append_assoc, List.singleton_append]
              exact eq_append_of_dropWhile hdrop
            · rw [hencode, List.length_append]
              rfl
        · cases h
  · rintro ⟨htravel, h⟩
    obtain ⟨hbytes, htext⟩ := asciiText_eq_iff.2 ⟨htravel, rfl⟩
    have hrest : cursor.rest = Utf8.encode s.toList ++ terminator :: next.rest := by
      rw [h.rest, List.append_assoc, List.singleton_append]
    obtain ⟨htake, hdrop⟩ := splitAt_terminator (fun b hb => (hbytes b hb).2) next.rest
    have hascii : (Utf8.encode s.toList).all (· < 128) = true := by
      rw [List.all_eq_true]
      intro b hb
      exact decide_eq_true (UInt8.lt_iff_toNat_lt.2 (hbytes b hb).1)
    have hoffset : cursor.offset + (Utf8.encode s.toList).length + 1 = next.offset := by
      rw [h.offset, List.length_append]
      rfl
    rw [hrest, htake, hdrop]
    simp only [hascii, if_true, htext, hoffset]

theorem twoStrings_eq_ok_iff {first second : String} :
    cursor.twoStrings = .ok ((first, second), next) ↔
      (canTravel first.toList = true ∧ canTravel second.toList = true) ∧
        cursor.Passes (wireString first ++ wireString second) next := by
  rw [passes_append_iff, twoStrings, bind_eq_ok_iff]
  constructor
  · rintro ⟨⟨s, middle⟩, hfirst, h⟩
    obtain ⟨⟨s', last⟩, hsecond, h⟩ := bind_eq_ok h
    cases h
    rw [string_eq_ok_iff] at hfirst hsecond
    exact ⟨⟨hfirst.1, hsecond.1⟩, middle, hfirst.2, hsecond.2⟩
  · rintro ⟨⟨hfirst, hsecond⟩, middle, hpasses, hpasses'⟩
    refine ⟨(first, middle), string_eq_ok_iff.2 ⟨hfirst, hpasses⟩, ?_⟩
    exact bind_eq_ok_iff.2 ⟨(second, next), string_eq_ok_iff.2 ⟨hsecond, hpasses'⟩, rfl⟩

/-! ## Values and assignments -/

theorem tag_eq_ok_iff {tag : Tag} :
    cursor.tag record = .ok (tag, next) ↔ cursor.Passes [tag.codeByte] next := by
  unfold Cursor.tag
  constructor
  · intro h
    split at h
    · cases h
    · next b middle hbyte =>
        split at h
        · next t htag =>
            cases h
            rw [← Tag.ofByte?_eq_some_iff.1 htag]
            exact byte_eq_ok_iff.1 hbyte
        · cases h
  · intro h
    simp only [byte_eq_ok_iff.2 h, Tag.ofByte?_codeByte]

theorem value_eq_ok_iff_of_width {tag : Tag} {width : Nat} (hwidth : tag.width? = some width)
    {v : TaggedValue} :
    cursor.value record tag = .ok (v, next) ↔
      v.tag = tag ∧ tag.Holds v.value ∧ cursor.Passes (v.value.bytes width) next := by
  unfold value
  simp only [hwidth]
  constructor
  · intro h
    split at h
    · cases h
    · next bytes middle htake =>
        split at h
        · next value hvalue =>
            cases h
            obtain ⟨hholds, hbytes⟩ := (Tag.decode?_eq_some_iff hwidth).1 hvalue
            rw [hbytes]
            exact ⟨rfl, hholds, (take_eq_ok_iff.1 htake).2⟩
        · cases h
  · rintro ⟨rfl, hholds, h⟩
    have htake : cursor.take record width = .ok (_, next) :=
      take_eq_ok_iff.2 ⟨hholds.length_bytes hwidth, h⟩
    have hvalue := (Tag.decode?_eq_some_iff hwidth).2 ⟨hholds, rfl⟩
    simp only [htake, hvalue]

theorem value_string_eq_ok_iff {v : TaggedValue} :
    cursor.value record .string = .ok (v, next) ↔
      v.tag = .string ∧ Tag.string.Holds v.value ∧
        cursor.Passes (v.value.bytes 0 ++ [terminator]) next := by
  unfold value
  simp only [Tag.width?]
  constructor
  · intro h
    split at h
    · cases h
    · next s middle hstring =>
        cases h
        obtain ⟨htravel, hpasses⟩ := string_eq_ok_iff.1 hstring
        exact ⟨rfl, .string htravel, hpasses⟩
  · obtain ⟨tag, value⟩ := v
    rintro ⟨rfl, hholds, h⟩
    cases hholds with
    | string htravel => simp only [string_eq_ok_iff.2 ⟨htravel, h⟩]

/-- A value is read under its tag. -/
theorem value_eq_ok_iff {tag : Tag} {v : TaggedValue} :
    cursor.value record tag = .ok (v, next) ↔
      v.tag = tag ∧ tag.Holds v.value ∧ cursor.Passes v.payload next := by
  cases hwidth : tag.width? with
  | some width =>
      rw [value_eq_ok_iff_of_width hwidth]
      refine and_congr_right fun htag => ?_
      rw [TaggedValue.payload_of_width (htag ▸ hwidth)]
  | none =>
      cases tag with
      | string =>
          rw [value_string_eq_ok_iff]
          refine and_congr_right fun htag => ?_
          rw [TaggedValue.payload_of_string htag]
      | _ => cases hwidth

theorem assignment_eq_ok_iff {a : Assignment} :
    cursor.assignment record = .ok (a, next) ↔ a.WellFormed ∧ cursor.Passes a.wire next := by
  rw [Assignment.wire, TaggedValue.wire_eq, passes_append_iff, assignment, bind_eq_ok_iff]
  constructor
  · rintro ⟨⟨name, behindName⟩, hname, h⟩
    obtain ⟨⟨tag, behindTag⟩, htag, h⟩ := bind_eq_ok h
    obtain ⟨⟨value, last⟩, hvalue, h⟩ := bind_eq_ok h
    cases h
    rw [string_eq_ok_iff] at hname
    rw [tag_eq_ok_iff] at htag
    rw [value_eq_ok_iff] at hvalue
    obtain ⟨rfl, hholds, hpasses⟩ := hvalue
    exact ⟨⟨hname.1, hholds⟩, behindName, hname.2, passes_append_iff.2 ⟨behindTag, htag, hpasses⟩⟩
  · rintro ⟨⟨hname, hholds⟩, behindName, hpasses, h⟩
    obtain ⟨behindTag, htag, hvalue⟩ := passes_append_iff.1 h
    refine ⟨(a.name, behindName), string_eq_ok_iff.2 ⟨hname, hpasses⟩, ?_⟩
    refine bind_eq_ok_iff.2 ⟨(a.value.tag, behindTag), tag_eq_ok_iff.2 htag, ?_⟩
    exact bind_eq_ok_iff.2 ⟨(a.value, next), value_eq_ok_iff.2 ⟨rfl, hholds, hvalue⟩, rfl⟩

end

theorem assignments_eq_ok_iff {record count : Nat} {cursor next : Cursor}
    {values : List Assignment} :
    assignments record count cursor = .ok (values, next) ↔
      values.length = count ∧ (∀ a ∈ values, a.WellFormed) ∧
        cursor.Passes (values.flatMap Assignment.wire) next := by
  -- the count comes before the list in the bytes, so the induction is on the count
  induction count generalizing cursor values with
  | zero =>
      rw [assignments, List.length_eq_zero_iff]
      constructor
      · intro h
        cases h
        exact ⟨rfl, by simp, passes_nil_iff.2 rfl⟩
      · rintro ⟨rfl, -, h⟩
        rw [passes_nil_iff.1 h]
  | succ count ih =>
      rw [assignments, bind_eq_ok_iff]
      constructor
      · rintro ⟨⟨first, middle⟩, hfirst, h⟩
        obtain ⟨⟨others, last⟩, hothers, h⟩ := bind_eq_ok h
        cases h
        rw [assignment_eq_ok_iff] at hfirst
        obtain ⟨hlength, hwell, hpasses⟩ := ih.1 hothers
        refine ⟨congrArg (· + 1) hlength, ?_, ?_⟩
        · intro a ha
          rcases List.mem_cons.1 ha with rfl | ha
          · exact hfirst.1
          · exact hwell a ha
        · rw [List.flatMap_cons]
          exact passes_append_iff.2 ⟨middle, hfirst.2, hpasses⟩
      · rintro ⟨hlength, hwell, h⟩
        cases values with
        | nil => cases hlength
        | cons first others =>
            rw [List.flatMap_cons] at h
            obtain ⟨middle, hpasses, hpasses'⟩ := passes_append_iff.1 h
            have hfirst := hwell first List.mem_cons_self
            refine ⟨(first, middle), assignment_eq_ok_iff.2 ⟨hfirst, hpasses⟩, ?_⟩
            refine bind_eq_ok_iff.2 ⟨(others, next), ih.2 ⟨Nat.succ.inj hlength, ?_, hpasses'⟩, rfl⟩
            intro a ha
            exact hwell a (List.mem_cons_of_mem first ha)

/-- The byte in front of a list counts it, so the list has at most 255 assignments. -/
theorem block_eq_ok_iff {record : Nat} {cursor next : Cursor} {element : String}
    {values : List Assignment} :
    cursor.block record = .ok ((element, values), next) ↔
      (canTravel element.toList = true ∧ Assignment.WellFormedList values) ∧
        cursor.Passes (wireString element ++ Assignment.wireList values) next := by
  have hwire : Assignment.wireList values =
      [UInt8.ofNat values.length] ++ values.flatMap Assignment.wire := rfl
  rw [hwire, passes_append_iff, block, bind_eq_ok_iff]
  constructor
  · rintro ⟨⟨s, behindElement⟩, helement, h⟩
    obtain ⟨⟨count, behindCount⟩, hcount, h⟩ := bind_eq_ok h
    obtain ⟨⟨values', last⟩, hvalues, h⟩ := bind_eq_ok h
    cases h
    rw [string_eq_ok_iff] at helement
    rw [byte_eq_ok_iff] at hcount
    obtain ⟨hlength, hwell, hpasses⟩ := assignments_eq_ok_iff.1 hvalues
    -- the count is a byte, and the values are as many as it says
    have hlimit : values.length ≤ 255 := by
      have := count.toNat_lt
      omega
    rw [hlength, UInt8.ofNat_toNat]
    exact ⟨⟨helement.1, hlimit, hwell⟩, behindElement, helement.2,
      passes_append_iff.2 ⟨behindCount, hcount, hpasses⟩⟩
  · rintro ⟨⟨helement, hlimit, hwell⟩, behindElement, hpasses, h⟩
    obtain ⟨behindCount, hcount, hvalues⟩ := passes_append_iff.1 h
    have hlength : (UInt8.ofNat values.length).toNat = values.length := by
      rw [UInt8.toNat_ofNat', Nat.mod_eq_of_lt]
      omega
    refine ⟨(element, behindElement), string_eq_ok_iff.2 ⟨helement, hpasses⟩, ?_⟩
    refine bind_eq_ok_iff.2 ⟨(UInt8.ofNat values.length, behindCount), byte_eq_ok_iff.2 hcount, ?_⟩
    refine bind_eq_ok_iff.2 ⟨(values, next), ?_, rfl⟩
    exact assignments_eq_ok_iff.2 ⟨hlength.symm, hwell, hvalues⟩

/-! ## Instructions -/

/-- An instruction can end in front of `next`: two empty strings add an instance only if no further
NUL follows. -/
def Ends (i : Instruction) (next : Cursor) : Prop :=
  i = .addInstance "" "" → next.rest.head? ≠ some terminator

theorem instance?_eq_iff {id name : String} {cursor next : Cursor} {i : Instruction} :
    cursor.instance? id name = (i, next) ↔
      (i = .clearInstances ∧ id = "" ∧ name = "" ∧ cursor.Passes [terminator] next) ∨
        (i = .addInstance id name ∧ cursor = next ∧ Ends i next) := by
  unfold instance?
  constructor
  · intro h
    split at h
    · next b rest hrest =>
        split at h
        · next hclear =>
            cases h
            simp only [Bool.and_eq_true, String.isEmpty_iff, beq_iff_eq] at hclear
            obtain ⟨⟨hid, hname⟩, rfl⟩ := hclear
            exact .inl ⟨rfl, hid, hname, hrest, rfl⟩
        · next hclear =>
            cases h
            refine .inr ⟨rfl, rfl, ?_⟩
            -- with a NUL behind two empty strings the other branch would have been taken
            rintro hempty hhead
            cases hempty
            rw [hrest, List.head?_cons, Option.some.injEq] at hhead
            rw [hhead] at hclear
            exact hclear rfl
    · next hrest =>
        cases h
        refine .inr ⟨rfl, rfl, ?_⟩
        rintro - hhead
        rw [hrest] at hhead
        cases hhead
  · rintro (⟨rfl, rfl, rfl, h⟩ | ⟨rfl, rfl, h⟩)
    · rw [h.rest, h.eq_drop, h.rest]
      rfl
    · split
      · next b rest hrest =>
          split
          · next hclear =>
              simp only [Bool.and_eq_true, String.isEmpty_iff, beq_iff_eq] at hclear
              obtain ⟨⟨rfl, rfl⟩, rfl⟩ := hclear
              exact absurd (by rw [hrest]; rfl) (h rfl)
          · rfl
      · rfl

theorem ends_of_ne {i : Instruction} (h : i ≠ .addInstance "" "") (next : Cursor) :
    Ends i next := by
  intro hi
  exact absurd hi h

section

variable {record : Nat} {cursor next : Cursor} {i : Instruction}

theorem of_operands_eq_ok {opcode : Opcode} (h : cursor.operands record opcode = .ok (i, next)) :
    i.opcode = opcode ∧ i.WellFormed ∧ cursor.Passes i.operands next ∧ Ends i next := by
  cases opcode with
  | addInstance =>
      obtain ⟨⟨⟨id, name⟩, middle⟩, hstrings, h⟩ := bind_eq_ok h
      obtain ⟨htravel, hpasses⟩ := twoStrings_eq_ok_iff.1 hstrings
      rcases instance?_eq_iff.1 (Except.ok.inj h) with ⟨rfl, rfl, rfl, hmore⟩ | ⟨rfl, rfl, hends⟩
      · -- the two empty strings and the NUL behind them are the three operand bytes
        refine ⟨rfl, trivial, ?_, ends_of_ne (by simp) next⟩
        exact passes_append_iff.2 ⟨middle, hpasses, hmore⟩
      · exact ⟨rfl, htravel, hpasses, hends⟩
  | removeInstance =>
      obtain ⟨⟨name, middle⟩, hname, h⟩ := bind_eq_ok h
      cases h
      obtain ⟨htravel, hpasses⟩ := string_eq_ok_iff.1 hname
      exact ⟨rfl, htravel, hpasses, ends_of_ne (by simp) next⟩
  | setValues =>
      obtain ⟨⟨⟨element, values⟩, middle⟩, hblock, h⟩ := bind_eq_ok h
      cases h
      obtain ⟨hwell, hpasses⟩ := block_eq_ok_iff.1 hblock
      exact ⟨rfl, hwell, hpasses, ends_of_ne (by simp) next⟩
  | updateValues =>
      obtain ⟨⟨⟨element, values⟩, middle⟩, hblock, h⟩ := bind_eq_ok h
      cases h
      obtain ⟨hwell, hpasses⟩ := block_eq_ok_iff.1 hblock
      exact ⟨rfl, hwell, hpasses, ends_of_ne (by simp) next⟩
  | updateValue =>
      obtain ⟨⟨element, middle⟩, helement, h⟩ := bind_eq_ok h
      obtain ⟨⟨value, last⟩, hvalue, h⟩ := bind_eq_ok h
      cases h
      obtain ⟨htravel, hpasses⟩ := string_eq_ok_iff.1 helement
      obtain ⟨hwell, hpasses'⟩ := assignment_eq_ok_iff.1 hvalue
      exact ⟨rfl, ⟨htravel, hwell⟩, passes_append_iff.2 ⟨middle, hpasses, hpasses'⟩,
        ends_of_ne (by simp) next⟩
  | deleteValue =>
      obtain ⟨⟨⟨element, control⟩, middle⟩, hstrings, h⟩ := bind_eq_ok h
      cases h
      obtain ⟨htravel, hpasses⟩ := twoStrings_eq_ok_iff.1 hstrings
      exact ⟨rfl, htravel, hpasses, ends_of_ne (by simp) next⟩
  | connect =>
      obtain ⟨⟨⟨sink, source⟩, middle⟩, hstrings, h⟩ := bind_eq_ok h
      cases h
      obtain ⟨htravel, hpasses⟩ := twoStrings_eq_ok_iff.1 hstrings
      exact ⟨rfl, htravel, hpasses, ends_of_ne (by simp) next⟩
  | disconnect =>
      obtain ⟨⟨⟨origin, destination⟩, middle⟩, hstrings, h⟩ := bind_eq_ok h
      cases h
      obtain ⟨htravel, hpasses⟩ := twoStrings_eq_ok_iff.1 hstrings
      exact ⟨rfl, htravel, hpasses, ends_of_ne (by simp) next⟩

theorem operands_of_passes (hwell : i.WellFormed) (hpasses : cursor.Passes i.operands next)
    (hends : Ends i next) : cursor.operands record i.opcode = .ok (i, next) := by
  cases i with
  | clearInstances =>
      -- the one record whose bytes are no fields: two empty strings and a third terminator
      have hoperands : Instruction.clearInstances.operands =
          wireString "" ++ wireString "" ++ [terminator] := rfl
      rw [hoperands, passes_append_iff] at hpasses
      obtain ⟨middle, hstrings, hmore⟩ := hpasses
      refine bind_eq_ok_iff.2
        ⟨(("", ""), middle), twoStrings_eq_ok_iff.2 ⟨⟨rfl, rfl⟩, hstrings⟩, ?_⟩
      exact congrArg Except.ok (instance?_eq_iff.2 (.inl ⟨rfl, rfl, rfl, hmore⟩))
  | addInstance id name =>
      refine bind_eq_ok_iff.2 ⟨((id, name), next), twoStrings_eq_ok_iff.2 ⟨hwell, hpasses⟩, ?_⟩
      exact congrArg Except.ok (instance?_eq_iff.2 (.inr ⟨rfl, rfl, hends⟩))
  | removeInstance name =>
      exact bind_eq_ok_iff.2 ⟨(name, next), string_eq_ok_iff.2 ⟨hwell, hpasses⟩, rfl⟩
  | setValues element values =>
      exact bind_eq_ok_iff.2 ⟨((element, values), next), block_eq_ok_iff.2 ⟨hwell, hpasses⟩, rfl⟩
  | updateValues element values =>
      exact bind_eq_ok_iff.2 ⟨((element, values), next), block_eq_ok_iff.2 ⟨hwell, hpasses⟩, rfl⟩
  | updateValue element value =>
      obtain ⟨middle, helement, hvalue⟩ := passes_append_iff.1 hpasses
      refine bind_eq_ok_iff.2 ⟨(element, middle), string_eq_ok_iff.2 ⟨hwell.1, helement⟩, ?_⟩
      exact bind_eq_ok_iff.2 ⟨(value, next), assignment_eq_ok_iff.2 ⟨hwell.2, hvalue⟩, rfl⟩
  | deleteValue element control =>
      exact bind_eq_ok_iff.2
        ⟨((element, control), next), twoStrings_eq_ok_iff.2 ⟨hwell, hpasses⟩, rfl⟩
  | connect sink source =>
      exact bind_eq_ok_iff.2 ⟨((sink, source), next), twoStrings_eq_ok_iff.2 ⟨hwell, hpasses⟩, rfl⟩
  | disconnect origin destination =>
      exact bind_eq_ok_iff.2
        ⟨((origin, destination), next), twoStrings_eq_ok_iff.2 ⟨hwell, hpasses⟩, rfl⟩

/-- The opcode is read first, and it decides how the operands are read. -/
theorem instruction_eq_bind (cursor : Cursor) :
    cursor.instruction = cursor.byte cursor.offset >>= fun answer =>
      (Opcode.ofByte? answer.1).elim (.error (.noSuchOpcode cursor.offset answer.1))
        (answer.2.operands cursor.offset) := by
  rw [instruction]
  congr 1
  funext ⟨b, next⟩
  simp only
  cases Opcode.ofByte? b <;> rfl

/-- A record is read exactly when the stream goes on with the written form of a well-formed
instruction that can end there. -/
theorem instruction_eq_ok_iff :
    cursor.instruction = .ok (i, next) ↔
      i.WellFormed ∧ cursor.Passes i.wire next ∧ Ends i next := by
  have hwire : i.wire = [i.opcode.byte] ++ i.operands := rfl
  rw [hwire, passes_append_iff, instruction, bind_eq_ok_iff]
  constructor
  · rintro ⟨⟨b, middle⟩, hbyte, h⟩
    simp only at h
    split at h
    · cases h
    · next opcode hopcode =>
        obtain ⟨rfl, hwell, hpasses, hends⟩ := of_operands_eq_ok h
        rw [Opcode.ofByte?_eq_some_iff] at hopcode
        rw [byte_eq_ok_iff, hopcode] at hbyte
        exact ⟨hwell, ⟨middle, hbyte, hpasses⟩, hends⟩
  · rintro ⟨hwell, ⟨middle, hbyte, hpasses⟩, hends⟩
    refine ⟨(i.opcode.byte, middle), byte_eq_ok_iff.2 hbyte, ?_⟩
    simp only [Opcode.ofByte?_byte]
    exact operands_of_passes hwell hpasses hends

end

end Cursor

end Patchbay
