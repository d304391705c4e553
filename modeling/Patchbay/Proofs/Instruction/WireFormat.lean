import Patchbay.Proofs.Instruction.Readers

/-!
# The wire format and its decoder

The decoder accepts exactly the concatenations of written instructions, and gives back the
instructions and their places: `recordsOf_eq_ok_iff`.

A stream has no delimiters, so this is not only a matter of the single records.  The record that
adds an instance without identifier and name is the beginning of the record that clears all
instances; it is told apart by the byte behind it, which is the letter of an opcode if it is there
at all and never the NUL that would continue the longer record (`Laid.head?_ne_terminator`).
-/

namespace Patchbay

/-- Well-formed instructions, located one behind the other from an offset on, and their stream. -/
inductive Laid : Nat → List Located → Bytes → Prop
  | nil (offset : Nat) : Laid offset [] []
  | cons {offset : Nat} {i : Instruction} {records : List Located} {bytes : Bytes}
      (wellFormed : i.WellFormed) (rest : Laid (offset + i.wire.length) records bytes) :
      Laid offset (⟨offset, i⟩ :: records) (i.wire ++ bytes)

namespace Laid

/-- Every list of well-formed instructions can be laid out. -/
theorem exists_of_wellFormed (offset : Nat) {instructions : List Instruction}
    (h : ∀ i ∈ instructions, i.WellFormed) :
    ∃ records, Laid offset records (instructions.flatMap Instruction.wire) ∧
      records.map Located.instruction = instructions := by
  induction instructions generalizing offset with
  | nil => exact ⟨[], .nil offset, rfl⟩
  | cons i rest ih =>
      have hrest : ∀ j ∈ rest, j.WellFormed := by
        intro j hj
        exact h j (List.mem_cons_of_mem i hj)
      obtain ⟨records, hlaid, hmap⟩ := ih (offset + i.wire.length) hrest
      refine ⟨⟨offset, i⟩ :: records, .cons (h i List.mem_cons_self) hlaid, ?_⟩
      rw [List.map_cons, hmap]

/-- What is laid out, in terms of the whole list: the bytes are the concatenation, and an offset is
the total length of the records before it. -/
theorem iff_forall {offset : Nat} {records : List Located} {bytes : Bytes} :
    Laid offset records bytes ↔
      bytes = records.flatMap (fun r => r.instruction.wire) ∧
        (∀ r ∈ records, r.instruction.WellFormed) ∧
          ∀ (k : Nat) (_ : k < records.length), records[k].offset =
            offset + ((records.take k).flatMap fun r => r.instruction.wire).length := by
  induction records generalizing offset bytes with
  | nil =>
      constructor
      · rintro ⟨⟩
        exact ⟨rfl, by simp, by simp⟩
      · rintro ⟨rfl, -, -⟩
        exact .nil offset
  | cons r records ih =>
      obtain ⟨place, i⟩ := r
      constructor
      · intro h
        cases h with
        | cons hwell hrest =>
            obtain ⟨rfl, hall, hplaces⟩ := ih.1 hrest
            refine ⟨rfl, ?_, ?_⟩
            · intro r hr
              rcases List.mem_cons.1 hr with rfl | hr
              · exact hwell
              · exact hall r hr
            · intro k hk
              cases k with
              | zero => simp
              | succ k =>
                  have hplace := hplaces k (Nat.lt_of_succ_lt_succ hk)
                  simp only [List.getElem_cons_succ, List.take_succ_cons, List.flatMap_cons,
                    List.length_append]
                  omega
      · rintro ⟨rfl, hall, hplaces⟩
        -- the first place is the offset, and the others are counted from behind the first record
        have hplace : place = offset := by simpa using hplaces 0 (Nat.succ_pos _)
        subst hplace
        refine .cons (hall _ List.mem_cons_self) (ih.2 ⟨rfl, ?_, ?_⟩)
        · intro r hr
          exact hall r (List.mem_cons_of_mem _ hr)
        · intro k hk
          have hplace := hplaces (k + 1) (Nat.succ_lt_succ hk)
          simp only [List.getElem_cons_succ, List.take_succ_cons, List.flatMap_cons,
            List.length_append] at hplace
          omega

theorem byte_ne_terminator (opcode : Opcode) : opcode.byte ≠ terminator := by
  cases opcode <;> decide

/-- A stream of records does not begin with a NUL. -/
theorem head?_ne_terminator {offset : Nat} {records : List Located} {bytes : Bytes}
    (h : Laid offset records bytes) : bytes.head? ≠ some terminator := by
  cases h with
  | nil => simp
  | @cons _ i _ _ hwell hrest =>
      intro hhead
      exact byte_ne_terminator i.opcode (Option.some.inj hhead)

end Laid

/-! ## Decoding -/

namespace Cursor

theorem records_of_isEmpty {cursor : Cursor} (h : cursor.rest = []) :
    cursor.records = ⟨[], none⟩ := by
  rw [records, if_pos (by rw [h]; rfl)]

theorem records_of_ok {cursor next : Cursor} {i : Instruction}
    (h : cursor.instruction = .ok (i, next)) :
    cursor.records = ⟨⟨cursor.offset, i⟩ :: next.records.records, next.records.fault⟩ := by
  have hrest : ¬ cursor.rest.isEmpty = true := by
    have hlt := length_rest_of_instruction h
    rw [List.isEmpty_iff_length_eq_zero]
    omega
  rw [records, if_neg hrest]
  split
  · next hread =>
      rw [h] at hread
      cases hread
  · next hread =>
      rw [h] at hread
      cases hread
      rfl

theorem records_of_error {cursor : Cursor} {fault : StreamFault} (hrest : cursor.rest ≠ [])
    (h : cursor.instruction = .error fault) : cursor.records = ⟨[], some fault⟩ := by
  rw [records, if_neg (by rw [List.isEmpty_iff]; exact hrest)]
  split
  · next hread =>
      rw [h] at hread
      cases hread
      rfl
  · next hread =>
      rw [h] at hread
      cases hread

/-- Decoding to the end succeeds exactly on a stream of records. -/
theorem records_eq_iff {cursor : Cursor} {located : List Located} :
    cursor.records = ⟨located, none⟩ ↔ Laid cursor.offset located cursor.rest := by
  constructor
  · intro h
    induction located generalizing cursor with
    | nil =>
        by_cases hrest : cursor.rest = []
        · rw [hrest]
          exact .nil _
        · cases hread : cursor.instruction with
          | error fault =>
              rw [records_of_error hrest hread] at h
              cases h
          | ok answer =>
              rw [records_of_ok hread] at h
              cases h
    | cons r located ih =>
        by_cases hrest : cursor.rest = []
        · rw [records_of_isEmpty hrest] at h
          cases h
        · cases hread : cursor.instruction with
          | error fault =>
              rw [records_of_error hrest hread] at h
              cases h
          | ok answer =>
              obtain ⟨i, next⟩ := answer
              obtain ⟨hwell, hpasses, -⟩ := instruction_eq_ok_iff.1 hread
              rw [records_of_ok hread] at h
              obtain ⟨hrecords, hfault⟩ := Decoding.mk.inj h
              obtain ⟨rfl, rfl⟩ := List.cons.inj hrecords
              have hlater : Laid next.offset next.records.records next.rest := by
                apply ih
                rw [← hfault]
              rw [hpasses.offset] at hlater
              rw [hpasses.rest]
              exact .cons hwell hlater
  · intro h
    obtain ⟨offset, rest⟩ := cursor
    simp only at h
    induction h with
    | nil offset => exact records_of_isEmpty rfl
    | @cons offset i located bytes hwell hrest ih =>
        -- the records behind it begin with no NUL, so the record can end where it does
        have hread : instruction ⟨offset, i.wire ++ bytes⟩ =
            .ok (i, ⟨offset + i.wire.length, bytes⟩) :=
          instruction_eq_ok_iff.2 ⟨hwell, ⟨rfl, rfl⟩, fun _ => hrest.head?_ne_terminator⟩
        rw [records_of_ok hread, ih]

end Cursor

theorem recordsOf_iff_laid {stream : Bytes} {records : List Located} :
    recordsOf stream = .ok records ↔ Laid 0 records stream := by
  have hrecords : Cursor.records ⟨0, stream⟩ = ⟨records, none⟩ ↔ Laid 0 records stream :=
    Cursor.records_eq_iff
  rw [← hrecords, recordsOf, Decoding.of]
  cases Cursor.records ⟨0, stream⟩ with
  | mk located fault => cases fault <;> simp

/-- The decoder accepts exactly the wire format.  Whatever the instructions are, it gives them back,
so an added instance without identifier and name is never taken for the clearing of all instances
nor the other way round. -/
theorem recordsOf_eq_ok_iff (stream : Bytes) (records : List Located) :
    (recordsOf stream = .ok records ↔
      stream = records.flatMap (fun r => r.instruction.wire) ∧
        (∀ r ∈ records, r.instruction.WellFormed) ∧
          ∀ (k : Nat) (_ : k < records.length), records[k].offset =
            ((records.take k).flatMap fun r => r.instruction.wire).length) ∧
      ∀ instructions : List Instruction, (∀ i ∈ instructions, i.WellFormed) →
        ∃ located, recordsOf (instructions.flatMap Instruction.wire) = .ok located ∧
          located.map Located.instruction = instructions := by
  refine ⟨?_, ?_⟩
  · rw [recordsOf_iff_laid, Laid.iff_forall]
    simp only [Nat.zero_add]
  · intro instructions h
    obtain ⟨located, hlaid, hmap⟩ := Laid.exists_of_wellFormed 0 h
    exact ⟨located, recordsOf_iff_laid.2 hlaid, hmap⟩

/-- Three records whose bytes could be cut differently if a NUL could begin a record. -/
theorem recordsOf_empty_instances :
    recordsOf [0x49, 0, 0, 0x49, 0, 0, 0, 0x49, 0, 0] =
      .ok [⟨0, .addInstance "" ""⟩, ⟨3, .clearInstances⟩, ⟨7, .addInstance "" ""⟩] := by
  refine (recordsOf_eq_ok_iff _ _).1.2 ⟨by decide, ?_, by decide⟩
  intro r hr
  simp only [List.mem_cons, List.not_mem_nil, or_false] at hr
  rcases hr with rfl | rfl | rfl
  · exact ⟨rfl, rfl⟩
  · trivial
  · exact ⟨rfl, rfl⟩

end Patchbay
