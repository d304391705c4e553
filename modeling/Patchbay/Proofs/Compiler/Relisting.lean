import Patchbay.Instruction.Listing
import Patchbay.Proofs.Compiler.Meaning
import Patchbay.Proofs.Instruction.Coloring
import Patchbay.Proofs.Script.Printed

/-!
# Listings of compiled streams can be compiled again

Every assignment of a compiled stream stands in the listing of the stream, and what is shown there
can be read as an assignment again.  This file says when the bytes are the same that the stream has
(`wire_of_relisted_iff`): always, but for a negative fix point zero, whose sign is printed and not
read, and for a negative pattern that is not a number, whose sign is not printed.
-/

namespace Patchbay

open Script

/-! ## Parts of lists -/

section Infixes

variable {α β : Type} {f : α → List β}

theorem infix_flatMap {part whole : List α} (h : part <:+: whole) :
    part.flatMap f <:+: whole.flatMap f := by
  obtain ⟨front, back, rfl⟩ := h
  exact ⟨front.flatMap f, back.flatMap f, by rw [List.flatMap_append, List.flatMap_append]⟩

theorem infix_flatMap_of_mem {a : α} {list : List α} (h : a ∈ list) : f a <:+: list.flatMap f := by
  rw [List.flatMap_def]
  exact List.infix_of_mem_flatten (List.mem_map_of_mem h)

end Infixes

/-! ## The assignments of an instruction -/

namespace Instruction

/-- The assignments that an instruction makes. -/
def assignments : Instruction → List Assignment
  | setValues _ values => values
  | updateValues _ values => values
  | updateValue _ value => [value]
  | _ => []

theorem infix_wireList {a : Assignment} {values : List Assignment} (h : a ∈ values) :
    a.wire <:+: Assignment.wireList values :=
  (infix_flatMap_of_mem h).trans (List.suffix_cons _ _).isInfix

/-- The bytes of an assignment are a part of the record. -/
theorem infix_wire {i : Instruction} {a : Assignment} (h : a ∈ i.assignments) :
    a.wire <:+: i.wire := by
  have hoperands : a.wire <:+: i.operands := by
    cases i with
    | setValues element values => exact (infix_wireList h).trans (List.suffix_append _ _).isInfix
    | updateValues element values => exact (infix_wireList h).trans (List.suffix_append _ _).isInfix
    | updateValue element value =>
        rw [List.mem_singleton.1 h]
        exact (List.suffix_append _ _).isInfix
    | _ => cases h
  exact hoperands.trans (List.suffix_cons _ _).isInfix

end Instruction

/-! ## The assignments of a listing -/

namespace Listing

/-- The text of segments without colours. -/
theorem toList_render (segments : List Segment) :
    (Segment.render false segments).toList =
      segments.flatMap fun segment => segment.text.toList :=
  Segment.toList_render false segments

theorem infix_operands {i : Instruction} {a : Assignment} (h : a ∈ i.assignments) :
    assignment a <:+: operands i := by
  have hblock : ∀ element {values : List Assignment}, a ∈ values →
      assignment a <:+: block element values := by
    intro element values ha
    have hline : assignment a <:+: .plain "\n        " :: assignment a :=
      (List.suffix_cons _ _).isInfix
    have hlines := infix_flatMap_of_mem (f := fun a => .plain "\n        " :: assignment a) ha
    exact (hline.trans hlines).trans (List.suffix_append _ _).isInfix
  cases i with
  | setValues element values => exact hblock element h
  | updateValues element values => exact hblock element h
  | updateValue element value =>
      rw [List.mem_singleton.1 h]
      exact (List.suffix_append _ _).isInfix
  | _ => cases h

theorem infix_printed {records : List Located} {r : Located} (hr : r ∈ records) {a : Assignment}
    (ha : a ∈ r.instruction.assignments) :
    (Segment.render false (assignment a)).toList <:+:
      (Segment.render false (records.flatMap record)).toList := by
  have hrecord : assignment a <:+: record r := by
    refine (infix_operands ha).trans ?_
    unfold record
    rw [List.append_assoc]
    exact List.infix_append' _ _ _
  rw [toList_render, toList_render]
  exact infix_flatMap (hrecord.trans (infix_flatMap_of_mem hr))

theorem render_assignment (a : Assignment) :
    Segment.render false (assignment a) = a.name ++ " = " ++ a.value.literal := by
  rw [← String.toList_inj, toList_render]
  simp [assignment, Segment.plain]

end Listing

/-! ## Back to bytes -/

theorem Script.Means.scripted {opcode : Opcode} {text : List Char} {c : Command}
    (h : Means opcode text c) {i : Instruction} (hc : c = .complete i) :
    ∀ a ∈ i.assignments, Scripted a := by
  cases h with
  | updateValue travels noBlank isBlank assigns =>
      cases hc
      intro a ha
      rw [List.mem_singleton.1 ha]
      exact scripted_of_assignment assigns
  | _ =>
      cases hc
      all_goals
        intro a ha
        cases ha

theorem Script.Construct.Means.scripted {c : Construct} {i : Instruction} (h : c.Means i) :
    ∀ a ∈ i.assignments, Scripted a := by
  cases h with
  | alone letter means => exact means.scripted rfl
  | @block s body opcode kind element width values letter means limit assigns =>
      have hvalues : ∀ a ∈ values, Scripted a := by
        refine forall_of_forall₂ ?_ assigns
        rintro line a ⟨text, -, -, hassignment⟩
        exact scripted_of_assignment hassignment
      cases kind with
      | set => exact hvalues
      | update => exact hvalues

/-- The bytes of what is read again are those of the assignment, but for two values. -/
theorem Script.Scripted.wire_iff {a : Assignment} (h : Scripted a) :
    Assignment.wire ⟨a.name, a.value.tag, a.value.value.reread⟩ = a.wire ↔
      a.value.value ≠ .double (Binary64.nan true) ∧
        a.value.value ≠ .fixPoint FixPoint.negativeZero := by
  obtain ⟨htagDouble, htagFixPoint⟩ := h.holds.tag_eq
  constructor
  · intro hwire
    have hvalue : TaggedValue.wire ⟨a.value.tag, a.value.value.reread⟩ =
        TaggedValue.wire ⟨a.value.tag, a.value.value⟩ := List.append_cancel_left hwire
    constructor
    · intro hnan
      rw [htagDouble _ hnan, hnan] at hvalue
      exact absurd hvalue (by decide)
    · intro hzero
      rw [htagFixPoint _ hzero, hzero] at hvalue
      exact absurd hvalue (by decide)
  · intro hne
    rw [(Value.reread_eq_self_iff h.isLiteral).2 hne]

/-- A compiled stream has a listing, every assignment of the stream stands in it, and what stands
there is read as an assignment with the same bytes, but for two values. -/
theorem wire_of_relisted_iff {script : String} {stream : Bytes} (h : compile script = .ok stream) :
    ∃ records listing, recordsOf stream = .ok records ∧
      Listing.ofStream false stream = .ok listing ∧
      ∀ r ∈ records, ∀ a ∈ r.instruction.assignments,
        a.wire <:+: stream ∧
          (Segment.render false (Listing.assignment a)).toList <:+: listing.toList ∧
            ∃ b, assignment (Segment.render false (Listing.assignment a)).toList = .ok b ∧
              (b.wire = a.wire ↔ a.value.value ≠ .double (Binary64.nan true) ∧
                a.value.value ≠ .fixPoint FixPoint.negativeZero) := by
  obtain ⟨instructions, hmeans, rfl⟩ := exists_of_compile h
  have hwell : ∀ i ∈ instructions, i.WellFormed := by
    refine forall_of_forall₂ ?_ hmeans
    intro c i hi
    exact hi.wellFormed
  have hscripted : ∀ i ∈ instructions, ∀ a ∈ i.assignments, Scripted a := by
    refine forall_of_forall₂ ?_ hmeans
    intro c i hi
    exact hi.scripted
  obtain ⟨records, hlaid, hmap⟩ := Laid.exists_of_wellFormed 0 hwell
  have hrecords := recordsOf_iff_laid.2 hlaid
  refine ⟨records, Segment.render false (records.flatMap Listing.record), hrecords, ?_, ?_⟩
  · rw [Listing.ofStream, hrecords]
    rfl
  · intro r hr a ha
    have hi : r.instruction ∈ instructions := by
      rw [← hmap]
      exact List.mem_map_of_mem hr
    have hscript := hscripted r.instruction hi a ha
    refine ⟨(Instruction.infix_wire ha).trans (infix_flatMap_of_mem hi),
      Listing.infix_printed hr ha, _, ?_, hscript.wire_iff⟩
    rw [Listing.render_assignment]
    exact assignment_printed hscript

/-- A negative number, a string of both quotes, and a fix point zero with its sign. -/
theorem wire_of_relisted_iff_block :
    compile "S e\n a = D(-2.5)\n b = s('\")\n c = D(-0.00001)\n" =
        .ok [0x53, 0x65, 0, 3, 0x61, 0, 0x44, 0x28, 0x20, 0x62, 0, 0x73, 0x27, 0x22, 0, 0x63, 0,
          0x44, 0, 0x20] ∧
      ∃ records, recordsOf [0x53, 0x65, 0, 3, 0x61, 0, 0x44, 0x28, 0x20, 0x62, 0, 0x73, 0x27, 0x22,
          0, 0x63, 0, 0x44, 0, 0x20] = .ok records ∧
        ∀ r ∈ records, ∀ a ∈ r.instruction.assignments,
          ∃ b, assignment (Segment.render false (Listing.assignment a)).toList = .ok b ∧
            (b.wire = a.wire ↔ a.value.value ≠ .double (Binary64.nan true) ∧
              a.value.value ≠ .fixPoint FixPoint.negativeZero) := by
  have hcompile : compile "S e\n a = D(-2.5)\n b = s('\")\n c = D(-0.00001)\n" =
      .ok [0x53, 0x65, 0, 3, 0x61, 0, 0x44, 0x28, 0x20, 0x62, 0, 0x73, 0x27, 0x22, 0, 0x63, 0,
        0x44, 0, 0x20] := by
    decide +kernel
  obtain ⟨records, listing, hrecords, -, hall⟩ := wire_of_relisted_iff hcompile
  refine ⟨hcompile, records, hrecords, ?_⟩
  intro r hr a ha
  exact (hall r hr a ha).2.2

/-- A compiled stream whose listing shows an assignment that is read with other bytes. -/
theorem wire_ne_relisted_negativeZero :
    compile "u e a = D(-0.00001)\n" = .ok [0x75, 0x65, 0, 0x61, 0, 0x44, 0, 0x20] ∧
      recordsOf [0x75, 0x65, 0, 0x61, 0, 0x44, 0, 0x20] =
        .ok [⟨0, .updateValue "e" ⟨"a", .fixPoint, .fixPoint FixPoint.negativeZero⟩⟩] ∧
      Listing.ofStream false [0x75, 0x65, 0, 0x61, 0, 0x44, 0, 0x20] =
        .ok "0000  u  \"e\"  a = D(-0)\n" ∧
      assignment "a = D(-0)".toList = .ok ⟨"a", .fixPoint, .fixPoint ⟨0⟩⟩ ∧
      Assignment.wire ⟨"a", .fixPoint, .fixPoint ⟨0⟩⟩ ≠
        Assignment.wire ⟨"a", .fixPoint, .fixPoint FixPoint.negativeZero⟩ := by
  decide +kernel

end Patchbay
