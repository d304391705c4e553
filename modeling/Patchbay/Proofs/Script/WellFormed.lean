import Patchbay.Proofs.Instruction.Readers
import Patchbay.Proofs.Script.Assignments

/-!
# What scripts say can be written

The decoder can only read well-formed instructions, and nothing in the wire format itself checks
that an instruction is well formed.  It is the grammar of scripts that makes sure of it: every
string of a command can travel, every name is made of ASCII letters, digits and underscores, and
every literal is read as a value of its tag.  So whatever follows the grammar is well formed
(`Means.wellFormed`).
-/

namespace Patchbay

/-! ## Literals -/

/-- A literal is read as a value of the tag it is read under. -/
theorem IntegerType.holds_of_ofLiteral {type : IntegerType} {literal : List Char} {v : Value}
    (h : type.ofLiteral literal = .ok v) : (Tag.integer type).Holds v := by
  simp only [ofLiteral] at h
  split at h
  · cases h
  · cases h
  · cases h
  · split at h
    · cases h
    · next hleast =>
        split at h
        · cases h
        · next hgreatest =>
            cases h
            exact .integer (Int.not_lt.1 hleast) (Int.not_lt.1 hgreatest)

theorem Tag.holds_of_valueOfLiteral {tag : Tag} {literal : List Char} {v : Value}
    (h : tag.valueOfLiteral literal = .ok v) : tag.Holds v := by
  cases tag with
  | integer type => exact IntegerType.holds_of_ofLiteral h
  | bool =>
      simp only [valueOfLiteral] at h
      split at h
      · cases h
        exact .bool true
      · split at h
        · cases h
          exact .bool false
        · cases h
  | double =>
      obtain ⟨w, -, rfl⟩ := of_map_eq_ok h
      exact .double w
  | fixPoint =>
      obtain ⟨p, -, rfl⟩ := of_map_eq_ok h
      exact .fixPoint p
  | string =>
      simp only [valueOfLiteral] at h
      split at h
      · next htravel =>
          cases h
          refine .string ?_
          rw [String.toList_ofList]
          exact htravel
      · cases h

namespace Script

/-! ## Names and assignments -/

/-- The letters and digits of ASCII. -/
theorem ranges_of_isAlphanum {c : Char} (h : c.isAlphanum = true) :
    (65 ≤ c.toNat ∧ c.toNat ≤ 90) ∨ (97 ≤ c.toNat ∧ c.toNat ≤ 122) ∨
      (48 ≤ c.toNat ∧ c.toNat ≤ 57) := by
  have hclass : ((decide (c.val ≥ 'A'.val ∧ c.val ≤ 'Z'.val) ||
      (decide (c.val ≥ 'a'.val) && decide (c.val ≤ 'z'.val))) ||
      (decide (c.val ≥ '0'.val) && decide (c.val ≤ '9'.val))) = true := h
  simp only [Bool.or_eq_true, Bool.and_eq_true, decide_eq_true_eq, ge_iff_le,
    UInt32.le_iff_toNat_le, or_assoc] at hclass
  exact hclass

theorem forall_of_isName {text : List Char} (h : isName text = true) :
    text ≠ [] ∧ ∀ c ∈ text, c.isAlphanum = true ∨ c = '_' := by
  cases text with
  | nil => cases h
  | cons first rest =>
      simp only [isName, Bool.and_eq_true, Bool.or_eq_true, beq_iff_eq, List.all_eq_true] at h
      refine ⟨List.cons_ne_nil first rest, ?_⟩
      intro c hc
      rcases List.mem_cons.1 hc with rfl | hc
      · rcases h.1 with halpha | hline
        · exact .inl (by rw [Char.isAlphanum, halpha, Bool.true_or])
        · exact .inr hline
      · exact h.2 c hc

theorem canTravel_of_isName {text : List Char} (h : isName text = true) :
    canTravel text = true := by
  rw [canTravel_iff]
  intro c hc
  rcases (forall_of_isName h).2 c hc with halphanum | rfl
  · have := ranges_of_isAlphanum halphanum
    omega
  · decide

theorem wellFormed_of_assignment {text : List Char} {a : Assignment}
    (h : assignment text = .ok a) : a.WellFormed := by
  cases assignment_eq_ok_iff.1 h with
  | intro sides name form encodes =>
      obtain ⟨value, hvalue, rfl⟩ := of_map_eq_ok encodes
      refine ⟨?_, Tag.holds_of_valueOfLiteral hvalue⟩
      rw [String.toList_ofList]
      exact canTravel_of_isName (isName_iff.2 name)

/-! ## Commands -/

/-- What is between the quotes of a word that can travel can travel. -/
theorem Endpoint.canTravel {word origin : String} (h : Endpoint word origin)
    (hword : canTravel word.toList = true) : Patchbay.canTravel origin.toList = true := by
  cases h with
  | bare => exact hword
  | quoted hquoted =>
      obtain ⟨quote, -, htext⟩ := hquoted
      rw [canTravel_iff, htext] at hword
      rw [canTravel_iff]
      intro c hc
      exact hword c (List.mem_cons_of_mem quote (List.mem_append_left [quote] hc))

/-- A command gives a well-formed instruction or the element of a block. -/
def Command.WellFormed : Command → Prop
  | .complete instruction => instruction.WellFormed
  | .header _ element => canTravel element.toList = true

theorem Means.wellFormed {opcode : Opcode} {text : List Char} {c : Command}
    (h : Means opcode text c) : c.WellFormed := by
  cases h with
  | clearInstances hwords => trivial
  | addInstance hwords => exact ⟨hwords.2 _ (by simp), hwords.2 _ (by simp)⟩
  | removeInstance hwords => exact hwords.2 _ (by simp)
  | setValues hwords => exact hwords.2 _ (by simp)
  | updateValues hwords => exact hwords.2 _ (by simp)
  | updateValue htravel hname hblank hvalue => exact ⟨htravel, wellFormed_of_assignment hvalue⟩
  | deleteValue hwords => exact ⟨hwords.2 _ (by simp), hwords.2 _ (by simp)⟩
  | connect hwords => exact ⟨hwords.2 _ (by simp), hwords.2 _ (by simp)⟩
  | disconnectAll hwords => exact ⟨rfl, rfl⟩
  | disconnectFrom hwords horigin => exact ⟨horigin.canTravel (hwords.2 _ (by simp)), rfl⟩
  | disconnect hwords horigin hdestination =>
      exact ⟨horigin.canTravel (hwords.2 _ (by simp)),
        hdestination.canTravel (hwords.2 _ (by simp))⟩

end Script

end Patchbay
