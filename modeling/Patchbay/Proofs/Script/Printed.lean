import Patchbay.Instruction.Listing
import Patchbay.Proofs.Script.WellFormed

/-!
# Assignments that are printed

A listing shows an assignment as `name = literal`.  An assignment that a script has made is read
again from this text (`assignment_printed`): the name is the same, the form of the literal gives the
tag of the value, and the value is what its text is read as.  What makes it so is that names have no
blanks, that neither names nor literals hold an equals sign, and that quotes are only looked for at
the ends of a string.

An integer, a boolean or a string is read from its literal as the value that it is, wherever the
value comes from (`literal_inverts_rendering`).  Here strings with equals signs have to be told
apart: their literals can be read, but not in an assignment.
-/

namespace Patchbay.Script

open Binary64

/-! ## Printed literals -/

/-- The literal `spec` stands for `text` under a tag, and has neither blanks around it nor an equals
sign of its own. -/
structure Printed (tag : Tag) (text spec : List Char) : Prop where
  form : form? spec = some (tag, text)
  tight : Text.Tight spec
  equals : '=' ∈ spec → '=' ∈ text

theorem solid_code (tag : Tag) : Solid tag.code := by
  have hall : ∀ tag ∈ Tag.all, Solid tag.code := by
    unfold Solid
    decide
  exact hall tag tag.mem_all

theorem printed_tagged (tag : Tag) (text : List Char) :
    Printed tag text (tag.code :: '(' :: (text ++ [')'])) := by
  obtain ⟨hblank, hne⟩ := solid_code tag
  refine ⟨form?_eq_some_iff.2 ⟨.tagged, .tagged⟩,
    Text.tight_enclosed hblank (by decide) ('(' :: text), ?_⟩
  intro hequals
  simpa [hne.symm] using hequals

theorem printed_quoted {quote : Char} (h : IsQuote quote) (text : List Char) :
    Printed .string text (quote :: (text ++ [quote])) := by
  have hblank : Text.isBlank quote = false := by rcases h with rfl | rfl <;> decide
  have hne : '=' ≠ quote := by rcases h with rfl | rfl <;> decide
  refine ⟨form?_eq_some_iff.2 ⟨.quoted, .quoted ⟨quote, h, rfl⟩⟩,
    Text.tight_enclosed hblank hblank text, ?_⟩
  intro hequals
  simpa [hne] using hequals

theorem printed_bool (b : Bool) :
    Printed .bool (Value.bool b).text.toList (Value.bool b).text.toList := by
  have hform : form? (Value.bool b).text.toList = some (.bool, (Value.bool b).text.toList) := by
    rw [form?_eq_some_iff]
    cases b with
    | true => exact ⟨.word, .trueWord⟩
    | false => exact ⟨.word, .falseWord⟩
  have hblank : ∀ c ∈ (Value.bool b).text.toList, Text.isBlank c = false := by
    have hall : (Value.bool b).text.toList.all (fun c => !Text.isBlank c) = true := by
      cases b <;> decide
    intro c hc
    simpa using List.all_eq_true.1 hall c hc
  have hne : (Value.bool b).text.toList ≠ [] := by
    cases b <;> decide
  exact ⟨hform, Text.tight_of_forall hne hblank, id⟩

/-- The literal of a typed value stands for the text of the value. -/
theorem printed_literal {v : TaggedValue} (h : v.tag.Holds v.value) :
    Printed v.tag v.value.text.toList v.literal.toList := by
  obtain ⟨tag, value⟩ := v
  change tag.Holds value at h
  have htagged : ∀ text : String, (tag.code.toString ++ "(" ++ text ++ ")").toList =
      tag.code :: '(' :: (text.toList ++ [')']) := by
    intro text
    simp
  cases h with
  | @integer type n hleast hgreatest =>
      have hliteral : TaggedValue.literal ⟨.integer type, type.toValue n⟩ =
          (Tag.integer type).code.toString ++ "(" ++ (type.toValue n).text ++ ")" := by
        unfold IntegerType.toValue
        split_ifs <;> rfl
      rw [hliteral, htagged]
      exact printed_tagged _ _
  | bool b => exact printed_bool b
  | double w =>
      rw [TaggedValue.literal, htagged]
      exact printed_tagged _ _
  | fixPoint p =>
      rw [TaggedValue.literal, htagged]
      exact printed_tagged _ _
  | @string s travels =>
      simp only [TaggedValue.literal, Value.text]
      split
      · simpa using printed_quoted (.inr rfl) s.toList
      · simpa using printed_quoted (.inl rfl) s.toList

/-! ## Assignments of scripts -/

/-- The assignments that scripts make. -/
structure Scripted (a : Assignment) : Prop where
  name : isName a.name.toList = true
  holds : a.value.tag.Holds a.value.value
  isLiteral : a.value.value.IsLiteral
  equals : '=' ∉ a.value.value.text.toList

theorem solid_of_isName {text : List Char} (h : isName text = true) : ∀ c ∈ text, Solid c := by
  intro c hc
  rcases (forall_of_isName h).2 c hc with halphanum | rfl
  · have hranges := ranges_of_isAlphanum halphanum
    refine ⟨?_, ?_⟩
    · simp only [Text.isBlank, Bool.or_eq_false_iff, Bool.and_eq_false_iff,
        decide_eq_false_iff_not, beq_eq_false_iff_ne]
      omega
    · rintro rfl
      exact absurd halphanum (by decide)
  · exact ⟨by decide, by decide⟩

/-- Only a string can hold an equals sign. -/
theorem equals_of_holds {tag : Tag} {v : Value} (h : tag.Holds v) (hequals : '=' ∈ v.text.toList) :
    tag = .string := by
  have hsolid : ∀ {text : List Char}, (∀ c ∈ text, Solid c) → '=' ∉ text := by
    intro text hall hmem
    exact (hall '=' hmem).2 rfl
  cases h with
  | @integer type n hleast hgreatest =>
      rw [IntegerType.text_toValue hleast, IntegerReading.toList_toString] at hequals
      exact absurd hequals (hsolid (Layout.solid_integerText n))
  | bool b => cases b <;> exact absurd hequals (by decide)
  | double w => exact absurd hequals (hsolid (Layout.solid_text Layout.legible_value w))
  | fixPoint p => exact absurd hequals (hsolid (Layout.solid_text Layout.legible_plain _))
  | string travels => rfl

theorem trim_subset (text : List Char) : ∀ c ∈ Text.trim text, c ∈ text := by
  intro c hc
  have hend := (List.dropWhile_suffix _).subset hc
  have hreverse := (List.dropWhile_suffix _).subset (List.mem_reverse.1 hend)
  exact List.mem_reverse.1 hreverse

theorem scripted_of_assignment {text : List Char} {a : Assignment} (h : assignment text = .ok a) :
    Scripted a := by
  have hholds := (wellFormed_of_assignment h).value
  cases assignment_eq_ok_iff.1 h with
  | @intro left right inner form tag value sides name form encodes =>
      obtain ⟨value, hvalue, rfl⟩ := of_map_eq_ok encodes
      refine ⟨by rwa [String.toList_ofList, isName_iff], hholds,
        Tag.isLiteral_of_valueOfLiteral hholds hvalue, ?_⟩
      intro hequals
      -- a string is a part of what is behind the equals sign
      have htag : tag = .string := equals_of_holds hholds hequals
      subst htag
      have hinner : '=' ∈ inner := by
        simp only [Tag.valueOfLiteral] at hvalue
        split at hvalue
        · cases hvalue
          rwa [Value.text, String.toList_ofList] at hequals
        · cases hvalue
      exact sides.right (trim_subset right '=' (form.mem hinner))

/-! ## Reading what is printed -/

theorem literal_printed {v : TaggedValue} (h : v.tag.Holds v.value) (hvalue : v.value.IsLiteral) :
    literal v.literal.toList = .ok ⟨v.tag, v.value.reread⟩ := by
  rw [literal, (printed_literal h).form]
  simp only [Tag.encode, Tag.valueOfLiteral_text h hvalue]
  rfl

section

variable {name : String} (hname : isName name.toList = true) {v : TaggedValue}
  (hholds : v.tag.Holds v.value)

include hname hholds

/-- The literal of an assignment is read as it stands, unless its equals sign is not the only
one. -/
theorem assignment_of_literal (hequals : '=' ∉ v.value.text.toList) :
    assignment (name ++ " = " ++ v.literal).toList =
      (literal v.literal.toList).map (Assignment.mk name) := by
  have hprinted := printed_literal hholds
  have htight : Text.Tight name.toList :=
    Text.tight_of_forall (forall_of_isName hname).1 fun c hc => (solid_of_isName hname c hc).1
  have hspace : ∀ c ∈ [' '], Text.isBlank c = true := by
    intro c hc
    rw [List.mem_singleton.1 hc]
    rfl
  have hleft : Text.trim (name.toList ++ [' ']) = name.toList := by
    have htrim := Text.trim_of_tight htight (List.forall_mem_nil _) hspace
    rwa [List.nil_append] at htrim
  have hright : Text.trim (' ' :: v.literal.toList) = v.literal.toList := by
    have htrim := Text.trim_of_tight hprinted.tight hspace (List.forall_mem_nil _)
    rwa [List.append_nil] at htrim
  -- the one equals sign is that between the name and the literal
  have hsides : Sides (name ++ " = " ++ v.literal).toList (name.toList ++ [' '])
      (' ' :: v.literal.toList) := by
    refine ⟨by simp, ?_, ?_⟩
    · intro hmem
      rcases List.mem_append.1 hmem with hmem | hmem
      · exact (solid_of_isName hname '=' hmem).2 rfl
      · exact absurd (List.mem_singleton.1 hmem) (by decide)
    · intro hmem
      rcases List.mem_cons.1 hmem with heq | hmem
      · exact absurd heq (by decide)
      · exact hequals (hprinted.equals hmem)
  rw [assignment_of_sides hsides, hleft, hright, if_pos hname, String.ofList_toList]

omit hname in
theorem assignment_of_two_equals (hequals : '=' ∈ v.value.text.toList) :
    assignment (name ++ " = " ++ v.literal).toList = .error .noAssignment := by
  obtain ⟨form, hform⟩ := form?_eq_some_iff.1 (printed_literal hholds).form
  have hliteral : 0 < v.literal.toList.count '=' := List.count_pos_iff.2 (hform.mem hequals)
  have hsign : " = ".toList.count '=' = 1 := by decide
  refine assignment_of_count ?_
  rw [String.toList_append, String.toList_append, List.count_append, List.count_append, hsign]
  omega

end

/-- An assignment of a script is read again from its printed text. -/
theorem assignment_printed {a : Assignment} (h : Scripted a) :
    assignment (a.name ++ " = " ++ a.value.literal).toList =
      .ok ⟨a.name, a.value.tag, a.value.value.reread⟩ := by
  rw [assignment_of_literal h.name h.holds h.equals, literal_printed h.holds h.isLiteral]
  rfl

/-! ## Literals without loss -/

/-- The tags of integers, booleans and strings. -/
inductive IsExact : Tag → Prop
  | integer (type : IntegerType) : IsExact (.integer type)
  | bool : IsExact .bool
  | string : IsExact .string

/-- Whether a value is a string that holds an equals sign. -/
def holdsEquals : Value → Bool
  | .string s => s.toList.contains '='
  | _ => false

theorem holdsEquals_iff {tag : Tag} {v : Value} (h : tag.Holds v) :
    holdsEquals v = true ↔ '=' ∈ v.text.toList := by
  constructor
  · intro hequals
    cases v with
    | string s => exact List.contains_iff_mem.1 hequals
    | _ => cases hequals
  · intro hequals
    obtain rfl := equals_of_holds h hequals
    cases h with
    | string travels => exact List.contains_iff_mem.2 hequals

/-- Only the signs of numbers with a fraction can get lost in a text. -/
theorem reread_of_isExact {tag : Tag} {v : Value} (htag : IsExact tag) (h : tag.Holds v) :
    v.IsLiteral ∧ v.reread = v := by
  cases htag with
  | integer type =>
      cases h with
      | integer hleast hgreatest =>
          unfold IntegerType.toValue
          split_ifs <;> exact ⟨trivial, rfl⟩
  | bool =>
      cases h with
      | bool b => exact ⟨trivial, rfl⟩
  | string =>
      cases h with
      | string travels => exact ⟨trivial, rfl⟩

/-- Integers, booleans and strings are read from their literals without loss: every value of such a
tag has a literal, the literal that it is printed as is read as the same value under the same tag,
whatever quotes, parentheses and blanks a string holds, and so is an assignment of it to any name.
The only exception are strings with an equals sign, whose literals cannot stand in an assignment. -/
theorem literal_inverts_rendering {tag : Tag} (htag : IsExact tag) :
    (∀ value, tag.Holds value → ∃ text, tag.encode text = .ok ⟨tag, value⟩) ∧
    ∀ text v, tag.encode text = .ok v →
      v.tag = tag ∧ literal v.literal.toList = .ok v ∧
        ∀ name : String, IsIdentifier name.toList →
          assignment (name ++ " = " ++ v.literal).toList =
            if holdsEquals v.value then .error .noAssignment else .ok ⟨name, v⟩ := by
  constructor
  · intro value hholds
    obtain ⟨hvalue, hreread⟩ := reread_of_isExact htag hholds
    refine ⟨value.text.toList, ?_⟩
    rw [Tag.encode, Tag.valueOfLiteral_text hholds hvalue, hreread]
    rfl
  · intro text v hencode
    obtain ⟨value, hread, rfl⟩ := of_map_eq_ok hencode
    have hholds := Tag.holds_of_valueOfLiteral hread
    obtain ⟨hvalue, hreread⟩ := reread_of_isExact htag hholds
    have hliteral : literal (TaggedValue.literal ⟨tag, value⟩).toList = .ok ⟨tag, value⟩ := by
      rw [literal_printed hholds hvalue, hreread]
    refine ⟨rfl, hliteral, ?_⟩
    intro name hname
    split_ifs with hequals
    · exact assignment_of_two_equals hholds ((holdsEquals_iff hholds).1 hequals)
    · have hone := (holdsEquals_iff hholds).not.1 hequals
      rw [assignment_of_literal (isName_iff.2 hname) hholds hone, hliteral]
      rfl

/-- A string with both quotes that looks like two other literals, the same with an equals sign, and
the least integer of one byte. -/
theorem literal_inverts_rendering_quotes :
    literal "'\"i(5)'\"'".toList = .ok ⟨.string, .string "\"i(5)'\""⟩ ∧
      assignment "_x1 = '\"i(5)'\"'".toList = .ok ⟨"_x1", .string, .string "\"i(5)'\""⟩ ∧
      assignment "_x1 = '\"=5'\"'".toList = .error .noAssignment ∧
      literal "Y(-128)".toList = .ok ⟨.integer ⟨true, .one⟩, .signed (-128)⟩ := by
  have hname : IsIdentifier "_x1".toList := isName_iff.1 (by decide)
  have hstring : Tag.encode .string "\"i(5)'\"".toList = .ok ⟨.string, .string "\"i(5)'\""⟩ := by
    decide
  have hequals : Tag.encode .string "\"=5'\"".toList = .ok ⟨.string, .string "\"=5'\""⟩ := by
    decide
  have hinteger : Tag.encode (.integer ⟨true, .one⟩) " -0128".toList =
      .ok ⟨.integer ⟨true, .one⟩, .signed (-128)⟩ := by
    decide +kernel
  obtain ⟨-, hliteral, hassignment⟩ := (literal_inverts_rendering .string).2 _ _ hstring
  exact ⟨hliteral, hassignment "_x1" hname,
    ((literal_inverts_rendering .string).2 _ _ hequals).2.2 "_x1" hname,
    ((literal_inverts_rendering (.integer ⟨true, .one⟩)).2 _ _ hinteger).2.1⟩

end Patchbay.Script
