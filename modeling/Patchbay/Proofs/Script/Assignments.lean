import Patchbay.Proofs.Script.Grammar
import Patchbay.Proofs.Source.Lines
import Patchbay.Proofs.Value.Integers

/-!
# The grammar of assignments

`assignment` cuts a text at its equals signs, trims the sides and tries four tests on the right one,
one after the other.  This file gives the texts that it accepts and the faults of the others as two
relations on the text, `Assigns` and `Faulty`.  There is one rule for what is accepted, and one for
each fault, which says that everything looked at earlier is in order.

A literal has one of four forms (`HasForm`), and its first character tells which: a digit or a sign,
a quote, `T` or `F`, or the code of a tag (`Form.ofFirst_of_hasForm`).  So no text has two forms,
and the tests may be made in any order (`findSome?_read?_eq_form?`).
-/

namespace Patchbay.Script

/-! ## Identifiers -/

/-- A letter of ASCII or an underscore. -/
def StartsName (c : Char) : Prop :=
  ('A' ≤ c ∧ c ≤ 'Z') ∨ ('a' ≤ c ∧ c ≤ 'z') ∨ c = '_'

/-- A character that can start a name, then any number of these and of digits. -/
inductive IsIdentifier : List Char → Prop
  | intro {first : Char} {rest : List Char} (start : StartsName first)
      (continues : ∀ c ∈ rest, StartsName c ∨ ('0' ≤ c ∧ c ≤ '9')) : IsIdentifier (first :: rest)

theorem startsName_iff {c : Char} : StartsName c ↔ (c.isAlpha || c == '_') = true := by
  have hletter : c.isAlpha =
      (decide ('A' ≤ c ∧ c ≤ 'Z') || (decide ('a' ≤ c) && decide (c ≤ 'z'))) := rfl
  rw [hletter]
  simp only [StartsName, Bool.or_eq_true, Bool.and_eq_true, decide_eq_true_eq, beq_iff_eq, or_assoc]

theorem continuesName_iff {c : Char} :
    StartsName c ∨ ('0' ≤ c ∧ c ≤ '9') ↔ (c.isAlphanum || c == '_') = true := by
  have hdigit : ('0' ≤ c ∧ c ≤ '9') ↔ c.isDigit = true := by
    simp only [Char.isDigit, Bool.and_eq_true, decide_eq_true_eq]
    exact Iff.rfl
  rw [startsName_iff, hdigit, Char.isAlphanum]
  simp only [Bool.or_eq_true]
  exact or_right_comm

theorem isName_iff {text : List Char} : isName text = true ↔ IsIdentifier text := by
  constructor
  · intro h
    cases text with
    | nil => cases h
    | cons first rest =>
        obtain ⟨hfirst, hrest⟩ := Bool.and_eq_true_iff.1 h
        refine ⟨startsName_iff.2 hfirst, ?_⟩
        intro c hc
        exact continuesName_iff.2 (List.all_eq_true.1 hrest c hc)
  · rintro ⟨hfirst, hrest⟩
    refine Bool.and_eq_true_iff.2 ⟨startsName_iff.1 hfirst, List.all_eq_true.2 ?_⟩
    intro c hc
    exact continuesName_iff.1 (hrest c hc)

/-! ## Forms of literals -/

/-- The four forms of a literal. -/
inductive Form where
  | bareInteger
  | quoted
  | word
  | tagged
deriving DecidableEq, Repr

/-- A literal of the given form, with the tag it is read under and the text that is read. -/
inductive HasForm : Form → List Char → Tag → List Char → Prop
  | bareInteger {spec : List Char} {n : ℤ} :
      Text.Denotes spec n → HasForm .bareInteger spec (.integer ⟨true, .two⟩) spec
  | quoted {spec inner : List Char} : Quoted spec inner → HasForm .quoted spec .string inner
  | trueWord : HasForm .word "True".toList .bool "True".toList
  | falseWord : HasForm .word "False".toList .bool "False".toList
  | tagged {tag : Tag} {inner : List Char} :
      HasForm .tagged (tag.code :: '(' :: (inner ++ [')'])) tag inner

/-- The test for a form. -/
def Form.read? : Form → List Char → Option (Tag × List Char)
  | bareInteger, spec => if isBareInteger spec then some (Tag.bareInteger, spec) else none
  | quoted, spec => (betweenQuotes? spec).map (Tag.string, ·)
  | word, spec =>
    if spec == "True".toList || spec == "False".toList then some (.bool, spec) else none
  | tagged, spec => tagged? spec

theorem isBareInteger_iff {spec : List Char} :
    isBareInteger spec = true ↔ ∃ n, Text.Denotes spec n := by
  simp only [isBareInteger, Bool.and_eq_true, Bool.not_eq_true', List.isEmpty_eq_false_iff,
    List.all_eq_true]
  constructor
  · rintro ⟨hne, hdigits⟩
    exact ⟨_, Text.denotes_iff_takeSign.2 ⟨_, _, rfl, hne, hdigits, rfl⟩⟩
  · rintro ⟨n, hn⟩
    obtain ⟨negative, digits, hsign, hne, hdigits, -⟩ := Text.denotes_iff_takeSign.1 hn
    rw [hsign]
    exact ⟨hne, hdigits⟩

theorem tagged?_eq_some_iff {spec inner : List Char} {tag : Tag} :
    tagged? spec = some (tag, inner) ↔ spec = tag.code :: '(' :: (inner ++ [')']) := by
  constructor
  · intro h
    unfold tagged? at h
    split at h
    · next code rest =>
        split at h
        · next hlast =>
            obtain ⟨tag', htag, hpair⟩ := Option.map_eq_some_iff.1 h
            cases hpair
            rw [Tag.code_of_ofCode? htag, List.dropLast_append_getLast? ')' (by simpa using hlast)]
        · cases h
    · cases h
  · rintro rfl
    simp [tagged?, Tag.ofCode?_code]

theorem read?_eq_some_iff {form : Form} {spec inner : List Char} {tag : Tag} :
    form.read? spec = some (tag, inner) ↔ HasForm form spec tag inner := by
  cases form with
  | bareInteger =>
      rw [Form.read?]
      constructor
      · intro h
        split at h
        · next hinteger =>
            cases h
            obtain ⟨n, hn⟩ := isBareInteger_iff.1 hinteger
            exact .bareInteger hn
        · cases h
      · intro h
        cases h with
        | bareInteger hn =>
            rw [if_pos (isBareInteger_iff.2 ⟨_, hn⟩)]
            rfl
  | quoted =>
      rw [Form.read?]
      constructor
      · intro h
        obtain ⟨inner', hquotes, hpair⟩ := Option.map_eq_some_iff.1 h
        cases hpair
        exact .quoted (quoted_iff_betweenQuotes?.2 hquotes)
      · intro h
        cases h with
        | quoted hquoted =>
            rw [quoted_iff_betweenQuotes?.1 hquoted]
            rfl
  | word =>
      rw [Form.read?]
      constructor
      · intro h
        split at h
        · next hword =>
            cases h
            simp only [Bool.or_eq_true, beq_iff_eq] at hword
            rcases hword with rfl | rfl
            · exact .trueWord
            · exact .falseWord
        · cases h
      · intro h
        cases h <;> rfl
  | tagged =>
      rw [Form.read?, tagged?_eq_some_iff]
      constructor
      · rintro rfl
        exact .tagged
      · intro h
        cases h
        rfl

/-- The form of a literal, from its first character. -/
def Form.ofFirst (c : Char) : Form :=
  if c.isDigit || c == '-' || c == '+' then .bareInteger
  else if c == '"' || c == '\'' then .quoted
  else if c == 'T' || c == 'F' then .word
  else .tagged

/-- No code of a tag begins a literal of another form. -/
theorem Form.ofFirst_code (tag : Tag) : Form.ofFirst tag.code = .tagged := by
  have hall : ∀ tag ∈ Tag.all, Form.ofFirst tag.code = .tagged := by decide
  exact hall tag tag.mem_all

theorem Form.ofFirst_of_hasForm {form : Form} {spec inner : List Char} {tag : Tag}
    (h : HasForm form spec tag inner) :
    ∃ first rest, spec = first :: rest ∧ ofFirst first = form := by
  cases h with
  | bareInteger hn =>
      cases hn with
      | bare nonempty all =>
          obtain ⟨first, rest, rfl⟩ := List.exists_cons_of_ne_nil nonempty
          exact ⟨first, rest, rfl, by simp [ofFirst, all first List.mem_cons_self]⟩
      | plus => exact ⟨'+', _, rfl, rfl⟩
      | minus => exact ⟨'-', _, rfl, rfl⟩
  | quoted hquoted =>
      obtain ⟨quote, rfl | rfl, rfl⟩ := hquoted
      · exact ⟨'"', _, rfl, rfl⟩
      · exact ⟨'\'', _, rfl, rfl⟩
  | trueWord => exact ⟨'T', _, rfl, rfl⟩
  | falseWord => exact ⟨'F', _, rfl, rfl⟩
  | tagged => exact ⟨tag.code, _, rfl, ofFirst_code tag⟩

/-- No literal has two forms, or two readings under one form. -/
theorem HasForm.unique {form form' : Form} {spec inner inner' : List Char} {tag tag' : Tag}
    (h : HasForm form spec tag inner) (h' : HasForm form' spec tag' inner') :
    form = form' ∧ tag = tag' ∧ inner = inner' := by
  obtain ⟨first, rest, rfl, rfl⟩ := Form.ofFirst_of_hasForm h
  obtain ⟨first', rest', hspec, rfl⟩ := Form.ofFirst_of_hasForm h'
  obtain ⟨rfl, rfl⟩ := List.cons.inj hspec
  have hread := (read?_eq_some_iff.2 h).symm.trans (read?_eq_some_iff.2 h')
  obtain ⟨rfl, rfl⟩ := Prod.mk.inj (Option.some.inj hread)
  exact ⟨rfl, rfl, rfl⟩

/-- The text that is read is a part of the literal. -/
theorem HasForm.mem {form : Form} {spec inner : List Char} {tag : Tag}
    (h : HasForm form spec tag inner) {c : Char} (hc : c ∈ inner) : c ∈ spec := by
  cases h with
  | bareInteger hn => exact hc
  | quoted hquoted =>
      obtain ⟨quote, -, rfl⟩ := hquoted
      exact List.mem_cons_of_mem quote (List.mem_append_left _ hc)
  | trueWord => exact hc
  | falseWord => exact hc
  | tagged => exact List.mem_cons_of_mem _ (List.mem_cons_of_mem _ (List.mem_append_left _ hc))

/-! ## The order of the tests -/

/-- The tests find the form of a literal in whatever order they are made. -/
theorem findSome?_read?_eq_some_iff {order : List Form} (h : ∀ form, form ∈ order)
    {spec inner : List Char} {tag : Tag} :
    order.findSome? (Form.read? · spec) = some (tag, inner) ↔
      ∃ form, HasForm form spec tag inner := by
  constructor
  · intro hfound
    obtain ⟨form, -, hread⟩ := List.exists_of_findSome?_eq_some hfound
    exact ⟨form, read?_eq_some_iff.1 hread⟩
  · rintro ⟨form, hform⟩
    cases hfound : order.findSome? (Form.read? · spec) with
    | none =>
        have hnone := List.findSome?_eq_none_iff.1 hfound form (h form)
        rw [read?_eq_some_iff.2 hform] at hnone
        cases hnone
    | some found =>
        -- another form may be found first, but there is no other
        obtain ⟨form', -, hread⟩ := List.exists_of_findSome?_eq_some hfound
        obtain ⟨-, rfl, rfl⟩ := hform.unique (read?_eq_some_iff.1 hread)
        rfl

theorem form?_eq_findSome? (spec : List Char) :
    form? spec = [.bareInteger, .quoted, .word, .tagged].findSome? (Form.read? · spec) := by
  simp only [List.findSome?, Form.read?, form?]
  cases isBareInteger spec with
  | true => rfl
  | false =>
      cases betweenQuotes? spec with
      | some inner => rfl
      | none =>
          simp only [Bool.false_eq_true, if_false, Option.map_none]
          cases spec == "True".toList || spec == "False".toList with
          | true => rfl
          | false => cases tagged? spec <;> rfl

theorem form?_eq_some_iff {spec inner : List Char} {tag : Tag} :
    form? spec = some (tag, inner) ↔ ∃ form, HasForm form spec tag inner := by
  rw [form?_eq_findSome?, findSome?_read?_eq_some_iff]
  intro form
  cases form <;> decide

theorem findSome?_read?_eq_form? {order : List Form} (h : ∀ form, form ∈ order)
    (spec : List Char) : order.findSome? (Form.read? · spec) = form? spec := by
  refine Option.ext ?_
  rintro ⟨tag, inner⟩
  rw [findSome?_read?_eq_some_iff h, form?_eq_some_iff]

theorem form?_eq_none_iff {spec : List Char} :
    form? spec = none ↔ ∀ form tag inner, ¬ HasForm form spec tag inner := by
  constructor
  · intro h form tag inner hform
    rw [form?_eq_some_iff.2 ⟨form, hform⟩] at h
    cases h
  · intro h
    cases hform : form? spec with
    | none => rfl
    | some found =>
        obtain ⟨form, hform⟩ := form?_eq_some_iff.1 hform
        exact absurd hform (h form found.1 found.2)

theorem literal_of_hasForm {form : Form} {spec inner : List Char} {tag : Tag}
    (h : HasForm form spec tag inner) : literal spec = (tag.encode inner).mapError .rejected := by
  rw [literal, form?_eq_some_iff.2 ⟨form, h⟩]

/-! ## Integers without a type -/

theorem trim_of_denotes {spec : List Char} {n : ℤ} (h : Text.Denotes spec n) :
    Text.trim spec = spec := by
  have hblank : ∀ {digits : List Char}, Binary64.AreDigits digits →
      ∀ c ∈ digits, Text.isBlank c = false := by
    intro digits hdigits c hc
    exact (Binary64.solid_of_isDigit (hdigits c hc)).1
  refine Text.trim_eq_self ?_
  cases h with
  | bare nonempty all => exact Text.tight_of_forall nonempty (hblank all)
  | plus nonempty all =>
      exact Text.tight_of_forall (List.cons_ne_nil _ _) (List.forall_mem_cons.2 ⟨rfl, hblank all⟩)
  | minus nonempty all =>
      exact Text.tight_of_forall (List.cons_ne_nil _ _) (List.forall_mem_cons.2 ⟨rfl, hblank all⟩)

/-- An integer without a type is in the range of two bytes, or too small, or too large. -/
theorem literal_of_denotes {spec : List Char} {n : ℤ} (h : Text.Denotes spec n) :
    literal spec =
      if n < -32768 then
        .error (.rejected (.belowRange (IntegerType.shown spec n) (toString (-32768 : ℤ))))
      else if 32767 < n then
        .error (.rejected (.aboveRange (IntegerType.shown spec n) (toString (32767 : ℤ))))
      else .ok ⟨.integer ⟨true, .two⟩, .signed n⟩ := by
  have htrim := trim_of_denotes h
  have hdenotes : Text.Denotes (Text.trim spec) n := by rwa [htrim]
  have hread := IntegerType.ofLiteral_of_denotes ⟨true, .two⟩ hdenotes
  have hleast : IntegerType.least ⟨true, .two⟩ = -32768 := rfl
  have hgreatest : IntegerType.greatest ⟨true, .two⟩ = 32767 := rfl
  rw [htrim, hleast, hgreatest] at hread
  rw [literal_of_hasForm (.bareInteger h), Tag.encode, Tag.valueOfLiteral, hread]
  split_ifs <;> rfl

/-! ## Assignments -/

/-- The two sides of the only equals sign of a text. -/
structure Sides (text left right : List Char) : Prop where
  text : text = left ++ '=' :: right
  left : '=' ∉ left
  right : '=' ∉ right

theorem pieces_of_sides {text left right : List Char} (h : Sides text left right) :
    Text.pieces (· == '=') text = [left, right] := by
  obtain ⟨rfl, hleft, hright⟩ := h
  have hother : ∀ {side : List Char}, '=' ∉ side → ∀ c ∈ side, (c == '=') = false := by
    intro side hside c hc
    exact beq_eq_false_iff_ne.2 fun heq => hside (heq ▸ hc)
  exact Source.pieces_pair (by rfl) (hother hleft) (hother hright)

theorem exists_sides_iff {text : List Char} :
    (∃ left right, Sides text left right) ↔ text.count '=' = 1 := by
  constructor
  · rintro ⟨left, right, rfl, hleft, hright⟩
    rw [List.count_append, List.count_cons_self, List.count_eq_zero.2 hleft,
      List.count_eq_zero.2 hright]
  · intro h
    have hmem : '=' ∈ text := List.count_pos_iff.1 (by rw [h]; exact Nat.one_pos)
    obtain ⟨left, right, rfl⟩ := List.append_of_mem hmem
    rw [List.count_append, List.count_cons_self] at h
    exact ⟨left, right, rfl, List.count_eq_zero.1 (by omega), List.count_eq_zero.1 (by omega)⟩

/-- What a text assigns. -/
inductive Assigns (text : List Char) : Assignment → Prop
  | intro {left right inner : List Char} {form : Form} {tag : Tag} {value : TaggedValue}
      (sides : Sides text left right) (name : IsIdentifier (Text.trim left))
      (form : HasForm form (Text.trim right) tag inner) (encodes : tag.encode inner = .ok value) :
      Assigns text ⟨String.ofList (Text.trim left), value⟩

/-- What is wrong with a text that assigns nothing. -/
inductive Faulty (text : List Char) : Fault → Prop
  | noAssignment (count : text.count '=' ≠ 1) : Faulty text .noAssignment
  | noIdentifier {left right : List Char} (sides : Sides text left right)
      (name : ¬ IsIdentifier (Text.trim left)) :
      Faulty text (.noIdentifier (String.ofList (Text.trim left)))
  | noLiteral {left right : List Char} (sides : Sides text left right)
      (name : IsIdentifier (Text.trim left))
      (form : ∀ form tag inner, ¬ HasForm form (Text.trim right) tag inner) :
      Faulty text (.noLiteral (String.ofList (Text.trim right)))
  | rejected {left right inner : List Char} {form : Form} {tag : Tag} {cause : Rejection}
      (sides : Sides text left right) (name : IsIdentifier (Text.trim left))
      (form : HasForm form (Text.trim right) tag inner)
      (encodes : tag.encode inner = .error cause) : Faulty text (.rejected cause)

theorem assignment_of_sides {text left right : List Char} (h : Sides text left right) :
    assignment text =
      if isName (Text.trim left) then
        (literal (Text.trim right)).map (Assignment.mk (String.ofList (Text.trim left)))
      else .error (.noIdentifier (String.ofList (Text.trim left))) := by
  rw [assignment, pieces_of_sides h]

theorem assignment_of_count {text : List Char} (h : text.count '=' ≠ 1) :
    assignment text = .error .noAssignment := by
  unfold assignment
  split
  · next left right hpieces =>
      have hlength := Source.length_pieces (· == '=') text
      rw [hpieces] at hlength
      exact absurd (Nat.succ.inj hlength).symm h
  · rfl

theorem assignment_of_assigns {text : List Char} {a : Assignment} (h : Assigns text a) :
    assignment text = .ok a := by
  cases h with
  | intro sides name form encodes =>
      rw [assignment_of_sides sides, if_pos (isName_iff.2 name), literal_of_hasForm form, encodes]
      rfl

theorem assignment_of_faulty {text : List Char} {fault : Fault} (h : Faulty text fault) :
    assignment text = .error fault := by
  cases h with
  | noAssignment count => exact assignment_of_count count
  | noIdentifier sides name =>
      rw [assignment_of_sides sides, if_neg fun hname => name (isName_iff.1 hname)]
  | noLiteral sides name form =>
      rw [assignment_of_sides sides, if_pos (isName_iff.2 name), literal, form?_eq_none_iff.2 form]
      rfl
  | rejected sides name form encodes =>
      rw [assignment_of_sides sides, if_pos (isName_iff.2 name), literal_of_hasForm form, encodes]
      rfl

/-- Every text assigns something or is faulty. -/
theorem assigns_or_faulty (text : List Char) :
    (∃ a, Assigns text a) ∨ ∃ fault, Faulty text fault := by
  by_cases hcount : text.count '=' = 1
  · obtain ⟨left, right, hsides⟩ := exists_sides_iff.2 hcount
    by_cases hname : IsIdentifier (Text.trim left)
    · by_cases hform : ∃ form tag inner, HasForm form (Text.trim right) tag inner
      · obtain ⟨form, tag, inner, hform⟩ := hform
        cases hencode : tag.encode inner with
        | ok value => exact .inl ⟨_, .intro hsides hname hform hencode⟩
        | error cause => exact .inr ⟨_, .rejected hsides hname hform hencode⟩
      · push Not at hform
        exact .inr ⟨_, .noLiteral hsides hname hform⟩
    · exact .inr ⟨_, .noIdentifier hsides hname⟩
  · exact .inr ⟨_, .noAssignment hcount⟩

theorem assignment_eq_ok_iff {text : List Char} {a : Assignment} :
    assignment text = .ok a ↔ Assigns text a := by
  refine ⟨?_, assignment_of_assigns⟩
  intro h
  rcases assigns_or_faulty text with ⟨a', ha⟩ | ⟨fault, hfault⟩
  · rw [assignment_of_assigns ha] at h
    cases h
    exact ha
  · rw [assignment_of_faulty hfault] at h
    cases h

theorem assignment_eq_error_iff {text : List Char} {fault : Fault} :
    assignment text = .error fault ↔ Faulty text fault := by
  refine ⟨?_, assignment_of_faulty⟩
  intro h
  rcases assigns_or_faulty text with ⟨a, ha⟩ | ⟨fault', hfault⟩
  · rw [assignment_of_assigns ha] at h
    cases h
  · rw [assignment_of_faulty hfault] at h
    cases h
    exact hfault

/-- Exactly the texts of the grammar are assignments, and the others have the first fault that they
can have.  A literal has one form at most, so the order of the tests for the forms does not matter,
and an integer without a type is always read as an integer. -/
theorem assignment_follows_grammar (text : List Char) :
    (∀ a, assignment text = .ok a ↔ Assigns text a) ∧
    (∀ fault, assignment text = .error fault ↔ Faulty text fault) ∧
    (∀ spec form form' tag tag' inner inner', HasForm form spec tag inner →
      HasForm form' spec tag' inner' → form = form' ∧ tag = tag' ∧ inner = inner') ∧
    (∀ order : List Form, (∀ form, form ∈ order) →
      ∀ spec, order.findSome? (Form.read? · spec) = form? spec) ∧
    (∀ left right n, Sides text left right → Text.Denotes (Text.trim right) n →
      ∀ shown, assignment text ≠ .error (.rejected (.notAnInteger shown))) := by
  refine ⟨fun _ => assignment_eq_ok_iff, fun _ => assignment_eq_error_iff, ?_, ?_, ?_⟩
  · intro spec form form' tag tag' inner inner' h h'
    exact h.unique h'
  · intro order h spec
    exact findSome?_read?_eq_form? h spec
  · intro left right n hsides hdenotes shown hrejected
    rw [assignment_of_sides hsides, literal_of_denotes hdenotes] at hrejected
    split_ifs at hrejected <;> cases hrejected

/-- Quotes between parentheses, parentheses between quotes, a sign without digits, a name at fault
before a value out of range, and two equals signs. -/
theorem assignment_follows_grammar_overlaps :
    assignment "\u3000_x1 = s('a\"') ".toList = .ok ⟨"_x1", .string, .string "'a\"'"⟩ ∧
    assignment "x='i(5)'".toList = .ok ⟨"x", .string, .string "i(5)"⟩ ∧
    assignment "x = +".toList = .error (.noLiteral "+") ∧
    assignment "1x = y(256)".toList = .error (.noIdentifier "1x") ∧
    assignment "a = b = c".toList = .error .noAssignment := by
  refine ⟨?_, ?_, ?_, ?_, ?_⟩
  · refine ((assignment_follows_grammar _).1 _).2 ?_
    have hsides : Sides "\u3000_x1 = s('a\"') ".toList "\u3000_x1 ".toList " s('a\"') ".toList :=
      ⟨by decide, by decide, by decide⟩
    have hname : IsIdentifier (Text.trim "\u3000_x1 ".toList) := isName_iff.1 (by decide)
    have hform : HasForm .tagged (Text.trim " s('a\"') ".toList) .string "'a\"'".toList :=
      read?_eq_some_iff.1 (by decide)
    exact .intro hsides hname hform rfl
  · refine ((assignment_follows_grammar _).1 _).2 ?_
    have hsides : Sides "x='i(5)'".toList "x".toList "'i(5)'".toList :=
      ⟨by decide, by decide, by decide⟩
    have hname : IsIdentifier (Text.trim "x".toList) := isName_iff.1 (by decide)
    have hform : HasForm .quoted (Text.trim "'i(5)'".toList) .string "i(5)".toList :=
      read?_eq_some_iff.1 (by decide)
    exact .intro hsides hname hform rfl
  · refine ((assignment_follows_grammar _).2.1 _).2 ?_
    have hsides : Sides "x = +".toList "x ".toList " +".toList :=
      ⟨by decide, by decide, by decide⟩
    have hname : IsIdentifier (Text.trim "x ".toList) := isName_iff.1 (by decide)
    exact .noLiteral hsides hname (form?_eq_none_iff.1 (by decide))
  · refine ((assignment_follows_grammar _).2.1 _).2 ?_
    have hsides : Sides "1x = y(256)".toList "1x ".toList " y(256)".toList :=
      ⟨by decide, by decide, by decide⟩
    exact .noIdentifier hsides fun hname => absurd (isName_iff.2 hname) (by decide)
  · exact ((assignment_follows_grammar _).2.1 _).2 (.noAssignment (by decide))

end Patchbay.Script
