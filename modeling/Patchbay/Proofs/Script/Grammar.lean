import Mathlib.Data.List.Basic
import Mathlib.Data.List.TakeWhile
import Patchbay.Proofs.Results
import Patchbay.Script.Command

/-!
# The grammar of command lines

`command` reads the arguments of a command and fails in many ways.  This file says what it accepts,
as a relation that has one rule for every form of a command line: `Means opcode text c` holds when
the text after the letter of `opcode` says `c`.  The rules speak about the text itself, about its
words and the quotes around them, and not about the functions that take it apart.

`means_of_command` is the inversion lemma of `command`, and the only proof that opens it.
-/

namespace Patchbay.Script

/-! ## The rules -/

/-- The words of a text are strings that can travel. -/
def Operands (text : List Char) (words : List String) : Prop :=
  Text.words text = words.map String.toList ∧ ∀ word ∈ words, canTravel word.toList = true

def IsQuote (c : Char) : Prop :=
  c = '"' ∨ c = '\''

/-- Two equal quotes with a text between them. -/
def Quoted (word inner : List Char) : Prop :=
  ∃ quote, IsQuote quote ∧ word = quote :: (inner ++ [quote])

/-- The endpoint that a word stands for: what is between its quotes, or else the word itself. -/
inductive Endpoint (word : String) : String → Prop
  | quoted {inner : String} : Quoted word.toList inner.toList → Endpoint word inner
  | bare : (∀ inner, ¬ Quoted word.toList inner) → Endpoint word word

/-- What the text after the letter of a command says. -/
inductive Means : Opcode → List Char → Command → Prop
  | clearInstances {text : List Char} :
      Operands text [] → Means .addInstance text (.complete .clearInstances)
  | addInstance {text : List Char} {id name : String} :
      Operands text [id, name] → Means .addInstance text (.complete (.addInstance id name))
  | removeInstance {text : List Char} {name : String} :
      Operands text [name] → Means .removeInstance text (.complete (.removeInstance name))
  | setValues {text : List Char} {element : String} :
      Operands text [element] → Means .setValues text (.header .set element)
  | updateValues {text : List Char} {element : String} :
      Operands text [element] → Means .updateValues text (.header .update element)
  /-- The first blank ends the element, and an assignment follows. -/
  | updateValue {element : String} {blank : Char} {back : List Char} {value : Assignment}
      (travels : canTravel element.toList = true)
      (noBlank : ∀ c ∈ element.toList, Text.isBlank c = false) (isBlank : Text.isBlank blank = true)
      (assigns : assignment (Text.trimStart back) = .ok value) :
      Means .updateValue (element.toList ++ blank :: back) (.complete (.updateValue element value))
  | deleteValue {text : List Char} {element control : String} :
      Operands text [element, control] →
        Means .deleteValue text (.complete (.deleteValue element control))
  | connect {text : List Char} {sink source : String} :
      Operands text [sink, source] → Means .connect text (.complete (.connect sink source))
  | disconnectAll {text : List Char} :
      Operands text [] → Means .disconnect text (.complete (.disconnect "" ""))
  | disconnectFrom {text : List Char} {word origin : String} :
      Operands text [word] → Endpoint word origin →
        Means .disconnect text (.complete (.disconnect origin ""))
  | disconnect {text : List Char} {word word' origin destination : String} :
      Operands text [word, word'] → Endpoint word origin → Endpoint word' destination →
        Means .disconnect text (.complete (.disconnect origin destination))

/-! ## Arguments -/

theorem of_argument_eq_ok {word : List Char} {s : String} (h : argument word = .ok s) :
    word = s.toList ∧ canTravel s.toList = true := by
  unfold argument at h
  split at h
  · next htravel =>
      cases h
      rw [String.toList_ofList]
      exact ⟨rfl, htravel⟩
  · cases h

theorem mapM_argument_eq_ok {texts : List (List Char)} {words : List String}
    (h : texts.mapM argument = .ok words) :
    texts = words.map String.toList ∧ ∀ word ∈ words, canTravel word.toList = true := by
  induction texts generalizing words with
  | nil =>
      cases h
      exact ⟨rfl, by simp⟩
  | cons text texts ih =>
      rw [List.mapM_cons] at h
      obtain ⟨first, hfirst, h⟩ := of_bind_eq_ok h
      obtain ⟨others, hothers, h⟩ := of_bind_eq_ok h
      cases h
      obtain ⟨rfl, htravel⟩ := of_argument_eq_ok hfirst
      obtain ⟨rfl, htravels⟩ := ih hothers
      refine ⟨rfl, ?_⟩
      intro word hword
      rcases List.mem_cons.1 hword with rfl | hword
      · exact htravel
      · exact htravels word hword

/-- A command reads all its words before it looks at their number. -/
theorem operands_of_arguments {α : Type} {text : List Char} {next : List String → Except Fault α}
    {a : α} (h : (arguments text >>= next) = .ok a) :
    ∃ words, Operands text words ∧ next words = .ok a := by
  obtain ⟨words, hwords, h⟩ := of_bind_eq_ok h
  exact ⟨words, mapM_argument_eq_ok hwords, h⟩

/-! ## Quotes -/

theorem quoted_iff_betweenQuotes? {word inner : List Char} :
    Quoted word inner ↔ betweenQuotes? word = some inner := by
  constructor
  · rintro ⟨quote, rfl | rfl, rfl⟩ <;> simp [betweenQuotes?]
  · intro h
    cases word with
    | nil => cases h
    | cons quote rest =>
        rw [betweenQuotes?] at h
        split at h
        · next hends =>
            simp only [Bool.and_eq_true, Bool.or_eq_true, beq_iff_eq] at hends
            cases h
            refine ⟨quote, hends.1, ?_⟩
            rw [List.dropLast_append_getLast? quote hends.2]
        · cases h

theorem endpoint_spec (word : String) : Endpoint word (endpoint word) := by
  unfold endpoint
  cases h : betweenQuotes? word.toList with
  | none =>
      refine .bare ?_
      intro inner hinner
      rw [quoted_iff_betweenQuotes?, h] at hinner
      cases hinner
  | some inner =>
      refine .quoted ?_
      rw [quoted_iff_betweenQuotes?, String.toList_ofList]
      exact h

/-! ## Inversion -/

/-- The text before the first blank, and what follows the blank. -/
theorem eq_append_of_splitAtBlank? {text front back : List Char}
    (h : Text.splitAtBlank? text = some (front, back)) :
    ∃ blank, text = front ++ blank :: back ∧ (∀ c ∈ front, Text.isBlank c = false) ∧
      Text.isBlank blank = true := by
  unfold Text.splitAtBlank? at h
  split at h
  · cases h
  · next blank back' hdrop =>
      cases h
      refine ⟨blank, ?_, ?_, ?_⟩
      · rw [← hdrop, List.takeWhile_append_dropWhile]
      · intro c hc
        simpa using List.mem_takeWhile_imp hc
      · have hhead := List.head?_dropWhile_not (fun c => !Text.isBlank c) text
        rw [hdrop] at hhead
        simpa using hhead

theorem means_of_updateValue {text : List Char} {instruction : Instruction}
    (h : updateValue text = .ok instruction) :
    Means .updateValue text (.complete instruction) := by
  unfold updateValue at h
  cases hsplit : Text.splitAtBlank? text with
  | none =>
      simp only [hsplit] at h
      cases h
  | some parts =>
      obtain ⟨front, back⟩ := parts
      simp only [hsplit] at h
      split at h
      · cases h
      · obtain ⟨element, helement, h⟩ := of_bind_eq_ok h
        obtain ⟨value, hvalue, h⟩ := of_bind_eq_ok h
        cases h
        obtain ⟨rfl, htravel⟩ := of_argument_eq_ok helement
        obtain ⟨blank, rfl, hfront, hblank⟩ := eq_append_of_splitAtBlank? hsplit
        exact .updateValue htravel hfront hblank hvalue

/-- What `command` accepts follows the grammar. -/
theorem means_of_command {opcode : Opcode} {text : List Char} {c : Command}
    (h : command opcode text = .ok c) : Means opcode text c := by
  -- an update of one value splits its text by itself, all others by words
  cases opcode with
  | updateValue =>
      obtain ⟨instruction, hvalue, rfl⟩ := of_map_eq_ok h
      exact means_of_updateValue hvalue
  | addInstance =>
      obtain ⟨words, hwords, h⟩ := operands_of_arguments h
      split at h
      · cases h; exact .clearInstances hwords
      · cases h; exact .addInstance hwords
      · cases h
  | removeInstance =>
      obtain ⟨words, hwords, h⟩ := operands_of_arguments h
      split at h
      · cases h; exact .removeInstance hwords
      · cases h
  | setValues =>
      obtain ⟨words, hwords, h⟩ := operands_of_arguments h
      split at h
      · cases h; exact .setValues hwords
      · cases h
  | updateValues =>
      obtain ⟨words, hwords, h⟩ := operands_of_arguments h
      split at h
      · cases h; exact .updateValues hwords
      · cases h
  | deleteValue =>
      obtain ⟨words, hwords, h⟩ := operands_of_arguments h
      split at h
      · cases h; exact .deleteValue hwords
      · cases h
  | connect =>
      obtain ⟨words, hwords, h⟩ := operands_of_arguments h
      split at h
      · cases h; exact .connect hwords
      · cases h
  | disconnect =>
      obtain ⟨words, hwords, h⟩ := operands_of_arguments h
      split at h
      · cases h; exact .disconnectAll hwords
      · next word => cases h; exact .disconnectFrom hwords (endpoint_spec word)
      · next word word' =>
          cases h
          exact .disconnect hwords (endpoint_spec word) (endpoint_spec word')
      · cases h

end Patchbay.Script
