import WorkflowLaunch.CommandLine.Reader
import WorkflowLaunch.Proofs.CommandLine.Values

set_option autoImplicit false

/-!
Command lines as lists of items: options with their values, in every way to write them, and words.
Items are read in any order, and what they ask for does not depend on how they are written.
-/

namespace WorkflowLaunch.CommandLine

open Octets (ofString)

/-- Whether every value of a setting counts, and not a single one. -/
def Setting.isList : Setting → Bool
  | attributeNames | attributeTypes | namespaces => true
  | _ => false

/-- A decimal number of 16 bits, with leading zeros or without. -/
structure Numeral where
  digits : List Char
  number : UInt16
  some : digits ≠ []
  decimal : ∀ digit ∈ digits, digit.isDigit = true
  worth : Nat.ofDigitChars 10 digits 0 = number.toNat

/-- A setting with a value that can be written for it. -/
inductive Assignment where
  | ephemeral (value : Bool)
  | filename (path : Path) (named : path.octets ≠ [])
  | port (numeral : Numeral)
  | ip (text : String)
  | logFormat (text : String)
  | namespaces (text : String)
  | attributeNames (text : String)
  | attributeTypes (text : String)

namespace Assignment

def setting : Assignment → Setting
  | ephemeral _ => .ephemeral
  | filename _ _ => .filename
  | port _ => .port
  | ip _ => .ip
  | logFormat _ => .logFormat
  | namespaces _ => .namespaces
  | attributeNames _ => .attributeNames
  | attributeTypes _ => .attributeTypes

/-- The value as it is written. -/
def octets : Assignment → Octets
  | ephemeral value => ofString (if value then "true" else "false")
  | filename path _ => path.octets
  | port numeral => ofString (String.ofList numeral.digits)
  | ip text | logFormat text | namespaces text | attributeNames text | attributeTypes text =>
    ofString text

@[simp] def ephemeral? : Assignment → Option Bool
  | ephemeral value => some value
  | _ => none

@[simp] def filename? : Assignment → Option Path
  | filename path _ => some path
  | _ => none

@[simp] def port? : Assignment → Option UInt16
  | port numeral => some numeral.number
  | _ => none

@[simp] def ip? : Assignment → Option String
  | ip text => some text
  | _ => none

@[simp] def logFormat? : Assignment → Option String
  | logFormat text => some text
  | _ => none

@[simp] def namespaces? : Assignment → Option (List String)
  | namespaces text => some (listItems text)
  | _ => none

@[simp] def attributeNames? : Assignment → Option (List String)
  | attributeNames text => some (listItems text)
  | _ => none

@[simp] def attributeTypes? : Assignment → Option (List String)
  | attributeTypes text => some (listItems text)
  | _ => none

end Assignment

/-- A word that is not taken for an option. -/
def Plain (word : Octets) : Prop := word.head? ≠ some dash

instance (word : Octets) : Decidable (Plain word) := inferInstanceAs (Decidable (_ ≠ _))

/-- What stands behind `start`: a word, the option for an ephemeral server without a value, an
option with its value behind an equals sign, or an option with its value in a word of its own. -/
inductive Item where
  | word (text : String) (plain : Plain (ofString text))
  | bare
  | attached (given : Assignment)
  | apart (given : Assignment) (needed : given.setting.valueOptional = false)
      (plain : Plain given.octets)
  | short (letter : Char) (given : Assignment) (named : given.setting.short? = some letter)
      (plain : Plain given.octets)

namespace Item

/-- The words of a command line that an item is written with. -/
def words : Item → List Octets
  | word text _ => [ofString text]
  | bare => [ofString "--ephemeral"]
  | attached given => [ofString "--" ++ ofString given.setting.long ++ ofString "=" ++ given.octets]
  | apart given _ _ => [ofString "--" ++ ofString given.setting.long, given.octets]
  | short letter given _ _ => [ofString "-" ++ ofString (String.singleton letter), given.octets]

def word? : Item → Option String
  | word text _ => some text
  | _ => none

def given? : Item → Option Assignment
  | word _ _ => none
  | bare => some (.ephemeral true)
  | attached given | apart given _ _ | short _ given _ _ => some given

end Item

def assignments (items : List Item) : List Assignment := items.filterMap Item.given?

/-- No setting with a single value is given twice. -/
def Once (items : List Item) : Prop :=
  (assignments items).Pairwise fun one other =>
    one.setting = other.setting → one.setting.isList = true

instance (items : List Item) : Decidable (Once items) :=
  inferInstanceAs (Decidable ((assignments items).Pairwise _))

/-- The values of one setting, in order. -/
def values {α : Type} (value? : Assignment → Option α) (items : List Item) : List α :=
  (assignments items).filterMap value?

/-- All lists that were given, one behind the other. -/
def joined : List (List String) → Option (List String)
  | [] => none
  | lists => some lists.flatten

/-- What some items ask for. -/
def asked (items : List Item) (standard : Standard) : Request where
  words := items.filterMap Item.word?
  ephemeral := .resolve (values Assignment.ephemeral? items).head? standard.ephemeral
  filename := .resolve (values Assignment.filename? items).head? standard.databaseFile
  port := .resolve (values Assignment.port? items).head? standard.port
  ip := .resolve (values Assignment.ip? items).head? standard.ip
  logFormat := .resolve (values Assignment.logFormat? items).head? standard.logFormat
  namespaces := .resolve (joined (values Assignment.namespaces? items)) []
  attributeNames := .resolve (joined (values Assignment.attributeNames? items)) []
  attributeTypes := .resolve (joined (values Assignment.attributeTypes? items)) []

/-- What has been given once some items were entered. -/
def entered (items : List Item) : Given where
  words := items.filterMap Item.word?
  ephemeral := (values Assignment.ephemeral? items).head?
  filename := (values Assignment.filename? items).head?
  port := (values Assignment.port? items).head?
  ip := (values Assignment.ip? items).head?
  logFormat := (values Assignment.logFormat? items).head?
  namespaces := joined (values Assignment.namespaces? items)
  attributeNames := joined (values Assignment.attributeNames? items)
  attributeTypes := joined (values Assignment.attributeTypes? items)

/-- Some items were read: all but what is pending is entered, and no option waits for a value. -/
structure Reads (items : List Item) (progress : Progress) : Prop where
  settles : progress.settle = .ok (entered items)
  awaits : ∀ setting, progress.pending ≠ .option setting

variable {help : String} {front : List Item} {item : Item} {given : Assignment}
  {progress : Progress} {rest : List Octets}

theorem values_of_word {α : Type} {text : String} {plain : Plain (ofString text)}
    (value? : Assignment → Option α) :
    values value? (front ++ [.word text plain]) = values value? front := by
  simp [values, assignments, Item.given?]

theorem values_of_given {α : Type} (value? : Assignment → Option α)
    (gives : item.given? = some given) :
    values value? (front ++ [item]) = values value? front ++ (value? given).toList := by
  cases value : value? given <;> simp [values, assignments, gives, value]

theorem more_joined (lists : List (List String)) (list : List String) :
    Given.more (joined lists) list = joined (lists ++ [list]) := by
  cases lists <;> simp [Given.more, joined]

/-- A setting with a single value that was not given before. -/
def Fresh (front : List Item) (given : Assignment) : Prop :=
  given.setting.isList = false → ∀ other ∈ assignments front, other.setting ≠ given.setting

theorem Fresh.values_eq_nil {α : Type} {value? : Assignment → Option α}
    (fresh : Fresh front given) (single : given.setting.isList = false)
    (typed : ∀ other, value? other ≠ none → other.setting = given.setting) :
    values value? front = [] := by
  rw [values, List.filterMap_eq_nil_iff]
  intro other member
  by_contra value
  exact fresh single other member (typed other value)

theorem readFlag_written (value : Bool) :
    readFlag (ofString (if value then "true" else "false")) = .ok value := by
  cases value <;> decide

theorem readPath_octets {path : Path} (named : path.octets ≠ []) :
    readPath path.octets = .ok path := by
  simp [readPath, named]

theorem readPort_numeral (numeral : Numeral) :
    readPort (ofString (String.ofList numeral.digits)) = .ok numeral.number :=
  readPort_of_decimal numeral.some numeral.decimal numeral.worth

@[simp] theorem once_none {α : Type} (setting : Setting) (read : Except Fault α) :
    Given.once setting none read = read.map some := rfl

theorem enter_given (gives : item.given? = some given) (fresh : Fresh front given) :
    (entered front).enter given.setting given.octets = .ok (entered (front ++ [item])) := by
  have words : item.word? = none := by cases item <;> simp_all [Item.given?, Item.word?]
  -- A single setting has no values in front, and the values of all others stay as they are.
  simp only [entered, List.filterMap_append, List.filterMap_cons, List.filterMap_nil, words,
    List.append_nil, values_of_given _ gives]
  cases given with
  | ephemeral value =>
    have unset : values Assignment.ephemeral? front = [] := by
      apply fresh.values_eq_nil rfl
      rintro (_ | _) <;> simp [Assignment.setting]
    simp [Given.enter, Assignment.setting, Assignment.octets, unset, readFlag_written, Except.map]
  | filename path named =>
    have unset : values Assignment.filename? front = [] := by
      apply fresh.values_eq_nil rfl
      rintro (_ | _) <;> simp [Assignment.setting]
    simp [Given.enter, Assignment.setting, Assignment.octets, unset, readPath_octets named,
      Except.map]
  | port numeral =>
    have unset : values Assignment.port? front = [] := by
      apply fresh.values_eq_nil rfl
      rintro (_ | _) <;> simp [Assignment.setting]
    simp [Given.enter, Assignment.setting, Assignment.octets, unset, readPort_numeral, Except.map]
  | ip text =>
    have unset : values Assignment.ip? front = [] := by
      apply fresh.values_eq_nil rfl
      rintro (_ | _) <;> simp [Assignment.setting]
    simp [Given.enter, Assignment.setting, Assignment.octets, unset, readText_ofString, Except.map]
  | logFormat text =>
    have unset : values Assignment.logFormat? front = [] := by
      apply fresh.values_eq_nil rfl
      rintro (_ | _) <;> simp [Assignment.setting]
    simp [Given.enter, Assignment.setting, Assignment.octets, unset, readText_ofString, Except.map]
  | namespaces text | attributeNames text | attributeTypes text =>
    simp [Given.enter, Assignment.setting, Assignment.octets, readItems_ofString, more_joined]

theorem Word.ofOctets_plain {word : Octets} (plain : Plain word) :
    Word.ofOctets word = .plain word := by
  rw [Word.ofOctets.eq_def]
  split <;> simp_all [Plain, dash]

theorem splitValue_append {name : Octets} (named : equalsSign ∉ name) (value : Octets) :
    splitValue (name ++ equalsSign :: value) = (name, some value) := by
  have front : (name ++ equalsSign :: value).takeWhile (· ≠ equalsSign) = name := by
    rw [List.takeWhile_append_of_pos]
    · simp
    · simpa using fun octet member => ne_of_mem_of_not_mem member named
  simp only [splitValue, front]
  simp

theorem splitValue_of_not_mem {name : Octets} (named : equalsSign ∉ name) :
    splitValue name = (name, none) := by
  have front : name.takeWhile (· ≠ equalsSign) = name := by
    rw [List.takeWhile_eq_self_iff]
    simpa using fun octet member => ne_of_mem_of_not_mem member named
  simp only [splitValue, front, List.drop_length]

theorem equalsSign_not_mem_long (setting : Setting) : equalsSign ∉ ofString setting.long := by
  cases setting <;> decide

theorem Word.ofOctets_dashes {octets : Octets} (some : octets ≠ []) :
    Word.ofOctets (ofString "--" ++ octets) =
      .long (splitValue octets).1 (splitValue octets).2 := by
  have dashes : ofString "--" = [45, 45] := by decide
  cases octets with
  | nil => exact absurd rfl some
  | cons octet rest =>
    rw [dashes]
    rfl

theorem long_ne_nil (setting : Setting) : ofString setting.long ≠ [] := by
  cases setting <;> decide

theorem Word.ofOctets_attached (setting : Setting) (value : Octets) :
    Word.ofOctets (ofString "--" ++ ofString setting.long ++ ofString "=" ++ value) =
      .long (ofString setting.long) (some value) := by
  have equals : ofString "=" = [equalsSign] := by decide
  rw [List.append_assoc, List.append_assoc, Word.ofOctets_dashes (by simp [long_ne_nil]), equals,
    List.singleton_append, splitValue_append (equalsSign_not_mem_long setting)]

theorem Word.ofOctets_long (setting : Setting) :
    Word.ofOctets (ofString "--" ++ ofString setting.long) =
      .long (ofString setting.long) none := by
  rw [Word.ofOctets_dashes (long_ne_nil setting),
    splitValue_of_not_mem (equalsSign_not_mem_long setting)]

theorem ofLong?_long (setting : Setting) :
    Setting.ofLong? (ofString setting.long) = some setting := by
  cases setting <;> decide

theorem long_ne_help (setting : Setting) : ofString setting.long ≠ ofString "help" := by
  cases setting <;> decide

theorem readLong_attached (setting : Setting) (value : Octets) :
    readLong help progress (ofString setting.long) (some value) =
      (progress.attach setting value).mapError .fault := by
  simp only [readLong, if_neg (long_ne_help setting), ofLong?_long]

theorem readLong_bare (setting : Setting) :
    readLong help progress (ofString setting.long) none =
      (progress.expect setting).mapError .fault := by
  simp only [readLong, if_neg (long_ne_help setting), ofLong?_long]

theorem short?_eq_some_iff {setting : Setting} {letter : Char} :
    setting.short? = some letter ↔ letter = 'f' ∧ setting = .filename ∨
      letter = 'p' ∧ setting = .port ∨ letter = 'n' ∧ setting = .namespaces := by
  cases setting <;> simp [Setting.short?, eq_comm]

theorem Word.ofOctets_short {setting : Setting} {letter : Char}
    (named : setting.short? = some letter) :
    Word.ofOctets (ofString "-" ++ ofString (String.singleton letter)) =
      .letters (ofString (String.singleton letter)) := by
  rcases short?_eq_some_iff.mp named with ⟨rfl, _⟩ | ⟨rfl, _⟩ | ⟨rfl, _⟩ <;> decide

theorem readLetters_short {setting : Setting} {letter : Char}
    (named : setting.short? = some letter) :
    readLetters help progress (ofString (String.singleton letter)) =
      (progress.expect setting).mapError .fault := by
  rcases short?_eq_some_iff.mp named with ⟨rfl, rfl⟩ | ⟨rfl, rfl⟩ | ⟨rfl, rfl⟩ <;> rfl

theorem reads_entered (items : List Item) : Reads items ⟨entered items, .nothing⟩ :=
  ⟨rfl, by simp⟩

theorem Reads.attach {item : Item} (reads : Reads front progress) (gives : item.given? = some given)
    (fresh : Fresh front given) :
    progress.attach given.setting given.octets = .ok ⟨entered (front ++ [item]), .nothing⟩ := by
  simp only [Progress.attach, reads.settles, bind, Except.bind, enter_given gives fresh]
  rfl

theorem Reads.expect {setting : Setting} (reads : Reads front progress)
    (needed : setting.valueOptional = false) :
    progress.expect setting = .ok ⟨entered front, .option setting⟩ := by
  simp only [Progress.expect, needed, reads.settles, bind, Except.bind]
  rfl

/-- A word behind an option that waits for its value is the value, once the next item begins. -/
theorem reads_value (gives : item.given? = some given) (fresh : Fresh front given)
    (plain : Plain given.octets) :
    ∃ next, readStart help ⟨entered front, .option given.setting⟩ (given.octets :: rest) =
      readStart help next rest ∧ Reads (front ++ [item]) next := by
  refine ⟨⟨entered front, .value given.setting given.octets⟩, ?_, ?_, by simp⟩
  · rw [readStart, Word.ofOctets_plain plain]
    rfl
  · exact enter_given gives fresh

theorem readTexts_append {octets : List Octets} {texts : List String} (text : String)
    (read : readTexts octets = .ok texts) :
    readTexts (octets ++ [ofString text]) = .ok (texts ++ [text]) := by
  induction octets generalizing texts with
  | nil =>
    obtain rfl : [] = texts := by simpa [readTexts] using read
    simp [readTexts, bind, Except.bind, pure, Except.pure]
  | cons first others ih =>
    simp only [readTexts, List.cons_append] at read ⊢
    cases one : readText first with
    | error => simp [one, bind, Except.bind] at read
    | ok text =>
      cases more : readTexts others with
      | error => simp [one, more, bind, Except.bind] at read
      | ok words =>
        obtain rfl : text :: words = texts := by
          simpa [one, more, bind, Except.bind, pure, Except.pure] using read
        simp [ih more, bind, Except.bind, pure, Except.pure]

theorem entered_word (text : String) (plain : Plain (ofString text)) :
    entered (front ++ [.word text plain]) =
      { entered front with words := (entered front).words ++ [text] } := by
  simp [entered, values_of_word, Item.word?]

/-- A word begins a row of words once everything before it is entered. -/
theorem reads_words (text : String) (plain : Plain (ofString text)) :
    Reads (front ++ [.word text plain]) ⟨entered front, .words [ofString text]⟩ := by
  refine ⟨?_, by simp⟩
  rw [entered_word]
  simp [Progress.settle, readTexts, bind, Except.bind, pure, Except.pure]

theorem Reads.addPlain (reads : Reads front progress) (text : String)
    (plain : Plain (ofString text)) :
    ∃ next, progress.addPlain (ofString text) = .ok next ∧
      Reads (front ++ [.word text plain]) next := by
  obtain ⟨settles, awaits⟩ := reads
  obtain ⟨given, pending⟩ := progress
  cases pending with
  | option setting => exact absurd rfl (awaits setting)
  | words octets =>
    refine ⟨_, rfl, ?_, by simp⟩
    simp only [Progress.settle] at settles ⊢
    cases read : readTexts octets with
    | error => simp [read, bind, Except.bind] at settles
    | ok texts =>
      rw [entered_word, readTexts_append text read]
      simp only [read, bind, Except.bind, pure, Except.pure, Except.ok.injEq] at settles ⊢
      simp [← settles]
  | nothing | value _ _ =>
    refine ⟨_, ?_, reads_words text plain⟩
    simp only [Progress.addPlain, Progress.addWord, settles, bind, Except.bind]
    rfl

theorem valueOptional_of_short {setting : Setting} {letter : Char}
    (named : setting.short? = some letter) : setting.valueOptional = false := by
  cases setting <;> simp_all [Setting.short?, Setting.valueOptional]

/-- Reading one item, whatever comes behind it. -/
theorem readStart_item (help : String) (rest : List Octets) (reads : Reads front progress)
    (fresh : ∀ given, item.given? = some given → Fresh front given) :
    ∃ next, readStart help progress (item.words ++ rest) = readStart help next rest ∧
      Reads (front ++ [item]) next := by
  cases item with
  | word text plain =>
    obtain ⟨next, adds, later⟩ := reads.addPlain text plain
    refine ⟨next, ?_, later⟩
    rw [Item.words, List.singleton_append, readStart, Word.ofOctets_plain plain]
    simp only [adds]
    rfl
  | bare =>
    have gives : Item.bare.given? = some (.ephemeral true) := rfl
    have word : Word.ofOctets (ofString "--ephemeral") =
        .long (ofString Setting.ephemeral.long) none := by decide
    -- An option that may go without a value is not left waiting for one.
    have expected : progress.expect .ephemeral = progress.attach
        (Assignment.ephemeral true).setting (Assignment.ephemeral true).octets := rfl
    refine ⟨_, ?_, reads_entered _⟩
    rw [Item.words, List.singleton_append, readStart, word]
    simp only [readLong_bare, expected, reads.attach gives (fresh _ gives)]
    rfl
  | attached given =>
    have gives : (Item.attached given).given? = some given := rfl
    refine ⟨_, ?_, reads_entered _⟩
    rw [Item.words, List.singleton_append, readStart, Word.ofOctets_attached]
    simp only [readLong_attached, reads.attach gives (fresh _ gives)]
    rfl
  | apart given needed plain =>
    rw [Item.words, List.cons_append, readStart, Word.ofOctets_long]
    simp only [readLong_bare, reads.expect needed]
    exact reads_value rfl (fresh _ rfl) plain
  | short letter given named plain =>
    rw [Item.words, List.cons_append, readStart, Word.ofOctets_short named]
    simp only [readLetters_short named, reads.expect (valueOptional_of_short named)]
    exact reads_value rfl (fresh _ rfl) plain

theorem Once.fresh {others : List Item} (once : Once (front ++ item :: others))
    (gives : item.given? = some given) : Fresh front given := by
  rw [Once, assignments, List.filterMap_append, List.pairwise_append] at once
  obtain ⟨_, _, apart⟩ := once
  intro single other member same
  have list := apart other member given (by simp [gives]) same
  rw [same, single] at list
  simp at list

theorem readStart_items (help : String) {items : List Item} (reads : Reads front progress)
    (once : Once (front ++ items)) :
    ∃ last, readStart help progress (items.flatMap Item.words) = .ok last ∧
      Reads (front ++ items) last := by
  induction items generalizing front progress with
  | nil => exact ⟨progress, rfl, by simpa using reads⟩
  | cons item others ih =>
    obtain ⟨next, step, after⟩ := readStart_item help (others.flatMap Item.words) reads
      fun given gives => once.fresh gives
    obtain ⟨last, run, final⟩ := ih after (by simpa using once)
    refine ⟨last, ?_, by simpa using final⟩
    rw [List.flatMap_cons, step, run]

theorem read_of_once (standard : Standard) (program : Octets) {items : List Item}
    (once : Once items) :
    read (program :: ofString "start" :: items.flatMap Item.words) standard =
      .ok (asked items standard) := by
  have begun : Progress.start = ⟨entered [], .nothing⟩ := rfl
  simp only [read, List.drop_one, List.tail_cons, readTop, if_true, start, begun]
  generalize startHelp _ standard = help
  obtain ⟨last, run, reads⟩ := readStart_items help (reads_entered []) once
  simp only [run, bind, Except.bind, reads.settles, Except.mapError]
  rfl

end WorkflowLaunch.CommandLine
