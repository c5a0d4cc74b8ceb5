import WorkflowLaunch.Proofs.Checks
import WorkflowLaunch.Proofs.CommandLine.Items

set_option autoImplicit false

/-!
The words of a command line that name the database file. A request holds a given file exactly if one
of its words names it. Behind each word it is enough to know whether a name was read so far, entered
or pending, and whether one is waited for.
-/

namespace WorkflowLaunch.CommandLine

open Octets (ofString)

/-- The letter of the option for the database file. -/
def fileLetter : UInt8 := 102

/-- A word that holds the path of the database file. -/
inductive HoldsFile (path : Path) : Octets → Prop where
  | long : HoldsFile path (ofString "--filename=" ++ path.octets)
  | equals : HoldsFile path (ofString "-f=" ++ path.octets)
  | letter : path.octets ≠ [] → path.octets.head? ≠ some equalsSign →
      HoldsFile path (ofString "-f" ++ path.octets)

/-- A word behind which the path of the database file stands. -/
def AsksFile (word : Octets) : Prop := word = ofString "--filename" ∨ word = ofString "-f"

/-- Words behind `start` that name the database file, in front of two dashes if there are any. -/
inductive NamesFile (path : Path) : List Octets → Prop where
  | within {word : Octets} {rest : List Octets} :
      HoldsFile path word → NamesFile path (word :: rest)
  | behind {word : Octets} {rest : List Octets} :
      AsksFile word → Word.ofOctets path.octets = .plain path.octets →
      NamesFile path (word :: path.octets :: rest)
  | later {word : Octets} {rest : List Octets} :
      word ≠ ofString "--" → NamesFile path rest → NamesFile path (word :: rest)

/-- The file was named by what has been read. -/
def Named (path : Path) (progress : Progress) : Prop :=
  progress.given.filename = some path ∨ progress.pending = .value .filename path.octets

/-- The next word is taken for the file, if it is no option. -/
def Waits (progress : Progress) : Prop := progress.pending = .option .filename

variable {help : String} {path : Path} {word value octets name behind : Octets} {rest : List Octets}
  {setting : Setting} {given entered : Given} {progress next last : Progress}

theorem splitValue_cons (octet : UInt8) (rest : Octets) :
    splitValue (octet :: rest) =
      if octet = equalsSign then ([], some rest)
      else (octet :: (splitValue rest).1, (splitValue rest).2) := by
  by_cases equals : octet = equalsSign
  · simp [splitValue, equals]
  · simp only [splitValue, List.takeWhile_cons, ne_eq, equals, not_false_eq_true, decide_true,
      if_true, List.length_cons, List.drop_succ_cons, if_false]
    split <;> rfl

theorem eq_of_splitValue (octets : Octets) :
    octets = (splitValue octets).1 ++ ((splitValue octets).2.map (equalsSign :: ·)).getD [] := by
  induction octets with
  | nil => rfl
  | cons octet rest ih =>
    rw [splitValue_cons]
    split
    · next equals => simp [equals]
    · rw [List.cons_append, ← ih]

theorem eq_of_long {value : Option Octets} (read : Word.ofOctets word = .long name value) :
    word = ofString "--" ++ name ++ (value.map (equalsSign :: ·)).getD [] := by
  rw [Word.ofOctets.eq_def] at read
  split at read
  · simp at read
  · next rest _ =>
    have read : Word.long (splitValue rest).1 (splitValue rest).2 = .long name value := read
    obtain ⟨rfl, rfl⟩ := Word.long.inj read
    rw [List.append_assoc, ← eq_of_splitValue rest]
    rfl
  all_goals simp at read

theorem eq_of_letters (read : Word.ofOctets word = .letters octets) : word = dash :: octets := by
  rw [Word.ofOctets.eq_def] at read
  split at read
  case h_4 =>
    obtain rfl := Word.letters.inj read
    rfl
  all_goals simp at read

theorem eq_of_plain (read : Word.ofOctets word = .plain octets) : octets = word := by
  rw [Word.ofOctets.eq_def] at read
  split at read
  case h_3 => exact (Word.plain.inj read).symm
  case h_5 => exact (Word.plain.inj read).symm
  all_goals simp at read

theorem holdsFile_iff :
    HoldsFile path word ↔
      Word.ofOctets word = .long (ofString "filename") (some path.octets) ∨
        ∃ rest, rest ≠ [] ∧ Word.ofOctets word = .letters (fileLetter :: rest) ∧
          valueBehind rest = path.octets := by
  constructor
  · rintro (_ | _ | ⟨nonempty, different⟩)
    · exact .inl (Word.ofOctets_attached .filename path.octets)
    · exact .inr ⟨equalsSign :: path.octets, by simp, rfl, rfl⟩
    · refine .inr ⟨path.octets, nonempty, rfl, ?_⟩
      rw [valueBehind.eq_def]
      split
      · next octets => simp [octets, equalsSign] at different
      · rfl
  · rintro (read | ⟨rest, nonempty, read, behind⟩)
    · have written := eq_of_long read
      rw [Option.map_some, Option.getD_some] at written
      rw [written]
      have option : ofString "--filename=" =
          ofString "--" ++ ofString "filename" ++ [equalsSign] := by
        decide
      have holds : HoldsFile path (ofString "--filename=" ++ path.octets) := .long
      simpa [option] using holds
    · obtain rfl := eq_of_letters read
      rw [valueBehind.eq_def] at behind
      split at behind
      · rw [behind]
        exact .equals
      · next different =>
        subst behind
        refine .letter nonempty ?_
        intro first
        obtain ⟨value, shape⟩ := List.head?_eq_some_iff.mp first
        exact different value shape

theorem asksFile_iff :
    AsksFile word ↔ Word.ofOctets word = .long (ofString "filename") none ∨
      Word.ofOctets word = .letters [fileLetter] := by
  constructor
  · rintro (rfl | rfl)
    · exact .inl (by decide)
    · exact .inr (by decide)
  · rintro (read | read)
    · exact .inl (eq_of_long read)
    · exact .inr (eq_of_letters read)

theorem enter_filename (path : Path) (enters : given.enter setting value = .ok entered) :
    entered.filename = some path ↔
      given.filename = some path ∨ setting = .filename ∧ value = path.octets := by
  cases setting with
  | filename =>
    cases held : given.filename with
    | some other =>
      simp [Given.enter, held, Given.once, bind, Except.bind] at enters
    | none =>
      by_cases empty : value = []
      · simp [Given.enter, held, Given.once, readPath, empty, bind, Except.bind, Except.map]
          at enters
      · simp [Given.enter, held, Given.once, readPath, empty, bind, Except.bind, Except.map,
          pure, Except.pure] at enters
        subst enters
        obtain ⟨octets⟩ := path
        simp
  | ephemeral | port | ip | logFormat | namespaces | attributeNames | attributeTypes =>
    obtain ⟨_, _, enters⟩ := bind_eq_ok.mp enters
    obtain rfl := Except.ok.inj enters
    simp

theorem settle_filename (path : Path) (settles : progress.settle = .ok entered) :
    entered.filename = some path ↔ Named path progress := by
  obtain ⟨given, pending⟩ := progress
  cases pending with
  | nothing =>
    obtain rfl : given = entered := Except.ok.inj settles
    simp [Named]
  | option setting => simp [Progress.settle] at settles
  | value setting value => simp [Named, enter_filename path settles]
  | words octets =>
    obtain ⟨_, _, settles⟩ := bind_eq_ok.mp settles
    obtain rfl := Except.ok.inj settles
    simp [Named]

theorem attach_learns (attaches : progress.attach setting value = .ok next) :
    next.pending = .nothing ∧ ∀ path, Named path next ↔
      Named path progress ∨ setting = .filename ∧ value = path.octets := by
  obtain ⟨given, settles, attaches⟩ := bind_eq_ok.mp attaches
  obtain ⟨entered, enters, attaches⟩ := bind_eq_ok.mp attaches
  obtain rfl := Except.ok.inj attaches
  refine ⟨rfl, ?_⟩
  intro path
  rw [← settle_filename path settles, ← enter_filename path enters]
  simp [Named]

theorem expect_learns (expects : progress.expect setting = .ok next) :
    (Waits next ↔ setting = .filename) ∧ ∀ path, Named path next ↔ Named path progress := by
  by_cases optional : setting.valueOptional = true
  · have other : setting ≠ .filename := by
      rintro rfl
      simp [Setting.valueOptional] at optional
    rw [Progress.expect, if_pos optional] at expects
    obtain ⟨nothing, named⟩ := attach_learns expects
    simp [Waits, nothing, named, other]
  · rw [Progress.expect, if_neg optional] at expects
    obtain ⟨entered, settles, expects⟩ := bind_eq_ok.mp expects
    obtain rfl := Except.ok.inj expects
    refine ⟨by simp [Waits], ?_⟩
    intro path
    rw [← settle_filename path settles]
    simp [Named]

theorem addWord_learns (adds : progress.addWord word = .ok next) :
    ¬Waits next ∧ ∀ path, Named path next ↔ Named path progress := by
  rw [Progress.addWord.eq_def] at adds
  split at adds
  · next octets pending =>
    obtain rfl := Except.ok.inj adds
    simp [Waits, Named, pending]
  · obtain ⟨entered, settles, adds⟩ := bind_eq_ok.mp adds
    obtain rfl := Except.ok.inj adds
    refine ⟨by simp [Waits], ?_⟩
    intro path
    rw [← settle_filename path settles]
    simp [Named]

theorem addPlain_learns (adds : progress.addPlain word = .ok next) :
    ¬Waits next ∧ ∀ path, Named path next ↔
      Named path progress ∨ Waits progress ∧ word = path.octets := by
  rw [Progress.addPlain.eq_def] at adds
  split at adds
  · next setting waiting =>
    obtain rfl := Except.ok.inj adds
    simp [Waits, Named, waiting]
  · next idle =>
    have still : ¬Waits progress := idle .filename
    simpa [still] using addWord_learns adds

/-- What a word in front of two dashes says of the database file. -/
structure Learns (word : Octets) (progress next : Progress) : Prop where
  waits : Waits next ↔ AsksFile word
  named : ∀ path, Named path next ↔ Named path progress ∨ HoldsFile path word ∨
    Waits progress ∧ Word.ofOctets word = .plain path.octets

theorem long_eq_filename_iff :
    ofString setting.long = ofString "filename" ↔ setting = .filename := by
  cases setting <;> decide

theorem learns_of_long {value : Option Octets} (read : Word.ofOctets word = .long name value)
    (reads : readLong help progress name value = .ok next) : Learns word progress next := by
  unfold readLong at reads
  split at reads
  · split at reads <;> simp at reads
  · split at reads
    · simp at reads
    · next setting found =>
      have written : ofString setting.long = name := by simpa using List.find?_some found
      subst written
      cases value with
      | some value =>
        obtain ⟨nothing, named⟩ := attach_learns (mapError_eq_ok.mp reads)
        constructor
        · simp [Waits, nothing, asksFile_iff, read]
        · simp [named, holdsFile_iff, read, long_eq_filename_iff]
      | none =>
        obtain ⟨waits, named⟩ := expect_learns (mapError_eq_ok.mp reads)
        constructor
        · simp [waits, asksFile_iff, read, long_eq_filename_iff]
        · simp [named, holdsFile_iff, read]

theorem splitLetter?_eq_some_iff :
    splitLetter? octets = some ('f', value) ↔ octets = fileLetter :: value := by
  have letter : ofString "f" = [fileLetter] := by decide
  constructor
  · intro split
    unfold splitLetter? at split
    split at split
    · simp at split
    · next first behind =>
      simp only at split
      generalize (if first < 0x80 then 1 else if first < 0xE0 then 2
        else if first < 0xF0 then 3 else 4) = size at split
      split at split
      · next one found =>
        obtain ⟨rfl, rfl⟩ := Prod.mk.inj (Option.some.inj split)
        obtain ⟨text, read, single⟩ := Option.map_eq_some_iff.mp found
        obtain rfl : text = "f" := String.toList_inj.mp single
        have front := Octets.text?_eq_some_iff.mp read
        calc first :: behind
          _ = (first :: behind).take size ++ (first :: behind).drop size :=
            (List.take_append_drop ..).symm
          _ = fileLetter :: (first :: behind).drop size := by rw [front, letter, List.singleton_append]
      · simp at split
  · rintro rfl
    have read : Octets.text? [fileLetter] = some "f" := Octets.text?_eq_some_iff.mpr letter.symm
    have ascii : fileLetter < 0x80 := by decide
    simp [splitLetter?, ascii, read]

/-- Letters are about the database file exactly if the first one is its own. -/
theorem letters_eq_iff (value : Octets) {letter : Char}
    (found : splitLetter? octets = some (letter, behind))
    (named : Setting.ofShort? letter = some setting) :
    octets = fileLetter :: value ↔ setting = .filename ∧ behind = value := by
  have short : letter = 'f' ↔ setting = .filename := by
    constructor
    · rintro rfl
      have file : Setting.ofShort? 'f' = some .filename := by decide
      exact Option.some.inj (named.symm.trans file)
    · rintro rfl
      have own : Setting.filename.short? = some letter := by simpa using List.find?_some named
      exact (Option.some.inj own).symm
  rw [← splitLetter?_eq_some_iff, found, ← short]
  simp

theorem learns_of_letters (read : Word.ofOctets word = .letters octets)
    (reads : readLetters help progress octets = .ok next) : Learns word progress next := by
  unfold readLetters at reads
  split at reads
  · simp at reads
  · next letter behind found =>
    split at reads
    · simp at reads
    · split at reads
      · simp at reads
      · next setting known =>
        have about (value : Octets) := letters_eq_iff value found known
        split at reads
        · next final =>
          obtain ⟨waits, named⟩ := expect_learns (mapError_eq_ok.mp reads)
          subst final
          constructor
          · simp [waits, asksFile_iff, read, about]
          · simp [named, holdsFile_iff, read, about]
        · next more =>
          obtain ⟨nothing, named⟩ := attach_learns (mapError_eq_ok.mp reads)
          constructor
          · simp [Waits, nothing, asksFile_iff, read, about, more]
          · simp [named, holdsFile_iff, read, about, more]

theorem learns_of_plain (read : Word.ofOctets word = .plain octets)
    (adds : progress.addPlain octets = .ok next) : Learns word progress next := by
  obtain rfl := eq_of_plain read
  obtain ⟨idle, named⟩ := addPlain_learns adds
  constructor
  · simp [idle, asksFile_iff, read]
  · simp [named, holdsFile_iff, read]

theorem ofOctets_eq_dashes_iff : Word.ofOctets word = .dashes ↔ word = ofString "--" := by
  constructor
  · intro read
    rw [Word.ofOctets.eq_def] at read
    split at read
    case h_1 => decide
    all_goals simp at read
  · rintro rfl
    decide

/-- The first of some words, unless it is two dashes, and then the others. -/
theorem learns_of_readStart (going : word ≠ ofString "--")
    (reads : readStart help progress (word :: rest) = .ok last) :
    ∃ next, Learns word progress next ∧ readStart help next rest = .ok last := by
  rw [readStart] at reads
  split at reads
  · next read => exact absurd (ofOctets_eq_dashes_iff.mp read) going
  · next name value read =>
    obtain ⟨next, step, reads⟩ := bind_eq_ok.mp reads
    exact ⟨next, learns_of_long read step, reads⟩
  · next octets read =>
    obtain ⟨next, step, reads⟩ := bind_eq_ok.mp reads
    exact ⟨next, learns_of_letters read step, reads⟩
  · next octets read =>
    obtain ⟨next, step, reads⟩ := bind_eq_ok.mp reads
    exact ⟨next, learns_of_plain read (mapError_eq_ok.mp step), reads⟩

theorem readWords_named {words : List Octets} (reads : readWords progress words = .ok last)
    (path : Path) : Named path last ↔ Named path progress := by
  induction words generalizing progress with
  | nil =>
    obtain rfl : progress = last := Except.ok.inj reads
    rfl
  | cons word rest ih =>
    obtain ⟨next, adds, reads⟩ := bind_eq_ok.mp reads
    rw [ih reads, (addWord_learns adds).2 path]

theorem not_namesFile_nil (path : Path) : ¬NamesFile path [] := by
  rintro ⟨⟩

theorem namesFile_cons_iff :
    NamesFile path (word :: rest) ↔ HoldsFile path word ∨
      AsksFile word ∧ Word.ofOctets path.octets = .plain path.octets ∧
        rest.head? = some path.octets ∨
      word ≠ ofString "--" ∧ NamesFile path rest := by
  constructor
  · rintro (holds | ⟨asks, plain⟩ | ⟨going, names⟩)
    · exact .inl holds
    · exact .inr (.inl ⟨asks, plain, rfl⟩)
    · exact .inr (.inr ⟨going, names⟩)
  · rintro (holds | ⟨asks, plain, first⟩ | ⟨going, names⟩)
    · exact .within holds
    · obtain ⟨behind, rfl⟩ := List.head?_eq_some_iff.mp first
      exact .behind asks plain
    · exact .later going names

theorem ofOctets_eq_plain_iff :
    Word.ofOctets word = .plain octets ↔
      Word.ofOctets octets = .plain octets ∧ word = octets := by
  constructor
  · intro read
    obtain rfl := eq_of_plain read
    exact ⟨read, rfl⟩
  · rintro ⟨read, rfl⟩
    exact read

theorem not_namesFile_dashes (path : Path) (rest : List Octets) :
    ¬NamesFile path (ofString "--" :: rest) := by
  have read : Word.ofOctets (ofString "--") = .dashes := by decide
  simp [namesFile_cons_iff, holdsFile_iff, asksFile_iff, read]

/-- The induction over the words: the database file is named by what was read before, by the first
word if a file is waited for, or by the words themselves. -/
theorem readStart_named {words : List Octets} (path : Path)
    (reads : readStart help progress words = .ok last) :
    Named path last ↔ Named path progress ∨
      Waits progress ∧ Word.ofOctets path.octets = .plain path.octets ∧
        words.head? = some path.octets ∨
      NamesFile path words := by
  induction words generalizing progress with
  | nil =>
    obtain rfl : progress = last := Except.ok.inj reads
    simp [not_namesFile_nil]
  | cons word rest ih =>
    by_cases dashes : word = ofString "--"
    · subst dashes
      have read : Word.ofOctets (ofString "--") = .dashes := by decide
      have option : ¬(Word.ofOctets path.octets = .plain path.octets ∧
          ofString "--" = path.octets) := by
        rw [← ofOctets_eq_plain_iff, read]
        simp
      rw [readStart, read] at reads
      rw [readWords_named (mapError_eq_ok.mp reads) path]
      simp [not_namesFile_dashes, option]
    · obtain ⟨next, learns, behind⟩ := learns_of_readStart dashes reads
      rw [ih behind, learns.named, learns.waits, namesFile_cons_iff, ofOctets_eq_plain_iff]
      simp only [List.head?_cons, Option.some.injEq, ne_eq, dashes, not_false_eq_true, true_and]
      tauto

/-- What is read off the words behind `start`. -/
theorem exists_given_of_start {standard : Standard} {request : Request}
    (accepted : start help standard rest = .ok request) :
    ∃ last given, readStart help .start rest = .ok last ∧ last.settle = .ok given ∧
      request = given.request standard := by
  obtain ⟨last, reads, accepted⟩ := bind_eq_ok.mp accepted
  obtain ⟨given, settles, accepted⟩ := bind_eq_ok.mp accepted
  exact ⟨last, given, reads, mapError_eq_ok.mp settles, (Except.ok.inj accepted).symm⟩

theorem start_of_read {words : List Octets} {standard : Standard} {request : Request}
    (accepted : read words standard = .ok request) :
    ∃ help, start help standard (words.drop 2) = .ok request := by
  have behind : words.drop 2 = (words.drop 1).drop 1 := by simp
  rw [behind]
  -- Only `start` leads to a request.
  rw [read, readTop.eq_def] at accepted
  split at accepted
  · simp at accepted
  · next word rest arguments =>
    rw [arguments, List.drop_one, List.tail_cons]
    split at accepted
    · exact ⟨_, accepted⟩
    · split at accepted
      · simp at accepted
      · split at accepted <;> simp at accepted

/-- A request keeps to the standard values where nothing was given. -/
structure Resolved (standard : Standard) (request : Request) : Prop where
  ephemeral : request.ephemeral.explicit = false → request.ephemeral.value = standard.ephemeral
  filename : request.filename = .given request.filename.value ∨
    request.filename = .absent standard.databaseFile

theorem resolved_of_read {words : List Octets} {standard : Standard} {request : Request}
    (accepted : read words standard = .ok request) : Resolved standard request := by
  obtain ⟨help, accepted⟩ := start_of_read accepted
  obtain ⟨last, given, _, _, rfl⟩ := exists_given_of_start accepted
  constructor
  · simp only [Given.request]
    cases given.ephemeral <;> simp [Flag.resolve, Flag.given, Flag.absent]
  · simp only [Given.request]
    cases given.filename <;> simp [Flag.resolve, Flag.given, Flag.absent]

/-- A command line that is read holds a database file as given exactly if it names it behind
`start`. -/
theorem filename_eq_given_iff {words : List Octets} {standard : Standard} {request : Request}
    (accepted : read words standard = .ok request) (path : Path) :
    request.filename = .given path ↔ NamesFile path (words.drop 2) := by
  obtain ⟨help, accepted⟩ := start_of_read accepted
  obtain ⟨last, given, reads, settles, rfl⟩ := exists_given_of_start accepted
  have nothing : ¬Named path .start := by simp [Named, Progress.start, Given.nothing]
  have idle : ¬Waits .start := by simp [Waits, Progress.start]
  have named := readStart_named path reads
  rw [← settle_filename path settles] at named
  simp only [nothing, idle, false_and, false_or] at named
  rw [← named, Given.request]
  cases given.filename <;> simp [Flag.resolve, Flag.given, Flag.absent]

end WorkflowLaunch.CommandLine
