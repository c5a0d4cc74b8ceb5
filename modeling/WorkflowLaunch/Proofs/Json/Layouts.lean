import WorkflowLaunch.Json.Value
import WorkflowLaunch.Proofs.Json.Literals

set_option autoImplicit false

/-!
The compact and the pretty layout of a list or an object differ in the blanks in front of its
items only. Readers pass over these, so one argument serves both.
-/

namespace WorkflowLaunch.Json

/-- Items behind a gap each, with commas between them. -/
def spread (gap : List Char) : List (List Char) → List Char
  | [] => []
  | [item] => gap ++ item
  | item :: rest => gap ++ item ++ ',' :: spread gap rest

/-- The items behind the first one, each with its comma. -/
def continued (gap : List Char) (items : List (List Char)) : List Char :=
  items.flatMap fun item => ',' :: (gap ++ item)

@[simp] theorem continued_cons (gap item : List Char) (rest : List (List Char)) :
    continued gap (item :: rest) = ',' :: (gap ++ (item ++ continued gap rest)) := by
  simp [continued]

theorem spread_cons (gap item : List Char) (rest : List (List Char)) :
    spread gap (item :: rest) = gap ++ (item ++ continued gap rest) := by
  induction rest generalizing item with
  | nil => simp [spread, continued]
  | cons next rest ih => simp [spread, ih, continued]

theorem length_le_length_spread (gap : List Char) (items : List (List Char))
    (solid : ∀ item ∈ items, item ≠ []) : items.length ≤ (spread gap items).length := by
  induction items with
  | nil => simp
  | cons item rest ih =>
    have head := List.length_pos_iff.mpr (solid item List.mem_cons_self)
    have tail := ih fun other member => solid other (List.mem_cons_of_mem item member)
    cases rest with
    | nil => simp only [spread, List.length_append, List.length_cons, List.length_nil]; omega
    | cons next rest =>
      simp only [spread, List.length_append, List.length_cons] at tail ⊢
      omega

theorem blank_newline (depth : Nat) : Blank (Value.newline depth) := by
  intro c member
  rcases List.mem_cons.mp member with rfl | member
  · decide
  · rw [List.eq_of_mem_replicate member]; decide

namespace Value

theorem compactItems_eq_spread (items : List Value) :
    compactItems items = spread [] (items.map compact) := by
  induction items with
  | nil => rfl
  | cons item rest ih =>
    cases rest with
    | nil => simp [compactItems, spread]
    | cons next rest => simp [compactItems, spread, ih]

theorem prettyItems_eq_spread (depth : Nat) (items : List Value) :
    prettyItems depth items = spread (newline depth) (items.map (pretty depth)) := by
  induction items with
  | nil => rfl
  | cons item rest ih =>
    cases rest with
    | nil => simp [prettyItems, spread]
    | cons next rest => simp [prettyItems, spread, ih]

theorem compactMembers_eq_spread (members : List (String × Value)) :
    compactMembers members =
      spread [] (members.map fun (key, value) => writeString key ++ ':' :: compact value) := by
  induction members with
  | nil => rfl
  | cons member rest ih =>
    cases rest with
    | nil => simp [compactMembers, spread]
    | cons next rest => simp [compactMembers, spread, ih]

theorem prettyMembers_eq_spread (depth : Nat) (members : List (String × Value)) :
    prettyMembers depth members = spread (newline depth)
      (members.map fun (key, value) => writeString key ++ ':' :: ' ' :: pretty depth value) := by
  induction members with
  | nil => rfl
  | cons member rest ih =>
    cases rest with
    | nil => simp [prettyMembers, spread]
    | cons next rest => simp [prettyMembers, spread, ih]

theorem compact_string (text : String) : (string text).compact = writeString text := by
  rw [compact]

theorem pretty_string (depth : Nat) (text : String) :
    (string text).pretty depth = writeString text := by
  rw [pretty]

/-- A list in the compact layout, up to the blanks in front of its closing bracket. -/
theorem compact_array (items : List Value) :
    (array items).compact = '[' :: (spread [] (items.map compact) ++ [] ++ [']']) := by
  simp [compact, compactItems_eq_spread]

theorem compact_object (members : List (String × Value)) :
    (object members).compact = '{' :: (spread []
      (members.map fun (key, value) => writeString key ++ ':' :: ([] ++ compact value)) ++
        [] ++ ['}']) := by
  simp [compact, compactMembers_eq_spread]

/-- An empty list is closed at once, any other one on a line of its own. -/
theorem pretty_array (depth : Nat) (items : List Value) :
    ∃ close, Blank close ∧ (array items).pretty depth =
      '[' :: (spread (newline (depth + 1)) (items.map (pretty (depth + 1))) ++ close ++ [']']) := by
  cases items with
  | nil => exact ⟨[], blank_nil, rfl⟩
  | cons item rest =>
    refine ⟨newline depth, blank_newline depth, ?_⟩
    simp only [pretty, prettyItems_eq_spread, List.cons_append, List.append_assoc]

theorem pretty_object (depth : Nat) (members : List (String × Value)) :
    ∃ close, Blank close ∧ (object members).pretty depth =
      '{' :: (spread (newline (depth + 1)) (members.map fun (key, value) =>
        writeString key ++ ':' :: ([' '] ++ pretty (depth + 1) value)) ++ close ++ ['}']) := by
  cases members with
  | nil => exact ⟨[], blank_nil, rfl⟩
  | cons member rest =>
    refine ⟨newline depth, blank_newline depth, ?_⟩
    simp only [pretty, prettyMembers_eq_spread, List.cons_append, List.append_assoc,
      List.nil_append]

end Value

/-- Where an item of a list or an object begins: the first one at once, a later one behind its
comma. -/
inductive NextItem (frame : Frame) : Bool → List Char → List Char → Prop where
  | first {text behind : List Char} {c : Char} : skipBlanks text = c :: behind →
      c ≠ frame.closing → NextItem frame true text text
  | later {text start : List Char} : skipBlanks text = ',' :: start →
      NextItem frame false text start

section Elements

variable {α : Type} (element : List Char → Except Fault (Front α))

theorem readElements_close (fuel : Nat) (first : Bool) {close : List Char} (blank : Blank close)
    (rest : List Char) :
    readElements element (fuel + 1) first (close ++ ']' :: rest) = .ok ([], rest) := by
  rw [readElements, skipBlanks_gap blank (by decide)]
  rfl

/-- An item of a list, which begins with `c`. -/
theorem readElements_item (fuel : Nat) {first : Bool} {text start rest : List Char} {c : Char}
    (next : NextItem .list first text start) (found : skipBlanks start = c :: rest)
    (inside : c ≠ ']') :
    readElements element (fuel + 1) first text = do
      let (head, rest) ← element (c :: rest)
      let (tail, rest) ← readElements element fuel false rest
      return (head :: tail, rest) := by
  cases next with
  | first =>
    rw [readElements, found]
    split
    · next impossible => simp at impossible
    · next same => exact absurd (List.cons.inj same).1 inside
    · next same => rw [← same]; rfl
  | later comma =>
    rw [readElements, comma]
    split
    · next impossible => simp at impossible
    · next same => exact absurd (List.cons.inj same).1 (by decide)
    · next same =>
      obtain ⟨rfl, rfl⟩ := List.cons.inj same
      rw [if_neg (by decide), if_pos rfl, found]
      split
      · next impossible => simp at impossible
      · next same => exact absurd (List.cons.inj same).1 inside
      · rfl

theorem readElements_first (fuel : Nat) {gap : List Char} (blank : Blank gap) {c : Char}
    (solid : isBlank c = false) (inside : c ≠ ']') (rest : List Char) :
    readElements element (fuel + 1) true (gap ++ c :: rest) = do
      let (head, rest) ← element (c :: rest)
      let (tail, rest) ← readElements element fuel false rest
      return (head :: tail, rest) :=
  have found := skipBlanks_gap blank solid rest
  readElements_item element fuel (.first found inside) found inside

theorem readElements_next (fuel : Nat) {gap : List Char} (blank : Blank gap) {c : Char}
    (solid : isBlank c = false) (inside : c ≠ ']') (rest : List Char) :
    readElements element (fuel + 1) false (',' :: (gap ++ c :: rest)) = do
      let (head, rest) ← element (c :: rest)
      let (tail, rest) ← readElements element fuel false rest
      return (head :: tail, rest) :=
  readElements_item element fuel (.later (skipBlanks_cons_of_not_isBlank (by decide) _))
    (skipBlanks_gap blank solid rest) inside

end Elements

section Strings

variable (expected : String) {gap close : List Char}

theorem readElements_first_string (fuel : Nat) (blank : Blank gap) (text : String)
    (rest : List Char) :
    readElements (readText expected) (fuel + 1) true (gap ++ (writeString text ++ rest)) =
      (readElements (readText expected) fuel false rest).map
        fun (tail, rest) => (text :: tail, rest) := by
  have read := readText_written expected text blank_nil rest
  rw [List.nil_append] at read
  rw [writeString_append] at read ⊢
  rw [readElements_first _ fuel blank (by decide) (by decide), read]
  simp only [bind, Except.bind]
  cases readElements (readText expected) fuel false rest <;> rfl

theorem readElements_next_string (fuel : Nat) (blank : Blank gap) (text : String)
    (rest : List Char) :
    readElements (readText expected) (fuel + 1) false (',' :: (gap ++ (writeString text ++ rest))) =
      (readElements (readText expected) fuel false rest).map
        fun (tail, rest) => (text :: tail, rest) := by
  have read := readText_written expected text blank_nil rest
  rw [List.nil_append] at read
  rw [writeString_append] at read ⊢
  rw [readElements_next _ fuel blank (by decide) (by decide), read]
  simp only [bind, Except.bind]
  cases readElements (readText expected) fuel false rest <;> rfl

theorem readElements_continued (blankGap : Blank gap) (blankClose : Blank close)
    (texts : List String) (rest : List Char) {fuel : Nat} (enough : texts.length < fuel) :
    readElements (readText expected) fuel false
      (continued gap (texts.map writeString) ++ (close ++ ']' :: rest)) = .ok (texts, rest) := by
  induction texts generalizing fuel with
  | nil =>
    obtain ⟨fuel, rfl⟩ := Nat.exists_eq_add_of_lt enough
    exact readElements_close _ _ false blankClose rest
  | cons text texts ih =>
    obtain ⟨fuel, rfl⟩ := Nat.exists_eq_add_of_lt enough
    simp only [List.map_cons, continued_cons, List.cons_append, List.append_assoc]
    rw [readElements_next_string expected _ blankGap, ih (by simp only [List.length_cons]; omega)]
    rfl

theorem readElements_spread (blankGap : Blank gap) (blankClose : Blank close)
    (texts : List String) (rest : List Char) {fuel : Nat} (enough : texts.length < fuel) :
    readElements (readText expected) fuel true
      (spread gap (texts.map writeString) ++ (close ++ ']' :: rest)) = .ok (texts, rest) := by
  obtain ⟨fuel, rfl⟩ := Nat.exists_eq_add_of_lt enough
  cases texts with
  | nil => exact readElements_close _ _ true blankClose rest
  | cons text texts =>
    simp only [List.map_cons, spread_cons, List.append_assoc]
    rw [readElements_first_string expected _ blankGap,
      readElements_continued expected blankGap blankClose texts rest
        (by simp only [List.length_cons]; omega)]
    rfl

/-- A list of strings is read back from either layout, whatever stands behind it. -/
theorem readList_spread (blankGap : Blank gap) (blankClose : Blank close) {front : List Char}
    (blankFront : Blank front) (texts : List String) (rest : List Char) :
    readList (readText expected)
      (front ++ '[' :: (spread gap (texts.map writeString) ++ (close ++ ']' :: rest))) =
        .ok (texts, rest) := by
  have long := length_le_length_spread gap (texts.map writeString) (by simp [writeString])
  rw [readList, skipBlanks_gap blankFront (by decide)]
  apply readElements_spread expected blankGap blankClose
  simp only [List.length_append, List.length_map] at long ⊢
  omega

end Strings

@[simp] theorem readColon_cons (rest : List Char) : readColon (':' :: rest) = .ok rest := by
  rw [readColon, skipBlanks_cons_of_not_isBlank (by decide)]
  rfl

section Members

variable {σ : Type} (member : σ → String → List Char → Except Fault (Front σ))
  {gap close : List Char}

/-- A reader of members takes each of some keys with the text from the colon on, whatever stands
behind it, and arrives at a state. -/
inductive Takes : σ → List (String × List Char) → σ → Prop where
  | done (state : σ) : Takes state [] state
  | step {state next final : σ} {key : String} {text : List Char}
      {members : List (String × List Char)} :
      (∀ rest, member state key (text ++ rest) = .ok (next, rest)) →
      Takes next members final → Takes state ((key, text) :: members) final

/-- The text of a member. -/
def memberText (written : String × List Char) : List Char := writeString written.1 ++ written.2

theorem readMembers_close (fuel : Nat) (first : Bool) (state : σ) (blank : Blank close)
    (rest : List Char) :
    readMembers member (fuel + 1) first state (close ++ '}' :: rest) = .ok (state, rest) := by
  rw [readMembers, skipBlanks_gap blank (by decide)]
  rfl

/-- A member of an object, whose key is read first. -/
theorem readMembers_item (fuel : Nat) (state : σ) {first : Bool}
    {text start inner behind : List Char} {key : String} (next : NextItem .object first text start)
    (quote : skipBlanks start = '"' :: inner) (read : readString inner = .ok (key, behind)) :
    readMembers member (fuel + 1) first state text = (member state key behind).bind
      fun taken => readMembers member fuel false taken.1 taken.2 := by
  have item : ((readString inner).bind fun name => (member state name.1 name.2).bind fun taken =>
      readMembers member fuel false taken.1 taken.2) = (member state key behind).bind fun taken =>
        readMembers member fuel false taken.1 taken.2 := by
    rw [read]
    rfl
  cases next with
  | first =>
    rw [readMembers, quote]
    exact item
  | later comma =>
    rw [readMembers, comma]
    split
    · next impossible => simp at impossible
    · next same => exact absurd (List.cons.inj same).1 (by decide)
    · next same =>
      obtain ⟨rfl, rfl⟩ := List.cons.inj same
      rw [if_neg (by decide), if_pos rfl, quote]
      exact item

theorem readMembers_first (fuel : Nat) (state : σ) (blank : Blank gap) (key : String)
    (rest : List Char) :
    readMembers member (fuel + 1) true state (gap ++ (writeString key ++ rest)) =
      (member state key rest).bind fun taken => readMembers member fuel false taken.1 taken.2 := by
  have quote := skipBlanks_gap blank (by decide : isBlank '"' = false)
    (key.toList.flatMap escape ++ '"' :: rest)
  rw [writeString_append]
  exact readMembers_item member fuel state (.first quote (by decide)) quote
    (readString_written key rest)

theorem readMembers_next (fuel : Nat) (state : σ) (blank : Blank gap) (key : String)
    (rest : List Char) :
    readMembers member (fuel + 1) false state (',' :: (gap ++ (writeString key ++ rest))) =
      (member state key rest).bind fun taken => readMembers member fuel false taken.1 taken.2 := by
  have quote := skipBlanks_gap blank (by decide : isBlank '"' = false)
    (key.toList.flatMap escape ++ '"' :: rest)
  rw [writeString_append]
  exact readMembers_item member fuel state
    (.later (skipBlanks_cons_of_not_isBlank (by decide) _)) quote (readString_written key rest)

variable {member}

theorem readMembers_continued (blankGap : Blank gap) (blankClose : Blank close) {state final : σ}
    {members : List (String × List Char)} (takes : Takes member state members final)
    (rest : List Char) {fuel : Nat} (enough : members.length < fuel) :
    readMembers member fuel false state
      (continued gap (members.map memberText) ++ (close ++ '}' :: rest)) = .ok (final, rest) := by
  induction takes generalizing fuel with
  | done state =>
    obtain ⟨fuel, rfl⟩ := Nat.exists_eq_add_of_lt enough
    exact readMembers_close member _ false state blankClose rest
  | step taken _ ih =>
    obtain ⟨fuel, rfl⟩ := Nat.exists_eq_add_of_lt enough
    simp only [List.map_cons, continued_cons, memberText, List.cons_append, List.append_assoc]
    rw [readMembers_next member _ _ blankGap, taken]
    exact ih (by simp only [List.length_cons]; omega)

/-- An object is read back from either layout, whatever stands behind it. -/
theorem readObject_spread (blankGap : Blank gap) (blankClose : Blank close) {state final : σ}
    {members : List (String × List Char)} (takes : Takes member state members final)
    (rest : List Char) :
    readObject member state
      (spread gap (members.map memberText) ++ (close ++ '}' :: rest)) = .ok (final, rest) := by
  have solid : ∀ item ∈ members.map memberText, item ≠ [] := by
    intro item among
    obtain ⟨written, _, rfl⟩ := List.mem_map.mp among
    simp [memberText, writeString]
  have long := length_le_length_spread gap (members.map memberText) solid
  rw [List.length_map] at long
  rw [readObject]
  cases takes with
  | done => exact readMembers_close member _ true state blankClose rest
  | @step _ next _ key text members taken others =>
    have enough : members.length < (spread gap (((key, text) :: members).map memberText) ++
        (close ++ '}' :: rest)).length := by
      simp only [List.length_append, List.length_cons] at long ⊢
      omega
    rw [List.map_cons] at enough ⊢
    simp only [spread_cons, memberText, List.append_assoc] at enough ⊢
    rw [readMembers_first member _ _ blankGap, taken]
    exact readMembers_continued blankGap blankClose others rest enough

end Members

end WorkflowLaunch.Json
