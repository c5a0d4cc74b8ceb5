import WorkflowLaunch.Proofs.Catalog.Extents
import WorkflowLaunch.Proofs.Json.Written

set_option autoImplicit false

/-!
Objects that a catalog is read from, member by member. Whatever a member holds, what is left of the
text behind it is the text behind it, with blanks in front; so the members that are read can be
counted, and none of the two names is read twice.
-/

namespace WorkflowLaunch.Catalog

open Json

/-- A member of an object as it is written: its name in any spelling, any value, and blanks around
both. -/
structure Member where
  name : String
  front : List Char
  literal : List Char
  behind : List Char
  value : List Char
  blankFront : Blank front
  spells : Spells literal name.toList
  blankBehind : Blank behind
  shaped : WellFormed value

namespace Member

/-- The text of a member from behind its name on. -/
def onward (member : Member) : List Char := member.behind ++ ':' :: member.value

def text (member : Member) : List Char :=
  member.front ++ '"' :: (member.literal ++ '"' :: member.onward)

/-- A member in the compact layout. -/
def written (name : String) (value : Json.Value) : Member where
  name := name
  front := []
  literal := name.toList.flatMap escape
  behind := []
  value := value.compact
  blankFront := blank_nil
  spells := spells_written name.toList
  blankBehind := blank_nil
  shaped := value.wellFormed

theorem text_written (name : String) (value : Json.Value) :
    (written name value).text = writeString name ++ ':' :: value.compact := by
  simp [text, onward, written, writeString]

theorem readColon_onward (member : Member) (rest : List Char) :
    readColon (member.onward ++ rest) = .ok (member.value ++ rest) := by
  have found := skipBlanks_gap member.blankBehind (by decide : isBlank ':' = false)
    (member.value ++ rest)
  rw [readColon, onward, List.append_assoc, List.cons_append, found]
  rfl

end Member

/-- The text of an object with some members behind its opening brace. -/
def inside (members : List Member) : List Char := spread [] (members.map Member.text) ++ ['}']

/-- The text of an object with some members. -/
def objectText (members : List Member) : String := String.ofList ('{' :: inside members)

/-- The names of the members that a catalog is read from. -/
def Known (name : String) : Prop := name = namespacesKey ∨ name = attributesKey

instance (name : String) : Decidable (Known name) := inferInstanceAs (Decidable (_ ∨ _))

/-- The text behind a member of an object: further members, and the end. -/
def further (members : List Member) : List Char :=
  continued [] (members.map Member.text) ++ ['}']

theorem further_cons (member : Member) (members : List Member) :
    further (member :: members) = ',' :: (member.text ++ further members) := by
  simp [further]

theorem inside_cons (member : Member) (members : List Member) :
    inside (member :: members) = member.text ++ further members := by
  simp [inside, spread_cons, further]

theorem delimited_further (members : List Member) : Delimited (further members) := by
  cases members with
  | nil => exact delimited_cons (by decide) _
  | cons member members =>
    rw [further_cons]
    exact delimited_cons (by decide) _

section Runs

variable (fuel : Nat) (state : Members) (member : Member) (rest : List Char)

theorem Member.quote : skipBlanks (member.text ++ rest) =
    '"' :: (member.literal ++ '"' :: (member.onward ++ rest)) := by
  have found := skipBlanks_gap member.blankFront (by decide : isBlank '"' = false)
    (member.literal ++ '"' :: (member.onward ++ rest))
  simpa [text] using found

theorem readMembers_later_member {gap : List Char} (blank : Blank gap) :
    readMembers readMember (fuel + 1) false state (gap ++ ',' :: (member.text ++ rest)) =
      (readMember state member.name (member.onward ++ rest)).bind
        fun taken => readMembers readMember fuel false taken.1 taken.2 :=
  readMembers_item readMember fuel state (.later (skipBlanks_gap blank (by decide) _))
    (member.quote rest) (readString_spelled member.spells _)

/-- It makes no difference whether members stand at the front of an object or behind another one. -/
theorem readMembers_inside (members : List Member) :
    readMembers readMember (fuel + 1) true state (inside members) =
      readMembers readMember (fuel + 1) false state (further members) := by
  cases members with
  | nil => rfl
  | cons member members =>
    have quote := member.quote (further members)
    have first := readMembers_item readMember fuel state (.first quote (by decide)) quote
      (readString_spelled member.spells (member.onward ++ further members))
    have later := readMembers_later_member fuel state member (further members) blank_nil
    rw [inside_cons, further_cons, first]
    exact later.symm

end Runs

theorem attributesKey_ne_namespacesKey : attributesKey ≠ namespacesKey := by decide

section Step

variable {state next : Members} {name key : String} {text rest left : List Char} {member : Member}

/-- What reading a member does: it takes one of the two that were not there before, or passes over
another one. -/
theorem readMember_eq_ok (read : readMember state name text = .ok (next, left)) :
    ∃ value, readColon text = .ok value ∧
      ((name = namespacesKey ∧ state.namespaces = none ∧ ∃ namespaces,
          readNamespaces value = .ok (namespaces, left) ∧
          next = { state with namespaces := some namespaces }) ∨
        (name = attributesKey ∧ state.attributes = none ∧ ∃ attributes,
          readAttributes value = .ok (attributes, left) ∧
          next = { state with attributes := some attributes }) ∨
        ¬Known name ∧ skipValue value = .ok left ∧ next = state) := by
  unfold readMember at read
  split_ifs at read with isNamespaces held isAttributes held
  · obtain ⟨value, colon, read⟩ := bind_eq_ok.mp read
    obtain ⟨⟨namespaces, left⟩, taken, same⟩ := bind_eq_ok.mp read
    obtain ⟨rfl, rfl⟩ := Prod.mk.inj (Except.ok.inj same)
    exact ⟨value, colon, .inl ⟨isNamespaces, by simpa using held, namespaces, taken, rfl⟩⟩
  · obtain ⟨value, colon, read⟩ := bind_eq_ok.mp read
    obtain ⟨⟨attributes, left⟩, taken, same⟩ := bind_eq_ok.mp read
    obtain ⟨rfl, rfl⟩ := Prod.mk.inj (Except.ok.inj same)
    exact ⟨value, colon,
      .inr (.inl ⟨isAttributes, by simpa using held, attributes, taken, rfl⟩)⟩
  · obtain ⟨value, colon, read⟩ := bind_eq_ok.mp read
    obtain ⟨left, skipped, same⟩ := bind_eq_ok.mp read
    obtain ⟨rfl, rfl⟩ := Prod.mk.inj (Except.ok.inj same)
    exact ⟨value, colon, .inr (.inr ⟨not_or.mpr ⟨isNamespaces, isAttributes⟩, skipped, rfl⟩)⟩

theorem skipValue_value (member : Member) (delimited : Delimited rest) :
    ∃ gap, Blank gap ∧ skipValue (member.value ++ rest) = .ok (gap ++ rest) := by
  obtain ⟨gap, blank, passes⟩ := member.shaped.passes delimited
  exact ⟨gap, blank, passes.skipValue (by simp only [List.length_append]; omega)⟩

theorem Member.left_of_spans {α : Type} {read : List Char → Except Fault (Front α)} {value : α}
    (spans : Spans read) (taken : read (member.value ++ rest) = .ok (value, left))
    (delimited : Delimited rest) : ∃ gap, Blank gap ∧ left = gap ++ rest := by
  obtain ⟨gap, blank, passes⟩ := member.shaped.passes delimited
  obtain ⟨limit, passed⟩ := spans _ _ _ taken
  exact ⟨gap, blank, passed.unique passes⟩

/-- Nothing but blanks is left of a member that was read. -/
theorem left_of_readMember (delimited : Delimited rest)
    (read : readMember state member.name (member.onward ++ rest) = .ok (next, left)) :
    ∃ gap, Blank gap ∧ left = gap ++ rest := by
  obtain ⟨value, colon, taken⟩ := readMember_eq_ok read
  obtain rfl := Except.ok.inj ((member.readColon_onward rest).symm.trans colon)
  rcases taken with ⟨_, _, _, taken, _⟩ | ⟨_, _, _, taken, _⟩ | ⟨_, skipped, _⟩
  · exact member.left_of_spans spans_readNamespaces taken delimited
  · exact member.left_of_spans spans_readAttributes taken delimited
  · obtain ⟨gap, blank, passed⟩ := skipValue_value member delimited
    exact ⟨gap, blank, Except.ok.inj (skipped.symm.trans passed)⟩

/-- How often a member with a name was read. -/
def Members.held (members : Members) (key : String) : Nat :=
  if key = namespacesKey then members.namespaces.isSome.toNat
  else if key = attributesKey then members.attributes.isSome.toNat
  else 0

theorem Members.held_le (members : Members) (key : String) : members.held key ≤ 1 := by
  unfold held
  split_ifs
  · exact Bool.toNat_le _
  · exact Bool.toNat_le _
  · exact Nat.zero_le 1

/-- Reading a member with a name counts it. -/
theorem held_of_readMember (known : Known key)
    (read : readMember state name text = .ok (next, left)) :
    next.held key = state.held key + if name = key then 1 else 0 := by
  have distinct := attributesKey_ne_namespacesKey
  obtain ⟨_, _, taken⟩ := readMember_eq_ok read
  rcases taken with ⟨rfl, new, _, _, rfl⟩ | ⟨rfl, new, _, _, rfl⟩ | ⟨foreign, _, rfl⟩
  · rcases known with rfl | rfl
    · simp [Members.held, new]
    · simp [Members.held, distinct, distinct.symm]
  · rcases known with rfl | rfl
    · simp [Members.held, distinct]
    · simp [Members.held, distinct, new]
  · have other : name ≠ key := fun same => foreign (same ▸ known)
    simp [other]

end Step

/-- A member that a catalog is read from is read once at most. The induction carries how often it
was read before. -/
theorem count_of_readMembers {state final : Members} {key : String} {rest gap : List Char}
    (known : Known key) {members : List Member} {fuel : Nat} (blank : Blank gap)
    (read : readMembers readMember fuel false state (gap ++ further members) = .ok (final, rest)) :
    state.held key + (members.map Member.name).count key ≤ 1 := by
  induction members generalizing fuel state gap with
  | nil => exact state.held_le key
  | cons member members ih =>
    cases fuel with
    | zero => simp [readMembers] at read
    | succ fuel =>
      rw [further_cons, readMembers_later_member _ _ _ _ blank] at read
      obtain ⟨⟨next, left⟩, taken, others⟩ := bind_eq_ok.mp read
      obtain ⟨gap', blank', rfl⟩ := left_of_readMember (delimited_further members) taken
      have counted : next.held key + (members.map Member.name).count key ≤ 1 := ih blank' others
      have here := held_of_readMember known taken
      rw [List.map_cons, List.count_cons]
      simp only [beq_iff_eq]
      omega

section Decoding

variable {catalog : Catalog} {members : List Member}

theorem length_inside (members : List Member) : members.length < (inside members).length := by
  have solid : ∀ item ∈ members.map Member.text, item ≠ [] := by
    intro item among
    obtain ⟨member, _, rfl⟩ := List.mem_map.mp among
    simp [Member.text]
  have long := length_le_length_spread [] (members.map Member.text) solid
  simp only [inside, List.length_append, List.length_map, List.length_cons] at long ⊢
  omega

theorem readCatalog_brace (text : List Char) :
    readCatalog ('{' :: text) = (readObject readMember ⟨none, none⟩ text).map
      fun (read, rest) => (read.catalog, rest) := by
  rw [readCatalog, skipBlanks_cons_of_not_isBlank (by decide)]
  change (readObject readMember ⟨none, none⟩ text >>= fun front =>
    pure (front.1.catalog, front.2)) = _
  cases readObject readMember ⟨none, none⟩ text <;> rfl

theorem decode_of_readObject {final : Members}
    (read : readObject readMember ⟨none, none⟩ (inside members) = .ok (final, [])) :
    decode (objectText members) = .ok final.catalog := by
  rw [decode, objectText, String.toList_ofList, mapError_eq_ok, Catalog.read, readCatalog_brace,
    read]
  rfl

theorem readObject_of_decode (decoded : decode (objectText members) = .ok catalog) :
    ∃ final rest, readObject readMember ⟨none, none⟩ (inside members) = .ok (final, rest) := by
  rw [decode, objectText, String.toList_ofList, mapError_eq_ok, Catalog.read,
    readCatalog_brace] at decoded
  cases read : readObject readMember ⟨none, none⟩ (inside members) with
  | error fault => simp [read, Except.map, bind, Except.bind] at decoded
  | ok front => exact ⟨front.1, front.2, rfl⟩

/-- Nothing is decoded from an object with two members of a name that a catalog is read from. -/
theorem count_of_decode {key : String} (known : Known key)
    (decoded : decode (objectText members) = .ok catalog) :
    (members.map Member.name).count key ≤ 1 := by
  obtain ⟨final, rest, read⟩ := readObject_of_decode decoded
  rw [readObject, readMembers_inside] at read
  have counted := count_of_readMembers known blank_nil read
  omega

end Decoding

end WorkflowLaunch.Catalog
