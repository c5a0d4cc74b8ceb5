import WorkflowLaunch.Proofs.Catalog.Codec
import WorkflowLaunch.Proofs.Catalog.Objects
import WorkflowLaunch.Proofs.Store.Answers

set_option autoImplicit false

/-!
Catalogs among members that mean nothing to this version. They are read whatever these hold and
wherever they stand; what is missing is empty, and what is there twice is refused.
-/

namespace WorkflowLaunch.Catalog

open Json

def namespacesMember (catalog : Catalog) : Member := .written namespacesKey catalog.namespacesJson

def attributesMember (catalog : Catalog) : Member :=
  .written attributesKey catalog.attributes.toJson

theorem encode_eq_objectText (catalog : Catalog) :
    catalog.encode = objectText [catalog.namespacesMember, catalog.attributesMember] := by
  simp [encode, toJson, objectText, inside, Value.compact_object, namespacesMember,
    attributesMember, Member.text_written]

section Collecting

variable (catalog : Catalog)

/-- What was read of a catalog once the members with some names were. -/
def readOf (names : List String) : Members where
  namespaces := if namespacesKey ∈ names then some catalog.namespaces else none
  attributes := if attributesKey ∈ names then some catalog.attributes else none

/-- A member that is the catalog's own, or one that no catalog is read from. -/
def Fits (member : Member) : Prop :=
  member = catalog.namespacesMember ∨ member = catalog.attributesMember ∨ ¬Known member.name

variable {catalog} {member : Member} {names : List String} {rest : List Char}

theorem readNamespaces_compact (rest : List Char) :
    readNamespaces (catalog.namespacesJson.compact ++ rest) = .ok (catalog.namespaces, rest) := by
  have read := readNamespaces_written blank_nil blank_nil blank_nil catalog.namespaces rest
  simpa [namespacesText, namespacesJson, Value.compact_array, Value.compact_string,
    Function.comp_def] using read

theorem readAttributes_compact (rest : List Char) :
    readAttributes (catalog.attributes.toJson.compact ++ rest) =
      .ok (catalog.attributes, rest) := by
  have read := readAttributes_written blank_nil blank_nil blank_nil catalog.attributes rest
  simpa [attributesText, attributeMember, memberText, Attribute.Table.toJson,
    Value.compact_object, Value.compact_string, Function.comp_def] using read

theorem readMember_fits (fits : catalog.Fits member) (delimited : Delimited rest)
    (fresh : Known member.name → member.name ∉ names) :
    ∃ gap, Blank gap ∧
      readMember (catalog.readOf names) member.name (member.onward ++ rest) =
        .ok (catalog.readOf (names ++ [member.name]), gap ++ rest) := by
  have distinct := attributesKey_ne_namespacesKey
  rcases fits with rfl | rfl | foreign
  · have new : namespacesKey ∉ names := fresh (.inl rfl)
    refine ⟨[], blank_nil, ?_⟩
    simp [namespacesMember, Member.written, Member.onward, readMember, readOf, new, distinct,
      readNamespaces_compact, bind, Except.bind, pure, Except.pure]
  · have new : attributesKey ∉ names := fresh (.inr rfl)
    refine ⟨[], blank_nil, ?_⟩
    simp [attributesMember, Member.written, Member.onward, readMember, readOf, new, distinct,
      distinct.symm, readAttributes_compact, bind, Except.bind, pure, Except.pure]
  · obtain ⟨gap, blank, skipped⟩ := skipValue_value member delimited
    obtain ⟨notNamespaces, notAttributes⟩ := not_or.mp foreign
    refine ⟨gap, blank, ?_⟩
    simp [readMember, readOf, notNamespaces, notAttributes, Ne.symm notNamespaces,
      Ne.symm notAttributes, member.readColon_onward, skipped, bind, Except.bind, pure, Except.pure]

theorem readMembers_fits {members : List Member} (fits : ∀ member ∈ members, catalog.Fits member)
    (once : ∀ key, Known key → (names ++ members.map Member.name).count key ≤ 1) {fuel : Nat}
    (enough : members.length < fuel) {gap : List Char} (blank : Blank gap) :
    readMembers readMember fuel false (catalog.readOf names) (gap ++ further members) =
      .ok (catalog.readOf (names ++ members.map Member.name), []) := by
  induction members generalizing names fuel gap with
  | nil =>
    obtain ⟨fuel, rfl⟩ := Nat.exists_eq_add_of_lt enough
    rw [List.map_nil, List.append_nil]
    exact readMembers_close readMember _ false _ blank []
  | cons member members ih =>
    obtain ⟨fuel, rfl⟩ : ∃ less, fuel = less + 1 := ⟨fuel - 1, by omega⟩
    have fresh : Known member.name → member.name ∉ names := by
      intro known before
      have twice := once member.name known
      have counted := List.count_pos_iff.mpr before
      simp only [List.map_cons, List.count_append, List.count_cons_self] at twice
      omega
    obtain ⟨gap', blank', taken⟩ := readMember_fits (fits member List.mem_cons_self)
      (delimited_further members) fresh
    -- the name moves to the ones that were read, which say what the state is
    have order : names ++ (member :: members).map Member.name =
        names ++ [member.name] ++ members.map Member.name := by simp
    rw [order] at once ⊢
    rw [further_cons, readMembers_later_member _ _ _ _ blank, taken]
    refine ih (fun other among => fits other (List.mem_cons_of_mem member among)) once ?_ blank'
    simp only [List.length_cons] at enough
    omega

/-- Members that fit a catalog are read, none of them twice, in any order. -/
theorem decode_of_fits {members : List Member} (fits : ∀ member ∈ members, catalog.Fits member)
    (once : ∀ key, Known key → (members.map Member.name).count key ≤ 1) :
    decode (objectText members) = .ok (catalog.readOf (members.map Member.name)).catalog := by
  apply decode_of_readObject
  have nothing : (⟨none, none⟩ : Members) = catalog.readOf [] := rfl
  rw [readObject, readMembers_inside, nothing]
  exact readMembers_fits fits once (Nat.lt_succ_of_lt (length_inside members)) blank_nil

end Collecting

section Orders

variable {catalog : Catalog} {kept extra members : List Member}

theorem not_mem_names (foreign : ∀ member ∈ extra, ¬Known member.name) {key : String}
    (known : Known key) : key ∉ extra.map Member.name := by
  intro among
  obtain ⟨member, held, rfl⟩ := List.mem_map.mp among
  exact foreign member held known

/-- Whatever is kept of the catalog's own members is read among others, in any order. -/
theorem decode_of_perm
    (own : kept.Sublist [catalog.namespacesMember, catalog.attributesMember])
    (foreign : ∀ member ∈ extra, ¬Known member.name) (order : members.Perm (kept ++ extra)) :
    decode (objectText members) = .ok (catalog.readOf (kept.map Member.name)).catalog := by
  have names : (members.map Member.name).Perm (kept.map Member.name ++ extra.map Member.name) := by
    simpa using order.map Member.name
  have fits : ∀ member ∈ members, catalog.Fits member := by
    intro member among
    rcases List.mem_append.mp (order.mem_iff.mp among) with mine | other
    · have listed := own.subset mine
      simp only [List.mem_cons, List.not_mem_nil, or_false] at listed
      rcases listed with rfl | rfl
      · exact .inl rfl
      · exact .inr (.inl rfl)
    · exact .inr (.inr (foreign member other))
  have once : ∀ key, Known key → (members.map Member.name).count key ≤ 1 := by
    intro key known
    have few : (kept.map Member.name).count key ≤ [namespacesKey, attributesKey].count key :=
      (own.map Member.name).count_le key
    have single : [namespacesKey, attributesKey].count key ≤ 1 := by
      rcases known with rfl | rfl <;> decide
    rw [names.count_eq, List.count_append, List.count_eq_zero.mpr (not_mem_names foreign known)]
    omega
  have same (key : String) (known : Known key) :
      key ∈ members.map Member.name ↔ key ∈ kept.map Member.name := by
    rw [names.mem_iff, List.mem_append, or_iff_left (not_mem_names foreign known)]
  rw [decode_of_fits fits once, readOf, readOf]
  simp only [same namespacesKey (.inl rfl), same attributesKey (.inr rfl)]

end Orders

theorem blank_objectText (members : List Member) : Text.blank (objectText members) = false := by
  simp [Text.blank, objectText, (by decide : Text.isBlank '{' = false)]

/-- A catalog is decoded from its two members as its compact form writes them, among any members of
other names with well-formed values, in any order. Without one of the two that part is empty. An
object with two members of one of their names, whatever their values, is not decoded, and a database
of that text is reported as corrupt and left as it is. -/
theorem decode_tolerates (catalog : Catalog) (extra : List Member)
    (foreign : ∀ member ∈ extra, ¬Known member.name) :
    catalog.encode = objectText [catalog.namespacesMember, catalog.attributesMember] ∧
    (∀ members : List Member,
      members.Perm ([catalog.namespacesMember, catalog.attributesMember] ++ extra) →
        decode (objectText members) = .ok catalog) ∧
    (∀ members : List Member, members.Perm ([catalog.attributesMember] ++ extra) →
      decode (objectText members) = .ok { catalog with namespaces := [] }) ∧
    (∀ members : List Member, members.Perm ([catalog.namespacesMember] ++ extra) →
      decode (objectText members) = .ok { catalog with attributes := ∅ }) ∧
    ∀ (members : List Member) (key : String), Known key →
      2 ≤ (members.map Member.name).count key →
        ∃ rejection, decode (objectText members) = .error rejection ∧
          ∀ files path, files.fileAt? path = some (Octets.ofString (objectText members)) →
            Store.openAt files (.file path) = (.error (.corrupt path rejection), files) := by
  refine ⟨encode_eq_objectText catalog, ?_, ?_, ?_, ?_⟩
  · intro members order
    rw [decode_of_perm (.refl _) foreign order]
    rfl
  · intro members order
    rw [decode_of_perm (List.sublist_cons_self _ _) foreign order]
    rfl
  · intro members order
    rw [decode_of_perm (.cons_cons _ (List.nil_sublist _)) foreign order]
    rfl
  · intro members key known twice
    cases decoded : decode (objectText members) with
    | ok catalog =>
      have once := count_of_decode known decoded
      omega
    | error rejection =>
      refine ⟨rejection, rfl, ?_⟩
      intro files path found
      exact Store.openFile_of_corrupt found (blank_objectText members) decoded

/-- A member with blanks, with an escaped letter in its name, and with a list of a number and an
object around an empty list. -/
def flags : Member where
  name := "flags"
  front := [' ']
  literal := ['f', 'l', '\\', 'u', '0', '0', '6', '1', 'g', 's']
  behind := ['\t']
  value := [' ', '[', '1', '.', '5', 'E', '+', '3', ' ', ',', '{', '"', 'a', '"', ':', '[', ']',
    '}', ']']
  blankFront := by simp [Blank, isBlank]
  spells := by
    have zero : HexDigit '0' 0 := @HexDigit.lower 0 (by decide)
    have six : HexDigit '6' 6 := @HexDigit.lower 6 (by decide)
    have one : HexDigit '1' 1 := @HexDigit.lower 1 (by decide)
    have escaped : Writes ['\\', 'u', '0', '0', '6', '1'] 'a' :=
      .unit (.digits zero zero six one)
    have plain (c : Char) (visible : c ≠ '"' ∧ c ≠ '\\' ∧ ¬c < ' ') : Writes [c] c :=
      .plain visible.1 visible.2.1 visible.2.2
    exact .cons (plain 'f' (by decide)) (.cons (plain 'l' (by decide)) (.cons escaped
      (.cons (plain 'g' (by decide)) (.cons (plain 's' (by decide)) .nil))))
  blankBehind := by simp [Blank, isBlank]
  shaped := by
    have space : Blank [' '] := by simp [Blank, isBlank]
    have one : Whole ['1'] := .nonzero (by decide) (by decide) (by simp)
    have five : DigitRun ['5'] := ⟨by simp, by simp [isDigit]⟩
    have three : DigitRun ['3'] := ⟨by simp, by simp [isDigit]⟩
    have number := Numeral.number (by simp : [] ∈ [[], ['-']]) one (.some five)
      (.some (by simp : 'E' ∈ ['e', 'E']) (by simp : ['+'] ∈ [[], ['+'], ['-']]) three)
    have object := Bare.filled (.last (keyed_written "a") blank_nil
      (@Bare.empty .list [] blank_nil) blank_nil)
    have items := Parts.more .item blank_nil (.number number) space
      (.last .item blank_nil object blank_nil)
    exact .value space (.filled items) blank_nil

/-- A catalog around such a member, and one whose namespaces stand in front of it and behind it. -/
theorem decode_tolerates_flags :
    let catalog : Catalog := ⟨["default"], (∅ : Attribute.Table).insert "Score" .int⟩
    let between := " \"fl\\u0061gs\"\t: [1.5E+3 ,\x7b\"a\":[]\x7d],"
    let once := "\x7b\"search_attributes\":\x7b\"Score\":\"Int\"\x7d," ++ between ++
      "\"namespaces\":[\"default\"]\x7d"
    let twice := "\x7b\"namespaces\":[\"default\"]," ++ between ++
      "\"namespaces\":[\"default\"]\x7d"
    let database : Location := [Octets.ofString "work", Octets.ofString "db"]
    let files := FileSystem.start.put database (.file (Octets.ofString twice))
    decode once = .ok catalog ∧
    ∃ rejection, Store.openAt files (.file (.ofString "db")) =
      (.error (.corrupt (.ofString "db") rejection), files) := by
  intro catalog between once twice database files
  obtain ⟨_, whole, _, _, refused⟩ := decode_tolerates catalog [flags] (by decide)
  have decoded := whole _ (@List.perm_append_comm _ [catalog.attributesMember, flags]
    [catalog.namespacesMember])
  obtain ⟨rejection, _, opened⟩ := refused
    [catalog.namespacesMember, flags, catalog.namespacesMember] namespacesKey (.inl rfl) (by decide)
  refine ⟨?_, rejection, opened files _ (by decide)⟩
  rw [← decoded]
  exact congrArg decode (by decide)

end WorkflowLaunch.Catalog
