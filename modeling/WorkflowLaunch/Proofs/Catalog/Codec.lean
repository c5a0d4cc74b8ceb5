import WorkflowLaunch.Catalog.Decoding
import WorkflowLaunch.Proofs.Attribute.Tables
import WorkflowLaunch.Proofs.Json.Layouts
import WorkflowLaunch.Text.Blank

set_option autoImplicit false

/-!
The codec of catalogs. Both layouts of a written catalog are instances of one shape, and reading a
text of that shape gives the catalog back.
-/

namespace WorkflowLaunch.Catalog

open Json
open Attribute (Entry Table ValueType)

variable {gap inner colon close innerClose : List Char}

/-- The namespaces behind their colon. -/
def namespacesText (colon inner innerClose : List Char) (namespaces : List String) : List Char :=
  colon ++ '[' :: (spread inner (namespaces.map writeString) ++ (innerClose ++ [']']))

/-- An attribute as a member: its name, and its type behind the colon. -/
def attributeMember (colon : List Char) (entry : Entry) : String × List Char :=
  (entry.1, ':' :: (colon ++ writeString entry.2.name))

/-- The attributes behind their colon. -/
def attributesText (colon inner innerClose : List Char) (entries : List Entry) : List Char :=
  colon ++ '{' ::
    (spread inner (entries.map fun entry => memberText (attributeMember colon entry)) ++
      (innerClose ++ ['}']))

theorem readNamespaces_written (blankColon : Blank colon) (blankInner : Blank inner)
    (blankClose : Blank innerClose) (namespaces : List String) (rest : List Char) :
    readNamespaces (namespacesText colon inner innerClose namespaces ++ rest) =
      .ok (namespaces, rest) := by
  have read := readList_spread "a string" blankInner blankClose blankColon namespaces rest
  simpa [readNamespaces, namespacesText] using read

theorem readType_written (blankColon : Blank colon) (type : ValueType) (rest : List Char) :
    readType (colon ++ (writeString type.name ++ rest)) = .ok (type, rest) := by
  have read := readString_written type.name rest
  rw [writeString_append, readType, skipBlanks_gap blankColon (by decide)]
  change ((readString (type.name.toList.flatMap escape ++ '"' :: rest)).bind fun name =>
    typeNamed name.1 name.2) = _
  rw [read]
  simp [Except.bind, typeNamed]

theorem readAttribute_written (blankColon : Blank colon) (table : Table) (entry : Entry)
    (rest : List Char) :
    readAttribute table entry.1 ((attributeMember colon entry).2 ++ rest) =
      .ok (table.insert entry.1 entry.2, rest) := by
  have read := readType_written blankColon entry.2 rest
  simp [readAttribute, attributeMember, bind, Except.bind, read, pure, Except.pure]

theorem takes_attributes (blankColon : Blank colon) (table : Table) (entries : List Entry) :
    Takes readAttribute table (entries.map (attributeMember colon)) (table.insertAll entries) := by
  induction entries generalizing table with
  | nil => exact .done table
  | cons entry rest ih =>
    exact .step (fun text => readAttribute_written blankColon table entry text) (ih _)

theorem readAttributes_written (blankColon : Blank colon) (blankInner : Blank inner)
    (blankClose : Blank innerClose) (table : Table) (rest : List Char) :
    readAttributes (attributesText colon inner innerClose table.entries ++ rest) =
      .ok (table, rest) := by
  have takes := takes_attributes blankColon ∅ table.entries
  rw [Table.insertAll_entries] at takes
  have read := readObject_spread blankInner blankClose takes rest
  rw [List.map_map] at read
  simp only [attributesText, List.append_assoc, List.cons_append, List.nil_append]
  rw [readAttributes, skipBlanks_gap blankColon (by decide)]
  exact read

/-- The two members of a catalog, each with its text from the colon on. -/
def members (colon inner namespacesClose attributesClose : List Char) (catalog : Catalog) :
    List (String × List Char) :=
  [(namespacesKey, ':' :: namespacesText colon inner namespacesClose catalog.namespaces),
    (attributesKey, ':' :: attributesText colon inner attributesClose catalog.attributes.entries)]

theorem takes_members (blankColon : Blank colon) (blankInner : Blank inner)
    {namespacesClose attributesClose : List Char} (blankNamespaces : Blank namespacesClose)
    (blankAttributes : Blank attributesClose) (catalog : Catalog) :
    Takes readMember ⟨none, none⟩ (members colon inner namespacesClose attributesClose catalog)
      ⟨some catalog.namespaces, some catalog.attributes⟩ := by
  have first (rest : List Char) : readMember ⟨none, none⟩ namespacesKey
      (':' :: namespacesText colon inner namespacesClose catalog.namespaces ++ rest) =
      .ok (⟨some catalog.namespaces, none⟩, rest) := by
    have read := readNamespaces_written blankColon blankInner blankNamespaces
      catalog.namespaces rest
    simp [readMember, bind, Except.bind, read, pure, Except.pure]
  have second (rest : List Char) : readMember ⟨some catalog.namespaces, none⟩ attributesKey
      (':' :: attributesText colon inner attributesClose catalog.attributes.entries ++ rest) =
      .ok (⟨some catalog.namespaces, some catalog.attributes⟩, rest) := by
    have read := readAttributes_written blankColon blankInner blankAttributes
      catalog.attributes rest
    simp [readMember, bind, Except.bind, read, pure, Except.pure,
      (by decide : attributesKey ≠ namespacesKey)]
  exact .step first (.step second (.done _))

/-- The text of a catalog in a layout. -/
def text (gap close colon inner namespacesClose attributesClose : List Char) (catalog : Catalog) :
    List Char :=
  '{' ::
    (spread gap ((members colon inner namespacesClose attributesClose catalog).map memberText) ++
      (close ++ ['}']))

theorem read_text (blankGap : Blank gap) (blankClose : Blank close) (blankColon : Blank colon)
    (blankInner : Blank inner) {namespacesClose attributesClose : List Char}
    (blankNamespaces : Blank namespacesClose) (blankAttributes : Blank attributesClose)
    (catalog : Catalog) :
    read (text gap close colon inner namespacesClose attributesClose catalog) = .ok catalog := by
  have takes := takes_members blankColon blankInner blankNamespaces blankAttributes catalog
  have object := readObject_spread blankGap blankClose takes []
  simp only [read, readCatalog, text,
    skipBlanks_cons_of_not_isBlank (by decide : isBlank '{' = false)]
  simp [bind, Except.bind, object, pure, Except.pure, Members.catalog, skipBlanks]

theorem compact_toJson (catalog : Catalog) :
    catalog.toJson.compact = text [] [] [] [] [] [] catalog := by
  simp only [toJson, namespacesJson, Table.toJson, Value.compact_object, Value.compact_array,
    Value.compact_string, List.map_cons, List.map_nil, List.map_map, Function.comp_def, text,
    members, namespacesText, attributesText, attributeMember, memberText, List.nil_append,
    List.append_assoc]

theorem pretty_toJson (catalog : Catalog) :
    ∃ close namespacesClose attributesClose, Blank close ∧ Blank namespacesClose ∧
      Blank attributesClose ∧ catalog.toJson.pretty 0 =
        text (Value.newline 1) close [' '] (Value.newline 2) namespacesClose attributesClose
          catalog := by
  obtain ⟨close, blankClose, outer⟩ := Value.pretty_object 0
    [(namespacesKey, catalog.namespacesJson), (attributesKey, catalog.attributes.toJson)]
  obtain ⟨namespacesClose, blankNamespaces, namespaces⟩ := Value.pretty_array 1
    (catalog.namespaces.map .string)
  obtain ⟨attributesClose, blankAttributes, attributes⟩ := Value.pretty_object 1
    (catalog.attributes.entries.map fun entry => (entry.1, .string entry.2.name))
  refine ⟨close, namespacesClose, attributesClose, blankClose, blankNamespaces, blankAttributes, ?_⟩
  rw [toJson, outer]
  simp only [List.map_cons, List.map_nil, Nat.zero_add, namespacesJson, Table.toJson, namespaces,
    attributes, Value.pretty_string, List.map_map, Function.comp_def, text, members,
    namespacesText, attributesText, attributeMember, memberText, List.append_assoc]

theorem decode_encode (catalog : Catalog) : decode catalog.encode = .ok catalog := by
  have read := read_text blank_nil blank_nil blank_nil blank_nil blank_nil blank_nil catalog
  rw [decode, encode, String.toList_ofList, compact_toJson, read]
  rfl

theorem decode_encodePretty (catalog : Catalog) : decode catalog.encodePretty = .ok catalog := by
  obtain ⟨close, namespacesClose, attributesClose, blankClose, blankNamespaces, blankAttributes,
    layout⟩ := pretty_toJson catalog
  have blankColon : Blank [' '] := by simp [Blank]; decide
  have read := read_text (blank_newline 1) blankClose blankColon (blank_newline 2) blankNamespaces
    blankAttributes catalog
  rw [decode, encodePretty, String.toList_ofList, layout, read]
  rfl

theorem encodePretty_injective {left right : Catalog}
    (same : left.encodePretty = right.encodePretty) : left = right := by
  have decoded := decode_encodePretty left
  rw [same, decode_encodePretty right] at decoded
  exact (Except.ok.inj decoded).symm

theorem encode_injective {left right : Catalog} (same : left.encode = right.encode) :
    left = right := by
  have decoded := decode_encode left
  rw [same, decode_encode right] at decoded
  exact (Except.ok.inj decoded).symm

/-- A written catalog opens with a brace, so it is never taken for a blank file. -/
theorem blank_encodePretty (catalog : Catalog) : Text.blank catalog.encodePretty = false := by
  obtain ⟨_, _, layout⟩ := Value.pretty_object 0
    [(namespacesKey, catalog.namespacesJson), (attributesKey, catalog.attributes.toJson)]
  rw [Text.blank, encodePretty, String.toList_ofList, toJson, layout]
  simp [List.all_cons, (by decide : Text.isBlank '{' = false)]

/-- Writing loses nothing in either layout: what is written is read back, different catalogs have
different texts, and a catalog that was read from any text survives being written and read again. -/
theorem encoding_lossless (catalog : Catalog) :
    decode catalog.encodePretty = .ok catalog ∧ decode catalog.encode = .ok catalog ∧
      (∀ other : Catalog, other.encodePretty = catalog.encodePretty ↔ other = catalog) ∧
      (∀ other : Catalog, other.encode = catalog.encode ↔ other = catalog) ∧
      ∀ text : String,
        ((decode text).bind fun decoded => decode decoded.encodePretty) = decode text := by
  refine ⟨decode_encodePretty catalog, decode_encode catalog, ?_, ?_, ?_⟩
  · intro other
    constructor
    · exact encodePretty_injective
    · rintro rfl
      rfl
  · intro other
    constructor
    · exact encode_injective
    · rintro rfl
      rfl
  · intro text
    cases read : decode text with
    | error rejection => rfl
    | ok decoded => exact decode_encodePretty decoded

end WorkflowLaunch.Catalog
