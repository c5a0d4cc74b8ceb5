import WorkflowLaunch.Proofs.CommandLine.Items

set_option autoImplicit false

/-!
Writing a request as a command line. Whatever a request asks for, some items ask for the same, as
long as each of its values can be written at all.
-/

namespace WorkflowLaunch.CommandLine

open Octets (ofString)

/-- A flag that was given has a value that can be written, and any other has the standard one. -/
def Chosen {α : Type} (flag : Flag α) (standard : α) (possible : α → Prop) : Prop :=
  if flag.explicit = true then possible flag.value else flag.value = standard

/-- A list that can be written between commas. -/
def Listable (items : List String) : Prop := items ≠ [] ∧ ∀ item ∈ items, ',' ∉ item.toList

structure Writable (standard : Standard) (request : Request) : Prop where
  words : ∀ word ∈ request.words, Plain (ofString word)
  ephemeral : Chosen request.ephemeral standard.ephemeral fun _ => True
  filename : Chosen request.filename standard.databaseFile (·.octets ≠ [])
  port : Chosen request.port standard.port fun _ => True
  ip : Chosen request.ip standard.ip fun _ => True
  logFormat : Chosen request.logFormat standard.logFormat fun _ => True
  namespaces : Chosen request.namespaces [] Listable
  attributeNames : Chosen request.attributeNames [] Listable
  attributeTypes : Chosen request.attributeTypes [] Listable

def Numeral.ofNumber (number : UInt16) : Numeral where
  digits := Nat.toDigits 10 number.toNat
  number := number
  some := Nat.toDigits_ne_nil
  decimal := fun _ member => Nat.isDigit_of_mem_toDigits (by decide) (by decide) member
  worth := Nat.ofDigitChars_ten_toDigits

@[simp] theorem Numeral.number_ofNumber (number : UInt16) : (ofNumber number).number = number := rfl

theorem listItems_intercalate {items : List String} (listable : Listable items) :
    listItems (",".intercalate items) = items := by
  obtain ⟨some, plain⟩ := listable
  have cut : ([','].intercalate (items.map String.toList)).splitOn ',' =
      items.map String.toList := by
    apply List.splitOn_intercalate
    · intro piece member
      obtain ⟨item, within, rfl⟩ := List.mem_map.mp member
      exact plain item within
    · simpa using some
  have comma : ",".toList = [','] := by decide
  rw [listItems, String.toList_intercalate, comma, cut, List.map_map]
  simp

namespace Chosen

variable {α β : Type} {flag : Flag α} {standard : α} {possible : α → Prop}

theorem possible_value (chosen : Chosen flag standard possible) (given : flag.explicit = true) :
    possible flag.value := by
  simpa [Chosen, given] using chosen

/-- The assignment of a flag, if it was given. -/
def written (chosen : Chosen flag standard possible)
    (assign : ∀ value, possible value → Assignment) : List Assignment :=
  if given : flag.explicit = true then [assign flag.value (chosen.possible_value given)] else []

theorem filterMap_written (chosen : Chosen flag standard possible)
    (assign : ∀ value, possible value → Assignment) (value? : Assignment → Option β) :
    (chosen.written assign).filterMap value? =
      if given : flag.explicit = true then
        (value? (assign flag.value (chosen.possible_value given))).toList
      else [] := by
  rw [written]
  split
  · next given =>
    cases value : value? (assign flag.value (chosen.possible_value given)) <;> simp [value]
  · rfl

theorem sublist_written (chosen : Chosen flag standard possible)
    {assign : ∀ value, possible value → Assignment} {setting : Setting}
    (of : ∀ value possible, (assign value possible).setting = setting) :
    ((chosen.written assign).map Assignment.setting).Sublist [setting] := by
  rw [written]
  split
  · simp [of]
  · simp

/-- A flag is what its assignment makes of the standard value. -/
theorem resolve_eq (chosen : Chosen flag standard possible) :
    .resolve (if flag.explicit = true then [flag.value] else []).head? standard = flag := by
  obtain ⟨value, explicit⟩ := flag
  cases explicit with
  | false =>
    obtain rfl : value = standard := by simpa [Chosen] using chosen
    rfl
  | true => rfl

theorem resolve_joined {flag : Flag (List String)} (chosen : Chosen flag [] Listable) :
    .resolve (joined (if flag.explicit = true then [listItems (",".intercalate flag.value)]
      else [])) [] = flag := by
  obtain ⟨value, explicit⟩ := flag
  cases explicit with
  | false =>
    obtain rfl : value = [] := by simpa [Chosen] using chosen
    rfl
  | true =>
    have listable : Listable value := chosen.possible_value rfl
    simp [joined, listItems_intercalate listable, Flag.resolve, Flag.given]

end Chosen

namespace Writable

variable {standard : Standard} {request : Request}

def given (writable : Writable standard request) : List Assignment :=
  writable.ephemeral.written (fun value _ => .ephemeral value) ++
  writable.filename.written .filename ++
  writable.port.written (fun value _ => .port (.ofNumber value)) ++
  writable.ip.written (fun value _ => .ip value) ++
  writable.logFormat.written (fun value _ => .logFormat value) ++
  writable.namespaces.written (fun items _ => .namespaces (",".intercalate items)) ++
  writable.attributeNames.written (fun items _ => .attributeNames (",".intercalate items)) ++
  writable.attributeTypes.written (fun items _ => .attributeTypes (",".intercalate items))

def items (writable : Writable standard request) : List Item :=
  request.words.pmap .word writable.words ++ writable.given.map .attached

theorem assignments_items (writable : Writable standard request) :
    assignments writable.items = writable.given := by
  have words : (request.words.pmap Item.word writable.words).filterMap Item.given? = [] := by
    rw [List.filterMap_eq_nil_iff]
    intro item member
    obtain ⟨word, _, rfl⟩ := List.mem_pmap.mp member
    rfl
  rw [assignments, items, List.filterMap_append, words, List.filterMap_map]
  exact List.filterMap_some

theorem once_items (writable : Writable standard request) : Once writable.items := by
  have settings : (writable.given.map Assignment.setting).Sublist
      ([.ephemeral] ++ [.filename] ++ [.port] ++ [.ip] ++ [.logFormat] ++ [.namespaces] ++
        [.attributeNames] ++ [.attributeTypes]) := by
    simp only [given, List.map_append]
    repeat' apply List.Sublist.append
    all_goals exact Chosen.sublist_written _ fun _ _ => rfl
  have different : (writable.given.map Assignment.setting).Nodup := settings.nodup (by decide)
  rw [List.Nodup, List.pairwise_map] at different
  rw [Once, assignments_items]
  exact different.imp fun apart same => absurd same apart

theorem words_items (writable : Writable standard request) :
    writable.items.filterMap Item.word? = request.words := by
  have options : (writable.given.map Item.attached).filterMap Item.word? = [] := by
    simp [List.filterMap_eq_nil_iff, Item.word?]
  rw [items, List.filterMap_append, options, List.append_nil, List.pmap_eq_map_attach,
    List.filterMap_map]
  exact (congrFun List.filterMap_eq_map _).trans (List.attach_map_subtype_val _)

theorem asked_items (writable : Writable standard request) :
    asked writable.items standard = request := by
  simp [asked, words_items, values, assignments_items, given, Chosen.filterMap_written,
    writable.ephemeral.resolve_eq, writable.filename.resolve_eq, writable.port.resolve_eq,
    writable.ip.resolve_eq, writable.logFormat.resolve_eq, writable.namespaces.resolve_joined,
    writable.attributeNames.resolve_joined, writable.attributeTypes.resolve_joined]

end Writable

/-- Items behind `start`, in any order and each written in any way, are read as what they ask for,
as long as no setting with a single value comes twice. Every request whose values can be written is
what some items ask for, so that reading these gives it back. -/
theorem read_written (standard : Standard) (program : Octets) :
    (∀ items, Once items →
      read (program :: ofString "start" :: items.flatMap Item.words) standard =
        .ok (asked items standard)) ∧
    ∀ request, Writable standard request → ∃ items, Once items ∧
      read (program :: ofString "start" :: items.flatMap Item.words) standard = .ok request := by
  refine ⟨fun items once => read_of_once standard program once, ?_⟩
  intro request writable
  refine ⟨writable.items, writable.once_items, ?_⟩
  rw [read_of_once standard program writable.once_items, writable.asked_items]

/-- Namespaces given twice, an option with an empty value, and words between the options. -/
theorem read_between_words :
    let standard : Standard := ⟨false, .ofString "db", 7233, "127.0.0.1", "json"⟩
    let words := ["workflow-lite", "start", "-n", "a,,b", "--port=0080", "more", "--namespace=",
      "--ephemeral=false", "--ip", "", "words"]
    let request : Request := ⟨["more", "words"], .given false, .absent (.ofString "db"), .given 80,
      .given "", .absent "json", .given ["a", "", "b", ""], .absent [], .absent []⟩
    read (words.map ofString) standard = .ok request ∧ Writable standard request ∧
      ∃ items, Once items ∧
        read (ofString "workflow-lite" :: ofString "start" :: items.flatMap Item.words) standard =
          .ok request := by
  intro standard words request
  let port : Numeral := ⟨['0', '0', '8', '0'], 80, by decide, by simp, by decide⟩
  let items : List Item := [.short 'n' (.namespaces "a,,b") rfl (by decide), .attached (.port port),
    .word "more" (by decide), .attached (.namespaces ""), .attached (.ephemeral false),
    .apart (.ip "") rfl (by decide), .word "words" (by decide)]
  have writable : Writable standard request := by
    refine ⟨by decide, trivial, rfl, trivial, trivial, rfl, ?_, rfl, rfl⟩
    exact ⟨by decide, by decide⟩
  obtain ⟨reads, writes⟩ := read_written standard (ofString "workflow-lite")
  refine ⟨?_, writable, writes request writable⟩
  have spelled : words.map ofString =
      ofString "workflow-lite" :: ofString "start" :: items.flatMap Item.words := by decide
  have meant : asked items standard = request := by decide
  rw [spelled, reads items (by decide), meant]

end WorkflowLaunch.CommandLine
