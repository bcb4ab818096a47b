import NetworkPlugin.Proofs.Address.Digits
import NetworkPlugin.Text.Snapshot

/-!
# Control characters in texts

A line that is written with care has no control character that did not come with the texts in
it.  Quoted texts are safe whatever is in them, and so are numerals; all that is shown of a
snapshot is safe if its own words are.
-/

namespace NetworkPlugin

namespace Text

/-- The control characters of ASCII, line feed and carriage return among them. -/
def IsControl (c : Char) : Prop := c.toNat < 0x20 ∨ c.toNat = 0x7f

instance (c : Char) : Decidable (IsControl c) := inferInstanceAs (Decidable (_ ∨ _))

def ControlsFrom (sources : List String) (text : List Char) : Prop :=
  ∀ c ∈ text, IsControl c → ∃ source ∈ sources, c ∈ source.toList

abbrev Plain (text : List Char) : Prop := ControlsFrom [] text

theorem plain_iff {text : List Char} : Plain text ↔ ∀ c ∈ text, ¬ IsControl c := by
  simp [ControlsFrom]

section

variable {sources : List String} {text more : List Char}

@[simp] theorem controlsFrom_nil (sources : List String) : ControlsFrom sources [] := by
  simp [ControlsFrom]

@[simp] theorem controlsFrom_cons {c : Char} (graphic : ¬ IsControl c) :
    ControlsFrom sources (c :: text) ↔ ControlsFrom sources text := by
  simp [ControlsFrom, graphic]

@[simp] theorem controlsFrom_append :
    ControlsFrom sources (text ++ more) ↔
      ControlsFrom sources text ∧ ControlsFrom sources more :=
  List.forall_mem_append

theorem controlsFrom_flatMap {Value : Type} {values : List Value} {f : Value → List Char}
    (each : ∀ value ∈ values, ControlsFrom sources (f value)) :
    ControlsFrom sources (values.flatMap f) := by
  intro c member control
  obtain ⟨value, listed, within⟩ := List.mem_flatMap.mp member
  exact each value listed c within control

theorem controlsFrom_of_mem {source : String} (member : source ∈ sources) :
    ControlsFrom sources source.toList :=
  fun _ here _ => ⟨source, member, here⟩

theorem ControlsFrom.of_subset (whole : ControlsFrom sources text) (part : more ⊆ text) :
    ControlsFrom sources more :=
  fun c member => whole c (part member)

theorem ControlsFrom.take (controls : ControlsFrom sources text) (count : Nat) :
    ControlsFrom sources (text.take count) :=
  controls.of_subset (List.take_subset _ _)

theorem ControlsFrom.drop (controls : ControlsFrom sources text) (count : Nat) :
    ControlsFrom sources (text.drop count) :=
  controls.of_subset (List.drop_subset _ _)

theorem ControlsFrom.mono {others : List String} (controls : ControlsFrom sources text)
    (included : sources ⊆ others) : ControlsFrom others text := by
  intro c member control
  obtain ⟨source, listed, within⟩ := controls c member control
  exact ⟨source, included listed, within⟩

theorem ControlsFrom.of_plain (plain : Plain text) (sources : List String) :
    ControlsFrom sources text :=
  plain.mono (List.nil_subset sources)

theorem ControlsFrom.plain (controls : ControlsFrom sources text)
    (each : ∀ source ∈ sources, Plain source.toList) : Plain text := by
  rw [plain_iff]
  intro c member control
  obtain ⟨source, listed, within⟩ := controls c member control
  exact plain_iff.mp (each source listed) c within control

theorem controlsFrom_join {separator : Char} {fields : List (List Char)}
    (graphic : ¬ IsControl separator) (each : ∀ field ∈ fields, ControlsFrom sources field) :
    ControlsFrom sources (join separator fields) := by
  unfold join
  induction fields with
  | nil => simp
  | cons field fields ih =>
      rw [List.forall_mem_cons] at each
      have later := ih each.2
      cases fields with
      | nil => simpa using each.1
      | cons second others =>
          rw [List.intercalate_cons_cons]
          simp [each.1, graphic, later]

end

/-! ## Numerals -/

theorem not_isControl_digitChar {digit : Nat} (small : digit < 16) :
    ¬ IsControl (Nat.digitChar digit) := by
  have all : ∀ digit : Fin 16, ¬ IsControl (Nat.digitChar digit) := by decide
  exact all ⟨digit, small⟩

theorem plain_encodeNumeral {base : Nat} (low : 2 ≤ base) (high : base ≤ 16) (number : Nat) :
    Plain (encodeNumeral base number) := by
  rw [plain_iff]
  intro c member
  obtain ⟨digit, below, rfl⟩ := exists_digit_of_mem_encodeNumeral low member
  exact not_isControl_digitChar (by omega)

theorem plain_join_encodeNumeral {base : Nat} {separator : Char} (low : 2 ≤ base)
    (high : base ≤ 16) (graphic : ¬ IsControl separator) (numbers : List Nat) :
    Plain (join separator (numbers.map (encodeNumeral base))) := by
  refine controlsFrom_join graphic fun field member => ?_
  obtain ⟨number, -, rfl⟩ := List.mem_map.mp member
  exact plain_encodeNumeral low high number

/-! ## Quoted texts -/

theorem isHidden_of_isControl {c : Char} (control : IsControl c) : isHidden c = true := by
  rcases control with low | delete
  · exact isHidden_of_lt low
  · have same : c = '\x7f' := Char.toNat_inj.mp delete
    rw [same]
    decide +kernel

theorem not_isControl_of_shortEscape? {c escape : Char} (short : shortEscape? c = some escape) :
    ¬ IsControl escape := by
  unfold shortEscape? at short
  split at short <;> cases short <;> decide

theorem plain_encodeChar (c : Char) : Plain (encodeChar c) := by
  unfold encodeChar
  split
  · next escape short =>
      have graphic := not_isControl_of_shortEscape? short
      have backslash : ¬ IsControl '\\' := by decide
      simp [graphic, backslash]
  · split
    · have number := @plain_encodeNumeral 16 (by omega) (by omega) c.toNat
      simp [IsControl, number]
    · next shown =>
      -- a character that stands for itself is not hidden, and every control character is
      have graphic : ¬ IsControl c := fun control => shown (isHidden_of_isControl control)
      simp [graphic]

theorem plain_quote (text : String) : Plain (quote text).toList := by
  have inside := controlsFrom_flatMap fun c (_ : c ∈ text.toList) => plain_encodeChar c
  simp [quote, IsControl, inside]

end Text

/-! ## Snapshots -/

namespace Snapshot

open Text

/-- A snapshot whose words, names and labels have no control characters; texts and keys, which
are quoted, may have any. -/
inductive Printable : Snapshot → Prop
  | word {content} (plain : Plain content.toList) : Printable (.word content)
  | text {content} : Printable (.text content)
  | list {items} (each : ∀ item ∈ items, Printable item) : Printable (.list items)
  | map {entries} (each : ∀ entry ∈ entries, Printable entry.2) : Printable (.map entries)
  | record {name fields} (plain : Plain name.toList)
      (labels : ∀ field ∈ fields, Plain field.1.toList)
      (each : ∀ field ∈ fields, Printable field.2) : Printable (.record name fields)
  | wrapped {name content} (plain : Plain name.toList) (inside : Printable content) :
      Printable (.wrapped name content)
  | labelled {name content} (plain : Plain name.toList) (inside : Printable content) :
      Printable (.labelled name content)

def KeepsPlain (snapshot : Snapshot) : Prop :=
  ∀ written : String, Plain written.toList → Plain (renderTo written snapshot).toList

theorem plain_renderItemsTo {items : List Snapshot} (each : ∀ item ∈ items, item.KeepsPlain)
    (written separator : String) (plain : Plain written.toList)
    (separates : Plain separator.toList) :
    Plain (renderItemsTo written separator items).toList := by
  induction items generalizing written separator with
  | nil => simpa [renderItemsTo] using plain
  | cons item items ih =>
      rw [List.forall_mem_cons] at each
      exact ih each.2 _ _ (each.1 _ (by simp [plain, separates])) (by simp [IsControl])

theorem plain_renderEntriesTo {entries : List (String × Snapshot)}
    (each : ∀ entry ∈ entries, entry.2.KeepsPlain) (written separator : String)
    (plain : Plain written.toList) (separates : Plain separator.toList) :
    Plain (renderEntriesTo written separator entries).toList := by
  induction entries generalizing written separator with
  | nil => simpa [renderEntriesTo] using plain
  | cons entry entries ih =>
      rw [List.forall_mem_cons] at each
      refine ih each.2 _ _ (each.1 _ ?_) (by simp [IsControl])
      simp [plain, separates, plain_quote, IsControl]

theorem plain_renderFieldsTo {fields : List (String × Snapshot)}
    (labels : ∀ field ∈ fields, Plain field.1.toList)
    (each : ∀ field ∈ fields, field.2.KeepsPlain) (written separator : String)
    (plain : Plain written.toList) (separates : Plain separator.toList) :
    Plain (renderFieldsTo written separator fields).toList := by
  induction fields generalizing written separator with
  | nil => simpa [renderFieldsTo] using plain
  | cons field fields ih =>
      rw [List.forall_mem_cons] at labels each
      refine ih labels.2 each.2 _ _ (each.1 _ ?_) (by simp [IsControl])
      simp [plain, separates, labels.1, IsControl]

theorem Printable.keepsPlain {snapshot : Snapshot} (printable : snapshot.Printable) :
    snapshot.KeepsPlain := by
  induction printable with
  | word inside =>
      intro written plain
      simp [renderTo, plain, inside]
  | text =>
      intro written plain
      simp [renderTo, plain, plain_quote]
  | list _ ih =>
      intro written plain
      have inside := plain_renderItemsTo ih (written ++ "[") ""
        (by simp [plain, IsControl]) (by simp)
      simp [renderTo, inside, IsControl]
  | map _ ih =>
      intro written plain
      have inside := plain_renderEntriesTo ih (written ++ "\x7b") ""
        (by simp [plain, IsControl]) (by simp)
      simp [renderTo, inside, IsControl]
  | @record name fields named labels _ ih =>
      intro written plain
      cases fields with
      | nil => simp [renderTo, plain, named]
      | cons field fields =>
          have inside := plain_renderFieldsTo labels ih (written ++ name ++ " \x7b ") ""
            (by simp [plain, named, IsControl]) (by simp)
          simp [renderTo, inside, IsControl]
  | @wrapped name content named _ ih =>
      intro written plain
      have inside := ih (written ++ name ++ "(") (by simp [plain, named, IsControl])
      simp [renderTo, inside, IsControl]
  | @labelled name content named _ ih =>
      intro written plain
      exact ih (written ++ name ++ " ") (by simp [plain, named, IsControl])

theorem Printable.plain_render {snapshot : Snapshot} (printable : snapshot.Printable) :
    Plain snapshot.render.toList :=
  printable.keepsPlain "" (by simp)

end Snapshot

end NetworkPlugin
