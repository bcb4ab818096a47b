import Mathlib.Data.List.Forall2
import NetworkPlugin.Json.Reader
import NetworkPlugin.Proofs.Json.Numerals
import NetworkPlugin.Proofs.Json.Strings

/-!
# Rendered values read back

The text of a value that has no float in it is read as a document that shows the value.
A value is told by its first byte, which is no blank and no bracket that closes, and what
follows a value inside of a container ends every numeral.
-/

namespace NetworkPlugin.Json

open Text

/-- No number in the value is a float. -/
inductive Exact : Json → Prop
  | null : Exact .null
  | bool {value} : Exact (.bool value)
  | whole {value low high} : Exact (.number (.whole value low high))
  | string {value} : Exact (.string value)
  | array {items} (exact : ∀ item ∈ items, Exact item) : Exact (.array items)
  | object {members : List (String × Json)} (exact : ∀ member ∈ members, Exact member.2) :
      Exact (.object members)

/-- A document without faults that has a value in it, inside of so many containers. -/
inductive Shows : Nat → Json → Doc → Prop
  | null {level stop} : Shows level .null (.null stop)
  | bool {level value stop} : Shows level (.bool value) (.bool value stop)
  | number {level value stop} : Shows level (.number value) (.number (.ok value) stop)
  | string {level value stop} : Shows level (.string value) (.string (.ok value) stop)
  | array {level items docs start stop} (same : items.length = docs.length)
      (shown : ∀ item doc, (item, doc) ∈ items.zip docs → Shows (level + 1) item doc.2) :
      Shows level (.array items) (.array ⟨start, level + 1⟩ docs (.closed stop))
  | object {level members docs start stop} (same : members.length = docs.length)
      (named : ∀ member doc, (member, doc) ∈ members.zip docs → doc.1.name = .ok member.1)
      (shown : ∀ member doc, (member, doc) ∈ members.zip docs →
        Shows (level + 1) member.2 doc.2) :
      Shows level (.object members) (.object ⟨start, level + 1⟩ docs (.closed stop))

def ShowsItems (level : Nat) (items : List Json) (docs : List (Fault × Doc)) : Prop :=
  List.Forall₂ (fun item doc => Shows level item doc.2) items docs

def ShowsMembers (level : Nat) (members : List (String × Json)) (docs : List (Key × Doc)) :
    Prop :=
  List.Forall₂ (fun member doc => doc.1.name = .ok member.1 ∧ Shows level member.2 doc.2)
    members docs

theorem shows_array {level start stop : Nat} {items : List Json} {docs : List (Fault × Doc)}
    (shown : ShowsItems (level + 1) items docs) :
    Shows level (.array items) (.array ⟨start, level + 1⟩ docs (.closed stop)) := by
  obtain ⟨same, each⟩ := List.forall₂_iff_zip.mp shown
  exact .array same fun _ _ member => each member

theorem shows_object {level start stop : Nat} {members : List (String × Json)}
    {docs : List (Key × Doc)} (shown : ShowsMembers (level + 1) members docs) :
    Shows level (.object members) (.object ⟨start, level + 1⟩ docs (.closed stop)) := by
  obtain ⟨same, each⟩ := List.forall₂_iff_zip.mp shown
  exact .object same (fun _ _ member => (each member).1) fun _ _ member => (each member).2

theorem Shows.array_inv {level : Nat} {items : List Json} {doc : Doc}
    (shows : Shows level (.array items) doc) :
    ∃ start docs stop, doc = .array ⟨start, level + 1⟩ docs (.closed stop) ∧
      ShowsItems (level + 1) items docs := by
  cases shows with
  | array same shown =>
      exact ⟨_, _, _, rfl, List.forall₂_iff_zip.mpr ⟨same, fun member => shown _ _ member⟩⟩

theorem Shows.object_inv {level : Nat} {members : List (String × Json)} {doc : Doc}
    (shows : Shows level (.object members) doc) :
    ∃ start docs stop, doc = .object ⟨start, level + 1⟩ docs (.closed stop) ∧
      ShowsMembers (level + 1) members docs := by
  cases shows with
  | object same named shown =>
      exact ⟨_, _, _, rfl, List.forall₂_iff_zip.mpr
        ⟨same, fun member => ⟨named _ _ member, shown _ _ member⟩⟩⟩

/-! ## First bytes -/

def Starts (byte : UInt8) : Prop := isBlank byte = false ∧ byte ≠ 0x5d

instance (byte : UInt8) : Decidable (Starts byte) :=
  inferInstanceAs (Decidable (_ ∧ _))

theorem blanks_of_starts {byte : UInt8} (starts : Starts byte) (rest : List UInt8)
    (offset : Nat) : Cursor.blanks ⟨byte :: rest, offset⟩ = ⟨byte :: rest, offset⟩ := by
  simp only [Cursor.blanks, skipBlanks, starts.1, Bool.false_eq_true, if_false]

theorem starts_of_digit {byte : UInt8} (known : (digit? byte).isSome = true) : Starts byte := by
  obtain ⟨digit, rfl⟩ := exists_of_isSome_digit? known
  have all : ∀ digit : Fin 10, Starts (UInt8.ofNat (0x30 + digit.val)) := by decide
  exact all digit

theorem utf8_encodeNumeral_starts (number : Nat) :
    ∃ byte rest, utf8 (encodeNumeral 10 number) = byte :: rest ∧ (digit? byte).isSome = true := by
  obtain ⟨digits, decimal⟩ := exists_isDecimal number
  exact decimal.exists_first

theorem characters_starts {value : Json} (exact : Exact value) :
    ∃ byte rest, utf8 (characters value) = byte :: rest ∧ Starts byte := by
  cases exact with
  | null => exact ⟨0x6e, _, rfl, by decide⟩
  | @bool value =>
      cases value with
      | true => exact ⟨0x74, _, rfl, by decide⟩
      | false => exact ⟨0x66, _, rfl, by decide⟩
  | @whole value low high =>
      simp only [characters, Number.render, String.toList_ofList, encodeInt]
      split
      · exact ⟨0x2d, _, utf8_cons_of_ascii (by decide) _, by decide⟩
      · obtain ⟨byte, rest, written, known⟩ := utf8_encodeNumeral_starts value.natAbs
        exact ⟨byte, rest, written, starts_of_digit known⟩
  | string =>
      rw [characters, toList_encodeString]
      exact ⟨0x22, _, utf8_cons_of_ascii (by decide) _, by decide⟩
  | array => exact ⟨0x5b, _, utf8_cons_of_ascii (by decide) _, by decide⟩
  | object => exact ⟨0x7b, _, utf8_cons_of_ascii (by decide) _, by decide⟩

/-! ## Values by their first bytes -/

section

variable {fuel level offset : Nat} {rest : List UInt8}

theorem readValue_string : readValue (fuel + 1) level ⟨0x22 :: rest, offset⟩ =
    stringDoc (readString ⟨rest, offset + 1⟩) := by
  rw [readValue.eq_def]
  rfl

theorem readValue_negative : readValue (fuel + 1) level ⟨0x2d :: rest, offset⟩ =
    numeralDoc (readNumeral true ⟨rest, offset + 1⟩) := by
  rw [readValue.eq_def]
  rfl

theorem isDigit_character (digit : Fin 10) :
    (character (UInt8.ofNat (0x30 + digit.val))).isDigit = true := by
  revert digit
  decide

theorem readValue_digit {byte : UInt8} (known : (digit? byte).isSome = true) :
    readValue (fuel + 1) level ⟨byte :: rest, offset⟩ =
      numeralDoc (readNumeral false ⟨byte :: rest, offset⟩) := by
  obtain ⟨digit, rfl⟩ := exists_of_isSome_digit? known
  have numeral := isDigit_character digit
  rw [readValue.eq_def]
  simp only
  split
  case h_8 => rw [if_pos known]
  -- All other cases are of a character that is no digit.
  all_goals
    next other =>
      rw [other] at numeral
      exact absurd numeral (by decide)

theorem readValue_array : readValue (fuel + 1) level ⟨0x5b :: rest, offset⟩ =
    containerDoc (.array ⟨offset, level + 1⟩ (readItems fuel (level + 1) [] ⟨rest, offset + 1⟩).1)
      (readItems fuel (level + 1) [] ⟨rest, offset + 1⟩).2 := by
  rw [readValue.eq_def]
  rfl

theorem readValue_object : readValue (fuel + 1) level ⟨0x7b :: rest, offset⟩ =
    containerDoc
      (.object ⟨offset, level + 1⟩ (readMembers fuel (level + 1) [] ⟨rest, offset + 1⟩).1)
      (readMembers fuel (level + 1) [] ⟨rest, offset + 1⟩).2 := by
  rw [readValue.eq_def]
  rfl

end

/-! ## Scalars -/

/-- A value is read from its text, and the cursor left behind it. -/
def ReadsBack (value : Json) : Prop :=
  ∀ (fuel level : Nat) (rest : List UInt8) (offset : Nat), EndsNumeral rest →
    4 * (utf8 (characters value)).length ≤ fuel + 1 →
    ∃ doc stop, readValue (fuel + 1) level ⟨utf8 (characters value) ++ rest, offset⟩ =
      (doc, .ok ⟨rest, stop⟩) ∧ Shows level value doc

theorem readsBack_null : ReadsBack .null := by
  intro fuel level rest offset ends enough
  refine ⟨.null (offset + 4), offset + 4, ?_, .null⟩
  rw [readValue.eq_def]
  rfl

theorem readsBack_bool (value : Bool) : ReadsBack (.bool value) := by
  intro fuel level rest offset ends enough
  cases value with
  | true =>
      refine ⟨.bool true (offset + 4), offset + 4, ?_, .bool⟩
      rw [readValue.eq_def]
      rfl
  | false =>
      refine ⟨.bool false (offset + 5), offset + 5, ?_, .bool⟩
      rw [readValue.eq_def]
      rfl

theorem readsBack_string (text : String) : ReadsBack (.string text) := by
  intro fuel level rest offset ends enough
  obtain ⟨stop, read⟩ := readString_encodeString text rest (offset + 1)
  refine ⟨.string (.ok text) stop, stop, ?_, .string⟩
  rw [characters, toList_encodeString, utf8_cons_of_ascii (by decide), List.cons_append]
  refine readValue_string.trans ?_
  rw [read]
  rfl

theorem readsBack_whole {value : Int} (low : -0x8000000000000000 ≤ value)
    (high : value < 0x10000000000000000) : ReadsBack (.number (.whole value low high)) := by
  intro fuel level rest offset ends enough
  simp only [characters, Number.render, String.toList_ofList, encodeInt]
  by_cases negative : value < 0
  · obtain ⟨numeral, stop, read, known⟩ := readNumeral_whole ends low high (offset + 1)
    rw [decide_eq_true negative] at read
    refine ⟨.number (.ok (.whole value low high)) stop, stop, ?_, .number⟩
    rw [if_pos negative, utf8_cons_of_ascii (by decide), List.cons_append]
    refine readValue_negative.trans ?_
    rw [read, numeralDoc, known]
  · obtain ⟨numeral, stop, read, known⟩ := readNumeral_whole ends low high offset
    rw [decide_eq_false negative] at read
    obtain ⟨byte, more, written, digit⟩ := utf8_encodeNumeral_starts value.natAbs
    refine ⟨.number (.ok (.whole value low high)) stop, stop, ?_, .number⟩
    rw [if_neg negative]
    rw [written, List.cons_append] at read ⊢
    rw [readValue_digit digit, read, numeralDoc, known]

/-! ## Items -/

theorem utf8_itemCharacters_cons (item : Json) (items : List Json) :
    utf8 (itemCharacters [','] (item :: items)) =
      0x2c :: (utf8 (characters item) ++ utf8 (itemCharacters [','] items)) := by
  rw [itemCharacters, List.append_assoc, List.singleton_append,
    utf8_cons_of_ascii (by decide), utf8_append]
  rfl

theorem endsNumeral_items (items : List Json) (rest : List UInt8) :
    EndsNumeral (utf8 (itemCharacters [','] items) ++ 0x5d :: rest) := by
  cases items with
  | nil =>
      intro byte member
      cases member
      decide
  | cons item items =>
      rw [utf8_itemCharacters_cons]
      intro byte member
      cases member
      decide

def ItemsReadBack (items : List Json) : Prop :=
  ∀ (fuel level : Nat) (last : Fault × Doc) (done : List (Fault × Doc)) (rest : List UInt8)
    (offset : Nat), 4 * ((utf8 (itemCharacters [','] items)).length + 1) ≤ fuel →
    ∃ docs stop, readItems fuel level (last :: done)
        ⟨utf8 (itemCharacters [','] items) ++ 0x5d :: rest, offset⟩ =
      ((last :: done).reverse ++ docs, .ok ⟨rest, stop⟩) ∧ ShowsItems level items docs

theorem ItemsReadBack.cons {item : Json} {items : List Json} (others : ItemsReadBack items)
    {fuel level : Nat} {doc : Doc} (shows : Shows level item doc) (surplus : Fault)
    (done : List (Fault × Doc)) (rest : List UInt8) (offset : Nat)
    (enough : 4 * ((utf8 (itemCharacters [','] items)).length + 1) ≤ fuel) :
    ∃ docs stop, readItems fuel level ((surplus, doc) :: done)
        ⟨utf8 (itemCharacters [','] items) ++ 0x5d :: rest, offset⟩ =
      (done.reverse ++ docs, .ok ⟨rest, stop⟩) ∧ ShowsItems level (item :: items) docs := by
  obtain ⟨docs, stop, read, shown⟩ := others fuel level (surplus, doc) done rest offset enough
  refine ⟨(surplus, doc) :: docs, stop, ?_, .cons shows shown⟩
  rw [read, List.reverse_cons, List.append_assoc, List.singleton_append]

theorem readItem_readsBack {item : Json} {items : List Json} (exact : Exact item)
    (reads : ReadsBack item) (others : ItemsReadBack items) (fuel level : Nat)
    (done : List (Fault × Doc)) (rest : List UInt8) (offset : Nat)
    (enough : 4 * ((utf8 (characters item)).length +
      (utf8 (itemCharacters [','] items)).length + 1) ≤ fuel + 1) :
    ∃ docs stop, readItem fuel level done
        ⟨utf8 (characters item) ++ (utf8 (itemCharacters [','] items) ++ 0x5d :: rest), offset⟩ =
      (done.reverse ++ docs, .ok ⟨rest, stop⟩) ∧ ShowsItems level (item :: items) docs := by
  obtain ⟨byte, more, written, starts⟩ := characters_starts exact
  have positive : 0 < (utf8 (characters item)).length := by
    rw [written]
    exact Nat.succ_pos _
  obtain ⟨fuel, rfl⟩ : ∃ left, fuel = left + 2 := ⟨fuel - 2, by omega⟩
  obtain ⟨doc, place, read, shows⟩ :=
    reads fuel level (utf8 (itemCharacters [','] items) ++ 0x5d :: rest) offset
      (endsNumeral_items items rest) (by omega)
  have more : ¬ (utf8 (characters item) ++
      (utf8 (itemCharacters [','] items) ++ 0x5d :: rest)).head? = some 0x5d := by
    rw [written]
    exact fun same => starts.2 (Option.some.inj same)
  rw [readItem.eq_def]
  simp only [if_neg more, read]
  exact others.cons shows _ done rest place (by omega)

theorem itemsReadBack {items : List Json} (exact : ∀ item ∈ items, Exact item)
    (reads : ∀ item ∈ items, ReadsBack item) : ItemsReadBack items := by
  induction items with
  | nil =>
      intro fuel level last done rest offset enough
      obtain ⟨fuel, rfl⟩ : ∃ left, fuel = left + 1 := ⟨fuel - 1, by omega⟩
      refine ⟨[], offset + 1, ?_, .nil⟩
      rw [readItems.eq_def, List.append_nil]
      rfl
  | cons item items ih =>
      intro fuel level last done rest offset enough
      rw [utf8_itemCharacters_cons] at enough ⊢
      simp only [List.length_cons, List.length_append] at enough
      obtain ⟨fuel, rfl⟩ : ∃ left, fuel = left + 1 := ⟨fuel - 1, by omega⟩
      have first := exact item List.mem_cons_self
      obtain ⟨byte, more, written, starts⟩ := characters_starts first
      obtain ⟨docs, stop, read, shown⟩ := readItem_readsBack first (reads item List.mem_cons_self)
        (ih (fun other member => exact other (List.mem_cons_of_mem _ member))
          fun other member => reads other (List.mem_cons_of_mem _ member))
        fuel level (last :: done) rest (offset + 1) (by omega)
      refine ⟨docs, stop, ?_, shown⟩
      rw [← read, readItems.eq_def, List.cons_append, List.append_assoc, written]
      simp only [List.cons_append]
      rw [← blanks_of_starts starts]
      rfl

theorem readItems_all {items : List Json} (exact : ∀ item ∈ items, Exact item)
    (reads : ∀ item ∈ items, ReadsBack item) (fuel level : Nat) (rest : List UInt8)
    (offset : Nat) (enough : 4 * ((utf8 (itemCharacters [] items)).length + 1) ≤ fuel) :
    ∃ docs stop, readItems fuel level [] ⟨utf8 (itemCharacters [] items) ++ 0x5d :: rest, offset⟩ =
      (docs, .ok ⟨rest, stop⟩) ∧ ShowsItems level items docs := by
  obtain ⟨fuel, rfl⟩ : ∃ left, fuel = left + 1 := ⟨fuel - 1, by omega⟩
  cases items with
  | nil =>
      refine ⟨[], offset + 1, ?_, .nil⟩
      rw [readItems.eq_def]
      rfl
  | cons item items =>
      have first := exact item List.mem_cons_self
      have others := itemsReadBack (fun other member => exact other (List.mem_cons_of_mem _ member))
        fun other member => reads other (List.mem_cons_of_mem _ member)
      rw [itemCharacters, List.nil_append, utf8_append, List.append_assoc] at *
      simp only [List.length_append] at enough
      obtain ⟨docs, stop, read, shown⟩ := readItem_readsBack first (reads item List.mem_cons_self)
        others fuel level [] rest offset (by omega)
      refine ⟨docs, stop, ?_, shown⟩
      obtain ⟨byte, more, written, starts⟩ := characters_starts first
      rw [written, List.cons_append] at read ⊢
      rw [readItems.eq_def, blanks_of_starts starts]
      simp only [if_neg starts.2, List.isEmpty_nil, if_true]
      exact read

theorem readsBack_array {items : List Json} (exact : ∀ item ∈ items, Exact item)
    (reads : ∀ item ∈ items, ReadsBack item) : ReadsBack (.array items) := by
  intro fuel level rest offset ends enough
  have written (behind : List UInt8) : utf8 (characters (.array items)) ++ behind =
      0x5b :: (utf8 (itemCharacters [] items) ++ 0x5d :: behind) := by
    rw [characters, utf8_cons_of_ascii (by decide), utf8_append, List.cons_append,
      List.append_assoc]
    rfl
  have size := congrArg List.length (written [])
  simp only [List.append_nil, List.length_cons, List.length_append, List.length_nil] at size
  obtain ⟨docs, stop, read, shown⟩ :=
    readItems_all exact reads fuel (level + 1) rest (offset + 1) (by omega)
  refine ⟨.array ⟨offset, level + 1⟩ docs (.closed stop), stop, ?_, shows_array shown⟩
  rw [written, readValue_array, read]
  rfl

/-! ## Members -/

def memberText (name : String) (item : Json) : List UInt8 :=
  0x22 :: (utf8 (name.toList.flatMap encodeChar ++ ['"']) ++ 0x3a :: utf8 (characters item))

theorem utf8_memberCharacters_cons (separator : List Char) (name : String) (item : Json)
    (members : List (String × Json)) :
    utf8 (memberCharacters separator ((name, item) :: members)) =
      utf8 separator ++ (memberText name item ++ utf8 (memberCharacters [','] members)) := by
  have quoted (text : List Char) : utf8 ('"' :: text) = 0x22 :: utf8 text :=
    utf8_cons_of_ascii (by decide) text
  have colon (text : List Char) : utf8 (':' :: text) = 0x3a :: utf8 text :=
    utf8_cons_of_ascii (by decide) text
  rw [memberCharacters, toList_encodeString, memberText]
  simp only [utf8_append, quoted, colon, List.append_assoc, List.cons_append]

theorem endsNumeral_members (members : List (String × Json)) (rest : List UInt8) :
    EndsNumeral (utf8 (memberCharacters [','] members) ++ 0x7d :: rest) := by
  cases members with
  | nil =>
      intro byte member
      cases member
      decide
  | cons member members =>
      rw [utf8_memberCharacters_cons, utf8_cons_of_ascii (by decide)]
      intro byte member
      cases member
      decide

def MembersReadBack (members : List (String × Json)) : Prop :=
  ∀ (fuel level : Nat) (last : Key × Doc) (done : List (Key × Doc)) (rest : List UInt8)
    (offset : Nat), 4 * ((utf8 (memberCharacters [','] members)).length + 1) ≤ fuel →
    ∃ docs stop, readMembers fuel level (last :: done)
        ⟨utf8 (memberCharacters [','] members) ++ 0x7d :: rest, offset⟩ =
      ((last :: done).reverse ++ docs, .ok ⟨rest, stop⟩) ∧ ShowsMembers level members docs

theorem MembersReadBack.cons {name : String} {item : Json} {members : List (String × Json)}
    (others : MembersReadBack members) {fuel level : Nat} {doc : Doc}
    (shows : Shows level item doc) (place : Nat) (done : List (Key × Doc)) (rest : List UInt8)
    (offset : Nat) (enough : 4 * ((utf8 (memberCharacters [','] members)).length + 1) ≤ fuel) :
    ∃ docs stop, readMembers fuel level ((⟨.ok name, place⟩, doc) :: done)
        ⟨utf8 (memberCharacters [','] members) ++ 0x7d :: rest, offset⟩ =
      (done.reverse ++ docs, .ok ⟨rest, stop⟩) ∧
        ShowsMembers level ((name, item) :: members) docs := by
  obtain ⟨docs, stop, read, shown⟩ :=
    others fuel level (⟨.ok name, place⟩, doc) done rest offset enough
  refine ⟨(⟨.ok name, place⟩, doc) :: docs, stop, ?_, .cons ⟨rfl, shows⟩ shown⟩
  rw [read, List.reverse_cons, List.append_assoc, List.singleton_append]

theorem readMember_of_read {name : String} {fuel level offset behind : Nat}
    {done : List (Key × Doc)} {rest after : List UInt8} {doc : Doc} {last : Cursor}
    (named : readString ⟨rest, offset + 1⟩ = .ok (.ok name, ⟨0x3a :: after, behind⟩))
    (clear : Cursor.blanks ⟨after, behind + 1⟩ = ⟨after, behind + 1⟩)
    (read : readValue fuel level ⟨after, behind + 1⟩ = (doc, .ok last)) :
    readMember (fuel + 1) level done ⟨0x22 :: rest, offset⟩ =
      readMembers fuel level ((⟨.ok name, behind⟩, doc) :: done) last := by
  have colon : Cursor.blanks ⟨0x3a :: after, behind⟩ = ⟨0x3a :: after, behind⟩ := rfl
  rw [readMember.eq_def]
  simp only [named, colon, clear, read]
  rfl

theorem readMember_readsBack (name : String) {item : Json} {members : List (String × Json)}
    (exact : Exact item) (reads : ReadsBack item) (others : MembersReadBack members)
    (fuel level : Nat) (done : List (Key × Doc)) (rest : List UInt8) (offset : Nat)
    (enough : 4 * ((memberText name item).length +
      (utf8 (memberCharacters [','] members)).length + 1) ≤ fuel + 1) :
    ∃ docs stop, readMember fuel level done
        ⟨memberText name item ++ (utf8 (memberCharacters [','] members) ++ 0x7d :: rest),
          offset⟩ =
      (done.reverse ++ docs, .ok ⟨rest, stop⟩) ∧
        ShowsMembers level ((name, item) :: members) docs := by
  have size : (utf8 (characters item)).length + 2 ≤ (memberText name item).length := by
    simp only [memberText, List.length_cons, List.length_append]
    omega
  obtain ⟨fuel, rfl⟩ : ∃ left, fuel = left + 2 := ⟨fuel - 2, by omega⟩
  obtain ⟨behind, named⟩ := readString_encodeString name
    (0x3a :: (utf8 (characters item) ++ (utf8 (memberCharacters [','] members) ++ 0x7d :: rest)))
    (offset + 1)
  obtain ⟨doc, place, read, shows⟩ :=
    reads fuel level (utf8 (memberCharacters [','] members) ++ 0x7d :: rest) (behind + 1)
      (endsNumeral_members members rest) (by omega)
  have clear : Cursor.blanks
      ⟨utf8 (characters item) ++ (utf8 (memberCharacters [','] members) ++ 0x7d :: rest),
        behind + 1⟩ =
      ⟨utf8 (characters item) ++ (utf8 (memberCharacters [','] members) ++ 0x7d :: rest),
        behind + 1⟩ := by
    obtain ⟨byte, more, written, starts⟩ := characters_starts exact
    rw [written]
    exact blanks_of_starts starts _ _
  have text : memberText name item ++ (utf8 (memberCharacters [','] members) ++ 0x7d :: rest) =
      0x22 :: (utf8 (name.toList.flatMap encodeChar ++ ['"']) ++ 0x3a ::
        (utf8 (characters item) ++ (utf8 (memberCharacters [','] members) ++ 0x7d :: rest))) := by
    simp only [memberText, List.cons_append, List.append_assoc]
  rw [text, readMember_of_read named clear read]
  exact others.cons shows behind done rest place (by omega)

theorem membersReadBack {members : List (String × Json)}
    (exact : ∀ member ∈ members, Exact member.2)
    (reads : ∀ member ∈ members, ReadsBack member.2) : MembersReadBack members := by
  induction members with
  | nil =>
      intro fuel level last done rest offset enough
      obtain ⟨fuel, rfl⟩ : ∃ left, fuel = left + 1 := ⟨fuel - 1, by omega⟩
      refine ⟨[], offset + 1, ?_, .nil⟩
      rw [readMembers.eq_def, List.append_nil]
      rfl
  | cons member members ih =>
      obtain ⟨name, item⟩ := member
      intro fuel level last done rest offset enough
      have comma : utf8 (memberCharacters [','] ((name, item) :: members)) =
          0x2c :: (memberText name item ++ utf8 (memberCharacters [','] members)) :=
        utf8_memberCharacters_cons [','] name item members
      rw [comma] at enough ⊢
      simp only [List.length_cons, List.length_append] at enough
      obtain ⟨fuel, rfl⟩ : ∃ left, fuel = left + 1 := ⟨fuel - 1, by omega⟩
      have first : Exact item := exact _ List.mem_cons_self
      have readsFirst : ReadsBack item := reads _ List.mem_cons_self
      have others := ih (fun other member => exact other (List.mem_cons_of_mem _ member))
        fun other member => reads other (List.mem_cons_of_mem _ member)
      obtain ⟨docs, stop, read, shown⟩ := readMember_readsBack name first readsFirst others fuel
        level (last :: done) rest (offset + 1) (by omega)
      refine ⟨docs, stop, ?_, shown⟩
      rw [← read, readMembers.eq_def, List.cons_append, List.append_assoc]
      rfl

theorem readMembers_all {members : List (String × Json)}
    (exact : ∀ member ∈ members, Exact member.2)
    (reads : ∀ member ∈ members, ReadsBack member.2) (fuel level : Nat) (rest : List UInt8)
    (offset : Nat) (enough : 4 * ((utf8 (memberCharacters [] members)).length + 1) ≤ fuel) :
    ∃ docs stop, readMembers fuel level []
        ⟨utf8 (memberCharacters [] members) ++ 0x7d :: rest, offset⟩ =
      (docs, .ok ⟨rest, stop⟩) ∧ ShowsMembers level members docs := by
  obtain ⟨fuel, rfl⟩ : ∃ left, fuel = left + 1 := ⟨fuel - 1, by omega⟩
  cases members with
  | nil =>
      refine ⟨[], offset + 1, ?_, .nil⟩
      rw [readMembers.eq_def]
      rfl
  | cons member members =>
      obtain ⟨name, item⟩ := member
      have first : Exact item := exact _ List.mem_cons_self
      have readsFirst : ReadsBack item := reads _ List.mem_cons_self
      have others := membersReadBack
        (fun other member => exact other (List.mem_cons_of_mem _ member))
        fun other member => reads other (List.mem_cons_of_mem _ member)
      rw [utf8_memberCharacters_cons, utf8_nil, List.nil_append] at enough ⊢
      simp only [List.length_append] at enough
      obtain ⟨docs, stop, read, shown⟩ := readMember_readsBack name first readsFirst others fuel
        level [] rest offset (by omega)
      refine ⟨docs, stop, ?_, shown⟩
      rw [List.append_assoc, readMembers.eq_def]
      exact read

theorem readsBack_object {members : List (String × Json)}
    (exact : ∀ member ∈ members, Exact member.2)
    (reads : ∀ member ∈ members, ReadsBack member.2) : ReadsBack (.object members) := by
  intro fuel level rest offset ends enough
  have written (behind : List UInt8) : utf8 (characters (.object members)) ++ behind =
      0x7b :: (utf8 (memberCharacters [] members) ++ 0x7d :: behind) := by
    rw [characters, utf8_cons_of_ascii (by decide), utf8_append, List.cons_append,
      List.append_assoc]
    rfl
  have size := congrArg List.length (written [])
  simp only [List.append_nil, List.length_cons, List.length_append, List.length_nil] at size
  obtain ⟨docs, stop, read, shown⟩ :=
    readMembers_all exact reads fuel (level + 1) rest (offset + 1) (by omega)
  refine ⟨.object ⟨offset, level + 1⟩ docs (.closed stop), stop, ?_, shows_object shown⟩
  rw [written, readValue_object, read]
  rfl

/-! ## Documents -/

theorem readsBack {value : Json} (exact : Exact value) : ReadsBack value := by
  induction exact with
  | null => exact readsBack_null
  | bool => exact readsBack_bool _
  | whole => exact readsBack_whole _ _
  | string => exact readsBack_string _
  | array exact ih => exact readsBack_array exact ih
  | object exact ih => exact readsBack_object exact ih

/-- The text of a value is a document that shows the value, with nothing behind it. -/
theorem ofBytes_render {value : Json} (exact : Exact value) :
    ∃ root, Document.ofBytes (render value).toUTF8.toList = ⟨root, none⟩ ∧
      Shows 0 value root := by
  have text : (render value).toUTF8.toList = utf8 (characters value) := by
    rw [toList_toUTF8, toList_render]
  have ends : EndsNumeral [] := by
    intro byte member
    cases member
  obtain ⟨root, stop, read, shows⟩ := readsBack exact
    (4 * (utf8 (characters value)).length + 3) 0 [] 0 ends (by omega)
  refine ⟨root, ?_, shows⟩
  obtain ⟨byte, more, written, starts⟩ := characters_starts exact
  rw [List.append_nil, written] at read
  rw [text, Document.ofBytes, fuelFor, written, blanks_of_starts starts, read]
  rfl

end NetworkPlugin.Json
