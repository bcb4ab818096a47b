import NetworkPlugin.Interface
import NetworkPlugin.Proofs.Address.Digits
import NetworkPlugin.Proofs.Text.Spelling

/-!
# Spelled hardware addresses

The texts of a hardware address, said without reading them: six times two hexadecimal digits,
with colons or with hyphens between them.  Exactly these are read, and all texts of one address
are the same once letters are small and separators are colons.
-/

namespace NetworkPlugin

open Text

namespace HardwareAddress

structure SpellsOctet (text : List Char) (octet : UInt8) : Prop where
  numeral : Text.Spells 16 text octet.toNat
  two : text.length = 2

/-- Two digits for each octet, with the same separator between all of them. -/
inductive Spells (address : HardwareAddress) : String → Prop
  | spells {separator fields} (either : separator = ':' ∨ separator = '-')
      (each : List.Forall₂ SpellsOctet fields address.octets) :
      Spells address (String.ofList (join separator fields))

variable {address : HardwareAddress} {text : String}

theorem decodeOctet?_eq_some_iff {field : List Char} {octet : UInt8} :
    decodeOctet? field = some octet ↔ SpellsOctet field octet := by
  unfold decodeOctet?
  constructor
  · intro read
    split at read
    · next two =>
        obtain ⟨number, decoded, made⟩ := Option.map_eq_some_iff.mp read
        have numeral := (decodeNumeral?_eq_some_iff (by decide)).mp decoded
        have small := numeral.lt_pow
        rw [two] at small
        have value : octet.toNat = number := by
          rw [← made]
          exact Nat.mod_eq_of_lt small
        exact ⟨value ▸ numeral, two⟩
    · cases read
  · rintro ⟨numeral, two⟩
    rw [if_pos two, (decodeNumeral?_eq_some_iff (by decide)).mpr numeral, Option.map_some]
    exact congrArg some UInt8.ofNat_toNat

theorem octets_of_ofOctets? {octets : List UInt8} (made : ofOctets? octets = some address) :
    address.octets = octets := by
  unfold ofOctets? at made
  split at made
  · cases made
    rfl
  · cases made

theorem separator_eq_or (text : List Char) : separator text = ':' ∨ separator text = '-' := by
  unfold separator
  split
  · exact .inr rfl
  · exact .inl rfl

theorem SpellsOctet.not_mem {field : List Char} {octet : UInt8} (spelled : SpellsOctet field octet)
    {c : Char} (noDigit : digitValue? c = none) : c ∉ field :=
  spelled.numeral.not_mem (by decide) noDigit

theorem separator_join {c : Char} (either : c = ':' ∨ c = '-') {fields : List (List Char)}
    (each : List.Forall₂ SpellsOctet fields address.octets) : separator (join c fields) = c := by
  unfold separator
  rcases either with rfl | rfl
  · apply if_neg
    apply not_mem_join (by decide)
    intro field member
    obtain ⟨octet, -, spelled⟩ := exists_of_forall₂_of_mem each member
    exact spelled.not_mem (by decide)
  · apply if_pos
    cases each with
    | cons first others =>
        cases others with
        | cons second rest => simp [join_cons_cons]

theorem spells_of_read (read : parse? text = some address) : address.Spells text := by
  obtain ⟨octets, fields, made⟩ := Option.bind_eq_some_iff.mp read
  rw [mapM_eq_some, ← octets_of_ofOctets? made] at fields
  have whole : text = String.ofList
      (join (separator text.toList) (split (separator text.toList) text.toList)) := by
    rw [join_split, String.ofList_toList]
  rw [whole]
  exact .spells (separator_eq_or _) (fields.imp fun _ _ => decodeOctet?_eq_some_iff.mp)

theorem Spells.parse?_eq (spelled : address.Spells text) : parse? text = some address := by
  obtain @⟨c, fields, either, each⟩ := spelled
  have absent : ∀ field ∈ fields, c ∉ field := by
    intro field member
    obtain ⟨octet, -, spelled⟩ := exists_of_forall₂_of_mem each member
    apply spelled.not_mem
    rcases either with rfl | rfl <;> decide
  have nonempty : fields ≠ [] := by
    rintro rfl
    cases each
  have octets : fields.mapM decodeOctet? = some address.octets :=
    mapM_eq_some.mpr (each.imp fun _ _ => decodeOctet?_eq_some_iff.mpr)
  unfold parse?
  rw [String.toList_ofList, separator_join either each, split_join nonempty absent, octets]
  rfl

theorem parse?_eq_some_iff : parse? text = some address ↔ address.Spells text :=
  ⟨spells_of_read, Spells.parse?_eq⟩

/-! ## Six groups -/

def hexDigits : List Char := "0123456789abcdefABCDEF".toList

/-- Six groups of two digits each, with the same separator between all of them. -/
inductive SixGroups : String → Prop
  | groups {separator groups} (either : separator = ':' ∨ separator = '-')
      (six : groups.length = 6)
      (digits : ∀ group ∈ groups, group.length = 2 ∧ ∀ c ∈ group, c ∈ hexDigits) :
      SixGroups (String.ofList (join separator groups))

theorem mem_hexDigits_iff {c : Char} : c ∈ hexDigits ↔ ∃ digit, IsDigit 16 c digit := by
  constructor
  · intro member
    have all : hexDigits.all (fun c => (digitValue? c).isSome) = true := by decide
    obtain ⟨digit, read⟩ := Option.isSome_iff_exists.mp (List.all_eq_true.mp all c member)
    exact ⟨digit, digitValue?_eq_some_iff.mp read⟩
  · rintro ⟨digit, small, written⟩
    have all : ∀ digit : Fin 16, Nat.digitChar digit ∈ hexDigits ∧
        (Nat.digitChar digit).toUpper ∈ hexDigits := by decide
    rcases written with rfl | rfl
    · exact (all ⟨digit, small⟩).1
    · exact (all ⟨digit, small⟩).2

theorem spellsOctet_iff {field : List Char} {octet : UInt8} :
    SpellsOctet field octet ↔
      ∃ first second high low, field = [first, second] ∧ IsDigit 16 first high ∧
        IsDigit 16 second low ∧ octet.toNat = high * 16 + low := by
  constructor
  · rintro ⟨numeral, two⟩
    generalize octet.toNat = number at numeral
    cases numeral with
    | digit last => cases two
    | push front last =>
        cases front with
        | digit first => exact ⟨_, _, _, _, rfl, first, last, rfl⟩
        | push earlier first =>
            have nonempty := List.length_pos_of_ne_nil earlier.ne_nil
            simp only [List.length_append, List.length_singleton] at two
            omega
  · rintro ⟨first, second, high, low, rfl, isFirst, isSecond, value⟩
    refine ⟨?_, rfl⟩
    rw [value]
    exact .push (.digit isFirst) isSecond

theorem exists_spellsOctet_iff {field : List Char} :
    (∃ octet, SpellsOctet field octet) ↔ field.length = 2 ∧ ∀ c ∈ field, c ∈ hexDigits := by
  constructor
  · rintro ⟨octet, spelled⟩
    exact ⟨spelled.two, fun c member =>
      mem_hexDigits_iff.mpr (spelled.numeral.exists_digit_of_mem member)⟩
  · rintro ⟨two, digits⟩
    obtain ⟨first, second, rfl⟩ := List.length_eq_two.mp two
    obtain ⟨high, isFirst⟩ := mem_hexDigits_iff.mp (digits first (by simp))
    obtain ⟨low, isSecond⟩ := mem_hexDigits_iff.mp (digits second (by simp))
    have small : high * 16 + low < 256 := by
      have := isFirst.1
      have := isSecond.1
      omega
    refine ⟨UInt8.ofNat (high * 16 + low), spellsOctet_iff.mpr ?_⟩
    exact ⟨first, second, high, low, rfl, isFirst, isSecond, UInt8.toNat_ofNat_of_lt' small⟩

theorem exists_spellsOctets {groups : List (List Char)}
    (digits : ∀ group ∈ groups, group.length = 2 ∧ ∀ c ∈ group, c ∈ hexDigits) :
    ∃ octets, List.Forall₂ SpellsOctet groups octets := by
  induction groups with
  | nil => exact ⟨[], .nil⟩
  | cons group groups ih =>
      obtain ⟨octet, first⟩ := exists_spellsOctet_iff.mpr (digits group List.mem_cons_self)
      obtain ⟨octets, others⟩ := ih fun other member => digits other (List.mem_cons_of_mem _ member)
      exact ⟨octet :: octets, .cons first others⟩

theorem exists_octets_eq {octets : List UInt8} (six : octets.length = 6) :
    ∃ address : HardwareAddress, address.octets = octets := by
  match octets, six with
  | [first, second, third, fourth, fifth, sixth], _ =>
      exact ⟨⟨first, second, third, fourth, fifth, sixth⟩, rfl⟩

theorem exists_spells_iff : (∃ address : HardwareAddress, address.Spells text) ↔ SixGroups text := by
  constructor
  · rintro ⟨address, @⟨separator, fields, either, each⟩⟩
    refine .groups either each.length_eq fun field member => ?_
    obtain ⟨octet, -, spelled⟩ := exists_of_forall₂_of_mem each member
    exact exists_spellsOctet_iff.mp ⟨octet, spelled⟩
  · rintro @⟨separator, groups, either, six, digits⟩
    obtain ⟨octets, each⟩ := exists_spellsOctets digits
    obtain ⟨address, rfl⟩ := exists_octets_eq (each.length_eq.symm.trans six)
    exact ⟨address, .spells either each⟩

/-! ## Other texts -/

theorem SixGroups.length_eq (grouped : SixGroups text) : text.length = 17 := by
  obtain @⟨separator, groups, -, six, digits⟩ := grouped
  match groups, six with
  | [first, second, third, fourth, fifth, sixth], _ =>
      simp only [List.forall_mem_cons] at digits
      obtain ⟨⟨two, -⟩, ⟨twoB, -⟩, ⟨twoC, -⟩, ⟨twoD, -⟩, ⟨twoE, -⟩, ⟨twoF, -⟩, -⟩ := digits
      simp only [String.length_ofList, join_cons_cons, join_singleton, List.length_append,
        List.length_cons, two, twoB, twoC, twoD, twoE, twoF]

theorem SixGroups.mem (grouped : SixGroups text) :
    ∃ separator, (separator = ':' ∨ separator = '-') ∧
      ∀ c ∈ text.toList, c = separator ∨ c ∈ hexDigits := by
  obtain @⟨separator, groups, either, -, digits⟩ := grouped
  refine ⟨separator, either, fun c member => ?_⟩
  rw [String.toList_ofList] at member
  by_contra other
  rw [not_or] at other
  refine not_mem_join other.1 (fun group listed here => ?_) member
  exact other.2 ((digits group listed).2 c here)

theorem SixGroups.not_mixed (grouped : SixGroups text) :
    ¬ (':' ∈ text.toList ∧ '-' ∈ text.toList) := by
  obtain ⟨separator, either, only⟩ := grouped.mem
  have noDigits : ':' ∉ hexDigits ∧ '-' ∉ hexDigits := by decide
  rintro ⟨colon, hyphen⟩
  have isColon := (only ':' colon).resolve_right noDigits.1
  have isHyphen := (only '-' hyphen).resolve_right noDigits.2
  cases isColon.trans isHyphen.symm

theorem SixGroups.toNat_lt (grouped : SixGroups text) {c : Char} (member : c ∈ text.toList) :
    c.toNat < 128 := by
  obtain ⟨separator, either, only⟩ := grouped.mem
  have all : (':' :: '-' :: hexDigits).all (fun c => c.toNat < 128) = true := by decide
  apply of_decide_eq_true
  apply List.all_eq_true.mp all
  rcases only c member with same | digit
  · rcases either with isColon | isHyphen
    · exact List.mem_cons.mpr (.inl (same.trans isColon))
    · exact List.mem_cons_of_mem _ (List.mem_cons.mpr (.inl (same.trans isHyphen)))
  · exact List.mem_cons_of_mem _ (List.mem_cons_of_mem _ digit)

/-! ## The printed form -/

def canonicalChar (c : Char) : Char := if c = '-' then ':' else c.toLower

/-- A text with small letters, and with colons for hyphens. -/
def canonical (text : String) : String := String.ofList (text.toList.map canonicalChar)

theorem map_join (f : Char → Char) (separator : Char) (fields : List (List Char)) :
    (join separator fields).map f = join (f separator) (fields.map (List.map f)) := by
  induction fields with
  | nil => rfl
  | cons field fields ih =>
      cases fields with
      | nil => simp [join_singleton]
      | cons second others =>
          rw [List.map_cons] at ih
          rw [join_cons_cons, List.map_append, List.map_cons, ih, List.map_cons, List.map_cons,
            join_cons_cons]

theorem canonicalChar_of_isDigit {c : Char} {digit : Nat} (written : IsDigit 16 c digit) :
    canonicalChar c = digit.digitChar := by
  have all : ∀ digit : Fin 16, canonicalChar (Nat.digitChar digit) = Nat.digitChar digit ∧
      canonicalChar (Nat.digitChar digit).toUpper = Nat.digitChar digit := by decide
  obtain ⟨small, rfl | rfl⟩ := written
  · exact (all ⟨digit, small⟩).1
  · exact (all ⟨digit, small⟩).2

theorem SpellsOctet.map_canonicalChar {field : List Char} {octet : UInt8}
    (spelled : SpellsOctet field octet) : field.map canonicalChar = encodeOctet octet := by
  obtain ⟨first, second, high, low, rfl, isFirst, isSecond, value⟩ := spellsOctet_iff.mp spelled
  have small := isSecond.1
  have quotient : octet.toNat / 16 = high := by omega
  have remainder : octet.toNat % 16 = low := by omega
  rw [encodeOctet, quotient, remainder, List.map_cons, List.map_cons, List.map_nil,
    canonicalChar_of_isDigit isFirst, canonicalChar_of_isDigit isSecond]

theorem Spells.render_eq (spelled : address.Spells text) : address.render = canonical text := by
  obtain @⟨separator, fields, either, each⟩ := spelled
  have colon : canonicalChar separator = ':' := by
    rcases either with rfl | rfl <;> rfl
  have octets : fields.map (List.map canonicalChar) = address.octets.map encodeOctet := by
    generalize address.octets = octets at each
    induction each with
    | nil => rfl
    | cons first others ih =>
        rw [List.map_cons, List.map_cons, first.map_canonicalChar, ih]
  rw [canonical, String.toList_ofList, map_join, colon, octets]
  rfl

theorem render_injective : Function.Injective render := by
  intro one other same
  have read := parse?_render one
  rw [same, parse?_render other] at read
  exact (Option.some.inj read).symm

theorem exists_spells_both_iff {other : String} :
    (∃ address : HardwareAddress, address.Spells text ∧ address.Spells other) ↔
      SixGroups text ∧ SixGroups other ∧ canonical text = canonical other := by
  constructor
  · rintro ⟨address, spelled, spelledToo⟩
    exact ⟨exists_spells_iff.mp ⟨address, spelled⟩, exists_spells_iff.mp ⟨address, spelledToo⟩,
      spelled.render_eq.symm.trans spelledToo.render_eq⟩
  · rintro ⟨grouped, groupedToo, same⟩
    obtain ⟨address, spelled⟩ := exists_spells_iff.mpr grouped
    obtain ⟨another, spelledToo⟩ := exists_spells_iff.mpr groupedToo
    have rendered : address.render = another.render := by
      rw [spelled.render_eq, same, spelledToo.render_eq]
    exact ⟨address, spelled, render_injective rendered ▸ spelledToo⟩

/-! ## Reading -/

theorem readHardware_eq_ok_iff :
    Interface.readHardware text = .ok address ↔ address.Spells text := by
  rw [← parse?_eq_some_iff, Interface.readHardware]
  cases parse? text <;> simp

theorem readHardware_eq_error_iff :
    Interface.readHardware text = .error (.hardware text) ↔ ¬ SixGroups text := by
  rw [← exists_spells_iff]
  simp only [← parse?_eq_some_iff, Interface.readHardware]
  cases parse? text <;> simp

/-- Six groups of two digits are read, as the octets that they spell, and are printed in small
letters with colons.  Every other text is told as it is; among these are the texts with both
separators, those of another length and those with characters that are not ASCII.  Printed
addresses are read back, and texts of the same address differ in letter case and separator
only. -/
theorem six_groups_are_read :
    (∀ text address, Interface.readHardware text = .ok address ↔ address.Spells text) ∧
    (∀ text, (∃ address, Interface.readHardware text = .ok address) ↔ SixGroups text) ∧
    (∀ text address, Interface.readHardware text = .ok address →
      address.render = canonical text) ∧
    (∀ text, Interface.readHardware text = .error (.hardware text) ↔ ¬ SixGroups text) ∧
    (∀ text : String, (':' ∈ text.toList ∧ '-' ∈ text.toList) ∨ text.length ≠ 17 ∨
        (∃ c ∈ text.toList, 128 ≤ c.toNat) →
      Interface.readHardware text = .error (.hardware text)) ∧
    (∀ address : HardwareAddress, Interface.readHardware address.render = .ok address) ∧
    ∀ text other, (∃ address, Interface.readHardware text = .ok address ∧
        Interface.readHardware other = .ok address) ↔
      SixGroups text ∧ SixGroups other ∧ canonical text = canonical other := by
  refine ⟨fun _ _ => readHardware_eq_ok_iff, ?accepts, ?prints,
    fun _ => readHardware_eq_error_iff, ?others, ?returns, ?same⟩
  case accepts =>
    intro text
    simp only [readHardware_eq_ok_iff, exists_spells_iff]
  case prints => exact fun text address read => (readHardware_eq_ok_iff.mp read).render_eq
  case others =>
    intro text odd
    apply readHardware_eq_error_iff.mpr
    intro grouped
    rcases odd with mixed | long | ⟨c, member, foreign⟩
    · exact grouped.not_mixed mixed
    · exact long grouped.length_eq
    · exact absurd (grouped.toNat_lt member) (Nat.not_lt.mpr foreign)
  case returns =>
    intro address
    exact readHardware_eq_ok_iff.mpr (parse?_eq_some_iff.mp address.parse?_render)
  case same =>
    intro text other
    simp only [readHardware_eq_ok_iff, exists_spells_both_iff]

example : Interface.readHardware "02-42-AC-11-00-02" =
    Interface.readHardware "02:42:ac:11:00:02" := by
  decide

end HardwareAddress

end NetworkPlugin
