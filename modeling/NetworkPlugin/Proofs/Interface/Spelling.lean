import NetworkPlugin.Proofs.Address.Spelling
import NetworkPlugin.Proofs.HardwareAddress
import NetworkPlugin.Proofs.Interface

/-!
# Spelled interfaces

A field of the text of an interface is malformed if it is not empty and still spells no
address.  Reading fails for the first malformed field, and otherwise sets just the fields that
are not empty.
-/

namespace NetworkPlugin

namespace Interface

def Malformed {Value : Type} (Spells : Value → String → Prop) (text : String) : Prop :=
  text ≠ "" ∧ ∀ value, ¬ Spells value text

/-- A field is set to what its text spells if there is one, and is written again in this case
only. -/
structure Settles {Value : Type} (Spells : Value → String → Prop) (render : Value → String)
    (text : String) (value : Option Value) : Prop where
  spelled : ∀ found, value = some found → Spells found text
  set : value.isSome = true ↔ text ≠ ""
  written : writeSet render value ≠ "" ↔ text ≠ ""

/-! ## One field -/

section

variable {Value : Type} {Spells : Value → String → Prop} {parse? : String → Option Value}
  {render : Value → String} {fault : String → InterfaceFault} {text : String}

theorem readSet_eq_error_iff
    (law : ∀ text value, parse? text = some value ↔ Spells value text) {told : InterfaceFault} :
    readSet parse? fault text = .error told ↔
      Malformed Spells text ∧ told = fault text := by
  unfold readSet Malformed
  by_cases empty : text = ""
  · simp [empty]
  · have filled : text.isEmpty = false := by simpa using empty
    rw [filled]
    simp only [Bool.false_eq_true, if_false]
    cases read : parse? text with
    | some value =>
        have spelled := (law text value).mp read
        simp only [reduceCtorEq, false_iff, not_and]
        intro malformed
        exact absurd spelled (malformed.2 value)
    | none =>
        have unspelled (value : Value) : ¬ Spells value text := by
          intro spelled
          rw [(law text value).mpr spelled] at read
          cases read
        simp [empty, unspelled, eq_comm]

theorem exists_readSet_iff (law : ∀ text value, parse? text = some value ↔ Spells value text) :
    (∃ value, readSet parse? fault text = .ok value) ↔ ¬ Malformed Spells text := by
  cases read : readSet parse? fault text with
  | ok value =>
      simp only [Except.ok.injEq, exists_eq', true_iff]
      intro malformed
      rw [(readSet_eq_error_iff law).mpr ⟨malformed, rfl⟩] at read
      cases read
  | error told => simp [((readSet_eq_error_iff law).mp read).1]

theorem settles_of_readSet (law : ∀ text value, parse? text = some value ↔ Spells value text)
    (nonempty : ∀ value, (render value).isEmpty = false) {value : Option Value}
    (read : readSet parse? fault text = .ok value) :
    Settles Spells render text value := by
  unfold readSet at read
  split at read
  · next empty =>
      cases read
      rw [String.isEmpty_iff] at empty
      refine ⟨?_, by simp [empty], by simp [writeSet, empty]⟩
      rintro found ⟨⟩
  · next filled =>
      rw [String.isEmpty_iff] at filled
      split at read
      · next value parsed =>
          cases read
          have written : render value ≠ "" := by simpa using nonempty value
          refine ⟨?_, by simp [filled], by simp [writeSet, written, filled]⟩
          rintro found ⟨⟩
          exact (law text value).mp parsed
      · cases read

end

/-! ## Whole interfaces -/

inductive Blames (text : InterfaceText) : InterfaceFault → Prop
  | hardware (malformed : Malformed HardwareAddress.Spells text.hardware) :
      Blames text (.hardware text.hardware)
  | ipv4 (fine : ¬ Malformed HardwareAddress.Spells text.hardware)
      (malformed : Malformed (Subnet.Spells : Subnet .v4 → String → Prop) text.ipv4) :
      Blames text (.address .v4 text.ipv4)
  | ipv6 (fine : ¬ Malformed HardwareAddress.Spells text.hardware)
      (fineV4 : ¬ Malformed (Subnet.Spells : Subnet .v4 → String → Prop) text.ipv4)
      (malformed : Malformed (Subnet.Spells : Subnet .v6 → String → Prop) text.ipv6) :
      Blames text (.address .v6 text.ipv6)

structure Fills (text : InterfaceText) (interface : Interface) : Prop where
  hardware : Settles HardwareAddress.Spells HardwareAddress.render text.hardware
    interface.hardware
  ipv4 : Settles Subnet.Spells Subnet.render text.ipv4 interface.ipv4
  ipv6 : Settles Subnet.Spells Subnet.render text.ipv6 interface.ipv6

variable {text : InterfaceText} {interface : Interface}

theorem ofText_eq_error_iff {fault : InterfaceFault} :
    ofText text = .error fault ↔ Blames text fault := by
  have hardwareLaw (text : String) (value : HardwareAddress) :
      HardwareAddress.parse? text = some value ↔ value.Spells text :=
    HardwareAddress.parse?_eq_some_iff
  have subnetLaw {family : Family} (text : String) (value : Subnet family) :
      Subnet.parse? family text = some value ↔ value.Spells text :=
    Subnet.parse?_eq_some_iff
  simp only [ofText, Except.bind_eq_error]
  constructor
  · rintro (first | ⟨hardware, first, second | ⟨ipv4, second, third | ⟨ipv6, -, made⟩⟩⟩)
    · obtain ⟨malformed, rfl⟩ := (readSet_eq_error_iff hardwareLaw).mp first
      exact .hardware malformed
    · obtain ⟨malformed, rfl⟩ := (readSet_eq_error_iff subnetLaw).mp second
      exact .ipv4 ((exists_readSet_iff hardwareLaw).mp ⟨_, first⟩) malformed
    · obtain ⟨malformed, rfl⟩ := (readSet_eq_error_iff subnetLaw).mp third
      exact .ipv6 ((exists_readSet_iff hardwareLaw).mp ⟨_, first⟩)
        ((exists_readSet_iff subnetLaw).mp ⟨_, second⟩) malformed
    · cases made
  · intro blamed
    cases blamed with
    | hardware malformed =>
        exact .inl ((readSet_eq_error_iff hardwareLaw).mpr ⟨malformed, rfl⟩)
    | ipv4 fine malformed =>
        obtain ⟨hardware, first⟩ := (exists_readSet_iff hardwareLaw).mpr fine
        exact .inr ⟨hardware, first,
          .inl ((readSet_eq_error_iff subnetLaw).mpr ⟨malformed, rfl⟩)⟩
    | ipv6 fine fineV4 malformed =>
        obtain ⟨hardware, first⟩ := (exists_readSet_iff hardwareLaw).mpr fine
        obtain ⟨ipv4, second⟩ := (exists_readSet_iff subnetLaw).mpr fineV4
        exact .inr ⟨hardware, first, .inr ⟨ipv4, second,
          .inl ((readSet_eq_error_iff subnetLaw).mpr ⟨malformed, rfl⟩)⟩⟩

theorem fills_of_ofText (read : ofText text = .ok interface) : Fills text interface := by
  obtain ⟨hardware, ipv4, ipv6⟩ := ofText_eq_ok.mp read
  refine ⟨?_, ?_, ?_⟩
  · exact settles_of_readSet (fun _ _ => HardwareAddress.parse?_eq_some_iff)
      HardwareAddress.isEmpty_render hardware
  · exact settles_of_readSet (fun _ _ => Subnet.parse?_eq_some_iff) Subnet.isEmpty_render ipv4
  · exact settles_of_readSet (fun _ _ => Subnet.parse?_eq_some_iff) Subnet.isEmpty_render ipv6

theorem exists_blames_iff :
    (∃ fault, Blames text fault) ↔
      Malformed HardwareAddress.Spells text.hardware ∨
        Malformed (Subnet.Spells : Subnet .v4 → String → Prop) text.ipv4 ∨
        Malformed (Subnet.Spells : Subnet .v6 → String → Prop) text.ipv6 := by
  constructor
  · rintro ⟨fault, blamed⟩
    cases blamed with
    | hardware malformed => exact .inl malformed
    | ipv4 fine malformed => exact .inr (.inl malformed)
    | ipv6 fine fineV4 malformed => exact .inr (.inr malformed)
  · -- A later field is blamed only if the earlier ones are not.
    intro malformed
    by_cases hardware : Malformed HardwareAddress.Spells text.hardware
    · exact ⟨_, .hardware hardware⟩
    · by_cases ipv4 : Malformed (Subnet.Spells : Subnet .v4 → String → Prop) text.ipv4
      · exact ⟨_, .ipv4 hardware ipv4⟩
      · have ipv6 := (malformed.resolve_left hardware).resolve_left ipv4
        exact ⟨_, .ipv6 hardware ipv4 ipv6⟩

/-- What is written of an interface is read as this interface.  A text is not read if a field
is malformed, for the first such field; else just the fields are set that are not empty, and
what is written of them is written again after it is read. -/
theorem texts_round_trip :
    (∀ interface : Interface, ofText? (some interface.toText) = .ok interface) ∧
      ∀ text : InterfaceText,
        (∀ fault, ofText? (some text) = .error fault ↔ Blames text fault) ∧
          ((∃ fault, ofText? (some text) = .error fault) ↔
            Malformed HardwareAddress.Spells text.hardware ∨
              Malformed (Subnet.Spells : Subnet .v4 → String → Prop) text.ipv4 ∨
              Malformed (Subnet.Spells : Subnet .v6 → String → Prop) text.ipv6) ∧
          ∀ interface, ofText? (some text) = .ok interface →
            Fills text interface ∧
              (ofText? (some interface.toText)).map toText = .ok interface.toText := by
  refine ⟨ofText_toText, fun text => ⟨fun fault => ofText_eq_error_iff, ?_, ?_⟩⟩
  · rw [← exists_blames_iff]
    exact exists_congr fun fault => ofText_eq_error_iff
  · intro interface read
    refine ⟨fills_of_ofText read, ?_⟩
    rw [ofText?, ofText_toText]
    rfl

end Interface

end NetworkPlugin
