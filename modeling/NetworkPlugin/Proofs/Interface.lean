import NetworkPlugin.Interface
import NetworkPlugin.Proofs.Address.RoundTrip
import NetworkPlugin.Proofs.Except

/-!
# Reading interfaces

An address that is set is never written as the empty text, so that what is written of an
interface is read as the same interface.  Fields left empty in a text can be filled from
what is written of another interface, and are then read as set by that one.
-/

namespace NetworkPlugin

/-! ## Texts of set addresses -/

theorem HardwareAddress.isEmpty_render (address : HardwareAddress) :
    address.render.isEmpty = false := by
  unfold render
  simp [octets, Text.join, encodeOctet, List.intercalate_cons_cons, String.isEmpty]

theorem Subnet.isEmpty_render {family : Family} (subnet : Subnet family) :
    subnet.render.isEmpty = false := by
  unfold render
  simp [String.isEmpty]

/-! ## One field -/

def fillText (text other : String) : String := if text.isEmpty then other else text

namespace Interface

variable {Value : Type} {parse? : String → Option Value} {render : Value → String}
  {fault : String → InterfaceFault}

theorem readSet_writeSet (law : ∀ value, parse? (render value) = some value)
    (nonempty : ∀ value, (render value).isEmpty = false) (value : Option Value) :
    readSet parse? fault (writeSet render value) = .ok value := by
  cases value with
  | none => rfl
  | some value => simp [readSet, writeSet, nonempty, law]

theorem readSet_fillText (law : ∀ value, parse? (render value) = some value)
    (nonempty : ∀ value, (render value).isEmpty = false) {text : String} {value : Option Value}
    (read : readSet parse? fault text = .ok value) (other : Option Value) :
    readSet parse? fault (fillText text (writeSet render other)) =
      .ok (value <|> other) := by
  unfold fillText
  split
  · next empty =>
      rw [readSet, if_pos empty] at read
      cases read
      exact readSet_writeSet law nonempty other
  · next filled =>
      rw [read]
      rw [readSet, if_neg filled] at read
      split at read
      · cases read
        rfl
      · cases read

/-! ## Whole interfaces -/

/-- What is set in either interface, the first one going before the second. -/
def fill (interface other : Interface) : Interface where
  hardware := interface.hardware <|> other.hardware
  ipv4 := interface.ipv4 <|> other.ipv4
  ipv6 := interface.ipv6 <|> other.ipv6

end Interface

def InterfaceText.fill (text other : InterfaceText) : InterfaceText where
  ipv4 := fillText text.ipv4 other.ipv4
  ipv6 := fillText text.ipv6 other.ipv6
  hardware := fillText text.hardware other.hardware

namespace Interface

theorem ofText_eq_ok {text : InterfaceText} {interface : Interface} :
    ofText text = .ok interface ↔
      readSet HardwareAddress.parse? .hardware text.hardware = .ok interface.hardware ∧
      readSet (Subnet.parse? .v4) (.address .v4) text.ipv4 = .ok interface.ipv4 ∧
      readSet (Subnet.parse? .v6) (.address .v6) text.ipv6 = .ok interface.ipv6 := by
  simp only [ofText, Except.bind_eq_ok]
  constructor
  · rintro ⟨hardware, first, ipv4, second, ipv6, third, made⟩
    cases made
    exact ⟨first, second, third⟩
  · rintro ⟨first, second, third⟩
    exact ⟨_, first, _, second, _, third, rfl⟩

theorem ofText_fill {text : InterfaceText} {interface : Interface}
    (read : ofText text = .ok interface) (other : Interface) :
    ofText (text.fill other.toText) = .ok (interface.fill other) := by
  obtain ⟨first, second, third⟩ := ofText_eq_ok.mp read
  apply ofText_eq_ok.mpr
  refine ⟨?_, ?_, ?_⟩
  · exact readSet_fillText HardwareAddress.parse?_render HardwareAddress.isEmpty_render first _
  · exact readSet_fillText Subnet.parse?_render Subnet.isEmpty_render second _
  · exact readSet_fillText Subnet.parse?_render Subnet.isEmpty_render third _

theorem ofText_toText (interface : Interface) : ofText interface.toText = .ok interface := by
  apply ofText_eq_ok.mpr
  refine ⟨?_, ?_, ?_⟩
  · exact readSet_writeSet HardwareAddress.parse?_render HardwareAddress.isEmpty_render _
  · exact readSet_writeSet Subnet.parse?_render Subnet.isEmpty_render _
  · exact readSet_writeSet Subnet.parse?_render Subnet.isEmpty_render _

theorem ofText?_eq (text : Option InterfaceText) : ofText? text = ofText (text.getD {}) := by
  cases text <;> rfl

end Interface

end NetworkPlugin
