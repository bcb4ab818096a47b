import NetworkPlugin.Address.Canonical
import NetworkPlugin.Address.Grammar
import NetworkPlugin.HardwareAddress
import NetworkPlugin.Wire.Record

/-!
# Endpoint interfaces

The addresses of an endpoint, any of which may be left to the engine.  On the wire
each is a text, and an empty text stands for an address that is not set.
-/

namespace NetworkPlugin

open Text

structure InterfaceText where
  ipv4 : String := ""
  ipv6 : String := ""
  hardware : String := ""
deriving DecidableEq, Inhabited

def InterfaceText.schema : Schema InterfaceText where
  name := "EndpointInterface"
  blank := {}
  fields := [
    .text "Address" "address" (·.ipv4) (fun value record => { record with ipv4 := value }),
    .text "AddressIPv6" "address_ipv6" (·.ipv6)
      (fun value record => { record with ipv6 := value }),
    .text "MacAddress" "mac_address" (·.hardware)
      (fun value record => { record with hardware := value })]

structure Interface where
  hardware : Option HardwareAddress := none
  ipv4 : Option (Subnet .v4) := none
  ipv6 : Option (Subnet .v6) := none
deriving DecidableEq

inductive InterfaceFault where
  | hardware (text : String)
  | address (family : Family) (text : String)
deriving DecidableEq

def InterfaceFault.message : InterfaceFault → String
  | hardware text => "invalid MAC address: " ++ quote text
  | address family text => "invalid " ++ family.name ++ " address: " ++ quote text

namespace Interface

def readHardware (text : String) : Except InterfaceFault HardwareAddress :=
  match HardwareAddress.parse? text with
  | some address => .ok address
  | none => .error (.hardware text)

def readSet {Value : Type} (parse? : String → Option Value) (fault : String → InterfaceFault)
    (text : String) : Except InterfaceFault (Option Value) :=
  if text.isEmpty then .ok none
  else
    match parse? text with
    | some value => .ok (some value)
    | none => .error (fault text)

theorem readSet_hardware (text : String) :
    readSet HardwareAddress.parse? .hardware text =
      if text.isEmpty then .ok none else (readHardware text).map some := by
  unfold readSet readHardware
  cases HardwareAddress.parse? text <;> rfl

/-- The hardware address is read first, IPv4 before IPv6. -/
def ofText (text : InterfaceText) : Except InterfaceFault Interface := do
  let hardware ← readSet HardwareAddress.parse? .hardware text.hardware
  let ipv4 ← readSet (Subnet.parse? .v4) (.address .v4) text.ipv4
  let ipv6 ← readSet (Subnet.parse? .v6) (.address .v6) text.ipv6
  return ⟨hardware, ipv4, ipv6⟩

def ofText? (text : Option InterfaceText) : Except InterfaceFault Interface :=
  match text with
  | some text => ofText text
  | none => .ok {}

def writeSet {Value : Type} (render : Value → String) (value : Option Value) : String :=
  (value.map render).getD ""

def toText (interface : Interface) : InterfaceText where
  ipv4 := writeSet Subnet.render interface.ipv4
  ipv6 := writeSet Subnet.render interface.ipv6
  hardware := writeSet HardwareAddress.render interface.hardware

def address (interface : Interface) : (family : Family) → Option (Subnet family)
  | .v4 => interface.ipv4
  | .v6 => interface.ipv6

end Interface

end NetworkPlugin
