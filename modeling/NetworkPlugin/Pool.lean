import NetworkPlugin.Address.Canonical
import NetworkPlugin.Address.Grammar
import NetworkPlugin.Wire.Record

/-!
# Address pools

A pool is a subnet from which endpoints get their addresses, with an optional gateway
and named auxiliary addresses that are not given away.  Entries of the wire carry all
of these as texts; the first one that cannot be read fails the whole list.
-/

namespace NetworkPlugin

open Text

structure PoolEntry where
  addressSpace : String := ""
  pool : String := ""
  gateway : String := ""
  auxiliary : Dictionary String := ∅
deriving DecidableEq

def PoolEntry.schema : Schema PoolEntry where
  name := "IpamData"
  blank := {}
  fields := [
    .optional "AddressSpace" "address_space" .string "" (·.addressSpace)
      (fun value record => { record with addressSpace := value }),
    .optional "Pool" "pool" .string "" (·.pool)
      (fun value record => { record with pool := value }),
    .text "Gateway" "gateway" (·.gateway)
      (fun value record => { record with gateway := value }),
    .of "AuxAddresses" "aux_addresses" .anywhere ((Codec.string.dictionary).orDefault ∅)
      (·.isEmpty) (·.auxiliary) (fun value record => { record with auxiliary := value })]

structure Pool where
  addressSpace : String
  subnet : AnySubnet
  gateway : Option AnySubnet
  auxiliary : Dictionary AnyAddress
deriving DecidableEq

inductive PoolFault where
  | pool (text : String)
  | gateway (text : String)
  | auxiliary (name text : String)
deriving DecidableEq

structure PoolListFault where
  index : Nat
  fault : PoolFault
deriving DecidableEq

def PoolFault.message : PoolFault → String
  | pool text => "invalid pool " ++ quote text
  | gateway text => "invalid gateway " ++ quote text
  | auxiliary name text => "invalid auxiliary address " ++ name ++ "=" ++ quote text

def PoolListFault.message (fault : PoolListFault) : String :=
  "entry " ++ String.ofList (encodeNumeral 10 fault.index) ++ ": " ++ fault.fault.message

namespace Pool

def readSubnet (text : String) (fault : PoolFault) : Except PoolFault AnySubnet :=
  match AnySubnet.parse? text with
  | some subnet => .ok subnet
  | none => .error fault

def readGateway (text : String) : Except PoolFault (Option AnySubnet) :=
  if text.isEmpty then .ok none else (readSubnet text (.gateway text)).map some

def readAuxiliary (name text : String) : Except PoolFault (String × AnyAddress) :=
  match AnyAddress.parse? text with
  | some address => .ok (name, address)
  | none => .error (.auxiliary name text)

/-- Auxiliary addresses are read in the order of their names. -/
def ofEntry (entry : PoolEntry) : Except PoolFault Pool := do
  let subnet ← readSubnet entry.pool (.pool entry.pool)
  let gateway ← readGateway entry.gateway
  let auxiliary ← entry.auxiliary.toList.mapM fun (name, text) => readAuxiliary name text
  return ⟨entry.addressSpace, subnet, gateway, .ofList auxiliary compare⟩

def ofEntriesFrom (index : Nat) : List PoolEntry → Except PoolListFault (List Pool)
  | [] => .ok []
  | entry :: entries => do
      let pool ← (ofEntry entry).mapError (⟨index, ·⟩)
      let pools ← ofEntriesFrom (index + 1) entries
      return pool :: pools

def ofEntries (entries : List PoolEntry) : Except PoolListFault (List Pool) :=
  ofEntriesFrom 0 entries

def kept (pool : Pool) (family : Family) : List (Address family) :=
  (pool.gateway.bind fun gateway => (family.select? gateway).map (·.address)).toList ++
    pool.auxiliary.values.filterMap family.select?

end Pool

end NetworkPlugin
