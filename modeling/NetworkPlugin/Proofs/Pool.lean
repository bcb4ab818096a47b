import NetworkPlugin.Dispatch
import NetworkPlugin.Proofs.Dictionary
import NetworkPlugin.Proofs.Except
import NetworkPlugin.Proofs.Interface

/-!
# Reading and writing pools

The pools of a list are those of its entries.  Every pool has an entry of the wire from
which it is read back, its auxiliary addresses under the same names.
-/

namespace NetworkPlugin

namespace Pool

def toEntry (pool : Pool) : PoolEntry where
  addressSpace := pool.addressSpace
  pool := pool.subnet.render
  gateway := Interface.writeSet AnySubnet.render pool.gateway
  auxiliary := pool.auxiliary.map fun _ address => address.render

theorem readSubnet_render (subnet : AnySubnet) (fault : PoolFault) :
    readSubnet subnet.render fault = .ok subnet := by
  unfold readSubnet
  rw [subnet.parse?_render]

theorem readGateway_writeSet (gateway : Option AnySubnet) :
    readGateway (Interface.writeSet AnySubnet.render gateway) = .ok gateway := by
  cases gateway with
  | none => rfl
  | some gateway =>
      have nonempty : gateway.render.isEmpty = false := gateway.2.isEmpty_render
      simp [readGateway, Interface.writeSet, nonempty, readSubnet_render, Except.map]

theorem readSubnet_eq_ok {text : String} {fault : PoolFault} {subnet : AnySubnet} :
    readSubnet text fault = .ok subnet ↔ AnySubnet.parse? text = some subnet := by
  unfold readSubnet
  cases AnySubnet.parse? text <;> simp

/-- An empty text is no subnet, so that it does not matter that it stands for none. -/
theorem readGateway_eq_ok {text : String} {gateway : Option AnySubnet}
    (read : readGateway text = .ok gateway) : gateway = AnySubnet.parse? text := by
  unfold readGateway at read
  split at read
  · next empty =>
      cases read
      rw [String.isEmpty_iff] at empty
      rw [empty]
      rfl
  · obtain ⟨subnet, parsed, rfl⟩ := Except.map_eq_ok.mp read
    exact (readSubnet_eq_ok.mp parsed).symm

theorem readAuxiliaries_eq_ok {listed : List (String × String)}
    {addresses : List (String × AnyAddress)} :
    listed.mapM (fun (name, text) => readAuxiliary name text) = .ok addresses ↔
      List.Forall₂ (fun pair result => result.1 = pair.1 ∧
        AnyAddress.parse? pair.2 = some result.2) listed addresses := by
  have each (pair : String × String) (result : String × AnyAddress) :
      readAuxiliary pair.1 pair.2 = .ok result ↔
        result.1 = pair.1 ∧ AnyAddress.parse? pair.2 = some result.2 := by
    unfold readAuxiliary
    cases AnyAddress.parse? pair.2 <;> simp [Prod.ext_iff, eq_comm]
  simp only [Except.mapM_eq_ok, each]

theorem map_fst_of_readAuxiliaries {listed : List (String × String)}
    {addresses : List (String × AnyAddress)}
    (read : listed.mapM (fun (name, text) => readAuxiliary name text) = .ok addresses) :
    addresses.map (·.1) = listed.map (·.1) := by
  have pairs := readAuxiliaries_eq_ok.mp read
  clear read
  induction pairs with
  | nil => rfl
  | cons first others ih => rw [List.map_cons, List.map_cons, first.1, ih]

theorem mem_of_readAuxiliaries {listed : List (String × String)}
    {addresses : List (String × AnyAddress)}
    (read : listed.mapM (fun (name, text) => readAuxiliary name text) = .ok addresses)
    {name : String} {address : AnyAddress} :
    (name, address) ∈ addresses ↔
      ∃ text, (name, text) ∈ listed ∧ AnyAddress.parse? text = some address := by
  have pairs := readAuxiliaries_eq_ok.mp read
  clear read
  induction pairs with
  | nil => simp
  | @cons pair result listed addresses first others ih =>
      obtain ⟨named, parsed⟩ := first
      simp only [List.mem_cons, ih, Prod.ext_iff, or_and_right, exists_or]
      refine or_congr ?_ Iff.rfl
      constructor
      · rintro ⟨rfl, rfl⟩
        exact ⟨pair.2, ⟨named, rfl⟩, parsed⟩
      · rintro ⟨text, ⟨rfl, rfl⟩, parses⟩
        exact ⟨named.symm, Option.some.inj (parses.symm.trans parsed)⟩

theorem mapM_readAuxiliary (addresses : List (String × AnyAddress)) :
    (addresses.map fun pair => (pair.1, pair.2.render)).mapM
        (fun (name, text) => readAuxiliary name text) = .ok addresses := by
  rw [readAuxiliaries_eq_ok, List.forall₂_map_left_iff, List.forall₂_same]
  exact fun pair _ => ⟨rfl, pair.2.parse?_render⟩

theorem ofEntry_toEntry (pool : Pool) : ofEntry pool.toEntry = .ok pool := by
  unfold ofEntry toEntry
  simp only [readSubnet_render, readGateway_writeSet, Except.ok_bind,
    Std.ExtTreeMap.toList_map, mapM_readAuxiliary, Dictionary.ofList_toList]
  rfl

theorem ofEntriesFrom_eq_ok {index : Nat} {entries : List PoolEntry} {pools : List Pool} :
    ofEntriesFrom index entries = .ok pools ↔
      List.Forall₂ (fun entry pool => ofEntry entry = .ok pool) entries pools := by
  induction entries generalizing index pools with
  | nil => cases pools <;> simp [ofEntriesFrom]
  | cons entry entries ih =>
      simp only [ofEntriesFrom, Except.bind_eq_ok, Except.mapError_eq_ok,
        List.forall₂_cons_left_iff]
      constructor
      · rintro ⟨pool, first, others, rest, made⟩
        cases made
        exact ⟨pool, others, first, ih.mp rest, rfl⟩
      · rintro ⟨pool, others, first, rest, rfl⟩
        exact ⟨pool, first, others, ih.mpr rest, rfl⟩

theorem ofEntries_map_toEntry (pools : List Pool) : ofEntries (pools.map toEntry) = .ok pools := by
  have from_any (index : Nat) : ofEntriesFrom index (pools.map toEntry) = .ok pools := by
    induction pools generalizing index with
    | nil => rfl
    | cons pool pools ih =>
        rw [List.map_cons, ofEntriesFrom, ofEntry_toEntry, ih]
        rfl
  exact from_any 0

end Pool

theorem readPools_eq_ok {family : Family} {entries : List PoolEntry} {pools : List Pool} :
    readPools family entries = .ok pools ↔ Pool.ofEntries entries = .ok pools :=
  Except.mapError_eq_ok

theorem readPools_map_toEntry (family : Family) (pools : List Pool) :
    readPools family (pools.map Pool.toEntry) = .ok pools := by
  unfold readPools
  rw [Pool.ofEntries_map_toEntry]
  rfl

end NetworkPlugin
