import NetworkPlugin.Proofs.Registry.Occupancy

/-!
# Pools that serve alike

What an address is checked against and chosen from is the block of a pool, which its host
bits are no part of, and what a pool keeps for itself are bare addresses without a prefix
length.  Pools that have these in common give away and deny the same addresses; only a
refusal that prints a pool prints it with its host bits.
-/

namespace NetworkPlugin

/-! ## Related lists -/

section

variable {One Other Result : Type} {R : One → Other → Prop} {values : List One}
  {others : List Other}

theorem rel_find? {p : One → Bool} {q : Other → Bool} (related : List.Forall₂ R values others)
    (agree : ∀ value other, R value other → p value = q other) :
    Option.Rel R (values.find? p) (others.find? q) := by
  induction related with
  | nil => exact .none
  | cons first rest ih =>
      simp only [List.find?_cons, ← agree _ _ first]
      split
      · exact .some first
      · exact ih

theorem findSome?_eq_of_forall₂ {f : One → Option Result} {g : Other → Option Result}
    (related : List.Forall₂ R values others)
    (agree : ∀ value other, R value other → f value = g other) :
    values.findSome? f = others.findSome? g := by
  induction related with
  | nil => rfl
  | cons first rest ih => simp only [List.findSome?_cons, agree _ _ first, ih]

theorem flatMap_eq_of_forall₂ {f : One → List Result} {g : Other → List Result}
    (related : List.Forall₂ R values others)
    (agree : ∀ value other, R value other → f value = g other) :
    values.flatMap f = others.flatMap g := by
  induction related with
  | nil => rfl
  | cons first rest ih => simp only [List.flatMap_cons, agree _ _ first, ih]

end

/-! ## Blocks -/

namespace Subnet

variable {family : Family} {one other : Subnet family}

/-- The network address and the prefix length of a subnet, without its host bits. -/
def block (subnet : Subnet family) : Nat × Nat := (subnet.network, subnet.length)

theorem network_of_block (same : one.block = other.block) : one.network = other.network :=
  congrArg Prod.fst same

theorem length_of_block (same : one.block = other.block) : one.length = other.length :=
  congrArg Prod.snd same

theorem size_of_block (same : one.block = other.block) : one.size = other.size := by
  unfold size
  rw [length_of_block same]

theorem last_of_block (same : one.block = other.block) : one.last = other.last := by
  unfold last
  rw [network_of_block same, size_of_block same]

theorem contains_of_block (same : one.block = other.block) (address : Address family) :
    one.Contains address ↔ other.Contains address := by
  unfold Contains
  rw [network_of_block same, last_of_block same]

theorem isHost_of_block (same : one.block = other.block) (address : Address family) :
    one.IsHost address ↔ other.IsHost address := by
  unfold IsHost HasInterior
  rw [length_of_block same, network_of_block same, last_of_block same]

theorem probed_of_block (same : one.block = other.block) : one.probed = other.probed := by
  unfold probed assignable
  simp only [network_of_block same, size_of_block same, length_of_block same,
    last_of_block same]

end Subnet

/-! ## Refusals but for the pools in them -/

inductive Refusal.Alike : Refusal → Refusal → Prop
  | same (refusal : Refusal) : Alike refusal refusal
  | notAHost {family : Family} (address : Address family) {pool other : Subnet family}
      (block : pool.block = other.block) :
      Alike (.notAHost family address pool) (.notAHost family address other)
  | poolExhausted {family : Family} {pool other : Subnet family}
      (block : pool.block = other.block) :
      Alike (.poolExhausted family pool) (.poolExhausted family other)

inductive AlikeResults {Value : Type} (R : Value → Value → Prop) :
    Except Refusal Value → Except Refusal Value → Prop
  | ok {one other : Value} (related : R one other) : AlikeResults R (.ok one) (.ok other)
  | error {one other : Refusal} (alike : one.Alike other) :
      AlikeResults R (.error one) (.error other)

/-! ## Assigning -/

namespace Assignment

variable {family : Family} {pools others : List (Subnet family)}
  {used taken : List (Address family)}

theorem firstFree?_of_block {pool other : Subnet family} (same : pool.block = other.block)
    (agree : ∀ address, address ∈ used ↔ address ∈ taken) :
    firstFree? pool used = firstFree? other taken := by
  simp only [firstFree?_eq_find?, Subnet.probed_of_block same, agree]

/-- Pools with the same blocks give away the same addresses. -/
theorem assign_alike
    (blocks : List.Forall₂ (fun pool other => pool.block = other.block) pools others)
    (agree : ∀ address, address ∈ used ↔ address ∈ taken) (requested : Option (Subnet family)) :
    AlikeResults Eq (assign pools used requested) (assign others taken requested) := by
  cases requested with
  | none =>
      cases blocks with
      | nil => exact .ok rfl
      | @cons pool other _ _ first rest =>
          simp only [assign, pickFree, firstFree?_of_block first agree, Subnet.ofParts?_length]
          cases firstFree? other taken with
          | none => exact .error (.poolExhausted first)
          | some address =>
              refine .ok ?_
              congr 2
              exact Subnet.length_of_block first
  | some given =>
      have first := rel_find? blocks (p := fun pool => decide (pool.Contains given.address))
        (q := fun pool => decide (pool.Contains given.address)) fun pool other same => by
          simp only [Subnet.contains_of_block same]
      simp only [assign, checkRequested]
      generalize pools.find? (fun pool => decide (pool.Contains given.address)) = found at first ⊢
      generalize others.find? (fun pool => decide (pool.Contains given.address)) = foundToo
        at first ⊢
      cases first with
      | none => exact .error (.same _)
      | @some pool other same =>
          simp only [Subnet.isHost_of_block same, agree]
          split
          · exact .error (.notAHost _ same)
          · split
            · exact .error (.same _)
            · exact .ok rfl

end Assignment

/-! ## Pools -/

namespace AnySubnet

def block (subnet : AnySubnet) : Family × Nat × Nat := (subnet.1, subnet.2.block)

def bare (subnet : AnySubnet) : AnyAddress := ⟨subnet.1, subnet.2.address⟩

theorem rel_select? {one other : AnySubnet} (same : one.block = other.block) (family : Family) :
    Option.Rel (fun subnet other => subnet.block = other.block)
      (family.select? one) (family.select? other) := by
  obtain ⟨tag, subnet⟩ := one
  obtain ⟨tagToo, another⟩ := other
  obtain ⟨sameTag, sameBlock⟩ := Prod.ext_iff.mp same
  change tag = tagToo at sameTag
  subst sameTag
  by_cases isFamily : tag = family
  · subst isFamily
    rw [Family.select?_mk, Family.select?_mk]
    exact .some sameBlock
  · simp [Family.select?, isFamily]

theorem map_address_select? (family : Family) (subnet : AnySubnet) :
    (family.select? subnet).map (·.address) = family.select? subnet.bare := by
  obtain ⟨tag, subnet⟩ := subnet
  by_cases isFamily : tag = family
  · subst isFamily
    simp [bare]
  · simp [Family.select?, bare, isFamily]

end AnySubnet

structure Pool.Resembles (pool other : Pool) : Prop where
  subnet : pool.subnet.block = other.subnet.block
  gateway : pool.gateway.map AnySubnet.bare = other.gateway.map AnySubnet.bare
  auxiliary : pool.auxiliary = other.auxiliary

namespace Pool

variable {pool other : Pool} {pools others : List Pool}

theorem Resembles.gateway_eq (resembles : pool.Resembles other) (family : Family) :
    (pool.gateway.bind fun gateway => (family.select? gateway).map (·.address)) =
      other.gateway.bind fun gateway => (family.select? gateway).map (·.address) := by
  simp only [AnySubnet.map_address_select?]
  have same := congrArg (Option.bind · family.select?) resembles.gateway
  rwa [Option.bind_map, Option.bind_map] at same

theorem Resembles.kept_eq (resembles : pool.Resembles other) (family : Family) :
    pool.kept family = other.kept family := by
  unfold kept
  rw [resembles.gateway_eq, resembles.auxiliary]

theorem rel_subnets (resemble : List.Forall₂ Pool.Resembles pools others) (family : Family) :
    List.Forall₂ (fun subnet other => subnet.block = other.block)
      (Assignment.subnets family pools) (Assignment.subnets family others) :=
  List.rel_filterMap
    (fun _ _ resembles => AnySubnet.rel_select? resembles.subnet family) resemble

end Pool

/-! ## Entries of pools -/

def SameText {Part : Type} (part : AnySubnet → Part) (text other : String) : Prop :=
  text = other ∨ ∃ subnet another, AnySubnet.parse? text = some subnet ∧
    AnySubnet.parse? other = some another ∧ part subnet = part another

/-- Entries that differ at most in the address space, in the host bits of the pool, and in
the prefix length of the gateway. -/
structure PoolEntry.Resembles (entry other : PoolEntry) : Prop where
  pool : SameText AnySubnet.block entry.pool other.pool
  gateway : SameText AnySubnet.bare entry.gateway other.gateway
  auxiliary : entry.auxiliary = other.auxiliary

inductive SameError {Error Value : Type} (R : Value → Value → Prop) :
    Except Error Value → Except Error Value → Prop
  | ok {one other : Value} (related : R one other) : SameError R (.ok one) (.ok other)
  | error (error : Error) : SameError R (.error error) (.error error)

namespace SameError

variable {Error Value Next : Type} {R : Value → Value → Prop} {S : Next → Next → Prop}
  {one other : Except Error Value}

theorem refl (reflexive : ∀ value, R value value) (result : Except Error Value) :
    SameError R result result := by
  cases result with
  | ok value => exact .ok (reflexive value)
  | error failure => exact .error failure

theorem bind (same : SameError R one other) {f g : Value → Except Error Next}
    (next : ∀ value another, R value another → SameError S (f value) (g another)) :
    SameError S (one >>= f) (other >>= g) := by
  cases same with
  | ok related => exact next _ _ related
  | error failure => exact .error failure

theorem mapError {Failure : Type} (same : SameError R one other) (f : Error → Failure) :
    SameError R (one.mapError f) (other.mapError f) := by
  cases same with
  | ok related => exact .ok related
  | error failure => exact .error _

theorem error_eq (same : SameError R one other) {failure : Error} (failed : one = .error failure) :
    other = .error failure := by
  cases same with
  | ok related => cases failed
  | error => exact failed

theorem exists_ok (same : SameError R one other) {value : Value} (read : one = .ok value) :
    ∃ another, other = .ok another ∧ R value another := by
  cases same with
  | ok related =>
      cases read
      exact ⟨_, rfl, related⟩
  | error => cases read

end SameError

namespace Pool

variable {entry other : PoolEntry} {entries others : List PoolEntry}

theorem readSubnet_same {Part : Type} {part : AnySubnet → Part} {text other : String}
    (same : SameText part text other) (fault : String → PoolFault) :
    SameError (fun subnet other => part subnet = part other) (readSubnet text (fault text))
      (readSubnet other (fault other)) := by
  rcases same with rfl | ⟨subnet, another, parsed, parsedToo, same⟩
  · apply SameError.refl
    intro _
    rfl
  · rw [readSubnet_eq_ok.mpr parsed, readSubnet_eq_ok.mpr parsedToo]
    exact .ok same

theorem readGateway_of_parse? {text : String} {subnet : AnySubnet}
    (parsed : AnySubnet.parse? text = some subnet) : readGateway text = .ok (some subnet) := by
  unfold readGateway
  split
  · next empty =>
      rw [String.isEmpty_iff.mp empty] at parsed
      cases parsed
  · rw [readSubnet_eq_ok.mpr parsed]
    rfl

theorem readGateway_same {text other : String} (same : SameText AnySubnet.bare text other) :
    SameError (fun gateway other => gateway.map AnySubnet.bare = other.map AnySubnet.bare)
      (readGateway text) (readGateway other) := by
  rcases same with rfl | ⟨subnet, another, parsed, parsedToo, same⟩
  · apply SameError.refl
    intro _
    rfl
  · rw [readGateway_of_parse? parsed, readGateway_of_parse? parsedToo]
    exact .ok (congrArg some same)

theorem ofEntry_same (resembles : entry.Resembles other) :
    SameError Pool.Resembles (ofEntry entry) (ofEntry other) := by
  unfold ofEntry
  refine (readSubnet_same resembles.pool .pool).bind fun subnet another sameBlock => ?_
  refine (readGateway_same resembles.gateway).bind fun gateway gatewayToo sameGateway => ?_
  rw [resembles.auxiliary]
  refine (SameError.refl (fun _ => rfl) _).bind fun auxiliary _ sameAuxiliary => ?_
  subst sameAuxiliary
  exact .ok ⟨sameBlock, sameGateway, rfl⟩

theorem ofEntriesFrom_same (resemble : List.Forall₂ PoolEntry.Resembles entries others)
    (index : Nat) :
    SameError (List.Forall₂ Pool.Resembles) (ofEntriesFrom index entries)
      (ofEntriesFrom index others) := by
  induction resemble generalizing index with
  | nil => exact .ok .nil
  | cons first rest ih =>
      refine ((ofEntry_same first).mapError _).bind fun pool poolToo alike => ?_
      refine (ih (index + 1)).bind fun pools poolsToo alikes => ?_
      exact .ok (.cons alike alikes)

end Pool

theorem readPools_same {entries others : List PoolEntry}
    (resemble : List.Forall₂ PoolEntry.Resembles entries others) (family : Family) :
    SameError (List.Forall₂ Pool.Resembles) (readPools family entries)
      (readPools family others) :=
  (Pool.ofEntriesFrom_same resemble 0).mapError _

end NetworkPlugin
