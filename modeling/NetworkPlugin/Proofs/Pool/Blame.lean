import NetworkPlugin.Proofs.Address.Spelling
import NetworkPlugin.Proofs.Pool
import NetworkPlugin.Proofs.Text.ByteOrder

/-!
# Faults in lists of pools

A list of entries is read as a whole or not at all, and what is told is the first fault in it.
Two lists one behind the other are read like each of them, but for the positions in the second.
What is wrong with an entry is said by what its texts spell: the pool counts before the gateway,
and the gateway before the auxiliary addresses, of which the one with the least name counts.
-/

namespace NetworkPlugin

namespace PoolEntry

def Misspells (entry : PoolEntry) (name text : String) : Prop :=
  entry.auxiliary[name]? = some text ∧ ∀ address : AnyAddress, ¬ address.Spells text

def Faulty (entry : PoolEntry) : Prop :=
  (∀ subnet : AnySubnet, ¬ subnet.Spells entry.pool) ∨
    (entry.gateway ≠ "" ∧ ∀ subnet : AnySubnet, ¬ subnet.Spells entry.gateway) ∨
    ∃ name text, entry.Misspells name text

/-- What is said of an entry that cannot be read. -/
inductive Blames (entry : PoolEntry) : PoolFault → Prop
  | pool (unspelled : ∀ subnet : AnySubnet, ¬ subnet.Spells entry.pool) :
      Blames entry (.pool entry.pool)
  | gateway (pool : ∃ subnet : AnySubnet, subnet.Spells entry.pool) (set : entry.gateway ≠ "")
      (unspelled : ∀ subnet : AnySubnet, ¬ subnet.Spells entry.gateway) :
      Blames entry (.gateway entry.gateway)
  | auxiliary {name text} (pool : ∃ subnet : AnySubnet, subnet.Spells entry.pool)
      (gateway : entry.gateway = "" ∨ ∃ subnet : AnySubnet, subnet.Spells entry.gateway)
      (misspelled : entry.Misspells name text)
      (least : ∀ other otherText, entry.Misspells other otherText → other ≠ name →
        name.toUTF8.toList < other.toUTF8.toList) :
      Blames entry (.auxiliary name text)

/-- A pool with all that the texts of an entry spell, host bits included. -/
structure Gives (entry : PoolEntry) (pool : Pool) : Prop where
  addressSpace : pool.addressSpace = entry.addressSpace
  subnet : pool.subnet.Spells entry.pool
  gateway : ∀ subnet, pool.gateway = some subnet ↔ subnet.Spells entry.gateway
  gatewayless : pool.gateway = none ↔ entry.gateway = ""
  names : ∀ name, name ∈ pool.auxiliary ↔ name ∈ entry.auxiliary
  auxiliary : ∀ (name : String) address, pool.auxiliary[name]? = some address ↔
    ∃ text, entry.auxiliary[name]? = some text ∧ address.Spells text

variable {entry : PoolEntry} {pool : Pool} {fault told : PoolFault}

theorem Blames.unique (first : entry.Blames fault) (second : entry.Blames told) :
    fault = told := by
  cases first with
  | pool unspelled =>
      cases second with
      | pool => rfl
      | gateway pool | auxiliary pool =>
          obtain ⟨subnet, spelled⟩ := pool
          exact absurd spelled (unspelled subnet)
  | gateway pool set unspelled =>
      cases second with
      | pool none =>
          obtain ⟨subnet, spelled⟩ := pool
          exact absurd spelled (none subnet)
      | gateway => rfl
      | auxiliary _ gateway =>
          rcases gateway with empty | ⟨subnet, spelled⟩
          · exact absurd empty set
          · exact absurd spelled (unspelled subnet)
  | @auxiliary name text pool gateway misspelled least =>
      cases second with
      | pool none =>
          obtain ⟨subnet, spelled⟩ := pool
          exact absurd spelled (none subnet)
      | gateway _ set unspelled =>
          rcases gateway with empty | ⟨subnet, spelled⟩
          · exact absurd empty set
          · exact absurd spelled (unspelled subnet)
      | @auxiliary other otherText _ _ misspelledToo leastToo =>
          -- Of two different names each would be less than the other.
          have same : other = name := by
            by_contra differ
            have less := least other otherText misspelledToo differ
            exact List.lt_asymm less (leastToo name text misspelled (Ne.symm differ))
          subst same
          have texts := Option.some.inj (misspelled.1.symm.trans misspelledToo.1)
          rw [texts]

theorem Blames.faulty (blames : entry.Blames fault) : entry.Faulty := by
  cases blames with
  | pool unspelled => exact .inl unspelled
  | gateway _ set unspelled => exact .inr (.inl ⟨set, unspelled⟩)
  | auxiliary _ _ misspelled => exact .inr (.inr ⟨_, _, misspelled⟩)

theorem Gives.not_faulty (gives : entry.Gives pool) : ¬ entry.Faulty := by
  rintro (unspelled | ⟨set, unspelled⟩ | ⟨name, text, known, unspelled⟩)
  · exact unspelled _ gives.subnet
  · cases given : pool.gateway with
    | none => exact set (gives.gatewayless.mp given)
    | some subnet => exact unspelled subnet ((gives.gateway subnet).mp given)
  · have kept : name ∈ pool.auxiliary :=
      (gives.names name).mpr (Std.ExtTreeMap.mem_iff_isSome_getElem?.mpr (by simp [known]))
    obtain ⟨address, found⟩ := Option.isSome_iff_exists.mp
      (Std.ExtTreeMap.mem_iff_isSome_getElem?.mp kept)
    obtain ⟨other, same, spelled⟩ := (gives.auxiliary name address).mp found
    cases known.symm.trans same
    exact unspelled address spelled

end PoolEntry

namespace Pool

variable {entry : PoolEntry} {pool : Pool} {fault : PoolFault}

/-! ## The parts of an entry -/

theorem readSubnet_eq_ok_iff {text : String} {subnet : AnySubnet} :
    readSubnet text fault = .ok subnet ↔ subnet.Spells text := by
  rw [readSubnet_eq_ok, AnySubnet.parse?_eq_some_iff]

theorem readSubnet_eq_error_iff {text : String} {told : PoolFault} :
    readSubnet text fault = .error told ↔
      (∀ subnet : AnySubnet, ¬ subnet.Spells text) ∧ told = fault := by
  simp only [← AnySubnet.parse?_eq_some_iff, readSubnet]
  cases AnySubnet.parse? text <;> simp [eq_comm]

theorem exists_readGateway_iff {text : String} :
    (∃ gateway, readGateway text = .ok gateway) ↔
      text = "" ∨ ∃ subnet : AnySubnet, subnet.Spells text := by
  unfold readGateway
  by_cases empty : text = ""
  · simp [empty]
  · have filled : text.isEmpty = false := by simpa using empty
    simp only [filled, Bool.false_eq_true, if_false, Except.map_eq_ok, readSubnet_eq_ok_iff,
      empty, false_or]
    constructor
    · rintro ⟨gateway, subnet, spelled, -⟩
      exact ⟨subnet, spelled⟩
    · rintro ⟨subnet, spelled⟩
      exact ⟨some subnet, subnet, spelled, rfl⟩

theorem readGateway_eq_error_iff {text : String} {told : PoolFault} :
    readGateway text = .error told ↔
      text ≠ "" ∧ (∀ subnet : AnySubnet, ¬ subnet.Spells text) ∧ told = .gateway text := by
  unfold readGateway
  by_cases empty : text = ""
  · simp [empty]
  · have filled : text.isEmpty = false := by simpa using empty
    simp only [filled, Bool.false_eq_true, if_false]
    rw [← readSubnet_eq_error_iff]
    cases readSubnet text (.gateway text) <;> simp [Except.map, empty]

theorem readAuxiliary_eq_error_iff {name text : String} {told : PoolFault} :
    readAuxiliary name text = .error told ↔
      (∀ address : AnyAddress, ¬ address.Spells text) ∧ told = .auxiliary name text := by
  simp only [← AnyAddress.parse?_eq_some_iff, readAuxiliary]
  cases AnyAddress.parse? text <;> simp [eq_comm]

theorem auxiliary_of_error {told : PoolFault}
    (failed : entry.auxiliary.toList.mapM (fun (name, text) => readAuxiliary name text) =
      .error told) :
    ∃ name text, entry.Misspells name text ∧ told = .auxiliary name text ∧
      ∀ other otherText, entry.Misspells other otherText → other ≠ name →
        name.toUTF8.toList < other.toUTF8.toList := by
  obtain ⟨before, ⟨name, text⟩, after, listed, fine, here⟩ :=
    Except.exists_first_of_mapM_eq_error failed
  obtain ⟨unspelled, rfl⟩ := readAuxiliary_eq_error_iff.mp here
  have stored (pair : String × String) :
      pair ∈ entry.auxiliary.toList ↔ entry.auxiliary[pair.1]? = some pair.2 :=
    Std.ExtTreeMap.mem_toList_iff_getElem?_eq_some
  have found : entry.auxiliary[name]? = some text :=
    (stored (name, text)).mp (listed ▸ List.mem_append_right _ List.mem_cons_self)
  refine ⟨name, text, ⟨found, unspelled⟩, rfl, ?_⟩
  rintro other otherText ⟨known, unspelledToo⟩ differ
  have member := (stored (other, otherText)).mpr known
  rw [listed, List.mem_append, List.mem_cons] at member
  rcases member with earlier | same | later
  · -- What comes before the first fault can be read.
    obtain ⟨result, read⟩ := fine _ earlier
    have failing : readAuxiliary other otherText = .error (.auxiliary other otherText) :=
      readAuxiliary_eq_error_iff.mpr ⟨unspelledToo, rfl⟩
    cases failing.symm.trans read
  · cases same
    exact absurd rfl differ
  · have ordered : entry.auxiliary.keys.Pairwise fun one other => compare one other = .lt :=
      Std.ExtTreeMap.ordered_keys
    rw [← Std.ExtTreeMap.map_fst_toList_eq_keys, listed, List.map_append, List.map_cons,
      List.pairwise_append, List.pairwise_cons] at ordered
    have less := ordered.2.1.1 other (List.mem_map_of_mem later)
    exact Text.toUTF8_lt_toUTF8 (compareOfLessAndEq_eq_lt.mp less)

/-! ## Single entries -/

theorem blames_of_ofEntry (failed : ofEntry entry = .error fault) : entry.Blames fault := by
  simp only [ofEntry, Except.bind_eq_error] at failed
  rcases failed with first | ⟨subnet, first, second | ⟨gateway, second, third | ⟨_, -, made⟩⟩⟩
  · obtain ⟨unspelled, rfl⟩ := readSubnet_eq_error_iff.mp first
    exact .pool unspelled
  · obtain ⟨set, unspelled, rfl⟩ := readGateway_eq_error_iff.mp second
    exact .gateway ⟨subnet, readSubnet_eq_ok_iff.mp first⟩ set unspelled
  · obtain ⟨name, text, misspelled, rfl, least⟩ := auxiliary_of_error third
    exact .auxiliary ⟨subnet, readSubnet_eq_ok_iff.mp first⟩
      (exists_readGateway_iff.mp ⟨gateway, second⟩) misspelled least
  · cases made

theorem readGateway_eq_none_iff {text : String} {gateway : Option AnySubnet}
    (read : readGateway text = .ok gateway) : gateway = none ↔ text = "" := by
  unfold readGateway at read
  split at read
  · next empty =>
      cases read
      simpa using empty
  · next filled =>
      obtain ⟨subnet, -, rfl⟩ := Except.map_eq_ok.mp read
      simpa using filled

theorem gives_of_ofEntry (read : ofEntry entry = .ok pool) : entry.Gives pool := by
  simp only [ofEntry, Except.bind_eq_ok] at read
  obtain ⟨subnet, first, gateway, second, auxiliary, third, made⟩ := read
  cases made
  have names := map_fst_of_readAuxiliaries third
  have distinct : (auxiliary.map (·.1)).Nodup := by
    rw [names, Std.ExtTreeMap.map_fst_toList_eq_keys]
    exact Std.ExtTreeMap.nodup_keys
  refine ⟨rfl, readSubnet_eq_ok_iff.mp first, fun other => ?_, readGateway_eq_none_iff second,
    fun name => ?_, fun name address => ?_⟩
  · rw [readGateway_eq_ok second, AnySubnet.parse?_eq_some_iff]
  · rw [Std.ExtTreeMap.mem_ofList, List.contains_iff_mem, names,
      Std.ExtTreeMap.map_fst_toList_eq_keys, Std.ExtTreeMap.mem_keys]
  · rw [Dictionary.getElem?_ofList_eq_some distinct, mem_of_readAuxiliaries third]
    simp only [Std.ExtTreeMap.mem_toList_iff_getElem?_eq_some, AnyAddress.parse?_eq_some_iff]

theorem blames_or_gives (entry : PoolEntry) :
    (∃ fault, ofEntry entry = .error fault ∧ entry.Blames fault) ∨
      ∃ pool, ofEntry entry = .ok pool ∧ entry.Gives pool := by
  cases read : ofEntry entry with
  | error fault => exact .inl ⟨fault, rfl, blames_of_ofEntry read⟩
  | ok pool => exact .inr ⟨pool, rfl, gives_of_ofEntry read⟩

theorem ofEntry_eq_error_iff : ofEntry entry = .error fault ↔ entry.Blames fault := by
  refine ⟨blames_of_ofEntry, fun blames => ?_⟩
  rcases blames_or_gives entry with ⟨told, read, blamed⟩ | ⟨pool, -, gives⟩
  · rw [read, blames.unique blamed]
  · exact absurd blames.faulty gives.not_faulty

theorem exists_blames_iff : (∃ fault, entry.Blames fault) ↔ entry.Faulty := by
  constructor
  · rintro ⟨fault, blames⟩
    exact blames.faulty
  · intro faulty
    rcases blames_or_gives entry with ⟨fault, -, blames⟩ | ⟨pool, -, gives⟩
    · exact ⟨fault, blames⟩
    · exact absurd faulty gives.not_faulty

/-! ## Lists of entries -/

theorem ofEntriesFrom_append (index : Nat) (first second : List PoolEntry) :
    ofEntriesFrom index (first ++ second) =
      ofEntriesFrom index first >>= fun pools =>
        (ofEntriesFrom (index + first.length) second).map (pools ++ ·) := by
  induction first generalizing index with
  | nil =>
      rw [List.nil_append, List.length_nil, Nat.add_zero, ofEntriesFrom, Except.ok_bind]
      cases ofEntriesFrom index second <;> rfl
  | cons entry entries ih =>
      have next : index + (entry :: entries).length = index + 1 + entries.length := by
        rw [List.length_cons]
        omega
      rw [List.cons_append, ofEntriesFrom, ofEntriesFrom, ih, next]
      cases ofEntry entry with
      | error fault => rfl
      | ok pool =>
          cases ofEntriesFrom (index + 1) entries with
          | error fault => rfl
          | ok pools => cases ofEntriesFrom (index + 1 + entries.length) second <;> rfl

theorem ofEntriesFrom_add (offset index : Nat) (entries : List PoolEntry) :
    ofEntriesFrom (offset + index) entries =
      (ofEntriesFrom index entries).mapError fun fault => ⟨offset + fault.index, fault.fault⟩ := by
  induction entries generalizing index with
  | nil => rfl
  | cons entry entries ih =>
      rw [ofEntriesFrom, ofEntriesFrom, Nat.add_assoc, ih]
      cases ofEntry entry with
      | error fault => rfl
      | ok pool => cases ofEntriesFrom (index + 1) entries <;> rfl

theorem ofEntries_append (first second : List PoolEntry) :
    ofEntries (first ++ second) =
      ofEntries first >>= fun pools =>
        ((ofEntries second).mapError fun fault => ⟨first.length + fault.index, fault.fault⟩).map
          (pools ++ ·) := by
  rw [ofEntries, ofEntriesFrom_append, Nat.zero_add]
  exact congrArg _ (funext fun pools => congrArg _ (ofEntriesFrom_add first.length 0 second))

theorem ofEntries_singleton (entry : PoolEntry) :
    ofEntries [entry] = ((ofEntry entry).mapError (⟨0, ·⟩)).map ([·]) := by
  rw [ofEntries, ofEntriesFrom, ofEntriesFrom]
  cases ofEntry entry <;> rfl

/-- A list is read as a whole, in its order, or the first fault in it is told with the position
of its entry, and an entry that has no fault gives all that its texts spell. -/
theorem lists_tell_first_fault :
    (∀ entries others,
      (∀ pools more, ofEntries entries = .ok pools → ofEntries others = .ok more →
        ofEntries (entries ++ others) = .ok (pools ++ more)) ∧
      (∀ fault, ofEntries entries = .error fault →
        ofEntries (entries ++ others) = .error fault) ∧
      ∀ pools fault, ofEntries entries = .ok pools → ofEntries others = .error fault →
        ofEntries (entries ++ others) =
          .error ⟨entries.length + fault.index, fault.fault⟩) ∧
    ∀ entry : PoolEntry,
      ((∃ fault, ofEntries [entry] = .error fault) ↔ entry.Faulty) ∧
      (∀ fault, ofEntries [entry] = .error fault ↔
        fault.index = 0 ∧ entry.Blames fault.fault) ∧
      (¬ entry.Faulty → ∃ pool, ofEntries [entry] = .ok [pool] ∧ entry.Gives pool) := by
  constructor
  · intro entries others
    rw [ofEntries_append]
    refine ⟨fun pools more first second => ?_, fun fault first => ?_,
      fun pools fault first second => ?_⟩
    · rw [first, second]
      rfl
    · rw [first]
      rfl
    · rw [first, second]
      rfl
  · intro entry
    have told (fault : PoolListFault) : ofEntries [entry] = .error fault ↔
        fault.index = 0 ∧ entry.Blames fault.fault := by
      rw [ofEntries_singleton, ← ofEntry_eq_error_iff]
      obtain ⟨index, fault⟩ := fault
      cases ofEntry entry <;> simp [Except.mapError, Except.map, eq_comm]
    refine ⟨?_, told, fun faultless => ?_⟩
    · rw [← exists_blames_iff]
      constructor
      · rintro ⟨fault, failed⟩
        exact ⟨fault.fault, ((told fault).mp failed).2⟩
      · rintro ⟨fault, blames⟩
        exact ⟨⟨0, fault⟩, (told _).mpr ⟨rfl, blames⟩⟩
    · rcases blames_or_gives entry with ⟨fault, -, blames⟩ | ⟨pool, read, gives⟩
      · exact absurd blames.faulty faultless
      · refine ⟨pool, ?_, gives⟩
        rw [ofEntries_singleton, read]
        rfl

theorem second_list_moves_its_fault :
    ofEntries ([{ pool := "10.0.0.1/8" }] ++ [{ pool := "::/0", gateway := "10.0.0.1" }]) =
      .error ⟨1, .gateway "10.0.0.1"⟩ :=
  (lists_tell_first_fault.1 [{ pool := "10.0.0.1/8" }]
    [{ pool := "::/0", gateway := "10.0.0.1" }]).2.2
    [⟨"", ⟨.v4, ⟨⟨0x0a000001, by decide⟩, 8, by decide⟩⟩, none, ∅⟩] ⟨0, .gateway "10.0.0.1"⟩ rfl rfl

end Pool

end NetworkPlugin
