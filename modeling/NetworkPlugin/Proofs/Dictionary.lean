import Mathlib.Data.List.Nodup
import NetworkPlugin.Wire.Codec
import Std.Data.DTreeMap.Internal.WF.Lemmas
import Std.Data.ExtTreeMap.Lemmas

/-!
# Looking up values by name

What a dictionary holds after a name has been given a value or has lost it, which updates
undo each other, and the list of values.
-/

namespace NetworkPlugin.Dictionary

variable {Value : Type}

theorem getElem?_insert (found : Dictionary Value) (name other : String) (value : Value) :
    (found.insert name value)[other]? = if name = other then some value else found[other]? := by
  simp [Std.ExtTreeMap.getElem?_insert]

theorem getElem?_erase (found : Dictionary Value) (name other : String) :
    (found.erase name)[other]? = if name = other then none else found[other]? := by
  simp [Std.ExtTreeMap.getElem?_erase]

theorem erase_insert {found : Dictionary Value} {name : String} (absent : found[name]? = none)
    (value : Value) : (found.insert name value).erase name = found := by
  apply Std.ExtTreeMap.ext_getElem?
  intro other
  rw [getElem?_erase]
  split
  · next same => rw [← same, absent]
  · next different => rw [getElem?_insert, if_neg different]

theorem insert_of_getElem? {found : Dictionary Value} {name : String} {value : Value}
    (stored : found[name]? = some value) : found.insert name value = found := by
  apply Std.ExtTreeMap.ext_getElem?
  intro other
  rw [getElem?_insert]
  split
  · next same => rw [← same, stored]
  · rfl

theorem insert_insert (found : Dictionary Value) (name : String) (first second : Value) :
    (found.insert name first).insert name second = found.insert name second := by
  apply Std.ExtTreeMap.ext_getElem?
  intro other
  simp only [getElem?_insert]
  split <;> rfl

theorem contains_of_some {found : Dictionary Value} {name : String} {value : Value}
    (stored : found[name]? = some value) : found.contains name = true := by
  rw [Std.ExtTreeMap.contains_eq_isSome_getElem?, stored, Option.isSome_some]

theorem contains_of_none {found : Dictionary Value} {name : String}
    (absent : found[name]? = none) : found.contains name = false := by
  rw [Std.ExtTreeMap.contains_eq_isSome_getElem?, absent, Option.isSome_none]

theorem size_insert_of_none {found : Dictionary Value} {name : String}
    (absent : found[name]? = none) (value : Value) :
    (found.insert name value).size = found.size + 1 := by
  rw [Std.ExtTreeMap.size_insert, if_neg (by simp [contains_of_none absent])]

theorem size_insert_of_some {found : Dictionary Value} {name : String} {old : Value}
    (stored : found[name]? = some old) (value : Value) :
    (found.insert name value).size = found.size := by
  rw [Std.ExtTreeMap.size_insert, if_pos (contains_of_some stored)]

theorem size_erase_of_some {found : Dictionary Value} {name : String} {old : Value}
    (stored : found[name]? = some old) : (found.erase name).size + 1 = found.size := by
  have nonempty : found.size ≠ 0 := by
    rw [Ne, ← Std.ExtTreeMap.eq_empty_iff_size_eq_zero]
    rintro rfl
    simp at stored
  rw [Std.ExtTreeMap.size_erase, if_pos (contains_of_some stored)]
  omega

theorem getElem?_ofList_filterMap {known : List (String × Option Value)} {name : String}
    {value : Value} (distinct : (known.map (·.1)).Nodup) (member : (name, some value) ∈ known) :
    (Std.ExtTreeMap.ofList
      (known.filterMap fun (name, value) => value.map fun text => (name, text)) compare)[name]? =
      some value := by
  refine Std.ExtTreeMap.getElem?_ofList_of_mem Std.ReflCmp.compare_self ?_ ?_
  · rw [List.pairwise_filterMap]
    refine (List.pairwise_map.mp distinct).imp ?_
    rintro ⟨one, first⟩ ⟨other, second⟩ different pair isPair pair' isPair'
    obtain ⟨_, _, rfl⟩ := Option.map_eq_some_iff.mp isPair
    obtain ⟨_, _, rfl⟩ := Option.map_eq_some_iff.mp isPair'
    rw [Std.LawfulEqCmp.compare_eq_iff_eq]
    exact different
  · exact List.mem_filterMap.mpr ⟨_, member, rfl⟩

theorem mem_of_getElem?_ofList {pairs : List (String × Value)} {name : String} {value : Value}
    (found : (Std.ExtTreeMap.ofList pairs compare)[name]? = some value) :
    (name, value) ∈ pairs := by
  rw [Std.ExtTreeMap.ofList_eq_foldl] at found
  have later : ∀ (pairs : List (String × Value)) (start : Dictionary Value),
      (pairs.foldl (fun known pair => known.insert pair.1 pair.2) start)[name]? = some value →
      (name, value) ∈ pairs ∨ start[name]? = some value := by
    intro pairs
    induction pairs with
    | nil => exact fun start known => .inr known
    | cons pair pairs ih =>
        intro start known
        rcases ih _ known with member | inserted
        · exact .inl (List.mem_cons_of_mem _ member)
        · rw [getElem?_insert] at inserted
          split at inserted
          · next same =>
              cases inserted
              exact .inl (same ▸ List.mem_cons_self)
          · exact .inr inserted
  rcases later pairs ∅ found with member | never
  · exact member
  · simp at never

theorem getElem?_ofList_eq_some {pairs : List (String × Value)}
    (distinct : (pairs.map (·.1)).Nodup) {name : String} {value : Value} :
    (Std.ExtTreeMap.ofList pairs compare)[name]? = some value ↔ (name, value) ∈ pairs := by
  refine ⟨mem_of_getElem?_ofList, fun member => ?_⟩
  refine Std.ExtTreeMap.getElem?_ofList_of_mem Std.ReflCmp.compare_self ?_ member
  refine (List.pairwise_map.mp distinct).imp ?_
  intro one other different
  rw [Std.LawfulEqCmp.compare_eq_iff_eq]
  exact different

theorem getElem?_ofList_filterMap_eq_none {known : List (String × Option Value)} {name : String}
    (unknown : ∀ value, (name, some value) ∉ known) :
    (Std.ExtTreeMap.ofList
      (known.filterMap fun (name, value) => value.map fun text => (name, text)) compare)[name]? =
      none := by
  apply Option.eq_none_iff_forall_ne_some.mpr
  intro value found
  obtain ⟨⟨other, known⟩, member, made⟩ := List.mem_filterMap.mp (mem_of_getElem?_ofList found)
  obtain ⟨_, rfl, same⟩ := Option.map_eq_some_iff.mp made
  cases same
  exact unknown _ member

theorem getElem?_ofList_filterMap_of_mem {known : List (String × Option Value)} {name : String}
    {value : Option Value} (distinct : (known.map (·.1)).Nodup) (member : (name, value) ∈ known) :
    (Std.ExtTreeMap.ofList
      (known.filterMap fun (name, value) => value.map fun text => (name, text)) compare)[name]? =
      value := by
  cases value with
  | some value => exact getElem?_ofList_filterMap distinct member
  | none =>
      apply getElem?_ofList_filterMap_eq_none
      intro value listed
      cases List.inj_on_of_nodup_map distinct listed member rfl

theorem ofList_toList (found : Dictionary Value) :
    Std.ExtTreeMap.ofList found.toList compare = found := by
  apply Std.ExtTreeMap.ext_getElem?
  intro name
  cases stored : found[name]? with
  | none =>
      apply Std.ExtTreeMap.getElem?_ofList_of_contains_eq_false
      rw [Std.ExtTreeMap.map_fst_toList_eq_keys, List.contains_eq_mem, decide_eq_false_iff_not,
        Std.ExtTreeMap.mem_keys, ← Std.ExtTreeMap.isSome_getElem?_iff_mem, stored]
      simp
  | some value =>
      exact Std.ExtTreeMap.getElem?_ofList_of_mem Std.ReflCmp.compare_self
        Std.ExtTreeMap.distinct_keys_toList
        (Std.ExtTreeMap.mem_toList_iff_getElem?_eq_some.mpr stored)

theorem values_eq_map_toList (found : Dictionary Value) :
    found.values = found.toList.map (·.2) := by
  obtain ⟨⟨inner⟩⟩ := found
  induction inner using Quotient.ind with
  | _ tree =>
      change tree.inner.values =
        (Std.DTreeMap.Internal.Impl.Const.toList tree.inner).map (·.2)
      rw [Std.DTreeMap.Internal.Impl.values_eq_map_snd,
        Std.DTreeMap.Internal.Impl.Const.toList_eq_toListModel_map]
      simp

theorem mem_values {found : Dictionary Value} {value : Value} :
    value ∈ found.values ↔ ∃ name : String, found[name]? = some value := by
  rw [values_eq_map_toList, List.mem_map]
  constructor
  · rintro ⟨⟨name, _⟩, member, rfl⟩
    exact ⟨name, Std.ExtTreeMap.mem_toList_iff_getElem?_eq_some.mp member⟩
  · rintro ⟨name, stored⟩
    exact ⟨(name, value), Std.ExtTreeMap.mem_toList_iff_getElem?_eq_some.mpr stored, rfl⟩

end NetworkPlugin.Dictionary
