import NetworkPlugin.Proofs.Address.Digits

/-!
# Canonical texts are read back

Every address and every subnet can be read from its canonical text, in either of the two
grammars.  For IPv6 the cut at `::` has to be found exactly where the longest run of zeros
was left out, and as many groups have to be put in its place as that run was long.
-/

namespace NetworkPlugin

open Text

namespace Grammar

variable (grammar : Grammar)

/-! ## The cut at the gap -/

theorem colon_not_mem_encodeNumeral (number : Nat) : ':' ∉ encodeNumeral 16 number :=
  not_mem_encodeNumeral (by omega) (by omega) (by decide) number

def IsField (field : List Char) : Prop := field ≠ [] ∧ ':' ∉ field

theorem isField_encodeNumeral (number : Nat) : IsField (encodeNumeral 16 number) :=
  ⟨encodeNumeral_ne_nil 16 number, colon_not_mem_encodeNumeral number⟩

theorem isField_of_mem_map {groups : List Nat} :
    ∀ field ∈ groups.map (encodeNumeral 16), IsField field := by
  intro field member
  obtain ⟨group, -, rfl⟩ := List.mem_map.mp member
  exact isField_encodeNumeral group

theorem exists_cons_join {field : List Char} (isField : IsField field)
    (fields : List (List Char)) :
    ∃ c tail, join ':' (field :: fields) = c :: tail ∧ c ≠ ':' := by
  obtain ⟨c, rest, begins⟩ := List.exists_cons_of_ne_nil isField.1
  have other : c ≠ ':' := by
    intro same
    apply isField.2
    rw [begins, same]
    exact List.mem_cons_self
  cases fields with
  | nil => exact ⟨c, rest, by simp [join, begins], other⟩
  | cons second others =>
      refine ⟨c, rest ++ ':' :: join ':' (second :: others), ?_, other⟩
      rw [join_cons_cons, begins, List.cons_append]

theorem cutGap_append_of_not_mem {field : List Char} (absent : ':' ∉ field) (rest : List Char) :
    cutGap (field ++ rest) = (cutGap rest).map fun (before, after) => (field ++ before, after) := by
  induction field with
  | nil => simp
  | cons c field ih =>
      have here : c ≠ ':' := fun same => absent (same ▸ List.mem_cons_self)
      have later := ih fun member => absent (List.mem_cons_of_mem _ member)
      rw [List.cons_append, cutGap, later, Option.map_map]
      · rfl
      · rintro _ rfl
        exact absurd rfl here

theorem cutGap_colon_cons {c : Char} (other : c ≠ ':') (rest : List Char) :
    cutGap (':' :: c :: rest) =
      (cutGap (c :: rest)).map fun (before, after) => (':' :: before, after) := by
  rw [cutGap]
  intro _ _ same
  exact other (List.cons.inj same).1

theorem cutGap_join_append {fields : List (List Char)} (isField : ∀ field ∈ fields, IsField field)
    (rest : List Char) :
    cutGap (join ':' fields ++ rest) =
      (cutGap rest).map fun (before, after) => (join ':' fields ++ before, after) := by
  induction fields with
  | nil => simp [join]
  | cons field fields ih =>
      have here := isField field List.mem_cons_self
      have later := ih fun other member => isField other (List.mem_cons_of_mem _ member)
      cases fields with
      | nil =>
          rw [join_singleton]
          exact cutGap_append_of_not_mem here.2 rest
      | cons second others =>
          obtain ⟨c, tail, begins, other⟩ :=
            exists_cons_join (isField second (by simp)) others
          rw [join_cons_cons, List.append_assoc, cutGap_append_of_not_mem here.2,
            List.cons_append]
          rw [begins, List.cons_append] at later ⊢
          rw [cutGap_colon_cons other, later]
          simp [Function.comp_def]

theorem cutGap_join {fields : List (List Char)} (isField : ∀ field ∈ fields, IsField field) :
    cutGap (join ':' fields) = none := by
  have cut := cutGap_join_append isField []
  rw [List.append_nil] at cut
  rw [cut, cutGap, Option.map_none]

theorem cutGap_join_gap {fields : List (List Char)} (isField : ∀ field ∈ fields, IsField field)
    (rest : List Char) :
    cutGap (join ':' fields ++ "::".toList ++ rest) = some (join ':' fields, rest) := by
  have gap : cutGap ("::".toList ++ rest) = some ([], rest) := by
    change cutGap (':' :: ':' :: rest) = _
    rw [cutGap]
  rw [List.append_assoc, cutGap_join_append isField, gap]
  simp

theorem side?_encodeGroups (quad : Bool) {groups : List Nat}
    (small : ∀ group ∈ groups, group < 65536) :
    grammar.side? quad (encodeGroups groups) = some groups := by
  unfold side?
  cases groups with
  | nil => rfl
  | cons group others =>
      obtain ⟨c, tail, begins, -⟩ :=
        exists_cons_join (isField_encodeNumeral group) (others.map (encodeNumeral 16))
      have nonempty : encodeGroups (group :: others) ≠ [] := by simp [encodeGroups, begins]
      have fields : split ':' (encodeGroups (group :: others)) =
          (group :: others).map (encodeNumeral 16) :=
        split_join_encodeNumeral (by omega) (by omega) (by decide) (by simp)
      rw [if_neg nonempty, fields]
      exact grammar.groups?_map_encodeNumeral quad small

end Grammar

/-! ## The longest run of zeros -/

theorem replicate_leadingZeros (groups : List Nat) :
    List.replicate (leadingZeros groups) 0 = groups.take (leadingZeros groups) := by
  unfold leadingZeros
  induction groups with
  | nil => rfl
  | cons group groups ih =>
      by_cases zero : group = 0
      · subst zero
        simpa [List.replicate_succ] using ih
      · simp [zero]

theorem leadingZeros_le (groups : List Nat) : leadingZeros groups ≤ groups.length := by
  unfold leadingZeros
  exact (List.takeWhile_prefix _).length_le

theorem longestRun_spec (groups : List Nat) :
    (longestRun groups).1 + (longestRun groups).2 ≤ groups.length ∧
      (groups.drop (longestRun groups).1).take (longestRun groups).2 =
        List.replicate (longestRun groups).2 0 := by
  induction groups with
  | nil => simp [longestRun]
  | cons group groups ih =>
      obtain ⟨inside, zeros⟩ := ih
      unfold longestRun
      dsimp only
      split
      · refine ⟨?_, (replicate_leadingZeros (group :: groups)).symm⟩
        have bound := leadingZeros_le (group :: groups)
        omega
      · refine ⟨?_, ?_⟩
        · rw [List.length_cons]
          omega
        · rw [List.drop_succ_cons]
          exact zeros

namespace Grammar

variable (grammar : Grammar)

theorem v6?_of_cutGap {text before after : List Char} {left right : List Nat}
    (cut : cutGap text = some (before, after)) (readLeft : grammar.side? false before = some left)
    (readRight : grammar.side? true after = some right)
    (gap : left.length < 8 ∧ left.length + right.length + grammar.shortestGap ≤ 8) :
    grammar.v6? text = some (positional 65536
      (left ++ List.replicate (8 - left.length - right.length) 0 ++ right)) := by
  unfold v6?
  simp only [cut, readLeft, readRight, Option.bind_eq_bind, Option.bind_some, if_pos gap]

theorem v6?_of_not_cut {text : List Char} {groups : List Nat} (cut : cutGap text = none)
    (read : grammar.groups? true (split ':' text) = some groups) (eight : groups.length = 8) :
    grammar.v6? text = some (positional 65536 groups) := by
  unfold v6?
  simp only [cut, read, Option.bind_eq_bind, Option.bind_some, if_pos eight]

theorem v6?_encodeCompressed {groups : List Nat} (eight : groups.length = 8)
    (small : ∀ group ∈ groups, group < 65536) (gaps : grammar.shortestGap ≤ 2) :
    grammar.v6? (encodeCompressed groups) = some (positional 65536 groups) := by
  obtain ⟨inside, zeros⟩ := longestRun_spec groups
  unfold encodeCompressed
  generalize longestRun groups = run at inside zeros ⊢
  obtain ⟨position, length⟩ := run
  dsimp only at inside zeros ⊢
  by_cases compressed : 2 ≤ length
  · have left : grammar.side? false (encodeGroups (groups.take position)) =
        some (groups.take position) :=
      grammar.side?_encodeGroups false fun group member =>
        small group (List.mem_of_mem_take member)
    have right : grammar.side? true (encodeGroups (groups.drop (position + length))) =
        some (groups.drop (position + length)) :=
      grammar.side?_encodeGroups true fun group member =>
        small group (List.mem_of_mem_drop member)
    have before : (groups.take position).length = position := by
      rw [List.length_take]
      omega
    have after : (groups.drop (position + length)).length = 8 - (position + length) := by
      rw [List.length_drop, eight]
    have missing : 8 - position - (8 - (position + length)) = length := by omega
    -- The gap stands for as many zeros as were left out.
    have whole : groups.take position ++ List.replicate length 0 ++
        groups.drop (position + length) = groups := by
      rw [← zeros, List.append_assoc, ← List.drop_drop, List.take_append_drop,
        List.take_append_drop]
    have read := grammar.v6?_of_cutGap (cutGap_join_gap isField_of_mem_map _) left right (by omega)
    rw [before, after, missing, whole] at read
    rw [if_pos compressed]
    exact read
  · have nonempty : groups ≠ [] := by
      intro empty
      simp [empty] at eight
    have fields : split ':' (encodeGroups groups) = groups.map (encodeNumeral 16) :=
      split_join_encodeNumeral (by omega) (by omega) (by decide) nonempty
    have read := grammar.groups?_map_encodeNumeral true small
    rw [← fields] at read
    rw [if_neg compressed]
    exact grammar.v6?_of_not_cut (cutGap_join isField_of_mem_map) read eight

/-! ## Addresses -/

theorem dot_mem_encodeQuad (value : Nat) : '.' ∈ encodeQuad value := by
  unfold encodeQuad
  simp [digitsOf, join, List.intercalate_cons_cons]

theorem side?_mapped {value : Nat} (small : value < 0x100000000) :
    grammar.side? true ("ffff:".toList ++ encodeQuad value) =
      some [0xffff, value / 65536, value % 65536] := by
  have fields : split ':' ("ffff".toList ++ ':' :: encodeQuad value) =
      ["ffff".toList, encodeQuad value] := by
    have noColon : ':' ∉ encodeQuad value :=
      not_mem_join_encodeNumeral (by omega) (by omega) (by decide) (by decide) _
    rw [split_append_cons _ (by decide), split_of_not_mem noColon]
  have ones : group? ['f', 'f', 'f', 'f'] = some 0xffff := by decide
  have quad := grammar.v4?_encodeQuad small
  unfold side?
  rw [if_neg (by simp)]
  change grammar.groups? true (split ':' ("ffff".toList ++ ':' :: encodeQuad value)) = _
  rw [fields]
  simp [groups?, ones, quad, dot_mem_encodeQuad]

theorem v6?_mapped {value : Nat} (small : value < 0x100000000)
    (gaps : grammar.shortestGap ≤ 2) :
    grammar.v6? ("::ffff:".toList ++ encodeQuad value) =
      some (0xffff * 0x100000000 + value) := by
  have noField : ∀ field ∈ ([] : List (List Char)), IsField field := by simp
  have cut := cutGap_join_gap noField ("ffff:".toList ++ encodeQuad value)
  have left : grammar.side? false (encodeGroups []) = some [] := rfl
  have read := grammar.v6?_of_cutGap cut left (grammar.side?_mapped small)
    ⟨by simp, by simp; omega⟩
  have sum : positional 65536 [0, 0, 0, 0, 0, 0xffff, value / 65536, value % 65536] =
      0xffff * 0x100000000 + value := by
    simp only [positional, List.foldl_cons, List.foldl_nil]
    omega
  rw [← sum]
  exact read

theorem v6?_encodeAddress {value : Nat} (below : value < Family.v6.size)
    (gaps : grammar.shortestGap ≤ 2) : grammar.v6? (encodeAddress .v6 value) = some value := by
  unfold encodeAddress
  dsimp only
  split
  · next mapped =>
      have prefixed : value / 0x100000000 = 0xffff := by
        rw [← mapped, Nat.shiftRight_eq_div_pow]
      have low : value % 0x100000000 < 0x100000000 := Nat.mod_lt _ (by omega)
      rw [grammar.v6?_mapped low gaps]
      congr 1
      omega
  · have number : positional 65536 (digitsOf 65536 8 value) = value % Family.v6.size :=
      positional_digitsOf 65536 8 value
    rw [Nat.mod_eq_of_lt below] at number
    rw [grammar.v6?_encodeCompressed (length_digitsOf _ _ _)
      (fun digit member => mem_digitsOf (by omega) member) gaps, number]

theorem address?_encodeAddress {family : Family} (address : Address family)
    (gaps : grammar.shortestGap ≤ 2) :
    grammar.address? family (encodeAddress family address.value) = some address := by
  have below := address.value_lt
  cases family with
  | v4 =>
      have value := grammar.v4?_encodeQuad (show address.value < 0x100000000 from below)
      simp [address?, encodeAddress, value]
  | v6 =>
      have value := grammar.v6?_encodeAddress below gaps
      simp [address?, value]

end Grammar

/-! ## Subnets -/

theorem slash_not_mem_encodeAddress (family : Family) (value : Nat) :
    '/' ∉ encodeAddress family value := by
  have quad (number : Nat) : '/' ∉ encodeQuad number :=
    not_mem_join_encodeNumeral (by omega) (by omega) (by decide) (by decide) _
  have groups (numbers : List Nat) : '/' ∉ encodeGroups numbers :=
    not_mem_join_encodeNumeral (by omega) (by omega) (by decide) (by decide) numbers
  cases family with
  | v4 => exact quad value
  | v6 =>
      unfold encodeAddress
      dsimp only
      split
      · simp [quad]
      · unfold encodeCompressed
        dsimp only
        split <;> simp [groups]

theorem Family.prefixLength?_encodeNumeral {family : Family} {length : Nat}
    (short : length ≤ family.width) :
    family.prefixLength? (encodeNumeral 10 length) = some length := by
  have digits : (encodeNumeral 10 length).length ≤ (encodeNumeral 10 family.width).length := by
    apply (Nat.length_toDigits_le_iff (by omega) Nat.length_toDigits_pos).mpr
    apply Nat.lt_of_le_of_lt short
    cases family <;> decide
  unfold prefixLength?
  rw [if_pos digits, decodeNumeral?_encodeNumeral (by omega) (by omega)]
  simp [short]

theorem Subnet.split_render {family : Family} (subnet : Subnet family) :
    split '/' subnet.render.toList =
      [encodeAddress family subnet.address.value, encodeNumeral 10 subnet.length] := by
  have absent : '/' ∉ encodeNumeral 10 subnet.length :=
    not_mem_encodeNumeral (by omega) (by omega) (by decide) _
  unfold render
  rw [String.toList_ofList, split_append_cons _ (slash_not_mem_encodeAddress _ _),
    split_of_not_mem absent]

theorem Subnet.parse?_render {family : Family} (subnet : Subnet family) :
    Subnet.parse? family subnet.render = some subnet := by
  have address := Grammar.withLength.address?_encodeAddress subnet.address (by decide)
  have length := Family.prefixLength?_encodeNumeral subnet.length_le
  unfold parse?
  rw [subnet.split_render]
  simp [address, length, subnet.length_le]

theorem Address.parse?_render {family : Family} (address : Address family) :
    Address.parse? family address.render = some address := by
  unfold Address.parse? Address.render
  rw [String.toList_ofList, Grammar.address?_encodeAddress _ _ (by decide)]

theorem Address.render_injective {family : Family} {one other : Address family}
    (same : one.render = other.render) : one = other := by
  have first := one.parse?_render
  rw [same, other.parse?_render] at first
  exact (Option.some.inj first).symm

/-! ## Either family -/

theorem colon_mem_encodeAddress (value : Nat) : ':' ∈ encodeAddress .v6 value := by
  unfold encodeAddress
  dsimp only
  split
  · simp
  · unfold encodeCompressed
    dsimp only
    split
    · simp
    · simp [encodeGroups, digitsOf, join, List.intercalate_cons_cons]

theorem Grammar.address?_v4_encodeAddress_v6 (grammar : Grammar) (value : Nat) :
    grammar.address? .v4 (encodeAddress .v6 value) = none := by
  have foreign := grammar.v4?_of_mem (by decide) (by decide) (colon_mem_encodeAddress value)
  simp [address?, foreign]

theorem AnyAddress.parse?_render (address : AnyAddress) :
    AnyAddress.parse? address.render = some address := by
  obtain ⟨family, address⟩ := address
  have own := address.parse?_render
  cases family with
  | v4 => simp [parse?, render, own]
  | v6 =>
      have foreign : Address.parse? .v4 address.render = none := by
        unfold Address.parse? Address.render
        rw [String.toList_ofList, Grammar.address?_v4_encodeAddress_v6]
      simp [parse?, render, own, foreign]

theorem AnySubnet.parse?_render (subnet : AnySubnet) :
    AnySubnet.parse? subnet.render = some subnet := by
  obtain ⟨family, subnet⟩ := subnet
  have own := subnet.parse?_render
  cases family with
  | v4 => simp [parse?, render, own]
  | v6 =>
      have foreign : Subnet.parse? .v4 subnet.render = none := by
        unfold Subnet.parse?
        rw [subnet.split_render]
        simp [Grammar.address?_v4_encodeAddress_v6]
      simp [parse?, render, own, foreign]

end NetworkPlugin
