import NetworkPlugin.Proofs.Address.RoundTrip
import NetworkPlugin.Proofs.Text.Spelling

/-!
# Spelled addresses and subnets

The texts of an address, said without reading them: four decimal octets between dots, or
hexadecimal groups between colons, of which `::` may stand for zeros and the last two may be
a dotted quad.  Exactly these texts are read, each as the address that it spells.
-/

namespace NetworkPlugin

open Text

/-! ## Positional values -/

theorem Grammar.positional_append_singleton (base : Nat) (digits : List Nat) (digit : Nat) :
    positional base (digits ++ [digit]) = positional base digits * base + digit := by
  simp [positional]

theorem Grammar.positional_lt {base : Nat} {digits : List Nat}
    (small : ∀ digit ∈ digits, digit < base) :
    positional base digits < Nat.pow base digits.length := by
  induction digits using List.reverseRecOn with
  | nil => simp [positional]
  | append_singleton digits digit ih =>
      have last := small digit (by simp)
      have front := ih fun other member => small other (List.mem_append_left _ member)
      rw [positional_append_singleton, List.length_append, List.length_singleton, Nat.pow_eq,
        Nat.pow_succ]
      exact push_lt front last

namespace Grammar

variable (grammar : Grammar)

/-! ## IPv4 -/

/-- At most three decimal digits, without needless zeros where these are not allowed. -/
structure SpellsOctet (text : List Char) (octet : Nat) : Prop where
  numeral : Spells 10 text octet
  small : octet < 256
  short : text.length ≤ 3
  unpadded : grammar.paddedOctets = true ∨ hasNeedlessZero text = false

inductive SpellsQuad : List Char → Nat → Prop
  | quad {fields octets} (each : List.Forall₂ grammar.SpellsOctet fields octets)
      (four : octets.length = 4) : SpellsQuad (join '.' fields) (positional 256 octets)

/-! ## IPv6 -/

/-- Groups of at most four hexadecimal digits; at the end there may be a dotted quad in place
of two groups, if this is allowed. -/
inductive SpellsGroups (quad : Bool) : List (List Char) → List Nat → Prop
  | none : SpellsGroups quad [] []
  | group {field group fields groups} (first : Spells 16 field group)
      (short : field.length ≤ 4) (others : SpellsGroups quad fields groups) :
      SpellsGroups quad (field :: fields) (group :: groups)
  | quad {field value} (allowed : quad = true) (spelled : grammar.SpellsQuad field value) :
      SpellsGroups quad [field] [value / 65536, value % 65536]

/-- Eight groups, or fewer of them around a gap that stands for zeros. -/
inductive SpellsV6 : List Char → Nat → Prop
  | full {fields groups} (spelled : grammar.SpellsGroups true fields groups)
      (eight : groups.length = 8) : SpellsV6 (join ':' fields) (positional 65536 groups)
  | gap {before left after right} (spelledLeft : grammar.SpellsGroups false before left)
      (spelledRight : grammar.SpellsGroups true after right)
      (begins : left.length < 8)
      (fits : left.length + right.length + grammar.shortestGap ≤ 8) :
      SpellsV6 (join ':' before ++ "::".toList ++ join ':' after)
        (positional 65536
          (left ++ List.replicate (8 - left.length - right.length) 0 ++ right))

def SpellsAddress : {family : Family} → List Char → Address family → Prop
  | .v4, text, address => grammar.SpellsQuad text address.value
  | .v6, text, address => grammar.SpellsV6 text address.value

variable {grammar} {text : List Char} {value : Nat}

/-! ## Reading quads -/

theorem octet?_eq_some_iff {octet : Nat} :
    grammar.octet? text = some octet ↔ grammar.SpellsOctet text octet := by
  unfold octet?
  constructor
  · intro read
    split at read
    · next shape =>
        obtain ⟨decoded, small⟩ := Option.filter_eq_some_iff.mp read
        exact ⟨(decodeNumeral?_eq_some_iff (by decide)).mp decoded, of_decide_eq_true small,
          shape.1, shape.2⟩
    · cases read
  · rintro ⟨numeral, small, short, unpadded⟩
    rw [if_pos ⟨short, unpadded⟩, (decodeNumeral?_eq_some_iff (by decide)).mpr numeral]
    simp [small]

theorem SpellsQuad.not_mem (spelled : grammar.SpellsQuad text value) {c : Char}
    (noDigit : digitValue? c = none) (noDot : c ≠ '.') : c ∉ text := by
  obtain ⟨each, -⟩ := spelled
  apply not_mem_join noDot
  intro field member
  obtain ⟨octet, -, read⟩ := exists_of_forall₂_of_mem each member
  exact read.numeral.not_mem (by decide) noDigit

theorem SpellsQuad.dot_mem (spelled : grammar.SpellsQuad text value) : '.' ∈ text := by
  obtain ⟨each, four⟩ := spelled
  cases each with
  | nil => cases four
  | cons first others =>
      cases others with
      | nil => cases four
      | cons second rest => simp [join_cons_cons]

theorem SpellsQuad.lt_size (spelled : grammar.SpellsQuad text value) : value < Family.v4.size := by
  obtain @⟨fields, octets, each, four⟩ := spelled
  have small : ∀ octet ∈ octets, octet < 256 := by
    intro octet member
    obtain ⟨field, -, read⟩ := exists_of_forall₂_of_mem each.flip member
    exact read.small
  have bound := positional_lt small
  rw [four] at bound
  exact bound

theorem v4?_eq_some_iff : grammar.v4? text = some value ↔ grammar.SpellsQuad text value := by
  unfold v4?
  constructor
  · intro read
    split at read
    · next a b c d octets =>
        cases read
        rw [mapM_eq_some] at octets
        rw [← join_split '.' text]
        exact .quad (octets.imp fun _ _ => octet?_eq_some_iff.mp) rfl
    · cases read
  · rintro @⟨fields, octets, each, four⟩
    have dotless : ∀ field ∈ fields, '.' ∉ field := by
      intro field member
      obtain ⟨octet, -, read⟩ := exists_of_forall₂_of_mem each member
      exact read.numeral.not_mem (by decide) (by decide)
    have nonempty : fields ≠ [] := by
      rintro rfl
      cases each
      cases four
    have read : fields.mapM grammar.octet? = some octets :=
      mapM_eq_some.mpr (each.imp fun _ _ => octet?_eq_some_iff.mpr)
    rw [split_join nonempty dotless, read]
    match octets, four with
    | [a, b, c, d], _ => rfl

/-! ## Reading groups -/

variable {quad : Bool} {fields : List (List Char)} {groups : List Nat}

theorem group?_eq_some_iff {group : Nat} :
    group? text = some group ↔ Spells 16 text group ∧ text.length ≤ 4 := by
  unfold group?
  split
  · next short => simp [decodeNumeral?_eq_some_iff, short]
  · next long => simp [long]

theorem SpellsGroups.isField (spelled : grammar.SpellsGroups quad fields groups) :
    ∀ field ∈ fields, IsField field ∧ '/' ∉ field := by
  induction spelled with
  | none => simp
  | group first short others ih =>
      rw [List.forall_mem_cons]
      exact ⟨⟨⟨first.ne_nil, first.not_mem (by decide) (by decide)⟩,
        first.not_mem (by decide) (by decide)⟩, ih⟩
  | quad allowed spelled =>
      rw [List.forall_mem_singleton]
      exact ⟨⟨List.ne_nil_of_mem spelled.dot_mem, spelled.not_mem (by decide) (by decide)⟩,
        spelled.not_mem (by decide) (by decide)⟩

theorem SpellsGroups.small (spelled : grammar.SpellsGroups quad fields groups) :
    ∀ group ∈ groups, group < 65536 := by
  induction spelled with
  | none => simp
  | group first short others ih =>
      rw [List.forall_mem_cons]
      have bound := first.lt_pow
      have power : Nat.pow 16 _ ≤ Nat.pow 16 4 := Nat.pow_le_pow_right (by decide) short
      exact ⟨Nat.lt_of_lt_of_le bound power, ih⟩
  | quad allowed spelled =>
      have bound : _ < 0x100000000 := spelled.lt_size
      simp
      omega

theorem spellsGroups_of_read (read : grammar.groups? quad fields = some groups) :
    grammar.SpellsGroups quad fields groups := by
  induction fields generalizing groups with
  | nil =>
      cases read
      exact .none
  | cons field fields ih =>
      cases fields with
      | nil =>
          unfold groups? at read
          split at read
          · next dotted =>
              obtain ⟨value, spelled, rfl⟩ := Option.map_eq_some_iff.mp read
              rw [Bool.and_eq_true] at dotted
              exact .quad dotted.1 (v4?_eq_some_iff.mp spelled)
          · obtain ⟨group, spelled, rfl⟩ := Option.map_eq_some_iff.mp read
            obtain ⟨numeral, short⟩ := group?_eq_some_iff.mp spelled
            exact .group numeral short .none
      | cons second others =>
          rw [groups?] at read
          · obtain ⟨group, first, read⟩ := Option.bind_eq_some_iff.mp read
            obtain ⟨rest, later, made⟩ := Option.bind_eq_some_iff.mp read
            cases made
            obtain ⟨numeral, short⟩ := group?_eq_some_iff.mp first
            exact .group numeral short (ih later)
          · simp

theorem SpellsGroups.groups?_eq (spelled : grammar.SpellsGroups quad fields groups) :
    grammar.groups? quad fields = some groups := by
  induction spelled with
  | none => rfl
  | @group field group fields groups first short others ih =>
      have read : group? field = some group := group?_eq_some_iff.mpr ⟨first, short⟩
      have dotless : '.' ∉ field := first.not_mem (by decide) (by decide)
      cases fields with
      | nil =>
          cases others
          simp [groups?, dotless, read]
      | cons second rest => simp [groups?, read, ih]
  | quad allowed spelled =>
      simp [groups?, allowed, spelled.dot_mem, v4?_eq_some_iff.mpr spelled]

theorem groups?_eq_some_iff :
    grammar.groups? quad fields = some groups ↔ grammar.SpellsGroups quad fields groups :=
  ⟨spellsGroups_of_read, SpellsGroups.groups?_eq⟩

theorem join_ne_nil {field : List Char} (isField : IsField field) (fields : List (List Char)) :
    join ':' (field :: fields) ≠ [] := by
  obtain ⟨c, rest, begins, -⟩ := exists_cons_join isField fields
  simp [begins]

theorem SpellsGroups.split_join (spelled : grammar.SpellsGroups quad fields groups)
    (nonempty : fields ≠ []) : split ':' (join ':' fields) = fields :=
  Text.split_join nonempty fun field member => (spelled.isField field member).1.2

theorem side?_eq_some_iff :
    grammar.side? quad text = some groups ↔
      ∃ fields, grammar.SpellsGroups quad fields groups ∧ text = join ':' fields := by
  unfold side?
  constructor
  · intro read
    split at read
    · next empty =>
        cases read
        exact ⟨[], .none, empty⟩
    · exact ⟨_, groups?_eq_some_iff.mp read, (join_split ':' text).symm⟩
  · rintro ⟨fields, spelled, rfl⟩
    cases fields with
    | nil =>
        cases spelled
        rfl
    | cons field others =>
        have isField := (spelled.isField field List.mem_cons_self).1
        rw [if_neg (join_ne_nil isField others), spelled.split_join (by simp),
          spelled.groups?_eq]

/-! ## Reading IPv6 -/

theorem eq_append_of_cutGap {before after : List Char} (cut : cutGap text = some (before, after)) :
    text = before ++ "::".toList ++ after := by
  fun_induction cutGap text generalizing before with
  | case1 rest =>
      cases cut
      rfl
  | case2 c rest _ ih =>
      obtain ⟨⟨front, back⟩, later, made⟩ := Option.map_eq_some_iff.mp cut
      cases made
      rw [ih later]
      rfl
  | case3 => cases cut

theorem spellsV6_of_read (read : grammar.v6? text = some value) : grammar.SpellsV6 text value := by
  unfold v6? at read
  split at read
  · obtain ⟨groups, spelled, read⟩ := Option.bind_eq_some_iff.mp read
    split at read
    · next eight =>
        cases read
        rw [← join_split ':' text]
        exact .full (groups?_eq_some_iff.mp spelled) eight
    · cases read
  · next before after cut =>
      obtain ⟨left, readLeft, read⟩ := Option.bind_eq_some_iff.mp read
      obtain ⟨right, readRight, read⟩ := Option.bind_eq_some_iff.mp read
      split at read
      · next gap =>
          cases read
          obtain ⟨fields, spelledLeft, rfl⟩ := side?_eq_some_iff.mp readLeft
          obtain ⟨others, spelledRight, rfl⟩ := side?_eq_some_iff.mp readRight
          rw [eq_append_of_cutGap cut]
          exact .gap spelledLeft spelledRight gap.1 gap.2
      · cases read

theorem SpellsV6.v6?_eq (spelled : grammar.SpellsV6 text value) :
    grammar.v6? text = some value := by
  cases spelled with
  | @full fields groups spelled eight =>
      have nonempty : fields ≠ [] := by
        rintro rfl
        cases spelled
        cases eight
      have uncut := cutGap_join fun field member => (spelled.isField field member).1
      have read := spelled.groups?_eq
      rw [← spelled.split_join nonempty] at read
      exact grammar.v6?_of_not_cut uncut read eight
  | gap spelledLeft spelledRight begins fits =>
      have cut := cutGap_join_gap fun field member => (spelledLeft.isField field member).1
      exact grammar.v6?_of_cutGap (cut _) (side?_eq_some_iff.mpr ⟨_, spelledLeft, rfl⟩)
        (side?_eq_some_iff.mpr ⟨_, spelledRight, rfl⟩) ⟨begins, fits⟩

theorem v6?_eq_some_iff : grammar.v6? text = some value ↔ grammar.SpellsV6 text value :=
  ⟨spellsV6_of_read, SpellsV6.v6?_eq⟩

theorem SpellsV6.lt_size (spelled : grammar.SpellsV6 text value) : value < Family.v6.size := by
  cases spelled with
  | full spelled eight =>
      have bound := positional_lt spelled.small
      rw [eight] at bound
      exact bound
  | @gap before left after right spelledLeft spelledRight begins fits =>
      have small : ∀ group ∈ left ++ List.replicate (8 - left.length - right.length) 0 ++ right,
          group < 65536 := by
        simp only [List.forall_mem_append]
        refine ⟨⟨spelledLeft.small, ?_⟩, spelledRight.small⟩
        intro group member
        rw [List.eq_of_mem_replicate member]
        decide
      have bound := positional_lt small
      have eight : (left ++ List.replicate (8 - left.length - right.length) 0 ++
          right).length = 8 := by
        simp only [List.length_append, List.length_replicate]
        omega
      rw [eight] at bound
      exact bound

theorem SpellsGroups.length_le (spelled : grammar.SpellsGroups quad fields groups) :
    groups.length ≤ fields.length + 1 := by
  induction spelled with
  | none => simp
  | group first short others ih =>
      rw [List.length_cons, List.length_cons]
      omega
  | quad allowed spelled => simp

theorem SpellsV6.colon_mem (spelled : grammar.SpellsV6 text value) : ':' ∈ text := by
  cases spelled with
  | @full fields groups spelled eight =>
      have several := spelled.length_le
      rw [eight] at several
      match fields, several with
      | first :: second :: others, _ => simp [join_cons_cons]
  | gap => simp

theorem SpellsV6.slash_not_mem (spelled : grammar.SpellsV6 text value) : '/' ∉ text := by
  cases spelled with
  | full spelled eight =>
      exact not_mem_join (by decide) fun field member => (spelled.isField field member).2
  | @gap before left after right spelledLeft spelledRight begins fits =>
      have front : '/' ∉ join ':' before :=
        not_mem_join (by decide) fun field member => (spelledLeft.isField field member).2
      have back : '/' ∉ join ':' after :=
        not_mem_join (by decide) fun field member => (spelledRight.isField field member).2
      simp [front, back]

end Grammar

/-! ## Addresses and subnets -/

theorem Address.value_eq_of_ofNat_eq {family : Family} {value : Nat} {address : Address family}
    (bound : value < family.size) (made : Address.ofNat value = address) :
    address.value = value := by
  rw [← made, Address.value_ofNat bound]

theorem Grammar.address?_eq_some_iff {grammar : Grammar} {family : Family} {text : List Char}
    {address : Address family} :
    grammar.address? family text = some address ↔ grammar.SpellsAddress text address := by
  unfold address? SpellsAddress
  cases family with
  | v4 =>
      simp only [Option.map_eq_some_iff, v4?_eq_some_iff]
      constructor
      · rintro ⟨value, spelled, made⟩
        rwa [Address.value_eq_of_ofNat_eq spelled.lt_size made]
      · intro spelled
        exact ⟨_, spelled, address.ofNat_value⟩
  | v6 =>
      simp only [Option.map_eq_some_iff, v6?_eq_some_iff]
      constructor
      · rintro ⟨value, spelled, made⟩
        rwa [Address.value_eq_of_ofNat_eq spelled.lt_size made]
      · intro spelled
        exact ⟨_, spelled, address.ofNat_value⟩

theorem Grammar.SpellsAddress.slash_not_mem {grammar : Grammar} {family : Family}
    {text : List Char} {address : Address family} (spelled : grammar.SpellsAddress text address) :
    '/' ∉ text := by
  cases family with
  | v4 => exact SpellsQuad.not_mem spelled (by decide) (by decide)
  | v6 => exact SpellsV6.slash_not_mem spelled

/-- An address, a slash and a prefix length of at most as many digits as the longest one has. -/
inductive Subnet.Spells {family : Family} (subnet : Subnet family) : String → Prop
  | spells {before after} (address : Grammar.withLength.SpellsAddress before subnet.address)
      (length : Text.Spells 10 after subnet.length)
      (short : after.length ≤ (encodeNumeral 10 family.width).length) :
      Spells subnet (String.ofList (before ++ '/' :: after))

theorem Family.prefixLength?_eq_some_iff {family : Family} {text : List Char} {length : Nat} :
    family.prefixLength? text = some length ↔
      Text.Spells 10 text length ∧ length ≤ family.width ∧
        text.length ≤ (encodeNumeral 10 family.width).length := by
  unfold prefixLength?
  split
  · next short => simp [decodeNumeral?_eq_some_iff, Option.filter_eq_some_iff, short]
  · next long => simp [long]

theorem split_slash_eq_iff {text before after : List Char} :
    split '/' text = [before, after] ↔
      '/' ∉ before ∧ '/' ∉ after ∧ text = before ++ '/' :: after := by
  rw [split_eq_iff, join_cons_cons, join_singleton]
  simp [and_assoc]

namespace Subnet

variable {family : Family} {text : String} {subnet : Subnet family}

theorem spells_of_read (read : Subnet.parse? family text = some subnet) :
    subnet.Spells text := by
  unfold parse? at read
  split at read
  · next before after fields =>
      obtain ⟨address, readAddress, read⟩ := Option.bind_eq_some_iff.mp read
      obtain ⟨length, readLength, read⟩ := Option.bind_eq_some_iff.mp read
      obtain ⟨numeral, bound, short⟩ := Family.prefixLength?_eq_some_iff.mp readLength
      rw [dif_pos bound] at read
      cases read
      obtain ⟨-, -, parts⟩ := split_slash_eq_iff.mp fields
      have whole : text = String.ofList (before ++ '/' :: after) := by
        rw [← parts, String.ofList_toList]
      rw [whole]
      exact .spells (Grammar.address?_eq_some_iff.mp readAddress) numeral short
  · cases read

theorem Spells.parse?_eq (spelled : subnet.Spells text) :
    Subnet.parse? family text = some subnet := by
  obtain @⟨before, after, address, length, short⟩ := spelled
  have fields : split '/' (String.ofList (before ++ '/' :: after)).toList = [before, after] := by
    rw [String.toList_ofList, split_slash_eq_iff]
    exact ⟨address.slash_not_mem, length.not_mem (by decide) (by decide), rfl⟩
  have readAddress := Grammar.address?_eq_some_iff.mpr address
  have readLength := Family.prefixLength?_eq_some_iff.mpr ⟨length, subnet.length_le, short⟩
  unfold parse?
  rw [fields]
  simp [readAddress, readLength, subnet.length_le]

theorem parse?_eq_some_iff : Subnet.parse? family text = some subnet ↔ subnet.Spells text :=
  ⟨spells_of_read, Spells.parse?_eq⟩

end Subnet

/-! ## Either family -/

def AnyAddress.Spells (address : AnyAddress) (text : String) : Prop :=
  Grammar.plain.SpellsAddress text.toList address.2

def AnySubnet.Spells (subnet : AnySubnet) (text : String) : Prop := Subnet.Spells subnet.2 text

theorem orElse_eq_some_iff {Value : Family → Type}
    (parse? : (family : Family) → Option (Value family))
    (apart : ∀ value, parse? .v6 = some value → parse? .v4 = none)
    {value : (family : Family) × Value family} :
    (((parse? .v4).map fun found => (⟨.v4, found⟩ : (family : Family) × Value family)) <|>
        (parse? .v6).map fun found => ⟨.v6, found⟩) = some value ↔
      parse? value.1 = some value.2 := by
  obtain ⟨family, value⟩ := value
  cases second : parse? .v6 with
  | none =>
      cases first : parse? .v4 <;> cases family <;> simp [first, second]
  | some found =>
      have first := apart found second
      cases family <;> simp [first, second]

theorem Grammar.address?_v4_of_spells_v6 {grammar : Grammar} {text : List Char}
    {address : Address .v6} (spelled : grammar.SpellsAddress text address) :
    grammar.address? .v4 text = none := by
  have foreign := grammar.v4?_of_mem (by decide) (by decide) (SpellsV6.colon_mem spelled)
  simp [address?, foreign]

theorem AnyAddress.parse?_eq_some_iff {text : String} {address : AnyAddress} :
    AnyAddress.parse? text = some address ↔ address.Spells text := by
  unfold AnyAddress.parse?
  rw [orElse_eq_some_iff fun family => Address.parse? family text]
  · exact Grammar.address?_eq_some_iff
  · intro other read
    exact Grammar.address?_v4_of_spells_v6 (Grammar.address?_eq_some_iff.mp read)

theorem AnySubnet.parse?_eq_some_iff {text : String} {subnet : AnySubnet} :
    AnySubnet.parse? text = some subnet ↔ subnet.Spells text := by
  unfold AnySubnet.parse?
  rw [orElse_eq_some_iff fun family => Subnet.parse? family text]
  · exact Subnet.parse?_eq_some_iff
  · intro other read
    obtain @⟨before, after, address, length, short⟩ := Subnet.parse?_eq_some_iff.mp read
    have fields : split '/' (String.ofList (before ++ '/' :: after)).toList = [before, after] := by
      rw [String.toList_ofList, split_slash_eq_iff]
      exact ⟨address.slash_not_mem, length.not_mem (by decide) (by decide), rfl⟩
    unfold Subnet.parse?
    rw [fields]
    simp [Grammar.address?_v4_of_spells_v6 address]

end NetworkPlugin
