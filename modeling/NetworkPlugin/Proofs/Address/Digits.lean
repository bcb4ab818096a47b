import NetworkPlugin.Address.Canonical
import NetworkPlugin.Address.Grammar

/-!
# Digits of addresses

The digits of a number have its value, and numerals that are joined by a separator are
found again.  So octets are read back from a dotted quad, and groups from between colons.
-/

namespace NetworkPlugin

/-! ## Characters of numerals -/

namespace Text

theorem exists_digit_of_mem_encodeNumeral {base number : Nat} {c : Char} (low : 2 ≤ base)
    (member : c ∈ encodeNumeral base number) : ∃ digit < base, c = Nat.digitChar digit := by
  unfold encodeNumeral at member
  induction number using Nat.strongRecOn with
  | ind number ih =>
      by_cases small : number < base
      · rw [Nat.toDigits_of_lt_base small, List.mem_singleton] at member
        exact ⟨number, small, member⟩
      · have smaller : number / base < number :=
          Nat.div_lt_self (by omega) (by omega)
        rw [Nat.toDigits_of_base_le (by omega) (by omega), List.mem_append,
          List.mem_singleton] at member
        rcases member with front | last
        · exact ih _ smaller front
        · exact ⟨number % base, Nat.mod_lt _ (by omega), last⟩

theorem not_mem_encodeNumeral {base : Nat} {c : Char} (low : 2 ≤ base) (high : base ≤ 16)
    (noDigit : digitValue? c = none) (number : Nat) : c ∉ encodeNumeral base number := by
  intro member
  obtain ⟨digit, below, rfl⟩ := exists_digit_of_mem_encodeNumeral low member
  rw [digitValue?_digitChar (by omega)] at noDigit
  cases noDigit

theorem decodeNumeral?_of_mem {base : Nat} {c : Char} {text : List Char}
    (noDigit : digitValue? c = none) (member : c ∈ text) : decodeNumeral? base text = none := by
  have fails (number : Nat) : text.foldlM (pushDigit? base) number = none := by
    induction text generalizing number with
    | nil => cases member
    | cons first rest ih =>
        rw [List.foldlM_cons]
        rcases List.mem_cons.mp member with rfl | later
        · simp [pushDigit?, noDigit]
        · cases pushDigit? base number first with
          | none => rfl
          | some next => exact ih later next
  unfold decodeNumeral?
  rw [if_neg (List.ne_nil_of_mem member), fails]

theorem encodeNumeral_ne_nil (base number : Nat) : encodeNumeral base number ≠ [] :=
  Nat.toDigits_ne_nil

theorem not_mem_join {c separator : Char} {fields : List (List Char)} (differ : c ≠ separator)
    (absent : ∀ field ∈ fields, c ∉ field) : c ∉ join separator fields := by
  unfold join
  induction fields with
  | nil => simp
  | cons field fields ih =>
      have here := absent field List.mem_cons_self
      have later := ih fun other member => absent other (List.mem_cons_of_mem _ member)
      cases fields with
      | nil => simpa using here
      | cons second others =>
          rw [List.intercalate_cons_cons]
          simp [here, differ, later]

theorem not_mem_join_encodeNumeral {base : Nat} {c separator : Char} (low : 2 ≤ base)
    (high : base ≤ 16) (noDigit : digitValue? c = none) (differ : c ≠ separator)
    (numbers : List Nat) : c ∉ join separator (numbers.map (encodeNumeral base)) := by
  apply not_mem_join differ
  intro field member
  obtain ⟨number, -, rfl⟩ := List.mem_map.mp member
  exact not_mem_encodeNumeral low high noDigit number

theorem split_join_encodeNumeral {base : Nat} {separator : Char} (low : 2 ≤ base)
    (high : base ≤ 16) (noDigit : digitValue? separator = none) {numbers : List Nat}
    (nonempty : numbers ≠ []) :
    split separator (join separator (numbers.map (encodeNumeral base))) =
      numbers.map (encodeNumeral base) := by
  apply split_join
  · simpa using nonempty
  · intro field member
    obtain ⟨number, -, rfl⟩ := List.mem_map.mp member
    exact not_mem_encodeNumeral low high noDigit number

end Text

open Text

/-! ## Positional values -/

theorem mem_digitsOf {base count number digit : Nat} (positive : 0 < base)
    (member : digit ∈ digitsOf base count number) : digit < base := by
  induction count generalizing number with
  | zero => simp [digitsOf] at member
  | succ count ih =>
      rw [digitsOf, List.mem_append, List.mem_singleton] at member
      rcases member with front | rfl
      · exact ih front
      · exact Nat.mod_lt _ positive

theorem positional_digitsOf (base count number : Nat) :
    Grammar.positional base (digitsOf base count number) = number % Nat.pow base count := by
  induction count generalizing number with
  | zero => simp [digitsOf, Grammar.positional, Nat.mod_one]
  | succ count ih =>
      have front := ih (number / base)
      have power : Nat.pow base (count + 1) = base * Nat.pow base count := Nat.pow_succ'
      unfold Grammar.positional at front ⊢
      rw [digitsOf, List.foldl_append, front, power, Nat.mod_mul]
      simp [Nat.mul_comm, Nat.add_comm]

namespace Grammar

variable (grammar : Grammar)

/-! ## IPv4 -/

theorem octet?_encodeNumeral {octet : Nat} (small : octet < 256) :
    grammar.octet? (encodeNumeral 10 octet) = some octet := by
  have plain : ∀ octet : Fin 256, (encodeNumeral 10 octet).length ≤ 3 ∧
      hasNeedlessZero (encodeNumeral 10 octet) = false := by
    decide +kernel
  obtain ⟨short, canonical⟩ := plain ⟨octet, small⟩
  unfold octet?
  rw [if_pos ⟨short, .inr canonical⟩, decodeNumeral?_encodeNumeral (by omega) (by omega)]
  simp [small]

theorem v4?_encodeQuad {value : Nat} (small : value < 0x100000000) :
    grammar.v4? (encodeQuad value) = some value := by
  have fields : split '.' (encodeQuad value) =
      (digitsOf 256 4 value).map (encodeNumeral 10) :=
    split_join_encodeNumeral (by omega) (by omega) (by decide) (by simp [digitsOf])
  have octets : ((digitsOf 256 4 value).map (encodeNumeral 10)).mapM grammar.octet? =
      some (digitsOf 256 4 value) := by
    have each : ∀ digits : List Nat, (∀ digit ∈ digits, digit < 256) →
        (digits.map (encodeNumeral 10)).mapM grammar.octet? = some digits := by
      intro digits bounded
      induction digits with
      | nil => rfl
      | cons digit digits ih =>
          have first := grammar.octet?_encodeNumeral (bounded digit List.mem_cons_self)
          have others := ih fun other member => bounded other (List.mem_cons_of_mem _ member)
          simp [first, others]
    exact each _ fun digit member => mem_digitsOf (by omega) member
  have number : positional 256 (digitsOf 256 4 value) = value % 0x100000000 :=
    positional_digitsOf 256 4 value
  rw [Nat.mod_eq_of_lt small] at number
  unfold v4?
  rw [fields, octets]
  simpa [digitsOf] using number

theorem v4?_of_mem {c : Char} {text : List Char} (noDigit : digitValue? c = none)
    (noDot : c ≠ '.') (member : c ∈ text) : grammar.v4? text = none := by
  have octets (fields : List (List Char)) {field : List Char} (listed : field ∈ fields)
      (within : c ∈ field) : fields.mapM grammar.octet? = none := by
    induction fields with
    | nil => cases listed
    | cons first rest ih =>
        rw [List.mapM_cons]
        rcases List.mem_cons.mp listed with rfl | later
        · simp [octet?, decodeNumeral?_of_mem noDigit within]
        · rw [ih later]
          cases grammar.octet? first <;> rfl
  unfold v4?
  cases whole : (split '.' text).mapM grammar.octet? with
  | none => rfl
  | some values =>
      rw [← join_split '.' text] at member
      refine absurd member (not_mem_join noDot ?_)
      intro field listed within
      rw [octets _ listed within] at whole
      cases whole

/-! ## Groups of IPv6 -/

theorem group?_encodeNumeral {group : Nat} (small : group < 65536) :
    group? (encodeNumeral 16 group) = some group := by
  have short : (encodeNumeral 16 group).length ≤ 4 :=
    (Nat.length_toDigits_le_iff (by omega) (by omega)).mpr (by omega)
  unfold group?
  rw [if_pos short, decodeNumeral?_encodeNumeral (by omega) (by omega)]

theorem groups?_map_encodeNumeral (quad : Bool) {groups : List Nat}
    (small : ∀ group ∈ groups, group < 65536) :
    grammar.groups? quad (groups.map (encodeNumeral 16)) = some groups := by
  induction groups with
  | nil => rfl
  | cons group groups ih =>
      have first := group?_encodeNumeral (small group List.mem_cons_self)
      have others := ih fun other member => small other (List.mem_cons_of_mem _ member)
      have noDot : '.' ∉ encodeNumeral 16 group :=
        not_mem_encodeNumeral (by omega) (by omega) (by decide) group
      cases groups with
      | nil => simp [groups?, noDot, first]
      | cons second rest =>
          simp only [List.map_cons] at others ⊢
          simp [groups?, first, others]

end Grammar

end NetworkPlugin
