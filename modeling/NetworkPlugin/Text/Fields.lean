/-!
# Separated fields

A text is cut at every occurrence of a separator.  There is always at least one
field, and joining the fields again with the separator restores the text.
-/

namespace NetworkPlugin.Text

def consField (c : Char) : List (List Char) → List (List Char)
  | [] => [[c]]
  | field :: fields => (c :: field) :: fields

def split (separator : Char) : List Char → List (List Char)
  | [] => [[]]
  | c :: rest =>
      if c = separator then [] :: split separator rest
      else consField c (split separator rest)

def join (separator : Char) (fields : List (List Char)) : List Char :=
  [separator].intercalate fields

theorem join_singleton (separator : Char) (field : List Char) :
    join separator [field] = field := by
  simp [join]

theorem join_cons_cons (separator : Char) (field second : List Char)
    (others : List (List Char)) :
    join separator (field :: second :: others) =
      field ++ separator :: join separator (second :: others) := by
  simp [join, List.intercalate_cons_cons]

theorem split_ne_nil (separator : Char) (text : List Char) :
    split separator text ≠ [] := by
  cases text with
  | nil => simp [split]
  | cons c rest =>
      unfold split
      split
      · simp
      · cases split separator rest <;> simp [consField]

theorem join_split (separator : Char) (text : List Char) :
    join separator (split separator text) = text := by
  induction text with
  | nil => rfl
  | cons c rest ih =>
      unfold split
      have nonempty := split_ne_nil separator rest
      split
      · next h =>
          subst h
          cases hs : split c rest with
          | nil => exact absurd hs nonempty
          | cons field fields =>
              rw [hs] at ih
              simpa [join] using ih
      · cases hs : split separator rest with
        | nil => exact absurd hs nonempty
        | cons field fields =>
            rw [hs] at ih
            cases fields with
            | nil => simpa [consField, join] using ih
            | cons second others => simpa [consField, join] using ih

theorem split_of_not_mem {separator : Char} {text : List Char}
    (h : separator ∉ text) : split separator text = [text] := by
  induction text with
  | nil => rfl
  | cons c rest ih =>
      have hc : c ≠ separator := fun e => h (e ▸ List.mem_cons_self)
      have hrest : separator ∉ rest := fun m => h (List.mem_cons_of_mem _ m)
      simp [split, hc, ih hrest, consField]

theorem split_append_cons {separator : Char} {field : List Char} (rest : List Char)
    (h : separator ∉ field) :
    split separator (field ++ separator :: rest) = field :: split separator rest := by
  induction field with
  | nil => simp [split]
  | cons c field ih =>
      have hc : c ≠ separator := fun e => h (e ▸ List.mem_cons_self)
      have hfield : separator ∉ field := fun m => h (List.mem_cons_of_mem _ m)
      simp [split, hc, ih hfield, consField]

theorem split_join {separator : Char} {fields : List (List Char)} (nonempty : fields ≠ [])
    (h : ∀ field ∈ fields, separator ∉ field) :
    split separator (join separator fields) = fields := by
  induction fields with
  | nil => exact absurd rfl nonempty
  | cons field fields ih =>
      have hfield := h field List.mem_cons_self
      cases fields with
      | nil => simp [join, split_of_not_mem hfield]
      | cons second others =>
          have hothers : ∀ other ∈ second :: others, separator ∉ other :=
            fun other m => h other (List.mem_cons_of_mem _ m)
          have tail := ih (by simp) hothers
          unfold join at tail ⊢
          rw [List.intercalate_cons_cons, List.append_assoc, List.singleton_append,
            split_append_cons _ hfield, tail]

end NetworkPlugin.Text
