import Mathlib.Logic.Relation
import NetworkPlugin.Proofs.Wire.Places
import NetworkPlugin.Proofs.Wire.Record

/-!
# Respelled objects

The members of an object may be spelled out in many ways that come to the same record: in
another order, with members of other names, and with nulls for what may be left out.  Each of
these changes is shown to leave the record as it is, and so does any chain of them.
-/

namespace NetworkPlugin

open Json

/-! ## Changes of objects -/

/-- A change of the members of an object of which some names are known.  Members of other names
may come and go if they have a name and a value at all (half of an escaped surrogate pair makes no
name), and so may nulls where there is nothing else of the name; some values may be changed
inside. -/
inductive Edit (known : List String) (inside : String → Doc → Doc → Prop) :
    List (Key × Doc) → List (Key × Doc) → Prop
  | permuted {members others} (moved : members.Perm others) : Edit known inside members others
  | unknown {key name value members} (named : key.name = .ok name) (unknown : name ∉ known)
      (whole : value.ignored = .ok ()) : Edit known inside ((key, value) :: members) members
  | null {key name stop members} (named : key.name = .ok name) (mayBeNull : name ∈ known)
      (alone : ∀ member ∈ members, member.1.name ≠ .ok name) :
      Edit known inside ((key, .null stop) :: members) members
  | inside {key name value other members} (named : key.name = .ok name) (isKnown : name ∈ known)
      (edit : inside name value other) :
      Edit known inside ((key, value) :: members) ((key, other) :: members)

/-- Members that come from each other by such changes, wherever they stand in a text. -/
def Respelled (known : List String) (inside : String → Doc → Doc → Prop)
    (members others : List (Key × Doc)) : Prop :=
  Relation.EqvGen (Edit known inside) (Doc.bareMembers members) (Doc.bareMembers others)

inductive EditsRecord (known : List String) : Doc → Doc → Prop
  | object {opening members others stop}
      (edit : Edit known (fun _ _ _ => False) members others) :
      EditsRecord known (.object opening members (.closed stop))
        (.object opening others (.closed stop))

namespace Schema

variable {Record : Type} {schema : Schema Record} {level : Nat} {parts : List (Part Record)}
  {part : Part Record}

/-! ## Records from objects -/

/-- What the members of an object come to, when some names were seen before and there is a
record to start from. -/
structure Reads (parts : List (Part Record)) (seen : List String) (start : Record)
    (members : List (Key × Doc)) (record : Record) : Prop where
  named : ∀ member ∈ members, ∃ name, member.1.name = .ok name ∧
    (name ∉ parts.map (·.name) → member.2.ignored = .ok ())
  fresh : ∀ part ∈ parts, part.name ∈ seen → ∀ member ∈ members, member.1.name ≠ .ok part.name
  distinct : members.Pairwise fun one other =>
    ∀ part ∈ parts, ¬ (one.1.name = .ok part.name ∧ other.1.name = .ok part.name)
  set : ∀ part ∈ parts, ∀ member ∈ members, member.1.name = .ok part.name →
    part.codec.read member.2 = .ok (part.get record)
  unset : ∀ part ∈ parts, (∀ member ∈ members, member.1.name ≠ .ok part.name) →
    part.get record = part.get start

theorem Reads.permuted {seen : List String} {start record : Record}
    {members others : List (Key × Doc)} (reads : Reads parts seen start members record)
    (moved : members.Perm others) : Reads parts seen start others record where
  named := fun member listed => reads.named member (moved.mem_iff.mpr listed)
  fresh := fun part known seen member listed =>
    reads.fresh part known seen member (moved.mem_iff.mpr listed)
  distinct := reads.distinct.perm moved fun apart part known both => apart part known both.symm
  set := fun part known member listed => reads.set part known member (moved.mem_iff.mpr listed)
  unset := fun part known absent =>
    reads.unset part known fun member listed => absent member (moved.mem_iff.mp listed)

namespace Lawful

variable {seen : List String} {start record : Record} {member : Key × Doc}
  {members others : List (Key × Doc)}

theorem reads_nil (lawful : schema.Lawful level parts) :
    Reads parts seen start [] record ↔ start = record := by
  constructor
  · intro reads
    exact lawful.ext fun part listed => (reads.unset part listed (by simp)).symm
  · rintro rfl
    exact ⟨by simp, by simp, .nil, by simp, fun _ _ _ => rfl⟩

theorem reads_cons_unknown {name : String} (named : member.1.name = .ok name)
    (unknown : name ∉ parts.map (·.name)) :
    Reads parts seen start (member :: members) record ↔
      member.2.ignored = .ok () ∧ Reads parts seen start members record := by
  have other (part : Part Record) (listed : part ∈ parts) : member.1.name ≠ .ok part.name := by
    rw [named]
    intro same
    cases same
    exact unknown (List.mem_map_of_mem listed)
  constructor
  · intro reads
    obtain ⟨_, same, ignored⟩ := reads.named member List.mem_cons_self
    cases named.symm.trans same
    exact ⟨ignored unknown,
      { named := (List.forall_mem_cons.mp reads.named).2
        fresh := fun part listed seen => (List.forall_mem_cons.mp (reads.fresh part listed seen)).2
        distinct := (List.pairwise_cons.mp reads.distinct).2
        set := fun part listed => (List.forall_mem_cons.mp (reads.set part listed)).2
        unset := fun part listed absent =>
          reads.unset part listed (List.forall_mem_cons.mpr ⟨other part listed, absent⟩) }⟩
  · rintro ⟨ignored, reads⟩
    exact
      { named := List.forall_mem_cons.mpr ⟨⟨name, named, fun _ => ignored⟩, reads.named⟩
        fresh := fun part listed seen =>
          List.forall_mem_cons.mpr ⟨other part listed, reads.fresh part listed seen⟩
        distinct := List.pairwise_cons.mpr
          ⟨fun _ _ part listed both => other part listed both.1, reads.distinct⟩
        set := fun part listed => List.forall_mem_cons.mpr
          ⟨fun same => absurd same (other part listed), reads.set part listed⟩
        unset := fun part listed absent =>
          reads.unset part listed (List.forall_mem_cons.mp absent).2 }

theorem reads_cons_known (lawful : schema.Lawful level parts) (listed : part ∈ parts)
    (named : member.1.name = .ok part.name) :
    Reads parts seen start (member :: members) record ↔
      part.name ∉ seen ∧ ∃ value, part.codec.read member.2 = .ok value ∧
        Reads parts (part.name :: seen) (part.set value start) members record := by
  have eq_of_named {other : Part Record} (known : other ∈ parts)
      (same : member.1.name = .ok other.name) : other = part :=
    lawful.eq_of_name_eq known listed (Except.ok.inj (same.symm.trans named))
  constructor
  · -- What is read here stays, since no later member has the name.
    intro reads
    have alone : ∀ other ∈ members, other.1.name ≠ .ok part.name := fun other later same =>
      (List.pairwise_cons.mp reads.distinct).1 other later part listed ⟨named, same⟩
    have read := reads.set part listed member List.mem_cons_self named
    refine ⟨fun known => reads.fresh part listed known member List.mem_cons_self named,
      part.get record, read,
      { named := (List.forall_mem_cons.mp reads.named).2
        fresh := ?_
        distinct := (List.pairwise_cons.mp reads.distinct).2
        set := fun other known => (List.forall_mem_cons.mp (reads.set other known)).2
        unset := ?_ }⟩
    · intro other known found
      rcases List.mem_cons.mp found with same | earlier
      · rwa [same]
      · exact (List.forall_mem_cons.mp (reads.fresh other known earlier)).2
    · intro other known absent
      by_cases same : other.name = part.name
      · obtain rfl := lawful.eq_of_name_eq known listed same
        rw [other.get_set]
      · rw [lawful.get_set_of_ne known listed same]
        refine reads.unset other known (List.forall_mem_cons.mpr ⟨fun isNamed => ?_, absent⟩)
        exact same (congrArg Part.name (eq_of_named known isNamed))
  · rintro ⟨unseen, value, read, reads⟩
    have alone := reads.fresh part listed List.mem_cons_self
    have got : part.get record = value := by
      rw [reads.unset part listed alone, part.get_set]
    refine
      { named := List.forall_mem_cons.mpr ⟨⟨part.name, named, fun unknown => ?_⟩, reads.named⟩
        fresh := fun other known found => List.forall_mem_cons.mpr ⟨fun same => ?_, ?_⟩
        distinct := List.pairwise_cons.mpr ⟨?_, reads.distinct⟩
        set := fun other known => List.forall_mem_cons.mpr ⟨fun same => ?_, reads.set other known⟩
        unset := fun other known absent => ?_ }
    · exact absurd (List.mem_map_of_mem listed) unknown
    · rw [eq_of_named known same] at found
      exact unseen found
    · exact reads.fresh other known (List.mem_cons_of_mem _ found)
    · rintro other later another known ⟨same, sameToo⟩
      rw [eq_of_named known same] at sameToo
      exact alone other later sameToo
    · obtain rfl := eq_of_named known same
      rw [read, got]
    · obtain ⟨here, later⟩ := List.forall_mem_cons.mp absent
      have differ : other.name ≠ part.name := fun same => here (by rw [named, same])
      rw [reads.unset other known later, lawful.get_set_of_ne known listed differ]

/-- Members are read one after the other, but what comes of it is told by their names alone. -/
theorem foldlM_readMember_iff (lawful : schema.Lawful level parts) :
    (∃ names, members.foldlM schema.readMember ⟨start, seen⟩ = .ok ⟨record, names⟩) ↔
      Reads parts seen start members record := by
  induction members generalizing start seen with
  | nil =>
      rw [lawful.reads_nil, List.foldlM_nil]
      constructor
      · rintro ⟨names, same⟩
        cases same
        rfl
      · rintro rfl
        exact ⟨seen, rfl⟩
  | cons member members ih =>
      rw [List.foldlM_cons]
      cases named : member.1.name with
      | error fault =>
          refine iff_of_false ?_ fun reads => ?_
          · rintro ⟨names, read⟩
            simp [readMember, named, Except.error_bind] at read
          · obtain ⟨name, same, -⟩ := reads.named member List.mem_cons_self
            cases named.symm.trans same
      | ok name =>
          by_cases known : name ∈ parts.map (·.name)
          · obtain ⟨part, listed, rfl⟩ := List.mem_map.mp known
            simp only [lawful.reads_cons_known listed named, ← ih, Except.bind_eq_ok,
              lawful.readMember_eq_ok_of_known listed named]
            constructor
            · rintro ⟨names, _, ⟨unseen, value, read, rfl⟩, others⟩
              exact ⟨unseen, value, read, names, others⟩
            · rintro ⟨unseen, value, read, names, others⟩
              exact ⟨names, _, ⟨unseen, value, read, rfl⟩, others⟩
          · simp only [reads_cons_unknown named known, ← ih, Except.bind_eq_ok,
              lawful.readMember_eq_ok_of_unknown named known]
            constructor
            · rintro ⟨names, _, ⟨ignored, rfl⟩, others⟩
              exact ⟨ignored, names, others⟩
            · rintro ⟨ignored, names, others⟩
              exact ⟨names, _, ⟨ignored, rfl⟩, others⟩

theorem reads_cons_null (lawful : schema.Lawful level parts) (listed : part ∈ parts)
    (nullable : part.Nullable schema.blank) {key : Key} {stop : Nat}
    (named : key.name = .ok part.name)
    (alone : ∀ member ∈ members, member.1.name ≠ .ok part.name) :
    Reads parts [] schema.blank ((key, .null stop) :: members) record ↔
      Reads parts [] schema.blank members record := by
  have unchanged : part.set (part.get schema.blank) schema.blank = schema.blank := by
    refine lawful.ext fun other known => ?_
    by_cases same : other.name = part.name
    · obtain rfl := lawful.eq_of_name_eq known listed same
      exact other.get_set _ _
    · exact lawful.get_set_of_ne known listed same _ _
  rw [lawful.reads_cons_known listed named]
  constructor
  · rintro ⟨-, value, read, reads⟩
    cases (nullable.null stop).symm.trans read
    rw [unchanged] at reads
    exact { reads with fresh := fun _ _ seen => absurd seen List.not_mem_nil }
  · intro reads
    refine ⟨List.not_mem_nil, _, nullable.null stop, ?_⟩
    rw [unchanged]
    refine { reads with fresh := fun other known seen => ?_ }
    rw [List.mem_singleton.mp seen]
    exact alone

theorem readObject_eq_ok_iff (lawful : schema.Lawful level parts)
    (nullable : ∀ part ∈ parts, part.Nullable schema.blank) {stop : Nat} :
    schema.readObject members (.closed stop) = .ok record ↔
      Reads parts [] schema.blank members record := by
  have complete (names : List String) : schema.missing? names = none := by
    rw [missing?, Option.map_eq_none_iff, List.find?_eq_none, lawful.fields]
    intro field listed
    obtain ⟨part, known, rfl⟩ := List.mem_map.mp listed
    simp [Part.field, Field.of, (nullable part known).allowed]
  rw [← lawful.foldlM_readMember_iff]
  simp only [readObject, Tail.closed?, Except.ok_bind, complete, Except.bind_eq_ok]
  constructor
  · rintro ⟨⟨_, names⟩, read, same⟩
    cases same
    exact ⟨names, read⟩
  · rintro ⟨names, read⟩
    exact ⟨_, read, rfl⟩

end Lawful

/-! ## Schemas that do not mind -/

structure Forgiving (schema : Schema Record) (inside : String → Doc → Doc → Prop) : Prop where
  nullable : ∃ level, schema.Nullable level
  placeless : schema.Placeless
  inside : ∀ field ∈ schema.fields, ∀ value other, inside field.name value other →
    (field.read value).Agree (field.read other)

namespace Forgiving

variable {inside : String → Doc → Doc → Prop} {members others : List (Key × Doc)}

theorem readMember_agree (forgiving : schema.Forgiving inside) {key : Key} {name : String}
    {value other : Doc} (named : key.name = .ok name) (known : name ∈ schema.fields.map (·.name))
    (edit : inside name value other) (progress : Progress Record) :
    (schema.readMember progress (key, value)).Agree (schema.readMember progress (key, other)) := by
  simp only [readMember, named, Except.ok_bind]
  split
  · next unfound =>
      obtain ⟨field, listed, same⟩ := List.mem_map.mp known
      exact absurd (decide_eq_true same) (List.find?_eq_none.mp unfound field listed)
  · next field found =>
      have same : field.name = name := by simpa using List.find?_some found
      subst same
      split
      · exact .error _ _
      · exact .bind (forgiving.inside field (List.mem_of_find?_eq_some found) _ _ edit)
          fun _ => .refl _

theorem readObject_edit (forgiving : schema.Forgiving inside)
    (edit : Edit (schema.fields.map (·.name)) inside members others) (stop : Nat) :
    (schema.readObject members (.closed stop)).Agree
      (schema.readObject others (.closed stop)) := by
  obtain ⟨level, parts, lawful, nullable⟩ := forgiving.nullable
  cases edit with
  | permuted moved =>
      intro record
      rw [lawful.readObject_eq_ok_iff nullable, lawful.readObject_eq_ok_iff nullable]
      exact ⟨fun reads => reads.permuted moved, fun reads => reads.permuted moved.symm⟩
  | unknown named unknown whole =>
      intro record
      rw [lawful.map_name_fields] at unknown
      rw [lawful.readObject_eq_ok_iff nullable, lawful.readObject_eq_ok_iff nullable,
        Lawful.reads_cons_unknown named unknown, and_iff_right whole]
  | null named mayBeNull alone =>
      intro record
      rw [lawful.map_name_fields] at mayBeNull
      obtain ⟨part, listed, rfl⟩ := List.mem_map.mp mayBeNull
      rw [lawful.readObject_eq_ok_iff nullable, lawful.readObject_eq_ok_iff nullable,
        lawful.reads_cons_null listed (nullable part listed) named alone]
  | inside named isKnown edit =>
      rw [readObject, readObject, List.foldlM_cons, List.foldlM_cons]
      refine .bind (.bind (forgiving.readMember_agree named isKnown edit _) ?_) fun _ => .refl _
      exact fun _ => .refl _

theorem readObject_edits (forgiving : schema.Forgiving inside)
    (edits : Relation.EqvGen (Edit (schema.fields.map (·.name)) inside) members others)
    (stop : Nat) :
    (schema.readObject members (.closed stop)).Agree
      (schema.readObject others (.closed stop)) := by
  induction edits with
  | rel members others edit => exact forgiving.readObject_edit edit stop
  | refl members => exact .refl _
  | symm members others _ ih => exact ih.symm
  | trans members middle others _ _ ih ihOthers => exact ih.trans ihOthers

/-- However its members are spelled out, an object is read as the same record. -/
theorem readObject_respelled (forgiving : schema.Forgiving inside)
    (respelled : Respelled (schema.fields.map (·.name)) inside members others)
    (stop other : Nat) :
    (schema.readObject members (.closed stop)).Agree
      (schema.readObject others (.closed other)) := by
  have forget := readObject_bare forgiving.placeless members (.closed stop)
  have forgetToo := readObject_bare forgiving.placeless others (.closed other)
  exact (forget.symm.trans (forgiving.readObject_edits respelled 0)).trans forgetToo

theorem read_respelled (forgiving : schema.Forgiving inside)
    (respelled : Respelled (schema.fields.map (·.name)) inside members others)
    {opening openingToo : Opening} (level : opening.level = openingToo.level) (stop other : Nat) :
    (schema.read (.object opening members (.closed stop))).Agree
      (schema.read (.object openingToo others (.closed other))) :=
  .bind (Opening.admitted_agree level) fun _ => forgiving.readObject_respelled respelled stop other

theorem read_edit (forgiving : schema.Forgiving fun _ _ _ => False) {doc other : Doc}
    (edit : EditsRecord (schema.fields.map (·.name)) doc other) :
    (schema.codec.read doc).Agree (schema.codec.read other) := by
  obtain ⟨edit⟩ := edit
  exact .bind (.refl _) fun _ => forgiving.readObject_edit edit _

end Forgiving

end Schema

end NetworkPlugin
