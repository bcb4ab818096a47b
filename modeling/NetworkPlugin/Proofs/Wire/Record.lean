import Mathlib.Data.List.Nodup
import Mathlib.Data.List.Pairwise
import NetworkPlugin.Proofs.Wire.Codec
import NetworkPlugin.Wire.Record

/-!
# Records that return

A record is made up of the values of its fields, which are read and set independently of
each other.  A record whose values return does so itself: a value that is not written is
the one that the field has from the start.
-/

namespace NetworkPlugin

open Json

structure Part (Record : Type) where
  {Value : Type}
  {name label : String}
  {absence : Absence}
  {codec : Codec Value}
  {omits : Value → Bool}
  {get : Record → Value}
  {set : Value → Record → Record}
  get_set : ∀ value record, get (set value record) = value

namespace Part

variable {Record : Type}

def field (part : Part Record) : Field Record :=
  .of part.name part.label part.absence part.codec part.omits part.get part.set

def Apart (one other : Part Record) : Prop :=
  (∀ value record, one.get (other.set value record) = one.get record) ∧
    ∀ value record, other.get (one.set value record) = other.get record

instance : Std.Symm (@Apart Record) :=
  ⟨fun _ _ apart => ⟨apart.2, apart.1⟩⟩

def Returns (part : Part Record) (level : Nat) (record : Record) : Prop :=
  part.codec.Returns level (part.get record)

/-- Inside of so many containers, what is read for the part returns, and so does what the
part has from the start; nothing else is left out when the part is written. -/
structure Sound (part : Part Record) (level : Nat) (blank : Record) : Prop where
  steady : part.codec.Steady level
  start : part.Returns level blank
  omitted : ∀ value, part.omits value = true →
    value = part.get blank ∧ part.absence.allowsMember = true

/-- The part may be left out, and null stands for what it has from the start. -/
structure Nullable (part : Part Record) (blank : Record) : Prop where
  allowed : part.absence.allowsMember = true
  null : ∀ stop, part.codec.read (.null stop) = .ok (part.get blank)

section

variable {Value : Type} {name label : String} {absence : Absence} {codec : Codec Value}
  {get : Record → Value} {set : Value → Record → Record}
  {get_set : ∀ value record, get (set value record) = value} {level : Nat} {blank : Record}

theorem Sound.written (steady : codec.Steady level) (start : codec.Returns level (get blank)) :
    Sound (@Part.mk _ _ name label absence codec (fun _ => false) get set get_set) level blank :=
  ⟨steady, start, fun _ omitted => absurd omitted Bool.false_ne_true⟩

theorem Sound.unlessOmitted {omits : Value → Bool} (steady : codec.Steady level)
    (start : codec.Returns level (get blank))
    (omitted : ∀ value, omits value = true → value = get blank)
    (allowed : absence.allowsMember = true) :
    Sound (@Part.mk _ _ name label absence codec omits get set get_set) level blank :=
  ⟨steady, start, fun value left => ⟨omitted value left, allowed⟩⟩

end

theorem field_read_eq_ok {part : Part Record} {doc : Doc} {change : Record → Record} :
    part.field.read doc = .ok change ↔
      ∃ value, part.codec.read doc = .ok value ∧ part.set value = change :=
  Except.map_eq_ok

end Part

namespace Schema

variable {Record : Type}

/-- The fields of a schema are made of such parts, inside of so many containers, and there is
nothing else in a record. -/
structure Lawful (schema : Schema Record) (level : Nat) (parts : List (Part Record)) : Prop where
  fields : schema.fields = parts.map Part.field
  distinct : (parts.map (·.name)).Nodup
  apart : parts.Pairwise Part.Apart
  whole : ∀ record,
    parts.foldl (fun made part => part.set (part.get record) made) schema.blank = record
  sound : ∀ part ∈ parts, part.Sound level schema.blank

namespace Lawful

variable {schema : Schema Record} {level : Nat} {parts : List (Part Record)}
  {part other : Part Record}

theorem eq_of_name_eq (lawful : schema.Lawful level parts) (member : part ∈ parts)
    (memberToo : other ∈ parts) (same : part.name = other.name) : part = other :=
  List.inj_on_of_nodup_map lawful.distinct member memberToo same

theorem get_set_of_ne (lawful : schema.Lawful level parts) (member : part ∈ parts)
    (memberToo : other ∈ parts) (differ : part.name ≠ other.name) (value : other.Value)
    (record : Record) : part.get (other.set value record) = part.get record := by
  have apart : part.Apart other :=
    lawful.apart.forall member memberToo fun same => differ (congrArg Part.name same)
  exact apart.1 value record

theorem ext (lawful : schema.Lawful level parts) {one another : Record}
    (same : ∀ part ∈ parts, part.get one = part.get another) : one = another := by
  rw [← lawful.whole one, ← lawful.whole another]
  refine List.foldl_ext _ _ _ fun made part member => ?_
  rw [same part member]

theorem returns_set (lawful : schema.Lawful level parts) (member : part ∈ parts)
    {value : part.Value} {record : Record} (returns : part.codec.Returns level value)
    (each : ∀ other ∈ parts, other.Returns level record) :
    ∀ other ∈ parts, other.Returns level (part.set value record) := by
  intro other memberToo
  unfold Part.Returns
  by_cases same : other.name = part.name
  · obtain rfl := lawful.eq_of_name_eq memberToo member same
    rw [other.get_set]
    exact returns
  · rw [lawful.get_set_of_ne memberToo member same]
    exact each other memberToo

theorem exists_of_find? (lawful : schema.Lawful level parts) {name : String}
    {field : Field Record} (found : schema.fields.find? (·.name = name) = some field) :
    ∃ part ∈ parts, field = part.field ∧ part.name = name := by
  have member := List.mem_of_find?_eq_some found
  rw [lawful.fields] at member
  obtain ⟨part, listed, rfl⟩ := List.mem_map.mp member
  have named : part.field.name = name := by simpa using List.find?_some found
  exact ⟨part, listed, rfl, named⟩

theorem find?_name (lawful : schema.Lawful level parts) (member : part ∈ parts) :
    schema.fields.find? (·.name = part.name) = some part.field := by
  have listed : part.field ∈ schema.fields := by
    rw [lawful.fields]
    exact List.mem_map_of_mem member
  cases found : schema.fields.find? (·.name = part.name) with
  | none => exact absurd (List.find?_eq_none.mp found _ listed) (by simp [Part.field, Field.of])
  | some field =>
      obtain ⟨other, memberToo, rfl, same⟩ := lawful.exists_of_find? found
      rw [lawful.eq_of_name_eq memberToo member same]

theorem map_name_fields (lawful : schema.Lawful level parts) :
    schema.fields.map (·.name) = parts.map (·.name) := by
  rw [lawful.fields, List.map_map]
  rfl

/-! ## Reading members -/

theorem readMember_eq_ok_of_known (lawful : schema.Lawful level parts)
    {progress after : Progress Record} {member : Key × Doc} (listed : part ∈ parts)
    (named : member.1.name = .ok part.name) :
    schema.readMember progress member = .ok after ↔
      part.name ∉ progress.names ∧ ∃ value, part.codec.read member.2 = .ok value ∧
        after = ⟨part.set value progress.record, part.name :: progress.names⟩ := by
  simp only [readMember, named, Except.ok_bind, lawful.find?_name listed]
  split
  · next seen => exact iff_of_false nofun fun read => read.1 seen
  · next unseen =>
      rw [Except.bind_eq_ok, and_iff_right unseen]
      constructor
      · rintro ⟨change, read, made⟩
        cases made
        obtain ⟨value, readValue, rfl⟩ := Part.field_read_eq_ok.mp read
        exact ⟨value, readValue, rfl⟩
      · rintro ⟨value, read, rfl⟩
        exact ⟨part.set value, Part.field_read_eq_ok.mpr ⟨value, read, rfl⟩, rfl⟩

theorem readMember_eq_ok_of_unknown (lawful : schema.Lawful level parts)
    {progress after : Progress Record} {member : Key × Doc} {name : String}
    (named : member.1.name = .ok name) (unknown : name ∉ parts.map (·.name)) :
    schema.readMember progress member = .ok after ↔
      member.2.ignored = .ok () ∧ after = progress := by
  have unfound : schema.fields.find? (·.name = name) = none := by
    rw [List.find?_eq_none]
    intro field listed same
    rw [← lawful.map_name_fields] at unknown
    exact unknown (List.mem_map.mpr ⟨field, listed, of_decide_eq_true same⟩)
  simp only [readMember, named, Except.ok_bind, unfound, Except.bind_eq_ok]
  constructor
  · rintro ⟨_, ignored, made⟩
    cases made
    exact ⟨ignored, rfl⟩
  · rintro ⟨ignored, rfl⟩
    exact ⟨(), ignored, rfl⟩

/-! ## Reading what was written -/

/-- Fields that were read are as in the record, and all others as from the start. -/
def Agrees (schema : Schema Record) (parts : List (Part Record)) (record : Record)
    (progress : Progress Record) : Prop :=
  ∀ part ∈ parts, part.get progress.record =
    if part.name ∈ progress.names then part.get record else part.get schema.blank

theorem Agrees.set (lawful : schema.Lawful level parts) {record : Record}
    {progress : Progress Record} (agrees : Agrees schema parts record progress)
    (member : part ∈ parts) :
    Agrees schema parts record
      ⟨part.set (part.get record) progress.record, part.name :: progress.names⟩ := by
  intro other memberToo
  by_cases same : other.name = part.name
  · obtain rfl := lawful.eq_of_name_eq memberToo member same
    rw [other.get_set, if_pos List.mem_cons_self]
  · rw [lawful.get_set_of_ne memberToo member same, agrees other memberToo]
    simp only [List.mem_cons, same, false_or]

theorem foldlM_readMember (lawful : schema.Lawful level parts) {record : Record}
    {written : List (Part Record)} {docs : List (Key × Doc)}
    (shown : List.Forall₂ (fun (doc : Key × Doc) part => doc.1.name = .ok part.name ∧
      part.codec.read doc.2 = .ok (part.get record)) docs written)
    (listed : ∀ part ∈ written, part ∈ parts) (distinct : (written.map (·.name)).Nodup)
    (progress : Progress Record) (fresh : ∀ part ∈ written, part.name ∉ progress.names)
    (agrees : Agrees schema parts record progress) :
    ∃ final, docs.foldlM schema.readMember progress = .ok final ∧
      Agrees schema parts record final ∧
      ∀ name, name ∈ final.names ↔ name ∈ written.map (·.name) ∨ name ∈ progress.names := by
  induction shown generalizing progress with
  | nil => exact ⟨progress, rfl, agrees, by simp⟩
  | @cons doc part docs written here others ih =>
      have member := listed part List.mem_cons_self
      rw [List.map_cons, List.nodup_cons] at distinct
      have freshLater : ∀ other ∈ written, other.name ∉ part.name :: progress.names := by
        intro other later known
        rcases List.mem_cons.mp known with same | earlier
        · exact distinct.1 (List.mem_map.mpr ⟨other, later, same⟩)
        · exact fresh other (List.mem_cons_of_mem _ later) earlier
      obtain ⟨final, read, agreesFinal, names⟩ :=
        ih (fun other later => listed other (List.mem_cons_of_mem _ later)) distinct.2 _ freshLater
          (Agrees.set lawful agrees member)
      refine ⟨final, ?_, agreesFinal, fun name => ?_⟩
      · have set := (lawful.readMember_eq_ok_of_known member here.1).mpr
          ⟨fresh part List.mem_cons_self, part.get record, here.2, rfl⟩
        rw [List.foldlM_cons, set, Except.ok_bind, read]
      · rw [names, List.map_cons, List.mem_cons, List.mem_cons]
        exact or_left_comm.trans (or_assoc.symm)

def writtenParts (parts : List (Part Record)) (record : Record) : List (Part Record) :=
  parts.filter fun part => !part.omits (part.get record)

theorem members_eq (lawful : schema.Lawful level parts) (record : Record) :
    schema.members record = (writtenParts parts record).map fun part =>
      (part.name, part.codec.write (part.get record)) := by
  rw [members, lawful.fields]
  clear lawful
  induction parts with
  | nil => rfl
  | cons part parts ih =>
      rw [List.map_cons, List.filterMap_cons, ih, writtenParts, writtenParts, List.filter_cons]
      cases omitted : part.omits (part.get record) <;> simp [Part.field, Field.of, omitted]

theorem complete (lawful : schema.Lawful level parts) {record : Record}
    {progress : Progress Record} (agrees : Agrees schema parts record progress)
    (known : ∀ part ∈ writtenParts parts record, part.name ∈ progress.names) :
    progress.record = record ∧ schema.missing? progress.names = none := by
  have omitted (part : Part Record) (member : part ∈ parts)
      (unread : part.name ∉ progress.names) :
      part.get record = part.get schema.blank ∧ part.absence.allowsMember = true := by
    apply (lawful.sound part member).omitted
    by_contra written
    refine unread (known part (List.mem_filter.mpr ⟨member, ?_⟩))
    simpa using written
  constructor
  · refine lawful.ext fun part member => ?_
    rw [agrees part member]
    split
    · rfl
    · next unread => exact (omitted part member unread).1.symm
  · rw [missing?, Option.map_eq_none_iff, List.find?_eq_none, lawful.fields]
    intro field listed
    obtain ⟨part, member, rfl⟩ := List.mem_map.mp listed
    by_cases read : part.name ∈ progress.names
    · simp [Part.field, Field.of, read]
    · simp [Part.field, Field.of, (omitted part member read).2]

theorem codec_returns (lawful : schema.Lawful (level + 1) parts) (room : level < deepest)
    {record : Record} (returns : ∀ part ∈ parts, part.Returns (level + 1) record) :
    schema.codec.Returns level record := by
  intro doc shows
  obtain ⟨start, docs, stop, rfl, shown⟩ := shows.object_inv
  have admitted : Opening.admitted ⟨start, level + 1⟩ = .ok () := Codec.admitted_eq_ok.mpr room
  have inside (part : Part Record) (member : part ∈ writtenParts parts record) :
      part ∈ parts := List.mem_of_mem_filter member
  have reads : List.Forall₂ (fun (doc : Key × Doc) part => doc.1.name = .ok part.name ∧
      part.codec.read doc.2 = .ok (part.get record)) docs (writtenParts parts record) := by
    rw [ShowsMembers, lawful.members_eq, List.forall₂_map_left_iff] at shown
    refine Codec.forall₂_read shown ?_
    rintro part member doc ⟨named, shows⟩
    exact ⟨named, returns part (inside part member) doc.2 shows⟩
  have distinct : ((writtenParts parts record).map (·.name)).Nodup :=
    lawful.distinct.sublist (List.filter_sublist.map _)
  obtain ⟨final, read, agrees, names⟩ :=
    lawful.foldlM_readMember reads inside distinct ⟨schema.blank, []⟩
      (fun _ _ => List.not_mem_nil) (fun _ _ => (if_neg List.not_mem_nil).symm)
  obtain ⟨whole, complete⟩ := lawful.complete agrees fun part member =>
    (names part.name).mpr (.inl (List.mem_map_of_mem member))
  have object : schema.readObject docs (.closed stop) = .ok record := by
    simp only [readObject, read, Except.ok_bind, Tail.closed?, complete, whole]
    rfl
  change schema.read (.object ⟨start, level + 1⟩ docs (.closed stop)) = .ok record
  simp only [Schema.read, admitted, Except.ok_bind, object]

theorem codec_returns_of_parts
    (parts : ∃ parts, schema.Lawful (level + 1) parts ∧
      ∀ part ∈ parts, ∀ value, part.codec.Returns (level + 1) value)
    (room : level < deepest) (record : Record) : schema.codec.Returns level record := by
  obtain ⟨parts, lawful, returns⟩ := parts
  exact lawful.codec_returns room fun part member => returns part member (part.get record)

/-! ## Reading any record -/

theorem blank_returns (lawful : schema.Lawful level parts) :
    ∀ part ∈ parts, part.Returns level schema.blank :=
  fun part member => (lawful.sound part member).start

theorem readMember_returns (lawful : schema.Lawful level parts) {progress next : Progress Record}
    {doc : Key × Doc} (placed : Doc.Placed level doc.2)
    (returns : ∀ part ∈ parts, part.Returns level progress.record)
    (read : schema.readMember progress doc = .ok next) :
    ∀ part ∈ parts, part.Returns level next.record := by
  obtain ⟨name, named, rest⟩ := Except.bind_eq_ok.mp read
  split at rest
  · obtain ⟨_, ignored, made⟩ := Except.bind_eq_ok.mp rest
    cases made
    exact returns
  · next field found =>
      obtain ⟨part, member, rfl, -⟩ := lawful.exists_of_find? found
      split at rest
      · cases rest
      · obtain ⟨change, readHere, made⟩ := Except.bind_eq_ok.mp rest
        cases made
        obtain ⟨value, readValue, rfl⟩ := Part.field_read_eq_ok.mp readHere
        have returnsHere := (lawful.sound part member).steady _ value placed readValue
        exact lawful.returns_set member returnsHere returns

theorem readArray_returns (lawful : schema.Lawful level parts) {tail : Tail}
    {asked : List (Part Record)} (listed : ∀ part ∈ asked, part ∈ parts)
    {items : List (Fault × Doc)} (placed : ∀ item ∈ items, Doc.Placed level item.2)
    {record final : Record} {count : Nat}
    (returns : ∀ part ∈ parts, part.Returns level record)
    (read : schema.readArray tail record count (asked.map Part.field) items = .ok final) :
    ∀ part ∈ parts, part.Returns level final := by
  induction asked generalizing items record count with
  | nil =>
      rw [List.map_nil, readArray] at read
      obtain ⟨_, behind, made⟩ := Except.bind_eq_ok.mp read
      cases made
      exact returns
  | cons part asked ih =>
      have inside : ∀ other ∈ asked, other ∈ parts :=
        fun other later => listed other (List.mem_cons_of_mem _ later)
      cases items with
      | nil =>
          rw [List.map_cons, readArray] at read
          obtain ⟨stop, closed, rest⟩ := Except.bind_eq_ok.mp read
          split at rest
          · exact ih inside placed returns rest
          · cases rest
      | cons item items =>
          rw [List.map_cons, readArray] at read
          obtain ⟨change, readHere, rest⟩ := Except.bind_eq_ok.mp read
          obtain ⟨value, readValue, rfl⟩ := Part.field_read_eq_ok.mp readHere
          have member := listed part List.mem_cons_self
          have returnsHere := (lawful.sound part member).steady _ value
            (placed item List.mem_cons_self) readValue
          exact ih inside (fun other later => placed other (List.mem_cons_of_mem _ later))
            (lawful.returns_set member returnsHere returns) rest

theorem codec_steady (parts : List (Part Record)) (lawful : schema.Lawful (level + 1) parts) :
    schema.codec.Steady level := by
  intro doc record placed read
  cases placed with
  | object opened placed =>
      obtain ⟨_, admitted, readObject⟩ := Except.bind_eq_ok.mp read
      rw [Codec.admitted_eq_ok, opened] at admitted
      obtain ⟨progress, members, rest⟩ := Except.bind_eq_ok.mp readObject
      obtain ⟨stop, closed, made⟩ := Except.bind_eq_ok.mp rest
      have same : progress.record = record := by
        split at made <;> cases made
        rfl
      subst same
      refine lawful.codec_returns admitted (Except.foldlM_induction
        (P := fun progress => ∀ part ∈ parts, part.Returns (level + 1) progress.record)
        lawful.blank_returns ?_ members)
      intro found member next listed returns readHere
      exact lawful.readMember_returns (placed member listed) returns readHere
  | array opened placed =>
      obtain ⟨_, admitted, readArray⟩ := Except.bind_eq_ok.mp read
      rw [Codec.admitted_eq_ok, opened] at admitted
      rw [lawful.fields] at readArray
      exact lawful.codec_returns admitted
        (lawful.readArray_returns (fun _ member => member) placed lawful.blank_returns readArray)
  | null | bool | number | string | broken => cases read

end Lawful

def Nullable (schema : Schema Record) (level : Nat) : Prop :=
  ∃ parts, schema.Lawful level parts ∧ ∀ part ∈ parts, part.Nullable schema.blank

theorem Nullable.codec_steady {schema : Schema Record} {level : Nat}
    (nullable : schema.Nullable (level + 1)) : schema.codec.Steady level := by
  obtain ⟨parts, lawful, -⟩ := nullable
  exact lawful.codec_steady parts

theorem codec_distinct (schema : Schema Record) : schema.codec.Distinct := by
  rintro record ⟨⟩

end Schema

end NetworkPlugin
