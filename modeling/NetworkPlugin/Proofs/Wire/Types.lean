import NetworkPlugin.Operation
import NetworkPlugin.Proofs.Wire.Record

/-!
# Types of the wire

All that is sent or received is a record whose fields are texts, numbers, free-form values,
lists, dictionaries or other records.  Each of these returns, and so does every record that
was decoded from a text, be it written with nulls, in another order, with unknown members
or as an array.
-/

namespace NetworkPlugin

open Json Schema

/-! ## Kinds of fields -/

namespace Codec

variable {Value : Type} {codec : Codec Value} {level : Nat}

theorem string_orDefault_returns (default : String) (level : Nat) (value : String) :
    (string.orDefault default).Returns level value :=
  orDefault_returns string_distinct (string_returns level value)

theorem string_orDefault_steady (default : String) (level : Nat) :
    (string.orDefault default).Steady level :=
  fun _ value _ _ => string_orDefault_returns default level value

theorem list_returns_nil (room : level < deepest) : codec.list.Returns level [] :=
  list_returns room fun _ member => absurd member List.not_mem_nil

theorem dictionary_returns_empty (room : level < deepest) : codec.dictionary.Returns level ∅ :=
  dictionary_returns room fun name value stored => by simp at stored

theorem list_orDefault_returns_nil (room : level < deepest) :
    (codec.list.orDefault []).Returns level [] :=
  orDefault_returns (list_distinct codec) (list_returns_nil room)

theorem list_orDefault_steady (steady : codec.Steady (level + 1)) (room : level < deepest) :
    (codec.list.orDefault []).Steady level :=
  orDefault_steady (list_distinct codec) (list_steady steady) (list_returns_nil room)

theorem dictionary_orDefault_returns_empty (room : level < deepest) :
    (codec.dictionary.orDefault ∅).Returns level ∅ :=
  orDefault_returns (dictionary_distinct codec) (dictionary_returns_empty room)

theorem dictionary_orDefault_steady (steady : codec.Steady (level + 1))
    (room : level < deepest) : (codec.dictionary.orDefault ∅).Steady level :=
  orDefault_steady (dictionary_distinct codec) (dictionary_steady steady)
    (dictionary_returns_empty room)

end Codec

namespace Part.Sound

open Codec

variable {Record Value : Type} {name label : String} {absence : Absence} {level : Nat}
  {blank : Record}

section

variable {get : Record → String} {set : String → Record → Record}
  {get_set : ∀ value record, get (set value record) = value}

theorem string :
    Sound (@Part.mk _ _ name label absence .string (fun _ => false) get set get_set) level blank :=
  written (string_steady level) (string_returns level _)

theorem optionalString {default : String} :
    Sound (@Part.mk _ _ name label absence (Codec.string.orDefault default) (fun _ => false)
      get set get_set) level blank :=
  written (string_orDefault_steady default level) (string_orDefault_returns default level _)

theorem text {codec : Codec String} (returns : ∀ value, codec.Returns level value)
    (empty : get blank = "") (allowed : absence.allowsMember = true) :
    Sound (@Part.mk _ _ name label absence codec String.isEmpty get set get_set) level blank := by
  refine unlessOmitted (fun _ value _ _ => returns value) (returns _) ?_ allowed
  intro value omitted
  rw [empty, String.isEmpty_iff.mp omitted]

end

theorem optionalList {codec : Codec Value} {get : Record → List Value}
    {set : List Value → Record → Record} {get_set : ∀ value record, get (set value record) = value}
    (steady : codec.Steady (level + 1)) (room : level < deepest) (empty : get blank = []) :
    Sound (@Part.mk _ _ name label absence (codec.list.orDefault []) (fun _ => false) get set
      get_set) level blank := by
  refine written (list_orDefault_steady steady room) ?_
  rw [empty]
  exact list_orDefault_returns_nil room

theorem optionalDictionary {codec : Codec Value} {get : Record → Dictionary Value}
    {set : Dictionary Value → Record → Record}
    {get_set : ∀ value record, get (set value record) = value}
    (steady : codec.Steady (level + 1)) (room : level < deepest) (empty : get blank = ∅) :
    Sound (@Part.mk _ _ name label absence (codec.dictionary.orDefault ∅) (fun _ => false) get set
      get_set) level blank := by
  refine written (dictionary_orDefault_steady steady room) ?_
  rw [empty]
  exact dictionary_orDefault_returns_empty room

end Part.Sound

/-! ## Records without other records -/

theorem emptySchema_steady (level : Nat) : emptySchema.codec.Steady level :=
  Lawful.codec_steady [] ⟨rfl, by simp, by simp, fun _ => rfl, by simp⟩

theorem NetworkRef.nullable (name : String) (level : Nat) :
    (NetworkRef.schema name).Nullable level := by
  refine ⟨[⟨fun _ _ => rfl⟩], ⟨rfl, by simp, by simp [Part.Apart], fun _ => rfl, ?_⟩, ?_⟩ <;>
    simp only [List.forall_mem_cons]
  · exact ⟨.optionalString, by simp⟩
  · exact ⟨⟨rfl, fun _ => rfl⟩, by simp⟩

theorem NetworkRef.codec_steady (name : String) (level : Nat) :
    (NetworkRef.schema name).codec.Steady level :=
  (NetworkRef.nullable name _).codec_steady

theorem EndpointRef.nullable (name : String) (level : Nat) :
    (EndpointRef.schema name).Nullable level := by
  refine ⟨[⟨fun _ _ => rfl⟩, ⟨fun _ _ => rfl⟩],
    ⟨rfl, by simp, by simp [Part.Apart], fun _ => rfl, ?_⟩, ?_⟩ <;>
    simp only [List.forall_mem_cons]
  · exact ⟨.optionalString, .optionalString, by simp⟩
  · exact ⟨⟨rfl, fun _ => rfl⟩, ⟨rfl, fun _ => rfl⟩, by simp⟩

theorem EndpointRef.codec_steady (name : String) (level : Nat) :
    (EndpointRef.schema name).codec.Steady level :=
  (EndpointRef.nullable name _).codec_steady

theorem Capabilities.codec_steady (level : Nat) : Capabilities.schema.codec.Steady level := by
  refine Lawful.codec_steady [⟨fun _ _ => rfl⟩, ⟨fun _ _ => rfl⟩]
    ⟨rfl, by simp, by simp [Part.Apart], fun _ => rfl, ?_⟩
  simp only [List.forall_mem_cons]
  exact ⟨.string, .string, by simp⟩

theorem ErrorBody.codec_steady (level : Nat) : ErrorBody.schema.codec.Steady level := by
  refine Lawful.codec_steady [⟨fun _ _ => rfl⟩]
    ⟨rfl, by simp, by simp [Part.Apart], fun _ => rfl, ?_⟩
  simp only [List.forall_mem_cons]
  exact ⟨.string, by simp⟩

theorem Activation.codec_steady {level : Nat} (room : level + 1 < deepest) :
    Activation.schema.codec.Steady level := by
  refine Lawful.codec_steady [⟨fun _ _ => rfl⟩]
    ⟨rfl, by simp, by simp [Part.Apart], fun _ => rfl, ?_⟩
  simp only [List.forall_mem_cons]
  exact ⟨.written (Codec.list_steady (Codec.string_steady _)) (Codec.list_returns_nil room),
    by simp⟩

theorem Allocation.codec_steady {level : Nat} (room : level + 1 < deepest) :
    Allocation.schema.codec.Steady level := by
  refine Lawful.codec_steady [⟨fun _ _ => rfl⟩]
    ⟨rfl, by simp, by simp [Part.Apart], fun _ => rfl, ?_⟩
  simp only [List.forall_mem_cons]
  exact ⟨.written (Codec.dictionary_steady (Codec.string_steady _))
    (Codec.dictionary_returns_empty room), by simp⟩

theorem EndpointReport.codec_steady {level : Nat} (room : level + 1 < deepest) :
    EndpointReport.schema.codec.Steady level := by
  refine Lawful.codec_steady [⟨fun _ _ => rfl⟩]
    ⟨rfl, by simp, by simp [Part.Apart], fun _ => rfl, ?_⟩
  simp only [List.forall_mem_cons]
  exact ⟨.written (Codec.dictionary_steady (Codec.string_steady _))
    (Codec.dictionary_returns_empty room), by simp⟩

theorem JoinArguments.nullable {level : Nat} (room : level < deepest) :
    JoinArguments.schema.Nullable level := by
  refine ⟨[⟨fun _ _ => rfl⟩, ⟨fun _ _ => rfl⟩, ⟨fun _ _ => rfl⟩, ⟨fun _ _ => rfl⟩],
    ⟨rfl, by simp, by simp [Part.Apart], fun _ => rfl, ?_⟩, ?_⟩ <;>
    simp only [List.forall_mem_cons]
  · exact ⟨.optionalString, .optionalString, .optionalString,
      .optionalDictionary (Codec.json_steady _) room rfl, by simp⟩
  · exact ⟨⟨rfl, fun _ => rfl⟩, ⟨rfl, fun _ => rfl⟩, ⟨rfl, fun _ => rfl⟩, ⟨rfl, fun _ => rfl⟩,
      by simp⟩

theorem JoinArguments.codec_steady {level : Nat} (room : level + 1 < deepest) :
    JoinArguments.schema.codec.Steady level :=
  (JoinArguments.nullable room).codec_steady

theorem ConnectivityArguments.nullable {level : Nat} (room : level < deepest) :
    ConnectivityArguments.schema.Nullable level := by
  refine ⟨[⟨fun _ _ => rfl⟩, ⟨fun _ _ => rfl⟩, ⟨fun _ _ => rfl⟩],
    ⟨rfl, by simp, by simp [Part.Apart], fun _ => rfl, ?_⟩, ?_⟩ <;>
    simp only [List.forall_mem_cons]
  · exact ⟨.optionalString, .optionalString, .optionalDictionary (Codec.json_steady _) room rfl,
      by simp⟩
  · exact ⟨⟨rfl, fun _ => rfl⟩, ⟨rfl, fun _ => rfl⟩, ⟨rfl, fun _ => rfl⟩, by simp⟩

theorem ConnectivityArguments.codec_steady {level : Nat} (room : level + 1 < deepest) :
    ConnectivityArguments.schema.codec.Steady level :=
  (ConnectivityArguments.nullable room).codec_steady

theorem Discovery.nullable (level : Nat) : Discovery.schema.Nullable level := by
  refine ⟨[⟨fun _ _ => rfl⟩, ⟨fun _ _ => rfl⟩],
    ⟨rfl, by simp, by simp [Part.Apart], fun _ => rfl, ?_⟩, ?_⟩ <;>
    simp only [List.forall_mem_cons]
  · refine ⟨.written ?_ ?_, .written (Codec.json_steady _) (Codec.json_returns_null _), by simp⟩
    · exact Codec.orDefault_steady Codec.int32_distinct (Codec.int32_steady _)
        (Codec.int32_returns _ 0)
    · exact Codec.orDefault_returns Codec.int32_distinct (Codec.int32_returns _ 0)
  · exact ⟨⟨rfl, fun _ => rfl⟩, ⟨rfl, fun _ => rfl⟩, by simp⟩

theorem Discovery.codec_steady (level : Nat) : Discovery.schema.codec.Steady level :=
  (Discovery.nullable _).codec_steady

/-! ## Parts of other records -/

theorem PoolEntry.nullable {level : Nat} (room : level < deepest) :
    PoolEntry.schema.Nullable level := by
  refine ⟨[⟨fun _ _ => rfl⟩, ⟨fun _ _ => rfl⟩, ⟨fun _ _ => rfl⟩, ⟨fun _ _ => rfl⟩],
    ⟨rfl, by simp, by simp [Part.Apart], fun _ => rfl, ?_⟩, ?_⟩ <;>
    simp only [List.forall_mem_cons]
  · refine ⟨.optionalString, .optionalString, .text (Codec.string_orDefault_returns "" _) rfl rfl,
      .unlessOmitted (Codec.dictionary_orDefault_steady (Codec.string_steady _) room)
        (Codec.dictionary_orDefault_returns_empty room) ?_ rfl, by simp⟩
    exact fun value empty => Std.ExtTreeMap.isEmpty_iff.mp empty
  · exact ⟨⟨rfl, fun _ => rfl⟩, ⟨rfl, fun _ => rfl⟩, ⟨rfl, fun _ => rfl⟩, ⟨rfl, fun _ => rfl⟩,
      by simp⟩

theorem PoolEntry.codec_steady {level : Nat} (room : level + 1 < deepest) :
    PoolEntry.schema.codec.Steady level :=
  (PoolEntry.nullable room).codec_steady

theorem InterfaceText.nullable (level : Nat) : InterfaceText.schema.Nullable level := by
  refine ⟨[⟨fun _ _ => rfl⟩, ⟨fun _ _ => rfl⟩, ⟨fun _ _ => rfl⟩],
    ⟨rfl, by simp, by simp [Part.Apart], fun _ => rfl, ?_⟩, ?_⟩ <;>
    simp only [List.forall_mem_cons]
  · exact ⟨.text (Codec.string_orDefault_returns "" _) rfl rfl,
      .text (Codec.string_orDefault_returns "" _) rfl rfl,
      .text (Codec.string_orDefault_returns "" _) rfl rfl, by simp⟩
  · exact ⟨⟨rfl, fun _ => rfl⟩, ⟨rfl, fun _ => rfl⟩, ⟨rfl, fun _ => rfl⟩, by simp⟩

theorem InterfaceText.codec_steady (level : Nat) : InterfaceText.schema.codec.Steady level :=
  (InterfaceText.nullable _).codec_steady

/-! ### Parts of which any value returns -/

theorem RouteText.parts_return (level : Nat) :
    ∃ parts, RouteText.schema.Lawful level parts ∧
      ∀ part ∈ parts, ∀ value, part.codec.Returns level value := by
  refine ⟨[⟨fun _ _ => rfl⟩, ⟨fun _ _ => rfl⟩, ⟨fun _ _ => rfl⟩],
    ⟨rfl, by simp, by simp [Part.Apart], fun _ => rfl, ?_⟩, ?_⟩
  · simp only [List.forall_mem_cons]
    exact ⟨.string, .written (Codec.int32_steady _) (Codec.int32_returns _ 0),
      .text (Codec.string_returns _) rfl rfl, by simp⟩
  · simp only [List.forall_mem_cons]
    exact ⟨Codec.string_returns _, Codec.int32_returns _, Codec.string_returns _, by simp⟩

theorem RouteText.codec_steady (level : Nat) : RouteText.schema.codec.Steady level := by
  obtain ⟨parts, lawful, -⟩ := RouteText.parts_return (level + 1)
  exact lawful.codec_steady parts

theorem RouteText.codec_returns {level : Nat} (room : level < deepest) (route : RouteText) :
    RouteText.schema.codec.Returns level route :=
  Lawful.codec_returns_of_parts (RouteText.parts_return _) room route

theorem DeviceName.parts_return (level : Nat) :
    ∃ parts, DeviceName.schema.Lawful level parts ∧
      ∀ part ∈ parts, ∀ value, part.codec.Returns level value := by
  refine ⟨[⟨fun _ _ => rfl⟩, ⟨fun _ _ => rfl⟩],
    ⟨rfl, by simp, by simp [Part.Apart], fun _ => rfl, ?_⟩, ?_⟩
  · simp only [List.forall_mem_cons]
    exact ⟨.string, .string, by simp⟩
  · simp only [List.forall_mem_cons]
    exact ⟨Codec.string_returns _, Codec.string_returns _, by simp⟩

theorem DeviceName.codec_steady (level : Nat) : DeviceName.schema.codec.Steady level := by
  obtain ⟨parts, lawful, -⟩ := DeviceName.parts_return (level + 1)
  exact lawful.codec_steady parts

theorem DeviceName.codec_returns {level : Nat} (room : level < deepest) (device : DeviceName) :
    DeviceName.schema.codec.Returns level device :=
  Lawful.codec_returns_of_parts (DeviceName.parts_return _) room device

/-! ## Records with other records -/

theorem NetworkArguments.nullable {Setting : Type} (name : String) {setting : Codec Setting}
    {level : Nat} (steady : setting.Steady (level + 1)) (room : level + 2 < deepest) :
    (NetworkArguments.schema name setting).Nullable level := by
  refine ⟨[⟨fun _ _ => rfl⟩, ⟨fun _ _ => rfl⟩, ⟨fun _ _ => rfl⟩, ⟨fun _ _ => rfl⟩],
    ⟨rfl, by simp, by simp [Part.Apart], fun _ => rfl, ?_⟩, ?_⟩ <;>
    simp only [List.forall_mem_cons]
  · exact ⟨.optionalString, .optionalDictionary steady (by omega) rfl,
      .optionalList (PoolEntry.codec_steady room) (by omega) rfl,
      .optionalList (PoolEntry.codec_steady room) (by omega) rfl, by simp⟩
  · exact ⟨⟨rfl, fun _ => rfl⟩, ⟨rfl, fun _ => rfl⟩, ⟨rfl, fun _ => rfl⟩, ⟨rfl, fun _ => rfl⟩,
      by simp⟩

theorem NetworkArguments.codec_steady {Setting : Type} (name : String) {setting : Codec Setting}
    {level : Nat} (steady : setting.Steady (level + 2)) (room : level + 3 < deepest) :
    (NetworkArguments.schema name setting).codec.Steady level :=
  (NetworkArguments.nullable name steady room).codec_steady

theorem EndpointArguments.nullable {level : Nat} (room : level < deepest) :
    EndpointArguments.schema.Nullable level := by
  refine ⟨[⟨fun _ _ => rfl⟩, ⟨fun _ _ => rfl⟩, ⟨fun _ _ => rfl⟩, ⟨fun _ _ => rfl⟩],
    ⟨rfl, by simp, by simp [Part.Apart], fun _ => rfl, ?_⟩, ?_⟩ <;>
    simp only [List.forall_mem_cons]
  · exact ⟨.optionalString, .optionalString,
      .written (Codec.option_steady (codec_distinct _) (InterfaceText.codec_steady _))
        (Codec.option_returns_none _),
      .optionalDictionary (Codec.json_steady _) room rfl, by simp⟩
  · exact ⟨⟨rfl, fun _ => rfl⟩, ⟨rfl, fun _ => rfl⟩, ⟨rfl, fun _ => rfl⟩, ⟨rfl, fun _ => rfl⟩,
      by simp⟩

theorem EndpointArguments.codec_steady {level : Nat} (room : level + 1 < deepest) :
    EndpointArguments.schema.codec.Steady level :=
  (EndpointArguments.nullable room).codec_steady

theorem EndpointAnswer.codec_steady (level : Nat) : EndpointAnswer.schema.codec.Steady level := by
  refine Lawful.codec_steady [⟨fun _ _ => rfl⟩]
    ⟨rfl, by simp, by simp [Part.Apart], fun _ => rfl, ?_⟩
  simp only [List.forall_mem_cons]
  refine ⟨.unlessOmitted (Codec.option_steady (codec_distinct _) (InterfaceText.codec_steady _))
    (Codec.option_returns_none _) ?_ rfl, by simp⟩
  exact fun value absent => Option.isNone_iff_eq_none.mp absent

theorem AttachmentText.parts_return {level : Nat} (room : level + 1 < deepest) :
    ∃ parts, AttachmentText.schema.Lawful level parts ∧
      ∀ part ∈ parts, ∀ value, part.codec.Returns level value := by
  have here : level < deepest := by omega
  refine ⟨[⟨fun _ _ => rfl⟩, ⟨fun _ _ => rfl⟩, ⟨fun _ _ => rfl⟩, ⟨fun _ _ => rfl⟩,
    ⟨fun _ _ => rfl⟩], ⟨rfl, by simp, by simp [Part.Apart], fun _ => rfl, ?_⟩, ?_⟩
  · simp only [List.forall_mem_cons]
    refine ⟨.written (DeviceName.codec_steady _) (DeviceName.codec_returns here _),
      .text (Codec.string_returns _) rfl rfl, .text (Codec.string_returns _) rfl rfl,
      .unlessOmitted (Codec.list_steady (RouteText.codec_steady _)) (Codec.list_returns_nil here)
        ?_ rfl,
      .written (Codec.bool_steady _) (Codec.bool_returns _ false), by simp⟩
    exact fun value empty => List.isEmpty_iff.mp empty
  · simp only [List.forall_mem_cons]
    exact ⟨DeviceName.codec_returns here, Codec.string_returns _, Codec.string_returns _,
      fun routes => Codec.list_returns here fun route _ => RouteText.codec_returns room route,
      Codec.bool_returns _, by simp⟩

theorem AttachmentText.codec_steady {level : Nat} (room : level + 2 < deepest) :
    AttachmentText.schema.codec.Steady level := by
  obtain ⟨parts, lawful, -⟩ := AttachmentText.parts_return room
  exact lawful.codec_steady parts

theorem AttachmentText.codec_returns {level : Nat} (room : level + 2 < deepest)
    (attachment : AttachmentText) : AttachmentText.schema.codec.Returns level attachment :=
  Lawful.codec_returns_of_parts (AttachmentText.parts_return room) (by omega) attachment

end NetworkPlugin
