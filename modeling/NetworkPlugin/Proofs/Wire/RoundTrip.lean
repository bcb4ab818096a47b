import NetworkPlugin.Proofs.Wire.Types

/-!
# Decoding what was decoded

For each type of the wire, a record that was decoded from any text is decoded again from
the text that is written for it.  Only a float in a free-form value may come back as another
one, and no other part of a record can hold a float.
-/

namespace NetworkPlugin

open Json

/-! ## Parts without floats -/

namespace Codec

variable {Value : Type} {codec : Codec Value}

theorem exact_list {values : List Value}
    (each : ∀ value ∈ values, Exact (codec.write value)) : Exact (codec.list.write values) := by
  refine .array fun item written => ?_
  obtain ⟨value, member, rfl⟩ := List.mem_map.mp written
  exact each value member

theorem exact_dictionary {found : Dictionary Value}
    (each : ∀ value ∈ found.values, Exact (codec.write value)) :
    Exact (codec.dictionary.write found) := by
  refine .object fun member written => ?_
  obtain ⟨⟨name, value⟩, listed, rfl⟩ := List.mem_map.mp written
  have stored := Std.ExtTreeMap.mem_toList_iff_getElem?_eq_some.mp listed
  exact each value (Dictionary.mem_values.mpr ⟨name, stored⟩)

theorem exact_option {found : Option Value}
    (each : ∀ value ∈ found, Exact (codec.write value)) : Exact (codec.option.write found) := by
  cases found with
  | none => exact .null
  | some value => exact each value rfl

end Codec

def Field.ExactAt {Record : Type} (field : Field Record) (record : Record) : Prop :=
  ∀ value, field.write record = some value → Exact value

theorem Field.exactAt {Record Value : Type} {name label : String} {absence : Absence}
    {codec : Codec Value} {omits : Value → Bool} {get : Record → Value}
    {set : Value → Record → Record} {record : Record} (exact : Exact (codec.write (get record))) :
    (Field.of name label absence codec omits get set).ExactAt record := by
  intro value written
  simp only [Field.of] at written
  split at written
  · cases written
  · cases written
    exact exact

theorem Schema.exact_write {Record : Type} {schema : Schema Record} {record : Record}
    (each : ∀ field ∈ schema.fields, field.ExactAt record) :
    Exact (schema.codec.write record) := by
  refine .object fun member written => ?_
  obtain ⟨field, listed, writes⟩ := List.mem_filterMap.mp written
  obtain ⟨value, here, rfl⟩ := Option.map_eq_some_iff.mp writes
  exact each field listed value here

/-! ### Records without other records -/

theorem emptySchema_exact_write : Exact (emptySchema.codec.write ()) :=
  Schema.exact_write (by simp [emptySchema])

theorem NetworkRef.exact_write (name : String) (arguments : NetworkRef) :
    Exact ((NetworkRef.schema name).codec.write arguments) := by
  refine Schema.exact_write ?_
  simp only [NetworkRef.schema, List.forall_mem_cons]
  exact ⟨Field.exactAt .string, by simp⟩

theorem EndpointRef.exact_write (name : String) (arguments : EndpointRef) :
    Exact ((EndpointRef.schema name).codec.write arguments) := by
  refine Schema.exact_write ?_
  simp only [EndpointRef.schema, List.forall_mem_cons]
  exact ⟨Field.exactAt .string, Field.exactAt .string, by simp⟩

theorem Activation.exact_write (response : Activation) :
    Exact (Activation.schema.codec.write response) := by
  refine Schema.exact_write ?_
  simp only [Activation.schema, List.forall_mem_cons]
  exact ⟨Field.exactAt (Codec.exact_list fun _ _ => .string), by simp⟩

theorem Capabilities.exact_write (response : Capabilities) :
    Exact (Capabilities.schema.codec.write response) := by
  refine Schema.exact_write ?_
  simp only [Capabilities.schema, List.forall_mem_cons]
  exact ⟨Field.exactAt .string, Field.exactAt .string, by simp⟩

theorem Allocation.exact_write (response : Allocation) :
    Exact (Allocation.schema.codec.write response) := by
  refine Schema.exact_write ?_
  simp only [Allocation.schema, List.forall_mem_cons]
  exact ⟨Field.exactAt (Codec.exact_dictionary fun _ _ => .string), by simp⟩

theorem EndpointReport.exact_write (response : EndpointReport) :
    Exact (EndpointReport.schema.codec.write response) := by
  refine Schema.exact_write ?_
  simp only [EndpointReport.schema, List.forall_mem_cons]
  exact ⟨Field.exactAt (Codec.exact_dictionary fun _ _ => .string), by simp⟩

theorem ErrorBody.exact_write (response : ErrorBody) :
    Exact (ErrorBody.schema.codec.write response) := by
  refine Schema.exact_write ?_
  simp only [ErrorBody.schema, List.forall_mem_cons]
  exact ⟨Field.exactAt .string, by simp⟩

theorem DeviceName.exact_write (device : DeviceName) :
    Exact (DeviceName.schema.codec.write device) := by
  refine Schema.exact_write ?_
  simp only [DeviceName.schema, List.forall_mem_cons]
  exact ⟨Field.exactAt .string, Field.exactAt .string, by simp⟩

theorem RouteText.exact_write (route : RouteText) :
    Exact (RouteText.schema.codec.write route) := by
  refine Schema.exact_write ?_
  simp only [RouteText.schema, List.forall_mem_cons]
  exact ⟨Field.exactAt .string, Field.exactAt .whole, Field.exactAt .string, by simp⟩

theorem InterfaceText.exact_write (interface : InterfaceText) :
    Exact (InterfaceText.schema.codec.write interface) := by
  refine Schema.exact_write ?_
  simp only [InterfaceText.schema, List.forall_mem_cons]
  exact ⟨Field.exactAt .string, Field.exactAt .string, Field.exactAt .string, by simp⟩

theorem PoolEntry.exact_write (entry : PoolEntry) :
    Exact (PoolEntry.schema.codec.write entry) := by
  refine Schema.exact_write ?_
  simp only [PoolEntry.schema, List.forall_mem_cons]
  exact ⟨Field.exactAt .string, Field.exactAt .string, Field.exactAt .string,
    Field.exactAt (Codec.exact_dictionary fun _ _ => .string), by simp⟩

/-! ### Records with free-form values or other records -/

theorem NetworkArguments.exact_write {Setting : Type} (name : String) {setting : Codec Setting}
    {arguments : NetworkArguments Setting}
    (exact : ∀ value ∈ arguments.options.values, Exact (setting.write value)) :
    Exact ((NetworkArguments.schema name setting).codec.write arguments) := by
  refine Schema.exact_write ?_
  simp only [NetworkArguments.schema, List.forall_mem_cons]
  exact ⟨Field.exactAt .string, Field.exactAt (Codec.exact_dictionary exact),
    Field.exactAt (Codec.exact_list fun entry _ => entry.exact_write),
    Field.exactAt (Codec.exact_list fun entry _ => entry.exact_write), by simp⟩

theorem JoinArguments.exact_write {arguments : JoinArguments}
    (exact : ∀ value ∈ arguments.options.values, Exact value) :
    Exact (JoinArguments.schema.codec.write arguments) := by
  refine Schema.exact_write ?_
  simp only [JoinArguments.schema, List.forall_mem_cons]
  exact ⟨Field.exactAt .string, Field.exactAt .string, Field.exactAt .string,
    Field.exactAt (Codec.exact_dictionary exact), by simp⟩

theorem ConnectivityArguments.exact_write {arguments : ConnectivityArguments}
    (exact : ∀ value ∈ arguments.options.values, Exact value) :
    Exact (ConnectivityArguments.schema.codec.write arguments) := by
  refine Schema.exact_write ?_
  simp only [ConnectivityArguments.schema, List.forall_mem_cons]
  exact ⟨Field.exactAt .string, Field.exactAt .string,
    Field.exactAt (Codec.exact_dictionary exact), by simp⟩

theorem Discovery.exact_write {arguments : Discovery}
    (exact : Exact arguments.data) :
    Exact (Discovery.schema.codec.write arguments) := by
  refine Schema.exact_write ?_
  simp only [Discovery.schema, List.forall_mem_cons]
  exact ⟨Field.exactAt .whole, Field.exactAt exact, by simp⟩

theorem EndpointArguments.exact_write {arguments : EndpointArguments}
    (exact : ∀ value ∈ arguments.options.values, Exact value) :
    Exact (EndpointArguments.schema.codec.write arguments) := by
  refine Schema.exact_write ?_
  simp only [EndpointArguments.schema, List.forall_mem_cons]
  exact ⟨Field.exactAt .string, Field.exactAt .string,
    Field.exactAt (Codec.exact_option fun interface _ => interface.exact_write),
    Field.exactAt (Codec.exact_dictionary exact), by simp⟩

theorem EndpointAnswer.exact_write (response : EndpointAnswer) :
    Exact (EndpointAnswer.schema.codec.write response) := by
  refine Schema.exact_write ?_
  simp only [EndpointAnswer.schema, List.forall_mem_cons]
  exact ⟨Field.exactAt (Codec.exact_option fun interface _ => interface.exact_write), by simp⟩

theorem AttachmentText.exact_write (response : AttachmentText) :
    Exact (AttachmentText.schema.codec.write response) := by
  refine Schema.exact_write ?_
  simp only [AttachmentText.schema, List.forall_mem_cons]
  exact ⟨Field.exactAt (DeviceName.exact_write _), Field.exactAt .string, Field.exactAt .string,
    Field.exactAt (Codec.exact_list fun route _ => route.exact_write), Field.exactAt .bool,
    by simp⟩

/-! ## Types of the wire -/

inductive WireType where
  | empty
  | activation
  | capabilities
  | createNetwork
  | allocateNetwork
  | allocation
  | deleteNetwork
  | freeNetwork
  | createEndpoint
  | endpointAnswer
  | deleteEndpoint
  | endpointInfo
  | endpointReport
  | join
  | deviceName
  | route
  | attachment
  | leave
  | discovery
  | programExternalConnectivity
  | revokeExternalConnectivity
  | error
  | pool
  | interface
deriving DecidableEq, Repr

namespace WireType

def Record : WireType → Type
  | empty => Unit
  | activation => Activation
  | capabilities => Capabilities
  | createNetwork => NetworkArguments Json
  | allocateNetwork => NetworkArguments String
  | allocation => Allocation
  | deleteNetwork | freeNetwork => NetworkRef
  | createEndpoint => EndpointArguments
  | endpointAnswer => EndpointAnswer
  | deleteEndpoint | endpointInfo | leave | revokeExternalConnectivity => EndpointRef
  | endpointReport => EndpointReport
  | join => JoinArguments
  | deviceName => DeviceName
  | route => RouteText
  | attachment => AttachmentText
  | discovery => Discovery
  | programExternalConnectivity => ConnectivityArguments
  | error => ErrorBody
  | pool => PoolEntry
  | interface => InterfaceText

def schema : (type : WireType) → Schema type.Record
  | empty => emptySchema
  | activation => Activation.schema
  | capabilities => Capabilities.schema
  | createNetwork => createNetworkSchema
  | allocateNetwork => allocateNetworkSchema
  | allocation => Allocation.schema
  | deleteNetwork => deleteNetworkSchema
  | freeNetwork => freeNetworkSchema
  | createEndpoint => EndpointArguments.schema
  | endpointAnswer => EndpointAnswer.schema
  | deleteEndpoint => deleteEndpointSchema
  | endpointInfo => endpointInfoSchema
  | endpointReport => EndpointReport.schema
  | join => JoinArguments.schema
  | deviceName => DeviceName.schema
  | route => RouteText.schema
  | attachment => AttachmentText.schema
  | leave => leaveSchema
  | discovery => Discovery.schema
  | programExternalConnectivity => ConnectivityArguments.schema
  | revokeExternalConnectivity => revokeSchema
  | error => ErrorBody.schema
  | pool => PoolEntry.schema
  | interface => InterfaceText.schema

def freeForm : (type : WireType) → type.Record → List Json
  | createNetwork, (record : NetworkArguments Json) => record.options.values
  | createEndpoint, (record : EndpointArguments) => record.options.values
  | join, (record : JoinArguments) => record.options.values
  | programExternalConnectivity, (record : ConnectivityArguments) => record.options.values
  | discovery, (record : Discovery) => [record.data]
  | _, _ => []

def encode (type : WireType) (record : type.Record) : List UInt8 :=
  (type.schema.codec.write record).render.toUTF8.toList

theorem codec_steady (type : WireType) : type.schema.codec.Steady 0 := by
  cases type with
  | empty => exact emptySchema_steady 0
  | activation => exact Activation.codec_steady (by decide)
  | capabilities => exact Capabilities.codec_steady 0
  | createNetwork =>
      exact NetworkArguments.codec_steady _ (Codec.json_steady 2) (by decide)
  | allocateNetwork =>
      exact NetworkArguments.codec_steady _ (Codec.string_steady 2) (by decide)
  | allocation => exact Allocation.codec_steady (by decide)
  | deleteNetwork | freeNetwork => exact NetworkRef.codec_steady _ 0
  | createEndpoint => exact EndpointArguments.codec_steady (by decide)
  | endpointAnswer => exact EndpointAnswer.codec_steady 0
  | deleteEndpoint | endpointInfo | leave | revokeExternalConnectivity =>
      exact EndpointRef.codec_steady _ 0
  | endpointReport => exact EndpointReport.codec_steady (by decide)
  | join => exact JoinArguments.codec_steady (by decide)
  | deviceName => exact DeviceName.codec_steady 0
  | route => exact RouteText.codec_steady 0
  | attachment => exact AttachmentText.codec_steady (by decide)
  | discovery => exact Discovery.codec_steady 0
  | programExternalConnectivity => exact ConnectivityArguments.codec_steady (by decide)
  | error => exact ErrorBody.codec_steady 0
  | pool => exact PoolEntry.codec_steady (by decide)
  | interface => exact InterfaceText.codec_steady 0

/-- Records have no floats but for those in their free-form values. -/
theorem exact_write (type : WireType) (record : type.Record)
    (exact : ∀ value ∈ type.freeForm record, Exact value) :
    Exact (type.schema.codec.write record) := by
  cases type with
  | empty => exact emptySchema_exact_write
  | activation => exact Activation.exact_write record
  | capabilities => exact Capabilities.exact_write record
  | createNetwork => exact NetworkArguments.exact_write _ exact
  | allocateNetwork => exact NetworkArguments.exact_write _ fun _ _ => .string
  | allocation => exact Allocation.exact_write record
  | deleteNetwork | freeNetwork => exact NetworkRef.exact_write _ record
  | createEndpoint => exact EndpointArguments.exact_write exact
  | endpointAnswer => exact EndpointAnswer.exact_write record
  | deleteEndpoint | endpointInfo | leave | revokeExternalConnectivity =>
      exact EndpointRef.exact_write _ record
  | endpointReport => exact EndpointReport.exact_write record
  | join => exact JoinArguments.exact_write exact
  | deviceName => exact DeviceName.exact_write record
  | route => exact RouteText.exact_write record
  | attachment => exact AttachmentText.exact_write record
  | discovery => exact Discovery.exact_write (exact _ List.mem_cons_self)
  | programExternalConnectivity => exact ConnectivityArguments.exact_write exact
  | error => exact ErrorBody.exact_write record
  | pool => exact PoolEntry.exact_write record
  | interface => exact InterfaceText.exact_write record

/-- A record that was decoded from a text, however it is written there, is decoded again from
what is written for it, unless a free-form value of it has floats in it. -/
theorem decode_encode (type : WireType) (text : List UInt8) (record : type.Record)
    (decoded : type.schema.codec.decode text = .ok record)
    (exact : ∀ value ∈ type.freeForm record, Exact value) :
    type.schema.codec.decode (type.encode record) = .ok record :=
  type.codec_steady.decode_render decoded (type.exact_write record exact)

/-- An array with a null, an escape, a part that leaves out all it has, and an option that is
given twice. -/
theorem decode_encode_array :
    ∃ record : EndpointArguments, record.endpoint = "ep" ∧ record.interface = some {} ∧
      record.options.values = [.bool true] ∧
      createEndpoint.schema.codec.decode
        "[null,\"\\u0065p\",[],\x7b\"k\":1,\"k\":true\x7d]".toUTF8.toList = .ok record ∧
      createEndpoint.schema.codec.decode (createEndpoint.encode record) = .ok record := by
  have decoded : createEndpoint.schema.codec.decode
      "[null,\"\\u0065p\",[],\x7b\"k\":1,\"k\":true\x7d]".toUTF8.toList =
        .ok ({ endpoint := "ep", interface := some {},
               options := .ofList [("k", .bool true)] compare } : EndpointArguments) := by
    have bytes : "[null,\"\\u0065p\",[],\x7b\"k\":1,\"k\":true\x7d]".toUTF8.toList =
        [91, 110, 117, 108, 108, 44, 34, 92, 117, 48, 48, 54, 53, 112, 34, 44, 91, 93, 44, 123,
          34, 107, 34, 58, 49, 44, 34, 107, 34, 58, 116, 114, 117, 101, 125, 93] := by
      decide +kernel
    rw [bytes]
    with_unfolding_all rfl
  have options : (Std.ExtTreeMap.ofList [("k", Json.bool true)] compare : Options).values =
      [.bool true] := by
    rfl
  refine ⟨_, rfl, rfl, options, decoded, decode_encode createEndpoint _ _ decoded ?_⟩
  rw [freeForm, options]
  exact List.forall_mem_singleton.mpr .bool

end WireType

end NetworkPlugin
