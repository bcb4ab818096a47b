import NetworkPlugin.Operation
import NetworkPlugin.Proofs.Text.Controls

/-!
# Printable requests and responses

All that is shown of a request or a response is printable, whatever its texts are: numbers are
digits with a few signs, names and labels are fixed, and everything else is quoted.
-/

namespace NetworkPlugin

open Text

/-! ## Numbers -/

theorem Decimal.plain_trimZeros {text : List Char} (plain : Plain text) :
    Plain (trimZeros text) := by
  refine plain.of_subset fun c member => ?_
  rw [trimZeros, List.mem_reverse] at member
  exact List.mem_reverse.mp ((List.dropWhile_sublist _).mem member)

theorem Decimal.plain_withPoint {text : List Char} (plain : Plain text) :
    Plain (withPoint text) := by
  rcases text with - | ⟨digit, - | ⟨second, digits⟩⟩
  · exact plain
  · exact plain
  · have graphic := plain_iff.mp plain digit (.head _)
    have rest := (controlsFrom_cons graphic).mp plain
    simp only [withPoint, controlsFrom_cons graphic]
    exact (controlsFrom_cons (by decide)).mpr rest

theorem Decimal.plain_encodeExponent (exponent : Int) : Plain (encodeExponent exponent) := by
  have number := @plain_encodeNumeral 10 (by omega) (by omega) exponent.natAbs
  unfold encodeExponent
  split <;> simp [IsControl, number]

theorem Decimal.plain_encode (style : Style) (d : Decimal) : Plain (style.encode d) := by
  have digits := plain_trimZeros
    (@plain_encodeNumeral 10 (by omega) (by omega) d.digits)
  have zeros (count : Nat) : Plain (List.replicate count '0') := by
    rw [plain_iff]
    intro c member
    rw [List.eq_of_mem_replicate member]
    decide
  unfold Style.encode
  dsimp only
  split
  · simp [IsControl]
  · split
    · have exponent := plain_encodeExponent
      simp [IsControl, plain_withPoint digits, exponent]
    · split
      · simp [IsControl, zeros, digits]
      · split
        · simp [IsControl, zeros, digits]
        · simp [IsControl, digits.take, digits.drop]

theorem Json.plain_encodeInt (value : Int) : Plain (encodeInt value) := by
  have number := @plain_encodeNumeral 10 (by omega) (by omega) value.natAbs
  unfold encodeInt
  split <;> simp [IsControl, number]

theorem Json.plain_encodeBool (value : Bool) : Plain (encodeBool value).toList := by
  cases value <;> simp [encodeBool, IsControl]

theorem Json.Number.plain_render (number : Number) : Plain number.render.toList := by
  cases number with
  | whole value low high => simpa [render] using plain_encodeInt value
  | float negative magnitude =>
      have digits := Decimal.plain_encode floatNotation (Decimal.shortest magnitude)
      cases negative <;> simp [render, IsControl, digits]

/-! ## Free-form values -/

namespace Json

mutual

theorem printable_snapshot (value : Json) : value.snapshot.Printable := by
  cases value with
  | null => exact .word (by simp [IsControl])
  | bool value => exact .wrapped (by simp [IsControl]) (.word (plain_encodeBool value))
  | number value => exact .wrapped (by simp [IsControl]) (.word value.plain_render)
  | string value => exact .wrapped (by simp [IsControl]) .text
  | array items => exact .labelled (by simp [IsControl]) (.list (printable_items items))
  | object members =>
      exact .labelled (by simp [IsControl]) (.map (printable_members members))

theorem printable_items (items : List Json) : ∀ item ∈ itemSnapshots items, item.Printable := by
  cases items with
  | nil => simp [itemSnapshots]
  | cons item items =>
      exact List.forall_mem_cons.mpr ⟨printable_snapshot item, printable_items items⟩

theorem printable_members (members : List (String × Json)) :
    ∀ member ∈ memberSnapshots members, member.2.Printable := by
  cases members with
  | nil => simp [memberSnapshots]
  | cons member members =>
      exact List.forall_mem_cons.mpr
        ⟨printable_snapshot member.2, printable_members members⟩

end

end Json

/-! ## Codecs -/

def Codec.Printable {Value : Type} (codec : Codec Value) : Prop :=
  ∀ value, (codec.snapshot value).Printable

namespace Codec

variable {Value : Type} {codec : Codec Value}

@[simp] theorem printable_string : string.Printable := fun _ => .text

@[simp] theorem printable_bool : bool.Printable := fun value => .word (Json.plain_encodeBool value)

@[simp] theorem printable_int32 : int32.Printable := by
  intro value
  refine .word ?_
  simpa using Json.plain_encodeInt value.toInt

@[simp] theorem printable_json : json.Printable := Json.printable_snapshot

@[simp] theorem Printable.list (printable : codec.Printable) : codec.list.Printable := by
  intro values
  refine .list fun item member => ?_
  obtain ⟨value, -, rfl⟩ := List.mem_map.mp member
  exact printable value

@[simp] theorem Printable.dictionary (printable : codec.Printable) : codec.dictionary.Printable := by
  intro found
  refine .map fun entry member => ?_
  obtain ⟨⟨name, value⟩, -, rfl⟩ := List.mem_map.mp member
  exact printable value

@[simp] theorem Printable.orDefault (printable : codec.Printable) (default : Value) :
    (codec.orDefault default).Printable :=
  printable

@[simp] theorem Printable.option (printable : codec.Printable) : codec.option.Printable := by
  rintro (_ | value)
  · exact .word (by simp [IsControl])
  · exact .wrapped (by simp [IsControl]) (printable value)

end Codec

/-! ## Records -/

namespace Field

variable {Record Value : Type} {name label : String} {absence : Absence} {codec : Codec Value}
  {get : Record → Value} {set : Value → Record → Record}

@[simp] theorem label_of {omits : Value → Bool} :
    (Field.of name label absence codec omits get set).label = label := rfl

@[simp] theorem label_required : (Field.required name label codec get set).label = label := rfl

@[simp] theorem label_optional {default : Value} :
    (Field.optional name label codec default get set).label = label := rfl

@[simp] theorem label_text {get : Record → String} {set : String → Record → Record} :
    (Field.text name label get set).label = label := rfl

def Printable (field : Field Record) : Prop := ∀ record, (field.snapshot record).Printable

@[simp] theorem printable_of {omits : Value → Bool} (printable : codec.Printable) :
    (Field.of name label absence codec omits get set).Printable :=
  fun record => printable (get record)

@[simp] theorem printable_required (printable : codec.Printable) :
    (Field.required name label codec get set).Printable :=
  printable_of printable

@[simp] theorem printable_optional {default : Value} (printable : codec.Printable) :
    (Field.optional name label codec default get set).Printable :=
  printable_of (printable.orDefault default)

@[simp] theorem printable_text {get : Record → String} {set : String → Record → Record} :
    (Field.text name label get set).Printable :=
  printable_of (Codec.printable_string.orDefault "")

end Field

def Schema.labels {Record : Type} (schema : Schema Record) : List String :=
  schema.name :: schema.fields.map (·.label)

theorem Schema.printable {Record : Type} {schema : Schema Record}
    (plain : ∀ label ∈ schema.labels, Plain label.toList)
    (each : ∀ field ∈ schema.fields, field.Printable) : schema.codec.Printable := by
  rw [labels, List.forall_mem_cons, List.forall_mem_map] at plain
  intro record
  refine .record plain.1 ?_ ?_
  · intro shown member
    obtain ⟨field, listed, rfl⟩ := List.mem_map.mp member
    exact plain.2 field listed
  · intro shown member
    obtain ⟨field, listed, rfl⟩ := List.mem_map.mp member
    exact each field listed record

/-! ### Requests -/

@[simp] theorem NetworkRef.printable {name : String} (plain : Plain name.toList) :
    (NetworkRef.schema name).codec.Printable :=
  Schema.printable (by simp [Schema.labels, NetworkRef.schema, IsControl, plain])
    (by simp [NetworkRef.schema])

@[simp] theorem EndpointRef.printable {name : String} (plain : Plain name.toList) :
    (EndpointRef.schema name).codec.Printable :=
  Schema.printable (by simp [Schema.labels, EndpointRef.schema, IsControl, plain])
    (by simp [EndpointRef.schema])

@[simp] theorem PoolEntry.printable : PoolEntry.schema.codec.Printable :=
  Schema.printable (by simp [Schema.labels, PoolEntry.schema, IsControl])
    (by simp [PoolEntry.schema,
      Field.printable_of (Codec.printable_string.dictionary.orDefault ∅)])

@[simp] theorem InterfaceText.printable : InterfaceText.schema.codec.Printable :=
  Schema.printable (by simp [Schema.labels, InterfaceText.schema, IsControl])
    (by simp [InterfaceText.schema])

@[simp] theorem NetworkArguments.printable {Setting : Type} {name : String}
    {setting : Codec Setting} (plain : Plain name.toList) (printable : setting.Printable) :
    (NetworkArguments.schema name setting).codec.Printable :=
  Schema.printable (by simp [Schema.labels, NetworkArguments.schema, IsControl, plain])
    (by simp [NetworkArguments.schema, printable])

@[simp] theorem EndpointArguments.printable : EndpointArguments.schema.codec.Printable :=
  Schema.printable (by simp [Schema.labels, EndpointArguments.schema, IsControl])
    (by simp [EndpointArguments.schema])

@[simp] theorem JoinArguments.printable : JoinArguments.schema.codec.Printable :=
  Schema.printable (by simp [Schema.labels, JoinArguments.schema, IsControl])
    (by simp [JoinArguments.schema])

@[simp] theorem ConnectivityArguments.printable : ConnectivityArguments.schema.codec.Printable :=
  Schema.printable (by simp [Schema.labels, ConnectivityArguments.schema, IsControl])
    (by simp [ConnectivityArguments.schema])

@[simp] theorem Discovery.printable : Discovery.schema.codec.Printable :=
  Schema.printable (by simp [Schema.labels, Discovery.schema, IsControl])
    (by simp [Discovery.schema])

theorem Request.printable_snapshot {request : Request} {shown : Snapshot}
    (shows : request.snapshot? = some shown) : shown.Printable := by
  cases request with
  | getCapabilities => cases shows
  | createNetwork =>
      cases shows
      exact NetworkArguments.printable (by simp [IsControl]) Codec.printable_json _
  | allocateNetwork =>
      cases shows
      exact NetworkArguments.printable (by simp [IsControl]) Codec.printable_string _
  | deleteNetwork | freeNetwork =>
      cases shows
      exact NetworkRef.printable (by simp [IsControl]) _
  | createEndpoint =>
      cases shows
      exact EndpointArguments.printable _
  | deleteEndpoint | endpointInfo | leave | revokeExternalConnectivity =>
      cases shows
      exact EndpointRef.printable (by simp [IsControl]) _
  | join =>
      cases shows
      exact JoinArguments.printable _
  | discoverNew | discoverDelete =>
      cases shows
      exact Discovery.printable _
  | programExternalConnectivity =>
      cases shows
      exact ConnectivityArguments.printable _

/-! ### Responses -/

@[simp] theorem Capabilities.printable : Capabilities.schema.codec.Printable :=
  Schema.printable (by simp [Schema.labels, Capabilities.schema, IsControl])
    (by simp [Capabilities.schema])

@[simp] theorem Allocation.printable : Allocation.schema.codec.Printable :=
  Schema.printable (by simp [Schema.labels, Allocation.schema, IsControl])
    (by simp [Allocation.schema])

@[simp] theorem EndpointAnswer.printable : EndpointAnswer.schema.codec.Printable :=
  Schema.printable (by simp [Schema.labels, EndpointAnswer.schema, IsControl])
    (by simp [EndpointAnswer.schema])

@[simp] theorem EndpointReport.printable : EndpointReport.schema.codec.Printable :=
  Schema.printable (by simp [Schema.labels, EndpointReport.schema, IsControl])
    (by simp [EndpointReport.schema])

@[simp] theorem DeviceName.printable : DeviceName.schema.codec.Printable :=
  Schema.printable (by simp [Schema.labels, DeviceName.schema, IsControl])
    (by simp [DeviceName.schema])

@[simp] theorem RouteText.printable : RouteText.schema.codec.Printable :=
  Schema.printable (by simp [Schema.labels, RouteText.schema, IsControl])
    (by simp [RouteText.schema])

@[simp] theorem AttachmentText.printable : AttachmentText.schema.codec.Printable :=
  Schema.printable (by simp [Schema.labels, AttachmentText.schema, IsControl])
    (by simp [AttachmentText.schema])

theorem Response.printable_snapshot {response : Response} {shown : Snapshot}
    (shows : response.snapshot? = some shown) : shown.Printable := by
  cases response with
  | done => cases shows
  | capabilities =>
      cases shows
      exact Capabilities.printable _
  | allocation =>
      cases shows
      exact Allocation.printable _
  | endpoint =>
      cases shows
      exact EndpointAnswer.printable _
  | report =>
      cases shows
      exact EndpointReport.printable _
  | attachment =>
      cases shows
      exact AttachmentText.printable _

end NetworkPlugin
