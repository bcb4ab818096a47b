import NetworkPlugin.Proofs.Json.Objects
import NetworkPlugin.Proofs.Rejection
import NetworkPlugin.Proofs.Wire.Respelling
import NetworkPlugin.Proofs.Wire.Types

/-!
# Respelled requests

A request may be sent in many spellings.  The order of members, members that the operation
does not know and nulls say nothing, in the request and in its pools and its interface, so that
any two spellings are decoded as the same request, or neither is decoded.
-/

namespace NetworkPlugin

open Json Schema

/-! ## What may be respelled -/

def Operation.known : Operation → List String
  | getCapabilities => []
  | createNetwork | allocateNetwork => ["NetworkID", "Options", "IPv4Data", "IPv6Data"]
  | deleteNetwork | freeNetwork => ["NetworkID"]
  | createEndpoint => ["NetworkID", "EndpointID", "Interface", "Options"]
  | deleteEndpoint | endpointInfo | leave | revokeExternalConnectivity =>
      ["NetworkID", "EndpointID"]
  | join => ["NetworkID", "EndpointID", "SandboxKey", "Options"]
  | discoverNew | discoverDelete => ["DiscoveryType", "DiscoveryData"]
  | programExternalConnectivity => ["NetworkID", "EndpointID", "Options"]

/-- A change of an entry of the pools or of the interface.  All other values are data, in which
a null is not the same as nothing. -/
inductive EditsInside (name : String) : Doc → Doc → Prop
  | entry {opening before surplus value other after tail}
      (pools : name = "IPv4Data" ∨ name = "IPv6Data")
      (edit : EditsRecord ["AddressSpace", "Pool", "Gateway", "AuxAddresses"] value other) :
      EditsInside name (.array opening (before ++ (surplus, value) :: after) tail)
        (.array opening (before ++ (surplus, other) :: after) tail)
  | interface {value other} (isInterface : name = "Interface")
      (edit : EditsRecord ["Address", "AddressIPv6", "MacAddress"] value other) :
      EditsInside name value other

/-! ## Fields -/

namespace Field

variable {Record Value : Type} {name label : String} {absence : Absence} {codec : Codec Value}

theorem of_placeless {omits : Value → Bool} {get : Record → Value} {set : Value → Record → Record}
    (placeless : codec.Placeless) (doc : Doc) :
    ((Field.of name label absence codec omits get set).read doc.bare).Agree
      ((Field.of name label absence codec omits get set).read doc) :=
  (placeless doc).map set

theorem text_placeless {omits : String → Bool} {get : Record → String}
    {set : String → Record → Record} (doc : Doc) :
    ((Field.of name label absence (Codec.string.orDefault "") omits get set).read doc.bare).Agree
      ((Field.of name label absence (Codec.string.orDefault "") omits get set).read doc) :=
  of_placeless (Codec.orDefault_placeless Codec.string_placeless "") doc

theorem dictionary_placeless {omits : Dictionary Value → Bool} {get : Record → Dictionary Value}
    {set : Dictionary Value → Record → Record} (placeless : codec.Placeless) (doc : Doc) :
    ((Field.of name label absence (codec.dictionary.orDefault ∅) omits get set).read
        doc.bare).Agree
      ((Field.of name label absence (codec.dictionary.orDefault ∅) omits get set).read doc) :=
  of_placeless (Codec.orDefault_placeless (Codec.dictionary_placeless placeless) ∅) doc

end Field

theorem Codec.list_read_agree {Value : Type} {codec : Codec Value} {opening : Opening}
    {before after : List (Fault × Doc)} {surplus : Fault} {tail : Tail} {value other : Doc}
    (agree : (codec.read value).Agree (codec.read other)) :
    (codec.list.read (.array opening (before ++ (surplus, value) :: after) tail)).Agree
      (codec.list.read (.array opening (before ++ (surplus, other) :: after) tail)) := by
  refine .bind (.refl _) fun _ => .bind (.mapM ?_) fun _ => .refl _
  have same (items : List (Fault × Doc)) :
      List.Forall₂ (fun item other => (codec.read item.2).Agree (codec.read other.2)) items items :=
    List.forall₂_same.mpr fun _ _ => .refl _
  exact List.rel_append (same before) (.cons agree (same after))

/-! ## Schemas -/

theorem PoolEntry.forgiving : PoolEntry.schema.Forgiving fun _ _ _ => False where
  nullable := ⟨0, PoolEntry.nullable (by decide)⟩
  placeless := by
    simp only [Placeless, PoolEntry.schema, List.forall_mem_cons]
    exact ⟨Field.text_placeless, Field.text_placeless, Field.text_placeless,
      Field.dictionary_placeless Codec.string_placeless, by simp⟩
  inside _ _ _ _ edit := edit.elim

theorem InterfaceText.forgiving : InterfaceText.schema.Forgiving fun _ _ _ => False where
  nullable := ⟨0, InterfaceText.nullable 0⟩
  placeless := by
    simp only [Placeless, InterfaceText.schema, List.forall_mem_cons]
    exact ⟨Field.text_placeless, Field.text_placeless, Field.text_placeless, by simp⟩
  inside _ _ _ _ edit := edit.elim

theorem EditsInside.name_mem {name : String} {value other : Doc}
    (edit : EditsInside name value other) : name ∈ ["IPv4Data", "IPv6Data", "Interface"] := by
  cases edit with
  | entry pools => rcases pools with same | same <;> simp [same]
  | interface isInterface => simp [isInterface]

theorem not_editsInside {Record : Type} {field : Field Record}
    (plain : field.name ∉ ["IPv4Data", "IPv6Data", "Interface"]) (value other : Doc)
    (edit : EditsInside field.name value other) : (field.read value).Agree (field.read other) :=
  absurd edit.name_mem plain

theorem inside_of_plain {Record : Type} {schema : Schema Record}
    (plain : ∀ field ∈ schema.fields, field.name ∉ ["IPv4Data", "IPv6Data", "Interface"]) :
    ∀ field ∈ schema.fields, ∀ value other, EditsInside field.name value other →
      (field.read value).Agree (field.read other) :=
  fun field listed => not_editsInside (plain field listed)

theorem NetworkRef.forgiving (name : String) :
    (NetworkRef.schema name).Forgiving EditsInside where
  nullable := ⟨0, NetworkRef.nullable name 0⟩
  placeless := by
    simp only [Placeless, NetworkRef.schema, List.forall_mem_cons]
    exact ⟨Field.text_placeless, by simp⟩
  inside := inside_of_plain (by simp [NetworkRef.schema, Field.optional, Field.of])

theorem EndpointRef.forgiving (name : String) :
    (EndpointRef.schema name).Forgiving EditsInside where
  nullable := ⟨0, EndpointRef.nullable name 0⟩
  placeless := by
    simp only [Placeless, EndpointRef.schema, List.forall_mem_cons]
    exact ⟨Field.text_placeless, Field.text_placeless, by simp⟩
  inside := inside_of_plain (by simp [EndpointRef.schema, Field.optional, Field.of])

theorem JoinArguments.forgiving : JoinArguments.schema.Forgiving EditsInside where
  nullable := ⟨0, JoinArguments.nullable (by decide)⟩
  placeless := by
    simp only [Placeless, JoinArguments.schema, List.forall_mem_cons]
    exact ⟨Field.text_placeless, Field.text_placeless, Field.text_placeless,
      Field.dictionary_placeless Codec.json_placeless, by simp⟩
  inside := inside_of_plain (by simp [JoinArguments.schema, Field.optional, Field.of])

theorem ConnectivityArguments.forgiving :
    ConnectivityArguments.schema.Forgiving EditsInside where
  nullable := ⟨0, ConnectivityArguments.nullable (by decide)⟩
  placeless := by
    simp only [Placeless, ConnectivityArguments.schema, List.forall_mem_cons]
    exact ⟨Field.text_placeless, Field.text_placeless,
      Field.dictionary_placeless Codec.json_placeless, by simp⟩
  inside := inside_of_plain (by simp [ConnectivityArguments.schema, Field.optional, Field.of])

theorem Discovery.forgiving : Discovery.schema.Forgiving EditsInside where
  nullable := ⟨0, Discovery.nullable 0⟩
  placeless := by
    simp only [Placeless, Discovery.schema, List.forall_mem_cons]
    exact ⟨Field.of_placeless (Codec.orDefault_placeless Codec.int32_placeless 0),
      Field.of_placeless Codec.json_placeless, by simp⟩
  inside := inside_of_plain (by simp [Discovery.schema, Field.optional, Field.of])

theorem PoolEntry.list_agree {name : String} (isPools : name = "IPv4Data" ∨ name = "IPv6Data")
    {value other : Doc} (edit : EditsInside name value other) :
    ((schema.codec.list.orDefault []).read value).Agree
      ((schema.codec.list.orDefault []).read other) := by
  cases edit with
  | entry _ edit => exact Codec.list_read_agree (PoolEntry.forgiving.read_edit edit)
  | interface isInterface => rcases isPools with same | same <;> simp [same] at isInterface

theorem NetworkArguments.forgiving {Setting : Type} (name : String) {setting : Codec Setting}
    (steady : setting.Steady 1) (placeless : setting.Placeless) :
    (NetworkArguments.schema name setting).Forgiving EditsInside where
  nullable := ⟨0, NetworkArguments.nullable name steady (by decide)⟩
  placeless := by
    have entries := Codec.orDefault_placeless
      (Codec.list_placeless (codec_placeless PoolEntry.forgiving.placeless)) []
    simp only [Placeless, NetworkArguments.schema, List.forall_mem_cons]
    exact ⟨Field.text_placeless, Field.dictionary_placeless placeless,
      Field.of_placeless entries, Field.of_placeless entries, by simp⟩
  inside := by
    simp only [NetworkArguments.schema, List.forall_mem_cons]
    exact ⟨not_editsInside (by simp [Field.optional, Field.of]),
      not_editsInside (by simp [Field.optional, Field.of]),
      fun value other edit => (PoolEntry.list_agree (.inl rfl) edit).map _,
      fun value other edit => (PoolEntry.list_agree (.inr rfl) edit).map _, by simp⟩

theorem EndpointArguments.forgiving : EndpointArguments.schema.Forgiving EditsInside where
  nullable := ⟨0, EndpointArguments.nullable (by decide)⟩
  placeless := by
    simp only [Placeless, EndpointArguments.schema, List.forall_mem_cons]
    exact ⟨Field.text_placeless, Field.text_placeless,
      Field.of_placeless (Codec.option_placeless (codec_placeless InterfaceText.forgiving.placeless)),
      Field.dictionary_placeless Codec.json_placeless, by simp⟩
  inside := by
    simp only [EndpointArguments.schema, List.forall_mem_cons]
    refine ⟨not_editsInside (by decide), not_editsInside (by decide),
      fun value other edit => .map ?_ _, not_editsInside (by decide), by simp⟩
    cases edit with
    | entry pools => simp [Field.of] at pools
    | interface _ edit =>
        obtain ⟨edit⟩ := edit
        exact (InterfaceText.forgiving.read_edit (.object edit)).map some

/-! ## Requests -/

theorem Operation.read_respelled {operation : Operation} {members others : List (Key × Doc)}
    (respelled : Respelled operation.known EditsInside members others)
    {opening openingToo : Opening} (level : opening.level = openingToo.level) (stop other : Nat) :
    (operation.read (.object opening members (.closed stop))).Agree
      (operation.read (.object openingToo others (.closed other))) := by
  cases operation with
  | getCapabilities => exact .refl _
  | createNetwork =>
      exact ((NetworkArguments.forgiving _ (Codec.json_steady 1)
        Codec.json_placeless).read_respelled respelled level stop other).map _
  | allocateNetwork =>
      exact ((NetworkArguments.forgiving _ (Codec.string_steady 1)
        Codec.string_placeless).read_respelled respelled level stop other).map _
  | deleteNetwork | freeNetwork =>
      exact ((NetworkRef.forgiving _).read_respelled respelled level stop other).map _
  | createEndpoint =>
      exact (EndpointArguments.forgiving.read_respelled respelled level stop other).map _
  | deleteEndpoint | endpointInfo | leave | revokeExternalConnectivity =>
      exact ((EndpointRef.forgiving _).read_respelled respelled level stop other).map _
  | join => exact (JoinArguments.forgiving.read_respelled respelled level stop other).map _
  | discoverNew | discoverDelete =>
      exact (Discovery.forgiving.read_respelled respelled level stop other).map _
  | programExternalConnectivity =>
      exact (ConnectivityArguments.forgiving.read_respelled respelled level stop other).map _

theorem Operation.decode_respelled {operation : Operation} {text other : List UInt8}
    {members others : List (Key × Doc)} (isObject : IsObject text members)
    (isObjectToo : IsObject other others)
    (respelled : Respelled operation.known EditsInside members others) :
    (operation.decode text).Agree (operation.decode other) := by
  obtain ⟨opening, stop, parsed, level⟩ := isObject.exists_level
  obtain ⟨openingToo, stopToo, parsedToo, levelToo⟩ := isObjectToo.exists_level
  have read := operation.read_respelled respelled (level.trans levelToo.symm) stop stopToo
  unfold decode
  split
  · simp only [Codec.decodeWith, parsed, parsedToo]
    exact .bind read fun _ => .refl _
  · exact .refl _

theorem Json.IsObject.not_blank {text : List UInt8} {members : List (Key × Doc)}
    (isObject : IsObject text members) : text.all Http.isAsciiBlank = false := by
  obtain ⟨byte, listed, brace⟩ := isObject.exists_brace
  rw [List.all_eq_false]
  refine ⟨byte, listed, ?_⟩
  simp [Http.isAsciiBlank, brace]

theorem decodeBody_braces (operation : Operation) :
    Http.decodeBody operation "\x7b\x7d".toUTF8.toList = .ok operation.blank := by
  have bytes : "\x7b\x7d".toUTF8.toList = [123, 125] := by decide +kernel
  rw [bytes]
  cases operation <;> with_unfolding_all rfl

/-- Two spellings of an object are decoded as the same request, if at all, and a body that is
blank is decoded like an object without members, which is the request that sets nothing. -/
theorem spellings_decode_alike (operation : Operation) :
    (∀ text other members others, IsObject text members → IsObject other others →
      Respelled operation.known EditsInside members others →
      ∀ request, Http.decodeBody operation text = .ok request ↔
        Http.decodeBody operation other = .ok request) ∧
    ∀ body : List UInt8, (∀ byte ∈ body, byte ∈ Http.asciiWhitespace) →
      Http.decodeBody operation body = Http.decodeBody operation "\x7b\x7d".toUTF8.toList ∧
        Http.decodeBody operation body = .ok operation.blank := by
  constructor
  · intro text other members others isObject isObjectToo respelled request
    unfold Http.decodeBody
    rw [isObject.not_blank, isObjectToo.not_blank]
    exact operation.decode_respelled isObject isObjectToo respelled request
  · intro body blank
    have all : body.all Http.isAsciiBlank = true :=
      List.all_eq_true.mpr fun byte member => (Http.isAsciiBlank_iff byte).mpr (blank byte member)
    have decoded : Http.decodeBody operation body = .ok operation.blank := if_pos all
    exact ⟨decoded.trans (decodeBody_braces operation).symm, decoded⟩

/-- A body with one member, and one with more members that say nothing. -/
def briefBody : List UInt8 := "\x7b\"NetworkID\":\"a\"\x7d".toUTF8.toList

def briefMembers : List (Key × Doc) := [(⟨.ok "NetworkID", 12⟩, .string (.ok "a") 16)]

def paddedBody : List UInt8 :=
  "\x7b\"x\":true,\"NetworkID\":\"a\",\"Options\":null\x7d".toUTF8.toList

def paddedMembers : List (Key × Doc) :=
  [(⟨.ok "x", 4⟩, .bool true 9), (⟨.ok "NetworkID", 21⟩, .string (.ok "a") 25),
    (⟨.ok "Options", 35⟩, .null 40)]

theorem briefBody_eq : briefBody =
    [123, 34, 78, 101, 116, 119, 111, 114, 107, 73, 68, 34, 58, 34, 97, 34, 125] := by
  decide +kernel

theorem isObject_briefBody : IsObject briefBody briefMembers := by
  rw [briefBody_eq]
  exact ⟨⟨0, 1⟩, 17, by with_unfolding_all rfl⟩

theorem isObject_paddedBody : IsObject paddedBody paddedMembers := by
  have bytes : paddedBody =
      [123, 34, 120, 34, 58, 116, 114, 117, 101, 44, 34, 78, 101, 116, 119, 111, 114, 107, 73, 68,
        34, 58, 34, 97, 34, 44, 34, 79, 112, 116, 105, 111, 110, 115, 34, 58, 110, 117, 108, 108,
        125] := by
    decide +kernel
  rw [bytes]
  exact ⟨⟨0, 1⟩, 41, by with_unfolding_all rfl⟩

theorem respelled_paddedMembers :
    Respelled Operation.createNetwork.known EditsInside paddedMembers briefMembers := by
  let known : List (Key × Doc) := Doc.bareMembers paddedMembers.tail
  have unpadded : Edit Operation.createNetwork.known EditsInside
      (Doc.bareMembers paddedMembers) known := .unknown rfl (by decide) rfl
  have swapped : Edit Operation.createNetwork.known EditsInside known known.reverse :=
    .permuted (.swap _ _ _)
  have gone : Edit Operation.createNetwork.known EditsInside known.reverse
      (Doc.bareMembers briefMembers) :=
    .null rfl (by decide) (by simp [Doc.bareKey, Except.mapError])
  exact .trans _ _ _ (.rel _ _ unpadded) (.trans _ _ _ (.rel _ _ swapped) (.rel _ _ gone))

theorem padded_body_is_decoded :
    Http.decodeBody .createNetwork paddedBody = .ok (.createNetwork { network := "a" }) := by
  refine ((spellings_decode_alike .createNetwork).1 _ _ _ _ isObject_paddedBody isObject_briefBody
    respelled_paddedMembers _).mpr ?_
  rw [briefBody_eq]
  with_unfolding_all rfl

end NetworkPlugin
