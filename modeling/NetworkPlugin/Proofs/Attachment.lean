import NetworkPlugin.Attachment
import NetworkPlugin.Interface
import NetworkPlugin.Proofs.Address.RoundTrip
import NetworkPlugin.Proofs.Wire.RoundTrip

/-!
# Attachments are written without loss

What is written of an attachment is decoded as its text, which has a member for just what is
set and from which the attachment can be told.  Texts of addresses are never empty and belong
to one address only, so that nothing is mistaken for an address that is not set.
-/

namespace NetworkPlugin

open Json

/-! ## Members of written records -/

def Json.member? (name : String) : Json → Option Json
  | .object members => members.lookup name
  | _ => none

theorem Schema.member?_write {Record : Type} {schema : Schema Record}
    (distinct : (schema.fields.map (·.name)).Nodup) {field : Field Record}
    (member : field ∈ schema.fields) (record : Record) :
    (schema.codec.write record).member? field.name = field.write record := by
  change (schema.members record).lookup field.name = field.write record
  unfold members
  generalize schema.fields = fields at distinct member
  induction fields with
  | nil => cases member
  | cons first fields ih =>
      rw [List.map_cons, List.nodup_cons] at distinct
      rw [List.filterMap_cons]
      rcases List.mem_cons.mp member with rfl | later
      · cases written : field.write record with
        | some value => exact List.lookup_cons_self
        | none =>
            rw [Option.map_none, List.lookup_eq_none_iff]
            intro pair listed
            obtain ⟨other, known, made⟩ := List.mem_filterMap.mp listed
            obtain ⟨value, -, rfl⟩ := Option.map_eq_some_iff.mp made
            rw [bne_iff_ne]
            intro same
            exact distinct.1 (List.mem_map.mpr ⟨other, known, same.symm⟩)
      · have differ : (field.name == first.name) = false := by
          rw [beq_eq_false_iff_ne]
          intro same
          exact distinct.1 (List.mem_map.mpr ⟨field, later, same⟩)
        cases first.write record with
        | some value =>
            rw [Option.map_some, List.lookup_cons, differ]
            exact ih distinct.2 later
        | none => exact ih distinct.2 later

/-! ## Texts that may be missing -/

section

variable {Value : Type} {render : Value → String}

theorem writeSet_injective (nonempty : ∀ value, (render value).isEmpty = false)
    (injective : Function.Injective render) :
    Function.Injective (Interface.writeSet render) := by
  intro one other same
  cases one with
  | none =>
      cases other with
      | none => rfl
      | some value =>
          have filled := nonempty value
          rw [← show "" = render value from same] at filled
          cases filled
  | some value =>
      cases other with
      | none =>
          have filled := nonempty value
          rw [show render value = "" from same] at filled
          cases filled
      | some another => exact congrArg some (injective same)

theorem written_writeSet (nonempty : ∀ value, (render value).isEmpty = false)
    (value : Option Value) :
    (if (Interface.writeSet render value).isEmpty then none
      else some (Json.string (Interface.writeSet render value))) =
      value.map fun value => .string (render value) := by
  cases value with
  | none => rfl
  | some value => simp [Interface.writeSet, nonempty]

end

/-! ## Texts of addresses -/

theorem Address.isEmpty_render {family : Family} (address : Address family) :
    address.render.isEmpty = false := by
  have unread : Address.parse? family "" = none := by cases family <;> rfl
  rw [Bool.eq_false_iff]
  intro empty
  have read := address.parse?_render
  rw [String.isEmpty_iff.mp empty, unread] at read
  cases read

theorem AnyAddress.isEmpty_render (address : AnyAddress) : address.render.isEmpty = false :=
  Address.isEmpty_render address.2

theorem injective_of_read_back {Value : Type} {parse? : String → Option Value}
    {render : Value → String} (law : ∀ value, parse? (render value) = some value) :
    Function.Injective render := by
  intro one other same
  have read := law one
  rw [same, law other] at read
  exact (Option.some.inj read).symm

theorem AnyAddress.render_injective : Function.Injective AnyAddress.render :=
  injective_of_read_back AnyAddress.parse?_render

theorem AnySubnet.render_injective : Function.Injective AnySubnet.render :=
  injective_of_read_back AnySubnet.parse?_render

/-! ## Routes -/

theorem RouteKind.code_injective : Function.Injective RouteKind.code := by
  intro one other same
  cases one <;> cases other <;> first | rfl | cases same

theorem Route.toText_injective : Function.Injective Route.toText := by
  intro one other same
  obtain ⟨destination, kind, nextHop⟩ := one
  obtain ⟨destinationToo, kindToo, nextHopToo⟩ := other
  obtain ⟨sameDestination, sameKind, sameHop⟩ := RouteText.mk.inj same
  obtain rfl := AnySubnet.render_injective sameDestination
  obtain rfl := RouteKind.code_injective sameKind
  obtain rfl := writeSet_injective AnyAddress.isEmpty_render AnyAddress.render_injective sameHop
  rfl

def Route.toJson (route : Route) : Json := RouteText.schema.codec.write route.toText

theorem Route.member?_nextHop (route : Route) :
    route.toJson.member? "NextHop" = route.nextHop.map fun address => .string address.render := by
  have distinct : (RouteText.schema.fields.map (·.name)).Nodup := by decide
  rw [← written_writeSet AnyAddress.isEmpty_render]
  exact Schema.member?_write distinct (.tail _ (.tail _ (.head _))) route.toText

/-! ## Attachments -/

namespace Attachment

theorem toText_injective : Function.Injective toText := by
  intro one other same
  obtain ⟨device, gateway, gatewayV6, routes, disabled⟩ := one
  obtain ⟨deviceToo, gatewayToo, gatewayV6Too, routesToo, disabledToo⟩ := other
  obtain ⟨rfl, sameGateway, sameGatewayV6, sameRoutes, rfl⟩ := AttachmentText.mk.inj same
  have injective {family : Family} :
      Function.Injective (Address.render : Address family → String) :=
    injective_of_read_back Address.parse?_render
  obtain rfl := writeSet_injective Address.isEmpty_render injective sameGateway
  obtain rfl := writeSet_injective Address.isEmpty_render injective sameGatewayV6
  obtain rfl := List.map_injective_iff.mpr Route.toText_injective sameRoutes
  rfl

def toJson (attachment : Attachment) : Json :=
  AttachmentText.schema.codec.write attachment.toText

theorem decode_toJson (attachment : Attachment) :
    AttachmentText.schema.codec.decode attachment.toJson.render.toUTF8.toList =
      .ok attachment.toText :=
  (AttachmentText.codec_returns (by decide) _).decode_render (AttachmentText.exact_write _)

/-- The members of what is sent that may be missing. -/
structure Shown (attachment : Attachment) (json : Json) : Prop where
  gateway : json.member? "Gateway" = attachment.gateway.map fun address => .string address.render
  gatewayV6 : json.member? "GatewayIPv6" =
    attachment.gatewayV6.map fun address => .string address.render
  routes : json.member? "StaticRoutes" =
    if attachment.routes = [] then none else some (.array (attachment.routes.map Route.toJson))
  nextHop : ∀ route ∈ attachment.routes, route.toJson.member? "NextHop" =
    route.nextHop.map fun address => .string address.render

theorem shown_toJson (attachment : Attachment) : attachment.Shown attachment.toJson := by
  have distinct : (AttachmentText.schema.fields.map (·.name)).Nodup := by decide
  refine ⟨?_, ?_, ?_, fun route _ => route.member?_nextHop⟩
  · rw [← written_writeSet Address.isEmpty_render]
    exact Schema.member?_write distinct (.tail _ (.head _)) attachment.toText
  · rw [← written_writeSet Address.isEmpty_render]
    exact Schema.member?_write distinct (.tail _ (.tail _ (.head _))) attachment.toText
  · refine (Schema.member?_write distinct (.tail _ (.tail _ (.tail _ (.head _))))
      attachment.toText).trans ?_
    cases routes : attachment.routes with
    | nil => simp [Field.of, toText, routes]
    | cons route others => simp [Field.of, toText, routes, Codec.list, Route.toJson]

theorem toJson_render_injective :
    Function.Injective fun attachment : Attachment => attachment.toJson.render := by
  intro one other same
  have decoded := one.decode_toJson
  rw [show one.toJson.render = other.toJson.render from same, other.decode_toJson] at decoded
  exact (toText_injective (Except.ok.inj decoded)).symm

/-- Nothing of an attachment is lost when it is sent. -/
theorem sent_without_loss :
    (∀ attachment : Attachment,
      AttachmentText.schema.codec.decode attachment.toJson.render.toUTF8.toList =
          .ok attachment.toText ∧
        attachment.Shown attachment.toJson) ∧
      Function.Injective toJson ∧
      Function.Injective fun attachment : Attachment => attachment.toJson.render := by
  refine ⟨fun attachment => ⟨attachment.decode_toJson, attachment.shown_toJson⟩, ?_,
    toJson_render_injective⟩
  intro one other same
  exact toJson_render_injective (congrArg Json.render same)

end Attachment

end NetworkPlugin
