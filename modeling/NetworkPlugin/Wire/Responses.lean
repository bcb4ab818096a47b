import NetworkPlugin.Attachment
import NetworkPlugin.Interface

/-!
# Responses

The shapes of responses other than attachments, and their schemas.
-/

namespace NetworkPlugin

structure Activation where
  implements : List String := []
deriving DecidableEq

structure Capabilities where
  scope : String := ""
  connectivityScope : String := ""
deriving DecidableEq

structure Allocation where
  options : Dictionary String := ∅
deriving DecidableEq

structure EndpointAnswer where
  interface : Option InterfaceText := none
deriving DecidableEq

structure EndpointReport where
  value : Dictionary String := ∅
deriving DecidableEq

structure ErrorBody where
  message : String := ""
deriving DecidableEq

/-! ## Schemas -/

def emptySchema : Schema Unit where
  name := "Empty"
  blank := ()
  fields := []

def Activation.schema : Schema Activation where
  name := "ActivateResponse"
  blank := {}
  fields := [
    .required "Implements" "implements" Codec.string.list (·.implements)
      (fun value record => { record with implements := value })]

def Capabilities.schema : Schema Capabilities where
  name := "CapabilitiesResponse"
  blank := {}
  fields := [
    .required "Scope" "scope" .string (·.scope)
      (fun value record => { record with scope := value }),
    .required "ConnectivityScope" "connectivity_scope" .string (·.connectivityScope)
      (fun value record => { record with connectivityScope := value })]

def Allocation.schema : Schema Allocation where
  name := "AllocateNetworkResponse"
  blank := {}
  fields := [
    .required "Options" "options" Codec.string.dictionary (·.options)
      (fun value record => { record with options := value })]

def EndpointAnswer.schema : Schema EndpointAnswer where
  name := "CreateEndpointResponse"
  blank := {}
  fields := [
    .of "Interface" "interface" .ofMember InterfaceText.schema.codec.option Option.isNone
      (·.interface) (fun value record => { record with interface := value })]

def EndpointReport.schema : Schema EndpointReport where
  name := "InfoResponse"
  blank := {}
  fields := [
    .required "Value" "value" Codec.string.dictionary (·.value)
      (fun value record => { record with value := value })]

def ErrorBody.schema : Schema ErrorBody where
  name := "ErrorResponse"
  blank := {}
  fields := [
    .required "Err" "err" .string (·.message)
      (fun value record => { record with message := value })]

end NetworkPlugin
