import ConsentBanner.Config
import ConsentBanner.Rule.Set

/-!
# Messages between engine and host

`Outbound` messages report to the host or ask it to evaluate page script; `Inbound` commands come
from it.  Both are written as objects whose member `type` names the kind.
-/

set_option autoImplicit false

namespace ConsentBanner

open Json (Decoder Held DecodeError)
open Json.Decode

/-- What the engine tells the host. -/
inductive Outbound where
  | init (url : String)
  | evalRequest (id code : String)
  | cmpDetected (url cmp : String)
  | popupFound (cmp url : String)
  | optOutResult (cmp : String) (result scheduleSelfTest : Bool) (url : String)
  | optInResult (cmp : String) (result scheduleSelfTest : Bool) (url : String)
  | selfTestResult (cmp : String) (result : Bool) (url : String)
  | autoconsentDone (cmp url : String)
  | detectionConflict (names : List String)
  deriving DecidableEq, Repr

/-- What the host tells the engine. -/
inductive Inbound where
  | initResponse (config : EngineConfig) (rules : RuleSet)
  | optIn
  | optOut
  | selfTest
  | evalResponse (id : String) (result : Json)

namespace Outbound

inductive Kind where
  | init | evalRequest | cmpDetected | popupFound | optOutResult | optInResult | selfTestResult
  | autoconsentDone | detectionConflict
  deriving DecidableEq, Repr

def Kind.text : Kind → String
  | .init => "init"
  | .evalRequest => "evalRequest"
  | .cmpDetected => "cmpDetected"
  | .popupFound => "popupFound"
  | .optOutResult => "optOutResult"
  | .optInResult => "optInResult"
  | .selfTestResult => "selfTestResult"
  | .autoconsentDone => "autoconsentDone"
  | .detectionConflict => "detectionConflict"

def Kind.all : List Kind :=
  [.init, .evalRequest, .cmpDetected, .popupFound, .optOutResult, .optInResult, .selfTestResult,
   .autoconsentDone, .detectionConflict]

def tag : Outbound → Kind
  | .init _ => .init
  | .evalRequest _ _ => .evalRequest
  | .cmpDetected _ _ => .cmpDetected
  | .popupFound _ _ => .popupFound
  | .optOutResult _ _ _ _ => .optOutResult
  | .optInResult _ _ _ _ => .optInResult
  | .selfTestResult _ _ _ => .selfTestResult
  | .autoconsentDone _ _ => .autoconsentDone
  | .detectionConflict _ => .detectionConflict

def kind (message : Outbound) : String := message.tag.text

def encode : Outbound → Json
  | .init url => .object [("type", .string "init"), ("url", .string url)]
  | .evalRequest id code =>
    .object [("code", .string code), ("id", .string id), ("type", .string "evalRequest")]
  | .cmpDetected url cmp =>
    .object [("cmp", .string cmp), ("type", .string "cmpDetected"), ("url", .string url)]
  | .popupFound cmp url =>
    .object [("cmp", .string cmp), ("type", .string "popupFound"), ("url", .string url)]
  | .optOutResult cmp result selfTest url =>
    .object [("cmp", .string cmp), ("result", .bool result), ("scheduleSelfTest", .bool selfTest),
      ("type", .string "optOutResult"), ("url", .string url)]
  | .optInResult cmp result selfTest url =>
    .object [("cmp", .string cmp), ("result", .bool result), ("scheduleSelfTest", .bool selfTest),
      ("type", .string "optInResult"), ("url", .string url)]
  | .selfTestResult cmp result url =>
    .object [("cmp", .string cmp), ("result", .bool result), ("type", .string "selfTestResult"),
      ("url", .string url)]
  | .autoconsentDone cmp url =>
    .object [("cmp", .string cmp), ("type", .string "autoconsentDone"), ("url", .string url)]
  | .detectionConflict names =>
    .object [("names", .strings names), ("type", .string "detectionConflict")]

/-- The members and elements of a message that names a handler and the address of the page. -/
def decodeNamed (variant : String) (urlFirst : Bool) (make : String → String → Outbound) :
    Decoder Outbound :=
  let expected := "struct variant OutboundMessage::" ++ variant
  record expected
    (fun held given => do
      let cmp ← member? given "cmp" string held
      let url ← member? given "url" string held
      if urlFirst then
        let url ← required "url" url
        return make (← required "cmp" cmp) url
      else
        let cmp ← required "cmp" cmp
        return make cmp (← required "url" url))
    (fun held => do
      let sized := expected ++ " with 2 elements"
      let first ← next sized string held
      let second ← next sized string held
      return if urlFirst then make second first else make first second)

/-- The members and elements of the report of a consent routine. -/
def decodeResult (variant : String) (make : String → Bool → Bool → String → Outbound) :
    Decoder Outbound :=
  let expected := "struct variant OutboundMessage::" ++ variant
  record expected
    (fun held given => do
      let cmp ← member? given "cmp" string held
      let result ← member? given "result" bool held
      let selfTest ← member? given "scheduleSelfTest" bool held
      let url ← member? given "url" string held
      return make (← required "cmp" cmp) (← required "result" result)
        (← required "scheduleSelfTest" selfTest) (← required "url" url))
    (fun held => do
      let sized := expected ++ " with 4 elements"
      let cmp ← next sized string held
      let result ← next sized bool held
      let selfTest ← next sized bool held
      let url ← next sized string held
      return make cmp result selfTest url)

def decodeContent : Kind → Decoder Outbound
  | .init =>
    record "struct variant OutboundMessage::Init"
      (fun held given => do
        let url ← member? given "url" string held
        return .init (← required "url" url))
      (fun held => do
        return .init (← next "struct variant OutboundMessage::Init with 1 element" string held))
  | .evalRequest =>
    record "struct variant OutboundMessage::EvalRequest"
      (fun held given => do
        let code ← member? given "code" string held
        let id ← member? given "id" string held
        let id ← required "id" id
        return .evalRequest id (← required "code" code))
      (fun held => do
        let sized := "struct variant OutboundMessage::EvalRequest with 2 elements"
        let id ← next sized string held
        let code ← next sized string held
        return .evalRequest id code)
  | .cmpDetected => decodeNamed "CmpDetected" true fun cmp url => .cmpDetected url cmp
  | .popupFound => decodeNamed "PopupFound" false fun cmp url => .popupFound cmp url
  | .optOutResult => decodeResult "OptOutResult" .optOutResult
  | .optInResult => decodeResult "OptInResult" .optInResult
  | .selfTestResult =>
    record "struct variant OutboundMessage::SelfTestResult"
      (fun held given => do
        let cmp ← member? given "cmp" string held
        let result ← member? given "result" bool held
        let url ← member? given "url" string held
        return .selfTestResult (← required "cmp" cmp) (← required "result" result)
          (← required "url" url))
      (fun held => do
        let sized := "struct variant OutboundMessage::SelfTestResult with 3 elements"
        let cmp ← next sized string held
        let result ← next sized bool held
        let url ← next sized string held
        return .selfTestResult cmp result url)
  | .autoconsentDone => decodeNamed "AutoconsentDone" false fun cmp url => .autoconsentDone cmp url
  | .detectionConflict =>
    record "struct variant OutboundMessage::DetectionConflict"
      (fun held given => do
        let names ← member? given "names" (list string) held
        return .detectionConflict (← required "names" names))
      (fun held => do
        let sized := "struct variant OutboundMessage::DetectionConflict with 1 element"
        return .detectionConflict (← next sized (list string) held))

def decode : Decoder Outbound :=
  tagged "type" "OutboundMessage" (Kind.all.map fun k => (k.text, k)) fun k content =>
    decodeContent k .back content

end Outbound

namespace Inbound

/-- The kinds of commands. -/
inductive Kind where
  | initResponse | optIn | optOut | selfTest | evalResponse
  deriving DecidableEq, Repr

/-- The kinds by their names, in order of declaration. -/
def Kind.variants : List (String × Kind) :=
  [("initResponse", .initResponse), ("optIn", .optIn), ("optOut", .optOut),
   ("selfTest", .selfTest), ("evalResponse", .evalResponse)]

def decodeContent : Kind → Json → Except DecodeError Inbound
  | .initResponse, content =>
    record "struct variant InboundCommand::InitResponse"
      (fun held given => do
        let config ← memberOr given "config" EngineConfig.initial EngineConfig.decode held
        let rules ← member? given "ruleSet" RuleSet.decode held
        let rules ← memberAgain? rules "ruleSet" given "rules" RuleSet.decode held
        return .initResponse config (rules.getD .empty))
      (fun held => do
        let config ← nextOr EngineConfig.initial EngineConfig.decode held
        let rules ← nextOr RuleSet.empty RuleSet.decode held
        return .initResponse config rules) .back content
  | .optIn, content => (noContent content).map fun _ => .optIn
  | .optOut, content => (noContent content).map fun _ => .optOut
  | .selfTest, content => (noContent content).map fun _ => .selfTest
  | .evalResponse, content =>
    record "struct variant InboundCommand::EvalResponse"
      (fun held given => do
        let id ← member? given "id" string held
        let result ← memberOr given "result" .null any held
        return .evalResponse (← required "id" id) result)
      (fun held => do
        let id ← next "struct variant InboundCommand::EvalResponse with 2 elements" string held
        let result ← nextOr .null any held
        return .evalResponse id result) .back content

def decode : Decoder Inbound := tagged "type" "InboundCommand" Kind.variants decodeContent

end Inbound

end ConsentBanner
