import Scenario.Flow.Basic
import Scenario.Json.Decode
/-!
Steps as JSON.

`Step.encode` writes the `data` field of a node and `Step.decode` reads it back, given the kind of
the node. A request may leave out its headers and its body, and an upload its file name.
-/
namespace Scenario

open Json (Value Decoder DecodeError Record Variant)

def headersValue (headers : Dict String) : Value := .ofDict (headers.map .string)

def BodyTemplate.encode : BodyTemplate → Value
  | .none => .ofFields [("type", .string "none")]
  | .json template => .ofFields [("type", .string "raw-json"), ("body", .string template)]
  | .text template => .ofFields [("type", .string "raw-txt"), ("body", .string template)]
  | .upload key value name =>
    .ofFields [("type", .string "form-data"), ("key", .string key), ("value", .string value),
      ("name", .string name)]

def BodyTemplate.variants : List (Variant BodyTemplate) :=
  [.plain "none" .none,
   .ofRecord "RequestBody" "RawJson" "raw-json" (.map .json (.field "body" Decoder.string)),
   .ofRecord "RequestBody" "RawText" "raw-txt" (.map .text (.field "body" Decoder.string)),
   .ofRecord "RequestBody" "FormData" "form-data"
     (((Record.map .upload (.field "key" Decoder.string)).apply
       (.field "value" Decoder.string)).apply (.fieldWith "" "name" Decoder.string))]

def BodyTemplate.decode : Decoder BodyTemplate :=
  Variant.decode .plain "type" "RequestBody" BodyTemplate.variants

def Method.decode : Decoder Method :=
  Decoder.choice .plain (Method.all.map fun method => (method.name, method))

def RequestStep.encode (data : RequestStep) : Value :=
  .ofFields [("method", .string data.method.name), ("url", .string data.url),
    ("headers", headersValue data.headers), ("requestBody", data.body.encode)]

def RequestStep.record : Record RequestStep :=
  (((Record.map RequestStep.mk (.field "method" Method.decode)).apply
    (.field "url" Decoder.string)).apply
    (.fieldWith {} "headers" (Decoder.dict Decoder.string))).apply
    (.fieldWith .none "requestBody" BodyTemplate.decode)

def RequestStep.decode : Decoder RequestStep :=
  RequestStep.record.decode .plain "struct RequestData"

def Operator.decode : Decoder Operator :=
  Decoder.choice .plain (Operator.all.map fun operator => (operator.name, operator))

def Assertion.encode (data : Assertion) : Value :=
  .ofFields [("var1", .string data.left), ("operator", .string data.operator.name),
    ("var2", .string data.right)]

def Assertion.record : Record Assertion :=
  ((Record.map Assertion.mk (.field "var1" Decoder.string)).apply
    (.field "operator" Operator.decode)).apply (.field "var2" Decoder.string)

def encodeDelay (duration : UInt64) : Value :=
  .ofFields [("delay", .whole (.ofUInt64 duration))]

def delayRecord : Record UInt64 := .field "delay" Decoder.uint64

def Assignment.encode (data : Assignment) : Value :=
  .ofFields [("name", .string data.name), ("value", data.value)]

def Assignment.record : Record Assignment :=
  (Record.map Assignment.mk (.field "name" Decoder.string)).apply (.field "value" Decoder.any)

def Placement.decode (setting : Json.Setting) : Decoder Placement :=
  Decoder.choice setting (Placement.all.map fun placement => (placement.name, placement))

def Auth.encode : Auth → Value
  | .none => .ofFields [("type", .string "no-auth")]
  | .basic username password =>
    .ofFields [("type", .string "basic-auth"), ("username", .string username),
      ("password", .string password)]
  | .bearer token => .ofFields [("type", .string "bearer-token"), ("token", .string token)]
  | .apiKey key value placement =>
    .ofFields [("type", .string "api-key"), ("key", .string key), ("value", .string value),
      ("addTo", .string placement.name)]

def Auth.variants : List (Variant Auth) :=
  [.plain "no-auth" .none,
   .ofRecord "AuthData" "Basic" "basic-auth"
     ((Record.map .basic (.field "username" Decoder.string)).apply
       (.field "password" Decoder.string)),
   .ofRecord "AuthData" "Bearer" "bearer-token" (.map .bearer (.field "token" Decoder.string)),
   .ofRecord "AuthData" "ApiKey" "api-key"
     (((Record.map .apiKey (.field "key" Decoder.string)).apply
       (.field "value" Decoder.string)).apply (.field "addTo" (Placement.decode .tagged)))]

def Auth.decode : Decoder Auth := Variant.decode .plain "type" "AuthData" Auth.variants

def Step.encode : Step → Value
  | .request data => data.encode
  | .assertion data => data.encode
  | .delay duration => encodeDelay duration
  | .assignment data => data.encode
  | .output template => template
  | .auth data => data.encode

def Step.decode : Kind → Decoder Step
  | .request => fun v => (RequestStep.decode v).map .request
  | .assertion => fun v => (Assertion.record.decode .plain "struct AssertData" v).map .assertion
  | .delay => fun v => (delayRecord.decode .plain "struct DelayData" v).map .delay
  | .assignment => fun v => (Assignment.record.decode .plain "struct SetVarData" v).map .assignment
  | .output => fun v => .ok (.output v)
  | .auth => fun v => (Auth.decode v).map .auth

end Scenario
