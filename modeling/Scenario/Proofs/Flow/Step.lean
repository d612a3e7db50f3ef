import Scenario.Flow.Step
import Scenario.Proofs.Json.Decode
/-!
Steps as JSON and back.

What `Step.encode` writes is what `Step.decode` reads, for every step of every kind.
-/
namespace Scenario

open Json (Value Record Variant Decoder)
open Json.Decoder (string_string any_value)

theorem Method.decode_name (method : Method) : Method.decode (.string method.name) = .ok method := by
  cases method <;> rfl

theorem Operator.decode_name (operator : Operator) :
    Operator.decode (.string operator.name) = .ok operator := by
  cases operator <;> rfl

theorem Placement.decode_name (setting : Json.Setting) (placement : Placement) :
    Placement.decode setting (.string placement.name) = .ok placement := by
  cases placement <;> rfl

theorem BodyTemplate.decode_encode (body : BodyTemplate) :
    BodyTemplate.decode body.encode = .ok body := by
  cases body with
  | none => rfl
  | json template =>
    refine Variant.decode_ofFields rfl rfl ?_
    exact .map (.field (Entries.get?_erase_ofList_eq_some (by decide) rfl) (string_string _))
  | text template =>
    refine Variant.decode_ofFields rfl rfl ?_
    exact .map (.field (Entries.get?_erase_ofList_eq_some (by decide) rfl) (string_string _))
  | upload key value name =>
    refine Variant.decode_ofFields rfl rfl ?_
    refine .apply (.apply (.map (.field ?_ (string_string key))) (.field ?_ (string_string value)))
      (.fieldWith ?_ (string_string name)) <;>
      exact Entries.get?_erase_ofList_eq_some (by decide) rfl

theorem RequestStep.decode_encode (data : RequestStep) :
    RequestStep.decode data.encode = .ok data := by
  refine Record.decode_ofFields ?_
  -- Field by field, in the order of the record; what is left is to find each under its name.
  refine .apply (.apply (.apply (.map (.field ?_ data.method.decode_name))
    (.field ?_ (string_string data.url)))
    (.fieldWith ?_ (Decoder.dict_ofDict Value.string string_string data.headers)))
    (.fieldWith ?_ data.body.decode_encode) <;>
    exact Entries.get?_ofList_eq_some rfl

theorem Auth.decode_encode (auth : Auth) : Auth.decode auth.encode = .ok auth := by
  cases auth with
  | none => rfl
  | basic username password =>
    refine Variant.decode_ofFields rfl rfl ?_
    refine .apply (.map (.field ?_ (string_string _))) (.field ?_ (string_string _)) <;>
      exact Entries.get?_erase_ofList_eq_some (by decide) rfl
  | bearer token =>
    refine Variant.decode_ofFields rfl rfl ?_
    exact .map (.field (Entries.get?_erase_ofList_eq_some (by decide) rfl) (string_string _))
  | apiKey key value placement =>
    refine Variant.decode_ofFields rfl rfl ?_
    refine .apply (.apply (.map (.field ?_ (string_string _))) (.field ?_ (string_string _)))
      (.field ?_ (placement.decode_name .tagged)) <;>
      exact Entries.get?_erase_ofList_eq_some (by decide) rfl

theorem Step.decode_encode (step : Step) : Step.decode step.kind step.encode = .ok step := by
  cases step with
  | request data => exact congrArg (Except.map Step.request) data.decode_encode
  | assertion data =>
    refine congrArg (Except.map Step.assertion) (Record.decode_ofFields ?_)
    refine .apply (.apply (.map (.field ?_ (string_string _))) (.field ?_ data.operator.decode_name))
      (.field ?_ (string_string _)) <;>
      exact Entries.get?_ofList_eq_some rfl
  | delay duration =>
    refine congrArg (Except.map Step.delay) (Record.decode_ofFields ?_)
    exact .field (Entries.get?_ofList_eq_some rfl) (Decoder.uint64_whole duration)
  | assignment data =>
    refine congrArg (Except.map Step.assignment) (Record.decode_ofFields ?_)
    refine .apply (.map (.field ?_ (string_string _))) (.field ?_ (any_value _)) <;>
      exact Entries.get?_ofList_eq_some rfl
  | output template => rfl
  | auth data => exact congrArg (Except.map Step.auth) data.decode_encode

end Scenario
