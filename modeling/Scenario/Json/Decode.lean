import Scenario.Json.Value
import Scenario.Text.Quoted
/-!
Decoding JSON values into records and variants.

A record is decoded from an object, or from an array of its fields in the order of their
declaration. From an object the fields are decoded in the order in which they stand, so the first
bad field decides the error, and a bad field is reported before a missing one. A variant with
fields of its own is told by a tag, which is a field of the object or the first item of the array.
-/
namespace Scenario.Json

inductive Found where
  | null
  | bool (b : Bool)
  | whole (n : Int)
  | double (d : Number.Double)
  | string (s : String)
  | sequence
  | map
deriving DecidableEq

def Found.text : Found → String
  | .null => "null"
  | .bool true => "boolean `true`"
  | .bool false => "boolean `false`"
  | .whole n => "integer `" ++ toString n ++ "`"
  | .double d => "floating point `" ++ d.text ++ "`"
  | .string s => "string " ++ Text.quote s
  | .sequence => "sequence"
  | .map => "map"

def Value.found : Value → Found
  | .null => .null
  | .bool b => .bool b
  | .number (.whole n) => .whole n.value
  | .number (.double d) => .double d
  | .string s => .string s
  | .array _ => .sequence
  | .object _ => .map

inductive DecodeError where
  | wrongType (found : Found) (expected : String)
  | wrongValue (found : Found) (expected : String)
  | wrongLength (length : Nat) (expected : String)
  | unknownVariant (name : String) (known : List String)
  | missingField (name : String)
  | duplicateField (name : String)
  | unreadable (reason : String)
deriving DecidableEq

/-- Names between back quotes; one or two stand by themselves, more of them are a list. -/
def oneOf (names : List String) : String :=
  match names.map fun name => "`" ++ name ++ "`" with
  | [a] => a
  | [a, b] => a ++ " or " ++ b
  | quoted => "one of " ++ ", ".intercalate quoted

def DecodeError.message : DecodeError → String
  | .wrongType found expected => "invalid type: " ++ found.text ++ ", expected " ++ expected
  | .wrongValue found expected => "invalid value: " ++ found.text ++ ", expected " ++ expected
  | .wrongLength length expected =>
    "invalid length " ++ toString length ++ ", expected " ++ expected
  | .unknownVariant name known => "unknown variant `" ++ name ++ "`, expected " ++ oneOf known
  | .missingField name => "missing field `" ++ name ++ "`"
  | .duplicateField name => "duplicate field `" ++ name ++ "`"
  | .unreadable reason => reason

/-- Where a value stands: by itself, or within the fields of a tagged variant. Within a variant a
tag may also be the position of its name, and an empty object may stand for null. -/
inductive Setting where
  | plain
  | tagged
deriving DecidableEq

abbrev Decoder (α : Type) := Value → Except DecodeError α

namespace Decoder

/-- The error of a value that is of no type that is decoded here. -/
def mismatch {α : Type} (expected : String) : Decoder α :=
  fun v => .error (.wrongType v.found expected)

def any : Decoder Value := fun v => .ok v

/-- Any value, with the fields of its objects put in order. -/
def ordered : Decoder Value := fun v => .ok v.normalize

def string : Decoder String
  | .string s => .ok s
  | v => mismatch "a string" v

/-- A whole number from zero up to a bound, which is excluded. -/
def natBelow (bound : Nat) (expected : String) : Decoder Nat
  | .number (.whole n) =>
    if 0 ≤ n.value ∧ n.value.toNat < bound then .ok n.value.toNat
    else .error (.wrongValue (.whole n.value) expected)
  | v => mismatch expected v

def uint64 : Decoder UInt64 := fun v => (natBelow 18446744073709551616 "u64" v).map UInt64.ofNat

/-- A text that is read further; `expected` is what messages call it. -/
def reading {α : Type} (expected : String) (read : String → Except String α) : Decoder α
  | .string s => (read s).mapError .unreadable
  | v => mismatch expected v

def uint16 : Decoder UInt16 := fun v => (natBelow 65536 "u16" v).map UInt16.ofNat

/-- Null is no value. -/
def nullable {α : Type} (decode : Decoder α) : Decoder (Option α)
  | .null => .ok none
  | v => (decode v).map some

/-- The entries of an object, decoded in the order in which they stand; the last of several with
one key wins. -/
def dict {α : Type} (decode : Decoder α) : Decoder (Dict α)
  | .object fields => (fields.mapM fun field => (decode field.2).map (field.1, ·)).map Dict.ofList
  | v => mismatch "a map" v

def named {α : Type} (names : List (String × α)) (name : String) : Except DecodeError α :=
  match names.lookup name with
  | some variant => .ok variant
  | none => .error (.unknownVariant name (names.map Prod.fst))

/-- What stands beside a name that has no content. -/
def noContent (setting : Setting) : Decoder Unit
  | .null => .ok ()
  | .object [] => if setting = .tagged then .ok () else mismatch "unit" (.object [])
  | v => mismatch "unit" v

/-- One of a few names, as a string or as the only key of an object. -/
def choice {α : Type} (setting : Setting) (names : List (String × α)) : Decoder α
  | .string name => named names name
  | .object [(name, content)] => do
    let variant ← named names name
    noContent setting content
    return variant
  | .object _ => .error (.wrongValue .map "map with a single key")
  | v => mismatch "string or map" v

end Decoder

/-- The fields of a record in the order of their declaration. `checks` has the name of each field
and says whether its value is good; `fromFields` takes the fields out of an object whose values
are good, and `fromItems` out of an array, given the position of the first one. -/
structure Record (α : Type) where
  checks : List (String × (Value → Except DecodeError Unit))
  fromFields : List (String × Value) → Except DecodeError α
  fromItems : String → Nat → List Value → Except DecodeError (α × List Value)

namespace Record
variable {α β : Type}

/-- A field; `absent` is its value in an object without it, `short` in an array that ends
before it. -/
def fieldOr (absent short : Option α) (name : String) (decode : Decoder α) : Record α where
  checks := [(name, fun v => (decode v).map fun _ => ())]
  fromFields := fun fields =>
    match Entries.get? fields name with
    | some v => decode v
    | none =>
      match absent with
      | some value => .ok value
      | none => .error (.missingField name)
  fromItems := fun expected position items =>
    match items with
    | v :: rest => (decode v).map (·, rest)
    | [] =>
      match short with
      | some value => .ok (value, [])
      | none => .error (.wrongLength position expected)

def field (name : String) (decode : Decoder α) : Record α := fieldOr none none name decode

/-- A field that has a value of its own when it is missing. -/
def fieldWith (value : α) (name : String) (decode : Decoder α) : Record α :=
  fieldOr (some value) (some value) name decode

def map (f : α → β) (r : Record α) : Record β where
  checks := r.checks
  fromFields := fun fields => (r.fromFields fields).map f
  fromItems := fun expected position items =>
    (r.fromItems expected position items).map fun (x, rest) => (f x, rest)

/-- The fields of one record and then those of another. -/
def apply (r : Record (α → β)) (s : Record α) : Record β where
  checks := r.checks ++ s.checks
  fromFields := fun fields => do
    let f ← r.fromFields fields
    let x ← s.fromFields fields
    return f x
  fromItems := fun expected position items => do
    let (f, rest) ← r.fromItems expected position items
    let (x, rest) ← s.fromItems expected (position + r.checks.length) rest
    return (f x, rest)

/-- Looks at the fields of an object in the order in which they stand: a known one must be good
and must not stand twice. -/
def check (checks : List (String × (Value → Except DecodeError Unit))) (seen : List String) :
    List (String × Value) → Except DecodeError Unit
  | [] => .ok ()
  | (name, v) :: rest =>
    match checks.lookup name with
    | none => check checks seen rest
    | some good =>
      if name ∈ seen then .error (.duplicateField name)
      else do
        good v
        check checks (name :: seen) rest

def counted (n : Nat) (things : String) : String :=
  toString n ++ " " ++ things ++ (if n = 1 then "" else "s")

/-- The error of an array that has more items than there are fields. -/
def tooLong (setting : Setting) (length taken : Nat) : DecodeError :=
  match setting with
  | .plain => .wrongLength length "fewer elements in array"
  | .tagged => .wrongLength length (counted taken "element" ++ " in sequence")

/-- The record from an object or an array; `name` is what messages call it. -/
def decode (setting : Setting) (name : String) (r : Record α) : Decoder α
  | .object fields => do
    check r.checks [] fields
    r.fromFields fields
  | .array items => do
    let expected := name ++ " with " ++ counted r.checks.length "element"
    let (x, rest) ← r.fromItems expected 0 items
    if rest.isEmpty then return x
    else .error (tooLong setting items.length (items.length - rest.length))
  | v => Decoder.mismatch name v

end Record

/-- A variant that is told by a tag: its name, and the decoder of what remains without the tag. -/
structure Variant (α : Type) where
  name : String
  content : Decoder α

namespace Variant
variable {α : Type}

/-- A variant without fields; whatever else an object holds is ignored. -/
def plain (name : String) (value : α) : Variant α where
  name := name
  content
    | .array (item :: items) =>
      .error (.wrongLength (item :: items).length "0 elements in sequence")
    | _ => .ok value

/-- A variant with fields; `kind` is what messages call the type it belongs to. -/
def ofRecord (kind title name : String) (r : Record α) : Variant α where
  name := name
  content := r.decode .tagged ("struct variant " ++ kind ++ "::" ++ title)

def ofTag (setting : Setting) (variants : List (Variant α)) :
    Value → Except DecodeError (Variant α)
  | .string name =>
    match variants.find? (·.name = name) with
    | some variant => .ok variant
    | none => .error (.unknownVariant name (variants.map (·.name)))
  | .number (.whole n) =>
    if setting = .tagged ∧ 0 ≤ n.value then
      match variants[n.value.toNat]? with
      | some variant => .ok variant
      | none =>
        .error (.wrongValue (.whole n.value)
          ("variant index 0 <= i < " ++ toString variants.length))
    else Decoder.mismatch "variant identifier" (.number (.whole n))
  | v => Decoder.mismatch "variant identifier" v

/-- The variant that the tag among some fields names, if there is a tag; `found` is the one that
was found before them. -/
def ofFields (setting : Setting) (tag : String) (variants : List (Variant α))
    (found : Option (Variant α)) :
    List (String × Value) → Except DecodeError (Option (Variant α))
  | [] => .ok found
  | (name, v) :: rest =>
    if name = tag then
      match found with
      | some _ => .error (.duplicateField tag)
      | none => do
        let variant ← ofTag setting variants v
        ofFields setting tag variants (some variant) rest
    else ofFields setting tag variants found rest

/-- The variant from an object or an array with a tag; `kind` is what messages call the type. -/
def decode (setting : Setting) (tag kind : String) (variants : List (Variant α)) : Decoder α
  | .object fields => do
    match ← ofFields setting tag variants none fields with
    | some variant => variant.content (.object (Entries.erase tag fields))
    | none => .error (.missingField tag)
  | .array [] => .error (.missingField tag)
  | .array (v :: items) => do
    let variant ← ofTag setting variants v
    variant.content (.array items)
  | v => Decoder.mismatch ("internally tagged enum " ++ kind) v

end Variant

end Scenario.Json
