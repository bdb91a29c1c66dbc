import ApiLint.Format
import ApiLint.Json.Compare
import ApiLint.Json.Reader
import ApiLint.Schema.Draft
import ApiLint.Schema.Finding
import ApiLint.Text.Base64

/-!
# Demands on a value itself

These keywords look at a value alone, without applying another schema to a part of it. Each
demand speaks about one kind of value and is met by every other kind. `assertion` gives the
demands that a value does not meet; it needs the neighbours of the keyword, since some
keywords change the meaning of others.
-/

namespace ApiLint.Schema

def demand (met : Bool) (cause : Cause) : List Cause := if met then [] else [cause]

/-- The count that an operand asks for: a number without a fraction that is not negative. -/
def count? : Json → Option Nat
  | .number n => n.toInt?.bind fun i => if i < 0 then none else some i.toNat
  | _ => none

def namesIn (operand : Json) : List String := (operand.items?.getD []).filterMap Json.string?

/-! ## Kinds of values -/

/-- Whether a value is of a kind. A double without a fraction is an integer, except in the
earliest edition. -/
def isOfKind (draft : Draft) (kind : String) : Json → Bool
  | .null => kind == "null"
  | .bool _ => kind == "boolean"
  | .number (.int _) => kind == "number" || kind == "integer"
  | .number (.float x) =>
    kind == "number" || (kind == "integer" && draft != .four && x.toInt?.isSome)
  | .string _ => kind == "string"
  | .array _ => kind == "array"
  | .object _ => kind == "object"

def kinds : List String := ["array", "boolean", "integer", "null", "number", "object", "string"]

def typeDemand (draft : Draft) (operand value : Json) : List Cause :=
  let names := match operand with
    | .string name => [name]
    | other => kinds.filter (namesIn other).contains
  demand (names.any fun kind => isOfKind draft kind value) (.type names)

/-! ## Equality -/

/-- Differences below one part in this many count as none: `2 ^ 52`. -/
def tolerance : Nat := 0x10000000000000

/-- Two numbers whose difference is below one part in `2 ^ 52` of one. -/
def numbersMeet (a b : Json.Number) : Bool :=
  match a.toDouble.fraction?, b.toDouble.fraction? with
  | some (m, d), some (n, e) => (m * e - n * d).natAbs * tolerance < d * e
  | _, _ => false

def constDemand (expected value : Json) : List Cause :=
  let met := match expected, value with
    | .number a, .number b => numbersMeet a b
    | _, _ => value.same expected
  demand met (.const expected)

def enumDemand (choices value : Json) : List Cause :=
  demand ((choices.items?.getD []).any value.same) (.enumeration choices)

/-! ## Numbers -/

/-- The remainder of a quotient of doubles by one, with the sign of the quotient, if the
quotient is finite. The fraction is exact. -/
def quotientRest? (a b : Double) : Option (Int × Nat) :=
  match a.fraction?, b.fraction? with
  | some (m, d), some (n, e) =>
    if n = 0 then none
    else
      let negative := decide (m < 0) != decide (n < 0)
      match (Double.round negative (m.natAbs * e) (d * n.natAbs)).fraction? with
      | some (p, q) => some (Int.tmod p q, q)
      | none => none
  | _, _ => none

def dividesExactly (divisor value : Double) : Bool :=
  match value.fraction?, divisor.fraction? with
  | some (m, d), some (n, e) => n != 0 && (m * e) % (n * d) == 0
  | _, _ => false

/-- Whether a number is a multiple of a divisor. For a divisor with a fraction the quotient
is rounded to a double first, and a rest below one part in `2 ^ 52` counts as none. -/
def isMultiple (divisor value : Json.Number) : Bool :=
  match divisor.toInt? with
  | some _ => dividesExactly divisor.toDouble value.toDouble
  | none =>
    match quotientRest? value.toDouble divisor.toDouble with
    | some (rest, denominator) => decide (rest * tolerance < denominator)
    | none => dividesExactly divisor.toDouble value.toDouble

def onNumber (operand value : Json) (met : Json.Number → Json.Number → Bool)
    (cause : Json.Number → Cause) : List Cause :=
  match operand, value with
  | .number limit, .number n => demand (met limit n) (cause limit)
  | _, _ => []

/-- Whether a neighbour says that a limit is not to be reached. -/
def isStrict (draft : Draft) (siblings : Json.Members) (keyword : String) : Bool :=
  match Json.Members.get? keyword siblings with
  | some (.bool strict) => draft == .four && strict
  | _ => false

def aboveDemand (operand value : Json) : List Cause :=
  onNumber operand value (fun limit n => limit.isBelow n) .exclusiveMinimum

def belowDemand (operand value : Json) : List Cause :=
  onNumber operand value (fun limit n => n.isBelow limit) .exclusiveMaximum

/-- A number is not below a limit. -/
def minimumDemand (draft : Draft) (siblings : Json.Members) (operand value : Json) : List Cause :=
  if isStrict draft siblings "exclusiveMinimum" then aboveDemand operand value
  else onNumber operand value (fun limit n => !n.isBelow limit) .minimum

/-- A number is not above a limit. -/
def maximumDemand (draft : Draft) (siblings : Json.Members) (operand value : Json) : List Cause :=
  if isStrict draft siblings "exclusiveMaximum" then belowDemand operand value
  else onNumber operand value (fun limit n => !limit.isBelow n) .maximum

/-! ## Sizes -/

/-- The number of characters of a string. -/
def lengthOf : Json → Option Nat
  | .string s => some s.length
  | _ => none

def itemCount : Json → Option Nat
  | .array items => some items.length
  | _ => none

/-- The number of members of an object. -/
def memberCount : Json → Option Nat
  | .object members => some members.length
  | _ => none

def atLeast (operand : Json) (size? : Option Nat) (cause : Nat → Cause) : List Cause :=
  match count? operand, size? with
  | some limit, some size => demand (limit ≤ size) (cause limit)
  | _, _ => []

def atMost (operand : Json) (size? : Option Nat) (cause : Nat → Cause) : List Cause :=
  match count? operand, size? with
  | some limit, some size => demand (size ≤ limit) (cause limit)
  | _, _ => []

/-! ## Strings -/

/-- A string has a part that matches a pattern. -/
def patternDemand (operand value : Json) : List Cause :=
  match operand, value with
  | .string text, .string s =>
    match Pattern.ofText? text.toList with
    | some pattern => demand (pattern.occursIn s.toList) (.pattern (String.ofList pattern.shown))
    | none => []
  | _, _ => []

/-- A string is of a format, in the editions that assert formats. -/
def formatDemand (draft : Draft) (operand value : Json) : List Cause :=
  match operand, value with
  | .string name, .string s =>
    if draft.assertsFormats then
      match Format.check? draft.edition name with
      | some test => demand (test s.toList) (.format name)
      | none => []
    else []
  | _, _ => []

def decodeBase64? (s : String) : Option String := do
  let bytes ← Text.ofBase64? s.toList
  String.fromUTF8? ⟨bytes.toArray⟩

def isJson (s : String) : Bool :=
  match Json.read s with
  | .ok _ => true
  | .error _ => false

/-- A string is in base 64, where nothing is said about what the bytes mean. -/
def encodingDemand (siblings : Json.Members) (operand value : Json) : List Cause :=
  match operand, value with
  | .string name, .string s =>
    if name = "base64" ∧ (Json.Members.get? "contentMediaType" siblings).isNone then
      demand (Text.ofBase64? s.toList).isSome (.contentEncoding name)
    else []
  | _, _ => []

/-- A string is JSON, or writes JSON in base 64. -/
def mediaDemand (siblings : Json.Members) (operand value : Json) : List Cause :=
  match operand, value with
  | .string media, .string s =>
    if media = "application/json" then
      match Json.Members.get? "contentEncoding" siblings with
      | some (.string "base64") =>
        match decodeBase64? s with
        | some text => demand (isJson text) (.contentMediaType media)
        | none => [.contentEncoding "base64"]
      | some _ => []
      | none => demand (isJson s) (.contentMediaType media)
    else []
  | _, _ => []

/-! ## Objects and lists -/

def missingNames (names : List String) (members : Json.Members) : List Cause :=
  (names.filter fun name => (Json.Members.get? name members).isNone).map .required

/-- An object has members of some names. -/
def requiredDemand (operand value : Json) : List Cause :=
  match value with
  | .object members => missingNames (namesIn operand) members
  | _ => []

/-- An object that has some member has others too. -/
def dependentRequiredDemand (operand value : Json) : List Cause :=
  match operand, value with
  | .object table, .object members =>
    table.flatMap fun (name, names) =>
      if (Json.Members.get? name members).isSome then missingNames (namesIn names) members else []
  | _, _ => []

/-- A list has no two equal items. -/
def uniqueDemand (operand value : Json) : List Cause :=
  match operand, value with
  | .bool true, .array items => demand (Json.allDiffer items) .uniqueItems
  | _, _ => []

def assertion (draft : Draft) (siblings : Json.Members) (keyword : String)
    (operand value : Json) : List Cause :=
  let after (first : Nat) (causes : List Cause) : List Cause :=
    if first ≤ draft.edition then causes else []
  match keyword with
  | "const" => after 6 (constDemand operand value)
  | "contentEncoding" =>
    if draft.edition ≤ 7 then after 6 (encodingDemand siblings operand value) else []
  | "contentMediaType" =>
    if draft.edition ≤ 7 then after 6 (mediaDemand siblings operand value) else []
  | "dependentRequired" => after 2019 (dependentRequiredDemand operand value)
  | "enum" => enumDemand operand value
  | "exclusiveMaximum" => after 6 (belowDemand operand value)
  | "exclusiveMinimum" => after 6 (aboveDemand operand value)
  | "format" => formatDemand draft operand value
  | "maximum" => maximumDemand draft siblings operand value
  | "maxItems" => atMost operand (itemCount value) .maxItems
  | "maxLength" => atMost operand (lengthOf value) .maxLength
  | "maxProperties" => atMost operand (memberCount value) .maxProperties
  | "minimum" => minimumDemand draft siblings operand value
  | "minItems" => atLeast operand (itemCount value) .minItems
  | "minLength" => atLeast operand (lengthOf value) .minLength
  | "minProperties" => atLeast operand (memberCount value) .minProperties
  | "multipleOf" => onNumber operand value isMultiple .multipleOf
  | "pattern" => patternDemand operand value
  | "required" => requiredDemand operand value
  | "type" => typeDemand draft operand value
  | "uniqueItems" => uniqueDemand operand value
  | _ => []

end ApiLint.Schema
