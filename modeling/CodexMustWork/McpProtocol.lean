import Mathlib.Data.List.Basic
import Mathlib.Data.Rat.Defs
import Mathlib.Data.String.Basic

/-!
# The JSON-RPC boundary

`scripts/mcp_limits.py` and `scripts/mcp_protocol.py`: one line of the MCP client,
its decoding into a request and the answers built for it.

What `json.loads` reads in a text is a parameter: a syntax tree, or how far the
text could be read.  Its hooks run bottom-up on what was read.  A Python string
that UTF-8 cannot encode is `none`.
-/

namespace CodexMustWork

/-! ### Values -/

/-- What a JSON text spells, before the hooks. -/
inductive RawJson where
  | null
  | bool (flag : Bool)
  | integer (number : Int)
  | float (number : Option Rat)
  | constant
  | text (content : Option String)
  | list (items : List RawJson)
  | object (members : List (Option String × RawJson))

/-- A decoded value.  A `float` is `none` when it is not finite; an object keeps its
    members in order, under distinct names. -/
inductive Json where
  | null
  | bool (flag : Bool)
  | integer (number : Int)
  | float (number : Option Rat)
  | text (content : Option String)
  | list (items : List Json)
  | object (members : List (String × Json))

/-- A decoded object. -/
abbrev JsonObject := List (String × Json)

/-- `dict.get`. -/
def getMember (values : JsonObject) (key : String) : Option Json := values.lookup key

/-- Whether a value is true in Python. -/
def Json.truthy : Json → Bool
  | .null => false
  | .bool flag => flag
  | .integer number => decide (number ≠ 0)
  | .float number => decide (number ≠ some 0)
  | .text content => decide (content ≠ some "")
  | .list items => !items.isEmpty
  | .object members => !members.isEmpty

/-- What `json.loads` reads in a text: a value, or the values completed before it
    raises on malformed text or on nesting beyond the interpreter's limit. -/
inductive JsonText where
  | value (json : RawJson)
  | malformed (completed : List RawJson) (message : String)
  | tooDeep (completed : List RawJson)

/-! ### Limits -/

def maxRawLineBytes : Nat := 1048576

def maxNestingDepth : Nat := 16

def maxObjectMembers : Nat := 128

def maxArrayItems : Nat := 128

def maxStringBytes : Nat := 65536

/-- The digit limit of `int`. -/
def maxIntegerDigits : Nat := 4300

/-- The exceptions of the hooks. -/
inductive LimitError where
  | duplicateMember
  | member
  | memberName
  | nonFiniteNumber
  | integer
deriving DecidableEq, Repr

/-- `parse_int`. -/
def parseInteger (number : Int) : Except LimitError Json :=
  if maxIntegerDigits < (Nat.toDigits 10 number.natAbs).length then .error .integer
  else .ok (.integer number)

/-- The loop of `object_pairs`. -/
def collectMembers (values : JsonObject) :
    List (Option String × Json) → Except LimitError JsonObject
  | [] => .ok values
  | (none, _) :: _ => .error .memberName
  | (some key, value) :: rest =>
      if maxStringBytes < key.utf8ByteSize then .error .memberName
      else if (getMember values key).isSome then .error .duplicateMember
      else collectMembers (values ++ [(key, value)]) rest

/-- Build one JSON object while rejecting repeated or excessive members. -/
def objectPairs (pairs : List (Option String × Json)) : Except LimitError Json :=
  if maxObjectMembers < pairs.length then .error .member
  else (collectMembers [] pairs).map .object

mutual

/-- The value of a syntax tree, by the hooks. -/
def RawJson.hooked : RawJson → Except LimitError Json
  | .null => .ok .null
  | .bool flag => .ok (.bool flag)
  | .integer number => parseInteger number
  | .float number => .ok (.float number)
  | .constant => .error .nonFiniteNumber
  | .text content => .ok (.text content)
  | .list items => (hookedItems items).map .list
  | .object members =>
      match hookedMembers members with
      | .error error => .error error
      | .ok pairs => objectPairs pairs

def hookedItems : List RawJson → Except LimitError (List Json)
  | [] => .ok []
  | item :: rest =>
      match item.hooked with
      | .error error => .error error
      | .ok value => (hookedItems rest).map (value :: ·)

def hookedMembers :
    List (Option String × RawJson) → Except LimitError (List (Option String × Json))
  | [] => .ok []
  | (key, item) :: rest =>
      match item.hooked with
      | .error error => .error error
      | .ok value => (hookedMembers rest).map ((key, value) :: ·)

end

/-- The tools `has_control_tool_shape` and `_call_tool` know. -/
def controlTools : List String :=
  ["cmw.work_on", "cmw.stop", "cmw.status", "cmw.complete", "cmw.settings",
    "cmw.notifications.setup"]

/-- Whether a value is the text. -/
def Json.isText (value : Option Json) (text : String) : Bool :=
  match value with
  | some (.text (some content)) => decide (content = text)
  | _ => false

/-- `has_control_tool_shape`.  Looking up a list or an object in a set raises
    `TypeError`, which is `none`. -/
def hasControlToolShape (values : JsonObject) : Option Bool :=
  if !Json.isText (getMember values "method") "tools/call" then some false
  else
    match getMember values "params" with
    | some (.object params) =>
        match getMember params "name" with
        | some (.list _) | some (.object _) => none
        | name =>
            if !controlTools.any (Json.isText name) then some false
            else
              match getMember params "arguments" with
              | some (.object _) => some true
              | _ => some false
    | _ => some false

/-- A step of the path to a value. -/
inductive PathStep where
  | member (name : String)
  | item (index : Nat)
deriving DecidableEq, Repr

/-- `_validate_string`. -/
def stringIsValid (allowAuthOverlong : Bool) (path : List PathStep) (content : Option String) :
    Bool :=
  match content with
  | none => false
  | some text =>
      decide (text.utf8ByteSize ≤ maxStringBytes) ||
        (allowAuthOverlong &&
          decide (path = [.member "params", .member "arguments", .member "session_id"]))

mutual

/-- What `validate_structure` asks of a value at a depth and a path. -/
def structureIsValid (allowAuthOverlong : Bool) (depth : Nat) (path : List PathStep) : Json → Bool
  | .text content =>
      decide (depth ≤ maxNestingDepth) && stringIsValid allowAuthOverlong path content
  | .object members =>
      decide (depth ≤ maxNestingDepth) && membersAreValid allowAuthOverlong (depth + 1) path members
  | .list items =>
      decide (depth ≤ maxNestingDepth) && decide (items.length ≤ maxArrayItems) &&
        itemsAreValid allowAuthOverlong (depth + 1) path 0 items
  | .float number => decide (depth ≤ maxNestingDepth) && number.isSome
  | _ => decide (depth ≤ maxNestingDepth)

def membersAreValid (allowAuthOverlong : Bool) (depth : Nat) (path : List PathStep) :
    List (String × Json) → Bool
  | [] => true
  | (key, child) :: rest =>
      structureIsValid allowAuthOverlong depth (path ++ [.member key]) child &&
        membersAreValid allowAuthOverlong depth path rest

def itemsAreValid (allowAuthOverlong : Bool) (depth : Nat) (path : List PathStep) (index : Nat) :
    List Json → Bool
  | [] => true
  | child :: rest =>
      structureIsValid allowAuthOverlong depth (path ++ [.item index]) child &&
        itemsAreValid allowAuthOverlong depth path (index + 1) rest

end

/-! ### Requests -/

inductive JsonRpcId where
  | number (id : Int)
  | text (id : String)
deriving DecidableEq, Repr

/-- A protocol failure. -/
structure JsonRpcError where
  code : Int
  message : String
  requestId : Option JsonRpcId := none
  data : Option Json := none

/-- One decoded MCP request or notification. -/
structure JsonRpcRequest where
  method : String
  params : JsonObject
  requestId : Option JsonRpcId
  isNotification : Bool

def invalidRequest (requestId : Option JsonRpcId := none) : JsonRpcError :=
  { code := -32600, message := "Invalid Request", requestId }

def parseError (data : Option Json := none) : JsonRpcError :=
  { code := -32700, message := "Parse error", data }

def invalidParams (requestId : Option JsonRpcId) (reason : Option String := none) : JsonRpcError :=
  { code := -32602, message := "Invalid params", requestId
    data := reason.map fun text => .text (some text) }

/-- The exceptions `decode_request` lets through. -/
inductive DecodeFailure where
  | jsonRpc (error : JsonRpcError)
  | recursionError
  | typeError

/-- `_request_id`: the identity, and whether the message is a notification. -/
def decodeRequestId (values : JsonObject) : Except JsonRpcError (Option JsonRpcId × Bool) :=
  match getMember values "id" with
  | none => .ok (none, true)
  | some .null => .ok (none, false)
  | some (.integer number) => .ok (some (.number number), false)
  | some (.text (some text)) =>
      if text = "" then .error invalidRequest else .ok (some (.text text), false)
  | some _ => .error invalidRequest

/-- `str.removesuffix`, for one character. -/
def removeSuffix (suffix : Char) (text : String) : String :=
  if text.toList.getLast? = some suffix then String.ofList text.toList.dropLast else text

/-- The `except` arms of `decode_request`. -/
def limitFailure : LimitError → DecodeFailure
  | .duplicateMember | .member | .memberName => .jsonRpc invalidRequest
  | .nonFiniteNumber | .integer => .jsonRpc parseError

/-- `_LOAD_JSON` with its hooks. -/
def loadJson (parse : String → JsonText) (line : String) : Except DecodeFailure Json :=
  match parse line with
  | .value json => json.hooked.mapError limitFailure
  | .malformed completed message =>
      match hookedItems completed with
      | .error error => .error (limitFailure error)
      | .ok _ => .error (.jsonRpc (parseError (some (.text (some message)))))
  | .tooDeep completed =>
      match hookedItems completed with
      | .error error => .error (limitFailure error)
      | .ok _ => .error .recursionError

/-- The request an accepted object describes. -/
def requestOfValues (values : JsonObject) : Except JsonRpcError JsonRpcRequest :=
  match decodeRequestId values with
  | .error error => .error error
  | .ok (requestId, notification) =>
      if !Json.isText (getMember values "jsonrpc") "2.0" then .error (invalidRequest requestId)
      else
        match getMember values "method" with
        | some (.text (some method)) =>
            if method = "" then .error (invalidRequest requestId)
            else
              match (getMember values "params").getD (.object []) with
              | .object params => .ok ⟨method, params, requestId, notification⟩
              | _ => .error (invalidRequest requestId)
        | _ => .error (invalidRequest requestId)

/-- What `decode_request` does with a loaded value. -/
def requestOfJson : Json → Except DecodeFailure JsonRpcRequest
  | .object values =>
      match hasControlToolShape values with
      | none => .error .typeError
      | some allow =>
          if !structureIsValid allow 1 [] (.object values) then .error (.jsonRpc invalidRequest)
          else (requestOfValues values).mapError .jsonRpc
  | _ => .error (.jsonRpc invalidRequest)

/-- Decode and validate one newline-delimited JSON-RPC message. -/
def decodeRequest (parse : String → JsonText) (rawLine : Option String) :
    Except DecodeFailure JsonRpcRequest :=
  match rawLine with
  | none => .error (.jsonRpc parseError)
  | some raw =>
      let line := removeSuffix '\r' (removeSuffix '\n' raw)
      if maxRawLineBytes < line.utf8ByteSize then .error (.jsonRpc invalidRequest)
      else
        match loadJson parse line with
        | .error failure => .error failure
        | .ok json => requestOfJson json

/-! ### Decoded requests -/

/-- A notification has no identity, and a request without one was sent with the identity
    `null`. -/
theorem decodeRequestId_eq_ok {values : JsonObject} {requestId : Option JsonRpcId}
    {notification : Bool} (hid : decodeRequestId values = .ok (requestId, notification)) :
    (notification = true ↔ getMember values "id" = none) ∧
      (requestId = none ↔ getMember values "id" = none ∨ getMember values "id" = some .null) := by
  unfold decodeRequestId at hid
  cases hget : getMember values "id" with
  | none =>
      rw [hget] at hid
      cases hid
      simp
  | some value =>
      rw [hget] at hid
      cases value with
      | null =>
          cases hid
          simp
      | integer number =>
          cases hid
          simp
      | text content =>
          cases content with
          | none => cases hid
          | some text =>
              dsimp only at hid
              split_ifs at hid
              cases hid
              simp
      | bool flag => cases hid
      | float number => cases hid
      | list items => cases hid
      | object members => cases hid

theorem requestOfValues_eq_ok {values : JsonObject} {request : JsonRpcRequest}
    (hok : requestOfValues values = .ok request) :
    decodeRequestId values = .ok (request.requestId, request.isNotification) ∧
      request.method ≠ "" := by
  unfold requestOfValues at hok
  cases hid : decodeRequestId values with
  | error error =>
      rw [hid] at hok
      cases hok
  | ok pair =>
      obtain ⟨requestId, notification⟩ := pair
      rw [hid] at hok
      dsimp only at hok
      split_ifs at hok
      split at hok
      · split_ifs at hok with hmethod
        split at hok
        · cases hok
          exact ⟨rfl, hmethod⟩
        · cases hok
      · cases hok

theorem removeSuffix_push {suffix last : Char} (hne : last ≠ suffix) (front : String) :
    removeSuffix suffix (front.push last) = front.push last := by
  simp [removeSuffix, hne]

/-- A decoded request was read off an object of the line. -/
theorem decodeRequest_eq_ok {parse : String → JsonText} {rawLine : Option String}
    {request : JsonRpcRequest} (hok : decodeRequest parse rawLine = .ok request) :
    ∃ values, requestOfValues values = .ok request := by
  unfold decodeRequest at hok
  cases rawLine with
  | none => cases hok
  | some raw =>
      dsimp only at hok
      split_ifs at hok
      cases hloaded : loadJson parse (removeSuffix '\r' (removeSuffix '\n' raw)) with
      | error failure =>
          rw [hloaded] at hok
          cases hok
      | ok json =>
          rw [hloaded] at hok
          dsimp only at hok
          unfold requestOfJson at hok
          split at hok
          · next values =>
              split at hok
              · cases hok
              · split_ifs at hok
                cases hrequest : requestOfValues values with
                | error error =>
                    rw [hrequest] at hok
                    cases hok
                | ok found =>
                    rw [hrequest] at hok
                    cases hok
                    exact ⟨values, hrequest⟩
          · cases hok

/-- A request with an identity is no notification. -/
theorem decodeRequest_identity {parse : String → JsonText} {rawLine : Option String}
    {request : JsonRpcRequest} {requestId : JsonRpcId}
    (hok : decodeRequest parse rawLine = .ok request)
    (hidentity : request.requestId = some requestId) : request.isNotification = false := by
  obtain ⟨values, hvalues⟩ := decodeRequest_eq_ok hok
  obtain ⟨hnotification, hnone⟩ := decodeRequestId_eq_ok (requestOfValues_eq_ok hvalues).1
  rw [hidentity] at hnone
  cases hflag : request.isNotification with
  | false => rfl
  | true =>
      have hmissing := hnotification.mp hflag
      exact absurd (hnone.mpr (Or.inl hmissing)) (by simp)

/-! ### Answers -/

/-- What `handle_line` answers, with the result of a request as it was built. -/
inductive JsonRpcResponse (ρ : Type) where
  | success (id : JsonRpcId) (result : ρ)
  | failure (id : Option JsonRpcId) (code : Int) (message : String) (data : Option Json)

/-- Build a JSON-RPC error response without hiding its diagnostic data. -/
def errorResponse {ρ : Type} (fault : JsonRpcError) : JsonRpcResponse ρ :=
  .failure fault.requestId fault.code fault.message fault.data

/-- Whether an answer is a JSON-RPC error object. -/
def JsonRpcResponse.isError {ρ : Type} : JsonRpcResponse ρ → Bool
  | .success .. => false
  | .failure .. => true

def latestProtocol : String := "2025-11-25"

def supportedProtocols : List String := ["2024-11-05", "2025-03-26", "2025-06-18", latestProtocol]

/-- Select the requested supported MCP revision or the latest revision. -/
def negotiateProtocol (requested : String) : String :=
  if requested ∈ supportedProtocols then requested else latestProtocol

end CodexMustWork
