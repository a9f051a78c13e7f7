import OpenFsd.Go.JsonWriter
import OpenFsd.Web.Response

namespace OpenFsd
namespace Web

open JsonText

/-!
# Responses as text

A handler marshals its response, and the client has nothing but the text.  The
reader below is a client's: it looks at the names of the members and at nothing
else.  It gets every response of the API back, with valid UTF-8 in its strings.
-/

/-! ## Marshalling -/

/-- A `*string` -/
def pointerJson : Option Bytes -> JsonValue
  | none => .null
  | some text => .text text

def keyValuePairJson (pair : Bytes × Bytes) : JsonValue :=
  .object [(bytes "key", .text pair.1), (bytes "value", .text pair.2)]

/-- The `data` of a response: `nil`, or the struct of its handler. -/
def Data.json : Data -> JsonValue
  | .none => .null
  | .tokens access refresh =>
      .object [(bytes "access_token", .text access), (bytes "refresh_token", .text refresh)]
  | .accessToken access => .object [(bytes "access_token", .text access)]
  | .user cid firstName lastName networkRating =>
      .object [(bytes "cid", .number (itoa cid)), (bytes "first_name", pointerJson firstName),
        (bytes "last_name", pointerJson lastName),
        (bytes "network_rating", .number (itoa networkRating))]
  | .apiToken token => .object [(bytes "token", .text token)]
  | .keyValuePairs pairs => .object [(bytes "key_value_pairs", .array (pairs.map keyValuePairJson))]

/-- `APIV1Response` -/
def apiV1Response (err : Option Bytes) (data : JsonValue) : JsonValue :=
  .object [(bytes "version", .text (bytes "v1")), (bytes "err", pointerJson err),
    (bytes "data", data)]

/-- A member that is left out if its string is empty. -/
def omitEmpty (name : Bytes) (text : Bytes) : List (Bytes × JsonValue) :=
  if text.isEmpty then [] else [(name, .text text)]

/-- What a handler marshals, if it writes anything. -/
def Body.json : Body -> Option JsonValue
  | .success data => some (apiV1Response none data.json)
  | .failure err => some (apiV1Response (some err) .null)
  | .fsdToken token => some (.object ((bytes "success", .bool true) :: omitEmpty (bytes "token") token))
  | .fsdFailure errorMsg =>
      some (.object ((bytes "success", .bool false) :: omitEmpty (bytes "error_msg") errorMsg))
  | .empty => none

def Body.text (body : Body) : Bytes :=
  match body.json with
  | none => []
  | some value => writeValue value

/-! ## Valid strings -/

def Data.valid : Data -> Data
  | .none => .none
  | .tokens access refresh => .tokens (toValidUTF8 access) (toValidUTF8 refresh)
  | .accessToken access => .accessToken (toValidUTF8 access)
  | .user cid firstName lastName networkRating =>
      .user cid (firstName.map toValidUTF8) (lastName.map toValidUTF8) networkRating
  | .apiToken token => .apiToken (toValidUTF8 token)
  | .keyValuePairs pairs =>
      .keyValuePairs (pairs.map fun pair => (toValidUTF8 pair.1, toValidUTF8 pair.2))

def Body.valid : Body -> Body
  | .success data => .success data.valid
  | .failure err => .failure (toValidUTF8 err)
  | .fsdToken token => .fsdToken (toValidUTF8 token)
  | .fsdFailure errorMsg => .fsdFailure (toValidUTF8 errorMsg)
  | .empty => .empty

/-! ## Reading -/

def member (name : String) : JsonValue -> Option JsonValue
  | .object members => members.lookup (bytes name)
  | _ => none

def textOf : JsonValue -> Option Bytes
  | .text text => some text
  | _ => none

def pointerOf : JsonValue -> Option (Option Bytes)
  | .null => some none
  | .text text => some (some text)
  | _ => none

def integerOf : JsonValue -> Option Int
  | .number literal => some (integerValue literal)
  | _ => none

def itemsOf : JsonValue -> Option (List JsonValue)
  | .array items => some items
  | _ => none

def readPair (value : JsonValue) : Option (Bytes × Bytes) := do
  let key <- (member "key" value).bind textOf
  let text <- (member "value" value).bind textOf
  some (key, text)

def readUser (value : JsonValue) : Option Data := do
  let cid <- (member "cid" value).bind integerOf
  let firstName <- (member "first_name" value).bind pointerOf
  let lastName <- (member "last_name" value).bind pointerOf
  let networkRating <- (member "network_rating" value).bind integerOf
  some (.user cid firstName lastName networkRating)

def readTokens (value : JsonValue) : Option Data := do
  let access <- (member "access_token" value).bind textOf
  match member "refresh_token" value with
  | none => some (.accessToken access)
  | some refresh => (textOf refresh).map fun refresh => .tokens access refresh

def readPairs (value : JsonValue) : Option Data := do
  let items <- (member "key_value_pairs" value).bind itemsOf
  let pairs <- items.mapM readPair
  some (.keyValuePairs pairs)

def readData : JsonValue -> Option Data
  | .null => some .none
  | value =>
      readTokens value <|> readUser value <|> readPairs value <|>
        ((member "token" value).bind textOf).map Data.apiToken

/-- A member that may be left out. -/
def textOrEmpty (name : String) (value : JsonValue) : Option Bytes :=
  match member name value with
  | none => some []
  | some found => textOf found

def readBodyValue (value : JsonValue) : Option Body :=
  match member "success" value, member "err" value, member "data" value with
  | some (.bool true), _, _ => (textOrEmpty "token" value).map Body.fsdToken
  | some (.bool false), _, _ => (textOrEmpty "error_msg" value).map Body.fsdFailure
  | none, some .null, some data => (readData data).map Body.success
  | none, some (.text err), _ => some (.failure err)
  | _, _, _ => none

/-- Go's limit of the nesting is 10000. -/
def readBody (text : Bytes) : Option Body :=
  if text.isEmpty then some .empty else (readDocument 10000 text).bind readBodyValue

/-! ## The reader gets back what was marshalled -/

theorem pointerOf_pointerJson (text : Option Bytes) : pointerOf (pointerJson text) = some text := by
  cases text <;> rfl

theorem readUser_json (cid : Int) (firstName lastName : Option Bytes) (networkRating : Int) :
    readUser (Data.json (.user cid firstName lastName networkRating)) =
      some (.user cid firstName lastName networkRating) := by
  have split : readUser (Data.json (.user cid firstName lastName networkRating)) =
      (pointerOf (pointerJson firstName)).bind fun firstName =>
        (pointerOf (pointerJson lastName)).bind fun lastName =>
          some (.user (integerValue (itoa cid)) firstName lastName
            (integerValue (itoa networkRating))) := rfl
  rw [split, pointerOf_pointerJson, pointerOf_pointerJson, integerValue_itoa, integerValue_itoa]
  rfl

theorem mapM_readPair (pairs : List (Bytes × Bytes)) :
    (pairs.map keyValuePairJson).mapM readPair = some pairs := by
  induction pairs with
  | nil => rfl
  | cons pair rest inductionHypothesis =>
      have own : readPair (keyValuePairJson pair) = some pair := rfl
      rw [List.map_cons, List.mapM_cons, own, inductionHypothesis]
      rfl

theorem readPairs_json (pairs : List (Bytes × Bytes)) :
    readPairs (Data.json (.keyValuePairs pairs)) = some (.keyValuePairs pairs) := by
  have split : readPairs (Data.json (.keyValuePairs pairs)) =
      ((pairs.map keyValuePairJson).mapM readPair).bind fun pairs =>
        some (.keyValuePairs pairs) := rfl
  rw [split, mapM_readPair]
  rfl

theorem readData_json (data : Data) : readData data.json = some data := by
  have reads : forall members, readData (.object members) =
      (readTokens (.object members) <|> readUser (.object members) <|>
        readPairs (.object members) <|>
          ((member "token" (.object members)).bind textOf).map Data.apiToken) := fun _ => rfl
  cases data with
  | none => rfl
  | tokens access refresh => rfl
  | accessToken access => rfl
  | user cid firstName lastName networkRating =>
      have noTokens : readTokens (Data.json (.user cid firstName lastName networkRating)) = none :=
        rfl
      have read := readUser_json cid firstName lastName networkRating
      rw [Data.json] at read noTokens ⊢
      rw [reads, noTokens, read]
      rfl
  | apiToken token => rfl
  | keyValuePairs pairs =>
      have read := readPairs_json pairs
      rw [Data.json] at read ⊢
      rw [reads, read]
      rfl

/-- An empty string is read from a member that is left out. -/
theorem textOrEmpty_omitEmpty {name : String} (success : Bool) (text : Bytes)
    (distinct : (bytes name == bytes "success") = false) :
    textOrEmpty name (.object ((bytes "success", .bool success) :: omitEmpty (bytes name) text)) =
      some text := by
  cases text with
  | nil => simp [textOrEmpty, member, omitEmpty, List.lookup_cons, distinct]
  | cons head rest => simp [textOrEmpty, member, omitEmpty, List.lookup_cons, distinct, textOf]

theorem readBodyValue_json {body : Body} {value : JsonValue}
    (marshalled : body.json = some value) : readBodyValue value = some body := by
  cases body with
  | success data =>
      cases marshalled
      have read : readBodyValue (apiV1Response none data.json) =
        (readData data.json).map Body.success := rfl
      rw [read, readData_json]
      rfl
  | failure err =>
      cases marshalled
      rfl
  | fsdToken token =>
      cases marshalled
      exact congrArg (Option.map Body.fsdToken)
        (textOrEmpty_omitEmpty true token (by decide +kernel))
  | fsdFailure errorMsg =>
      cases marshalled
      exact congrArg (Option.map Body.fsdFailure)
        (textOrEmpty_omitEmpty false errorMsg (by decide +kernel))
  | empty => cases marshalled

/-! ## The text of a response -/

/-- The names of the members, all of them ASCII. -/
def memberNames : List String :=
  ["access_token", "refresh_token", "cid", "first_name", "last_name", "network_rating", "token",
    "key_value_pairs", "key", "value", "version", "err", "data", "success", "error_msg", "v1"]

theorem toValidUTF8_memberNames : forall name, name ∈ memberNames ->
    toValidUTF8 (bytes name) = bytes name := by
  decide +kernel

theorem writable_pointerJson (limit : Nat) (text : Option Bytes) :
    Writable limit (pointerJson text) := by
  cases text <;> cases limit <;> exact True.intro

theorem writable_data (data : Data) : Writable 3 data.json := by
  cases data with
  | none => exact True.intro
  | user cid firstName lastName networkRating =>
      simp [Data.json, Writable, literal_itoa, writable_pointerJson]
  | keyValuePairs pairs =>
      refine List.forall_mem_singleton.mpr ?_
      intro item listed
      rcases List.mem_map.mp listed with ⟨pair, _, rfl⟩
      exact List.forall_mem_cons.mpr ⟨True.intro, List.forall_mem_singleton.mpr True.intro⟩
  | _ => simp [Data.json, Writable]

theorem writable_json {body : Body} {value : JsonValue} (marshalled : body.json = some value) :
    Writable 4 value := by
  have omitted : forall limit name text, forall member, member ∈ omitEmpty name text ->
      Writable limit member.2 := by
    intro limit name text member listed
    unfold omitEmpty at listed
    split at listed
    · cases listed
    · rw [List.mem_singleton.mp listed]
      cases limit <;> exact True.intro
  cases body with
  | success data =>
      cases marshalled
      simp [apiV1Response, Writable, writable_pointerJson, writable_data]
  | failure err =>
      cases marshalled
      simp [apiV1Response, Writable, writable_pointerJson]
  | fsdToken token =>
      cases marshalled
      exact List.forall_mem_cons.mpr ⟨True.intro, omitted 3 _ token⟩
  | fsdFailure errorMsg =>
      cases marshalled
      exact List.forall_mem_cons.mpr ⟨True.intro, omitted 3 _ errorMsg⟩
  | empty => cases marshalled

theorem validValue_pointerJson (text : Option Bytes) :
    validValue (pointerJson text) = pointerJson (text.map toValidUTF8) := by
  cases text <;> rfl

theorem validValue_data (data : Data) : validValue data.json = data.valid.json := by
  have names := toValidUTF8_memberNames
  simp only [memberNames, List.forall_mem_cons] at names
  cases data with
  | keyValuePairs pairs =>
      have items : validItems (pairs.map keyValuePairJson) =
          (pairs.map fun pair => (toValidUTF8 pair.1, toValidUTF8 pair.2)).map
            keyValuePairJson := by
        rw [validItems_eq, List.map_map, List.map_map]
        apply List.map_congr_left
        intro pair _
        simp [keyValuePairJson, validValue, validMembers, validMember, names]
      simp [Data.json, Data.valid, validValue, validMembers, validMember, names, items]
  | _ =>
      simp [Data.json, Data.valid, validValue, validMembers, validMember, names,
        validValue_pointerJson]

theorem isEmpty_toValidUTF8 (text : Bytes) : (toValidUTF8 text).isEmpty = text.isEmpty := by
  cases text with
  | nil => rfl
  | cons head rest =>
      rw [toValidUTF8, keepRunes]
      cases runeWidth (head :: rest) <;> rfl

theorem validMembers_omitEmpty (name text : Bytes) :
    validMembers (omitEmpty name text) = omitEmpty (toValidUTF8 name) (toValidUTF8 text) := by
  unfold omitEmpty
  rw [isEmpty_toValidUTF8]
  split <;> rfl

theorem validValue_json {body : Body} {value : JsonValue} (marshalled : body.json = some value) :
    body.valid.json = some (validValue value) := by
  have names := toValidUTF8_memberNames
  simp only [memberNames, List.forall_mem_cons] at names
  cases body with
  | success data =>
      cases marshalled
      simp [Body.json, Body.valid, apiV1Response, validValue, validMembers, validMember, names,
        validValue_data, pointerJson]
  | failure err =>
      cases marshalled
      simp [Body.json, Body.valid, apiV1Response, validValue, validMembers, validMember, names,
        pointerJson]
  | fsdToken token =>
      cases marshalled
      simp [Body.json, Body.valid, validValue, validMembers, validMember, names,
        validMembers_omitEmpty]
  | fsdFailure errorMsg =>
      cases marshalled
      simp [Body.json, Body.valid, validValue, validMembers, validMember, names,
        validMembers_omitEmpty]
  | empty => cases marshalled

/-- Whatever an endpoint answers, a client reads it from the text, with valid UTF-8 in
its strings. -/
theorem readBody_text (body : Body) : readBody body.text = some body.valid := by
  unfold Body.text
  cases marshalled : body.json with
  | none =>
      cases body with
      | empty => rfl
      | _ => cases marshalled
  | some value =>
      have within : 4 ≤ 10000 := by omega
      have read := readDocument_writeValue (writable_json marshalled) within
      have visible : (writeValue value).isEmpty = false := by
        rw [List.isEmpty_eq_false_iff]
        intro nothing
        rw [nothing] at read
        cases read
      have shown := readBodyValue_json (validValue_json marshalled)
      simp only [readBody, visible, Bool.false_eq_true, if_false, read, Option.bind_some, shown]

end Web
end OpenFsd
