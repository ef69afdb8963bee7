import StratumWire.Serde

/-! The JSON-RPC messages of `json_rpc.rs`, their derived serde impls, and what the untagged
`Message` makes of a document. -/

namespace StratumWire

structure StandardRequest where
  id : UInt64
  method : String
  params : Value

structure Notification where
  method : String
  params : Value

structure JsonRpcError where
  code : I32
  message : String
  data : Option Value

structure Response where
  id : UInt64
  error : Option JsonRpcError
  result : Value

inductive Message where
  | standardRequest (r : StandardRequest)
  | notification (n : Notification)
  | okResponse (r : Response)
  | errorResponse (r : Response)

namespace StandardRequest

def serialize (r : StandardRequest) : Json :=
  .object [("id", serializeU64 r.id), ("method", .string r.method), ("params", r.params.json)]

structure Seen where
  id : Option UInt64 := none
  method : Option String := none
  params : Option Value := none

def visitEntry (seen : Seen) : String × Json → Except DeError Seen
  | ("id", value) => do return { seen with id := ← visitField "id" deserializeU64 seen.id value }
  | ("method", value) => do
    return { seen with method := ← visitField "method" deserializeString seen.method value }
  | ("params", value) => do
    return { seen with params := ← visitField "params" Value.deserialize seen.params value }
  | _ => pure seen

def visitMap (entries : List (String × Json)) : Except DeError StandardRequest := do
  let seen ← entries.foldlM visitEntry {}
  let id ← requiredField "id" seen.id
  let method ← requiredField "method" seen.method
  let params ← requiredField "params" seen.params
  pure { id, method, params }

def visitSeq (items : List Json) : Except DeError StandardRequest := do
  let expected := "struct StandardRequest with 3 elements"
  let (id, items) ← nextElement 0 expected deserializeU64 items
  let (method, items) ← nextElement 1 expected deserializeString items
  let (params, items) ← nextElement 2 expected Value.deserialize items
  endSeq 3 "3 elements in sequence" items
  pure { id, method, params }

def deserialize : Json → Except DeError StandardRequest :=
  deserializeStruct "struct StandardRequest" visitMap visitSeq

end StandardRequest

namespace Notification

def serialize (n : Notification) : Json :=
  .object [("method", .string n.method), ("params", n.params.json)]

structure Seen where
  method : Option String := none
  params : Option Value := none

def visitEntry (seen : Seen) : String × Json → Except DeError Seen
  | ("method", value) => do
    return { seen with method := ← visitField "method" deserializeString seen.method value }
  | ("params", value) => do
    return { seen with params := ← visitField "params" Value.deserialize seen.params value }
  | _ => pure seen

def visitMap (entries : List (String × Json)) : Except DeError Notification := do
  let seen ← entries.foldlM visitEntry {}
  let method ← requiredField "method" seen.method
  let params ← requiredField "params" seen.params
  pure { method, params }

def visitSeq (items : List Json) : Except DeError Notification := do
  let expected := "struct Notification with 2 elements"
  let (method, items) ← nextElement 0 expected deserializeString items
  let (params, items) ← nextElement 1 expected Value.deserialize items
  endSeq 2 "2 elements in sequence" items
  pure { method, params }

def deserialize : Json → Except DeError Notification :=
  deserializeStruct "struct Notification" visitMap visitSeq

end Notification

namespace JsonRpcError

def serialize (e : JsonRpcError) : Json :=
  .object [("code", serializeI32 e.code), ("message", .string e.message),
    ("data", serializeOption Value.json e.data)]

structure Seen where
  code : Option I32 := none
  message : Option String := none
  data : Option (Option Value) := none

def visitEntry (seen : Seen) : String × Json → Except DeError Seen
  | ("code", value) => do
    return { seen with code := ← visitField "code" deserializeI32 seen.code value }
  | ("message", value) => do
    return { seen with message := ← visitField "message" deserializeString seen.message value }
  | ("data", value) => do
    return { seen with
      data := ← visitField "data" (deserializeOption Value.deserialize) seen.data value }
  | _ => pure seen

def visitMap (entries : List (String × Json)) : Except DeError JsonRpcError := do
  let seen ← entries.foldlM visitEntry {}
  let code ← requiredField "code" seen.code
  let message ← requiredField "message" seen.message
  let data ← optionalField seen.data
  pure { code, message, data }

def visitSeq (items : List Json) : Except DeError JsonRpcError := do
  let expected := "struct JsonRpcError with 3 elements"
  let (code, items) ← nextElement 0 expected deserializeI32 items
  let (message, items) ← nextElement 1 expected deserializeString items
  let (data, items) ← nextElement 2 expected (deserializeOption Value.deserialize) items
  endSeq 3 "3 elements in sequence" items
  pure { code, message, data }

def deserialize : Json → Except DeError JsonRpcError :=
  deserializeStruct "struct JsonRpcError" visitMap visitSeq

end JsonRpcError

namespace Response

def serialize (r : Response) : Json :=
  .object [("id", serializeU64 r.id), ("error", serializeOption JsonRpcError.serialize r.error),
    ("result", r.result.json)]

structure Seen where
  id : Option UInt64 := none
  error : Option (Option JsonRpcError) := none
  result : Option Value := none

def visitEntry (seen : Seen) : String × Json → Except DeError Seen
  | ("id", value) => do return { seen with id := ← visitField "id" deserializeU64 seen.id value }
  | ("error", value) => do
    return { seen with
      error := ← visitField "error" (deserializeOption JsonRpcError.deserialize) seen.error value }
  | ("result", value) => do
    return { seen with result := ← visitField "result" Value.deserialize seen.result value }
  | _ => pure seen

def visitMap (entries : List (String × Json)) : Except DeError Response := do
  let seen ← entries.foldlM visitEntry {}
  let id ← requiredField "id" seen.id
  let error ← optionalField seen.error
  let result ← requiredField "result" seen.result
  pure { id, error, result }

def visitSeq (items : List Json) : Except DeError Response := do
  let expected := "struct Response with 3 elements"
  let (id, items) ← nextElement 0 expected deserializeU64 items
  let (error, items) ← nextElement 1 expected (deserializeOption JsonRpcError.deserialize) items
  let (result, items) ← nextElement 2 expected Value.deserialize items
  endSeq 3 "3 elements in sequence" items
  pure { id, error, result }

def deserialize : Json → Except DeError Response :=
  deserializeStruct "struct Response" visitMap visitSeq

/-- No error the response carries has data `Some(Value::Null)`, which is written as `null` and
so read back as `None`. -/
def KeepsErrorData (r : Response) : Prop :=
  ∀ e, r.error = some e → e.data ≠ some Value.null

end Response

namespace Message

def isResponse : Message → Bool
  | standardRequest _ => false
  | notification _ => false
  | okResponse _ => true
  | errorResponse _ => true

def fromResponse (res : Response) : Message :=
  if res.error.isSome then errorResponse res else okResponse res

def fromStandardRequest (sr : StandardRequest) : Message := standardRequest sr

def fromNotification (n : Notification) : Message := notification n

def serialize : Message → Json
  | standardRequest r => r.serialize
  | notification n => n.serialize
  | okResponse r => r.serialize
  | errorResponse r => r.serialize

/-- The untagged `Deserialize` impl: the first variant, in declaration order, whose struct
decodes from the buffered document. -/
def deserialize (content : Json) : Except DeError Message :=
  tryVariant (standardRequest <$> StandardRequest.deserialize content) <|
  tryVariant (notification <$> Notification.deserialize content) <|
  tryVariant (okResponse <$> Response.deserialize content) <|
  tryVariant (errorResponse <$> Response.deserialize content) <|
  .error (.custom "data did not match any variant of untagged enum Message")

end Message

section RoundTrip

theorem StandardRequest.deserialize_serialize (r : StandardRequest) :
    StandardRequest.deserialize r.serialize = .ok r := by
  simp [StandardRequest.deserialize, StandardRequest.serialize, StandardRequest.visitMap,
    StandardRequest.visitEntry]

theorem Notification.deserialize_serialize (n : Notification) :
    Notification.deserialize n.serialize = .ok n := by
  simp [Notification.deserialize, Notification.serialize, Notification.visitMap,
    Notification.visitEntry]

theorem JsonRpcError.deserialize_serialize (e : JsonRpcError)
    (keepsData : e.data ≠ some Value.null) :
    JsonRpcError.deserialize e.serialize = .ok e := by
  have data :
      deserializeOption Value.deserialize (serializeOption Value.json e.data) = .ok e.data :=
    deserializeOption_serializeOption (fun v _ => Value.deserialize_json v)
      fun v held written => keepsData (held.trans (congrArg some (Value.json_eq_null.mp written)))
  simp [JsonRpcError.deserialize, JsonRpcError.serialize, JsonRpcError.visitMap,
    JsonRpcError.visitEntry, data]

theorem JsonRpcError.deserialize_serialize_of_null (e : JsonRpcError)
    (nullData : e.data = some Value.null) :
    JsonRpcError.deserialize e.serialize = .ok { e with data := none } := by
  simp [JsonRpcError.deserialize, JsonRpcError.serialize, JsonRpcError.visitMap,
    JsonRpcError.visitEntry, nullData, serializeOption, Value.null, deserializeOption_null]

theorem Response.deserialize_serialize (r : Response) (keepsData : r.KeepsErrorData) :
    Response.deserialize r.serialize = .ok r := by
  have error : deserializeOption JsonRpcError.deserialize
      (serializeOption JsonRpcError.serialize r.error) = .ok r.error :=
    deserializeOption_serializeOption
      (fun e held => JsonRpcError.deserialize_serialize e (keepsData e held)) fun _ _ => nofun
  simp [Response.deserialize, Response.serialize, Response.visitMap, Response.visitEntry, error]

theorem Response.deserialize_serialize_of_null (r : Response) (e : JsonRpcError)
    (held : r.error = some e) (nullData : e.data = some Value.null) :
    Response.deserialize r.serialize = .ok { r with error := some { e with data := none } } := by
  have error : deserializeOption JsonRpcError.deserialize
      (serializeOption JsonRpcError.serialize r.error) = .ok (some { e with data := none }) := by
    rw [held, serializeOption,
      deserializeOption_of_ne_null _ (show e.serialize ≠ .null from nofun),
      JsonRpcError.deserialize_serialize_of_null e nullData, except_map_ok]
  simp [Response.deserialize, Response.serialize, Response.visitMap, Response.visitEntry, error]

theorem Response.exists_deserialize_serialize (r : Response) :
    ∃ r', Response.deserialize r.serialize = .ok r' := by
  by_cases nullData : ∃ e, r.error = some e ∧ e.data = some Value.null
  · obtain ⟨e, held, nullData⟩ := nullData
    exact ⟨_, r.deserialize_serialize_of_null e held nullData⟩
  · exact ⟨r, r.deserialize_serialize fun e held null => nullData ⟨e, held, null⟩⟩

end RoundTrip

section Dispatch

theorem StandardRequest.deserialize_notification (n : Notification) :
    StandardRequest.deserialize n.serialize = .error (.missingField "id") := by
  simp [StandardRequest.deserialize, Notification.serialize, StandardRequest.visitMap,
    StandardRequest.visitEntry]

theorem StandardRequest.deserialize_response (r : Response) :
    StandardRequest.deserialize r.serialize = .error (.missingField "method") := by
  simp [StandardRequest.deserialize, Response.serialize, StandardRequest.visitMap,
    StandardRequest.visitEntry]

theorem Notification.deserialize_response (r : Response) :
    Notification.deserialize r.serialize = .error (.missingField "method") := by
  simp [Notification.deserialize, Response.serialize, Notification.visitMap,
    Notification.visitEntry]

namespace Message

theorem deserialize_standardRequest (sr : StandardRequest) :
    deserialize (standardRequest sr).serialize = .ok (standardRequest sr) := by
  simp [deserialize, serialize, StandardRequest.deserialize_serialize]

theorem deserialize_notification (n : Notification) :
    deserialize (notification n).serialize = .ok (notification n) := by
  simp [deserialize, serialize, StandardRequest.deserialize_notification,
    Notification.deserialize_serialize]

theorem deserialize_response {r r' : Response}
    (decoded : Response.deserialize r.serialize = .ok r') :
    deserialize r.serialize = .ok (okResponse r') := by
  simp [deserialize, StandardRequest.deserialize_response, Notification.deserialize_response,
    decoded]

/-- Written with `to_string` and read back with `from_str`, a request, a notification and an
`OkResponse` come back unchanged and an `ErrorResponse` comes back as an `OkResponse` holding
the same response, unless the document nests 128 deep, where the reader's recursion limit
rejects it. -/
theorem text_round_trip (sr : StandardRequest) (n : Notification) (r : Response)
    (keepsData : r.KeepsErrorData) :
    let readBack (m expected : Message) := fromStr deserialize m.serialize =
      if 128 ≤ m.serialize.depth then .error .recursionLimitExceeded else .ok expected
    readBack (standardRequest sr) (standardRequest sr) ∧
      readBack (notification n) (notification n) ∧ readBack (okResponse r) (okResponse r) ∧
      readBack (errorResponse r) (okResponse r) := by
  have response := deserialize_response (r.deserialize_serialize keepsData)
  exact ⟨fromStr_of_ok (deserialize_standardRequest sr), fromStr_of_ok (deserialize_notification n),
    fromStr_of_ok response, fromStr_of_ok response⟩

theorem text_round_trip_subscribe :
    let sr : StandardRequest := { id := 1, method := "mining.subscribe", params := Value.null }
    let n : Notification := { method := "mining.set_difficulty", params := Value.null }
    let r : Response :=
      { id := 1
        error := some { code := ⟨-1, by decide⟩, message := "unknown job", data := none }
        result := Value.null }
    let readBack (m expected : Message) := fromStr deserialize m.serialize =
      if 128 ≤ m.serialize.depth then .error .recursionLimitExceeded else .ok expected
    r.KeepsErrorData ∧
      (readBack (standardRequest sr) (standardRequest sr) ∧
        readBack (notification n) (notification n) ∧ readBack (okResponse r) (okResponse r) ∧
        readBack (errorResponse r) (okResponse r)) :=
  have keepsData : Response.KeepsErrorData
      { id := 1
        error := some { code := ⟨-1, by decide⟩, message := "unknown job", data := none }
        result := Value.null } := fun _ held => by cases held; nofun
  ⟨keepsData, text_round_trip _ _ _ keepsData⟩

/-- `Message::from` of a response that carries an error is an `ErrorResponse`; written with
`to_string` and read back with `from_str`, it is an `OkResponse`. -/
theorem error_response_read_back_as_ok :
    let r : Response :=
      { id := 1
        error := some { code := ⟨-1, by decide⟩, message := "unknown job", data := none }
        result := Value.null }
    fromResponse r = errorResponse r ∧
      fromStr deserialize (fromResponse r).serialize = .ok (okResponse r) :=
  ⟨rfl, rfl⟩

/-- No document reads as an `ErrorResponse`: its arm is reached only when the same struct has
just failed to decode in the `OkResponse` arm. -/
theorem deserialize_ne_errorResponse (content : Json) (r : Response) :
    deserialize content ≠ .ok (errorResponse r) := by
  unfold deserialize
  cases StandardRequest.deserialize content <;> cases Notification.deserialize content <;>
    cases Response.deserialize content <;> simp

/-- Every message's document is accepted, and the receiver's `is_response` agrees with the
sender's. -/
theorem deserialize_serialize_isResponse (m : Message) :
    ∃ m', deserialize m.serialize = .ok m' ∧ m'.isResponse = m.isResponse := by
  cases m with
  | standardRequest sr => exact ⟨_, deserialize_standardRequest sr, rfl⟩
  | notification n => exact ⟨_, deserialize_notification n, rfl⟩
  | okResponse r =>
    obtain ⟨r', decoded⟩ := r.exists_deserialize_serialize
    exact ⟨_, deserialize_response decoded, rfl⟩
  | errorResponse r =>
    obtain ⟨r', decoded⟩ := r.exists_deserialize_serialize
    exact ⟨_, deserialize_response decoded, rfl⟩

/-- Error data `Some(Value::Null)` comes back as `None`. -/
theorem null_error_data_read_back_as_none (r : Response) (e : JsonRpcError)
    (held : r.error = some e) (nullData : e.data = some Value.null) :
    deserialize (okResponse r).serialize =
      .ok (okResponse { r with error := some { e with data := none } }) :=
  deserialize_response (r.deserialize_serialize_of_null e held nullData)

theorem null_error_data_read_back_as_none_unknown_job :
    let e : JsonRpcError :=
      { code := ⟨-1, by decide⟩, message := "unknown job", data := some Value.null }
    let r : Response := { id := 1, error := some e, result := Value.null }
    (r.error = some e ∧ e.data = some Value.null) ∧
      deserialize (okResponse r).serialize =
        .ok (okResponse { r with error := some { e with data := none } }) :=
  ⟨⟨rfl, rfl⟩, null_error_data_read_back_as_none _ _ rfl rfl⟩

end Message

end Dispatch

section Objects

namespace StandardRequest

def fields : List (FieldSlot Seen) :=
  [⟨"id", deserializeU64, Seen.id, fun s x => { s with id := x }⟩,
    ⟨"method", deserializeString, Seen.method, fun s x => { s with method := x }⟩,
    ⟨"params", Value.deserialize, Seen.params, fun s x => { s with params := x }⟩]

theorem dispatches : Dispatches visitEntry fields where
  distinct := by decide
  hit := by
    simp only [fields, List.mem_cons, List.not_mem_nil, or_false]
    rintro f (rfl | rfl | rfl) s j <;> exact (map_eq_pure_bind _ _).symm
  miss s k j other := by
    simp only [fields, List.map_cons, List.map_nil, List.mem_cons, List.not_mem_nil, or_false,
      not_or] at other
    exact visitEntry.eq_4 s (k, j) (fun _ same => other.1 (Prod.mk.inj same).1)
      (fun _ same => other.2.1 (Prod.mk.inj same).1) (fun _ same => other.2.2 (Prod.mk.inj same).1)
  get_set := by
    simp only [fields, List.mem_cons, List.not_mem_nil, or_false]
    rintro f (rfl | rfl | rfl) s x <;> rfl
  frame := by
    simp only [fields, List.mem_cons, List.not_mem_nil, or_false]
    rintro f (rfl | rfl | rfl) g (rfl | rfl | rfl) apart s x <;>
      first | rfl | exact absurd rfl apart
  ext := by
    rintro ⟨_, _, _⟩ ⟨_, _, _⟩ same
    simp only [fields, List.mem_cons, List.not_mem_nil, or_false, forall_eq_or_imp,
      forall_eq, false_implies, implies_true, and_true] at same
    obtain ⟨rfl, rfl, rfl⟩ := same
    rfl

theorem visitMap_eq_ok (entries : List (String × Json)) (r : StandardRequest) :
    visitMap entries = .ok r ↔
      RequiredMember "id" deserializeU64 entries r.id ∧
      RequiredMember "method" deserializeString entries r.method ∧
      RequiredMember "params" Value.deserialize entries r.params := by
  simp only [requiredMember_iff_fold, visitMap, except_bind_eq_ok, dispatches.foldlM_eq_ok,
    fields, List.mem_cons, List.not_mem_nil, or_false, forall_eq_or_imp, forall_eq,
    false_implies, implies_true, and_true, except_pure_eq_ok]
  constructor
  · rintro ⟨_, ⟨i, m, p⟩, _, ri, _, rm, _, rp, rfl⟩
    exact ⟨⟨_, i, ri⟩, ⟨_, m, rm⟩, ⟨_, p, rp⟩⟩
  · rintro ⟨⟨_, i, ri⟩, ⟨_, m, rm⟩, ⟨_, p, rp⟩⟩
    exact ⟨⟨_, _, _⟩, ⟨i, m, p⟩, _, ri, _, rm, _, rp, rfl⟩

end StandardRequest

namespace Notification

def fields : List (FieldSlot Seen) :=
  [⟨"method", deserializeString, Seen.method, fun s x => { s with method := x }⟩,
    ⟨"params", Value.deserialize, Seen.params, fun s x => { s with params := x }⟩]

theorem dispatches : Dispatches visitEntry fields where
  distinct := by decide
  hit := by
    simp only [fields, List.mem_cons, List.not_mem_nil, or_false]
    rintro f (rfl | rfl) s j <;> exact (map_eq_pure_bind _ _).symm
  miss s k j other := by
    simp only [fields, List.map_cons, List.map_nil, List.mem_cons, List.not_mem_nil, or_false,
      not_or] at other
    exact visitEntry.eq_3 s (k, j) (fun _ same => other.1 (Prod.mk.inj same).1)
      (fun _ same => other.2 (Prod.mk.inj same).1)
  get_set := by
    simp only [fields, List.mem_cons, List.not_mem_nil, or_false]
    rintro f (rfl | rfl) s x <;> rfl
  frame := by
    simp only [fields, List.mem_cons, List.not_mem_nil, or_false]
    rintro f (rfl | rfl) g (rfl | rfl) apart s x <;> first | rfl | exact absurd rfl apart
  ext := by
    rintro ⟨_, _⟩ ⟨_, _⟩ same
    simp only [fields, List.mem_cons, List.not_mem_nil, or_false, forall_eq_or_imp,
      forall_eq, false_implies, implies_true, and_true] at same
    obtain ⟨rfl, rfl⟩ := same
    rfl

theorem visitMap_eq_ok (entries : List (String × Json)) (n : Notification) :
    visitMap entries = .ok n ↔
      RequiredMember "method" deserializeString entries n.method ∧
      RequiredMember "params" Value.deserialize entries n.params := by
  simp only [requiredMember_iff_fold, visitMap, except_bind_eq_ok, dispatches.foldlM_eq_ok,
    fields, List.mem_cons, List.not_mem_nil, or_false, forall_eq_or_imp, forall_eq,
    false_implies, implies_true, and_true, except_pure_eq_ok]
  constructor
  · rintro ⟨_, ⟨m, p⟩, _, rm, _, rp, rfl⟩
    exact ⟨⟨_, m, rm⟩, ⟨_, p, rp⟩⟩
  · rintro ⟨⟨_, m, rm⟩, ⟨_, p, rp⟩⟩
    exact ⟨⟨_, _⟩, ⟨m, p⟩, _, rm, _, rp, rfl⟩

end Notification

namespace JsonRpcError

def fields : List (FieldSlot Seen) :=
  [⟨"code", deserializeI32, Seen.code, fun s x => { s with code := x }⟩,
    ⟨"message", deserializeString, Seen.message, fun s x => { s with message := x }⟩,
    ⟨"data", deserializeOption Value.deserialize, Seen.data, fun s x => { s with data := x }⟩]

theorem dispatches : Dispatches visitEntry fields where
  distinct := by decide
  hit := by
    simp only [fields, List.mem_cons, List.not_mem_nil, or_false]
    rintro f (rfl | rfl | rfl) s j <;> exact (map_eq_pure_bind _ _).symm
  miss s k j other := by
    simp only [fields, List.map_cons, List.map_nil, List.mem_cons, List.not_mem_nil, or_false,
      not_or] at other
    exact visitEntry.eq_4 s (k, j) (fun _ same => other.1 (Prod.mk.inj same).1)
      (fun _ same => other.2.1 (Prod.mk.inj same).1) (fun _ same => other.2.2 (Prod.mk.inj same).1)
  get_set := by
    simp only [fields, List.mem_cons, List.not_mem_nil, or_false]
    rintro f (rfl | rfl | rfl) s x <;> rfl
  frame := by
    simp only [fields, List.mem_cons, List.not_mem_nil, or_false]
    rintro f (rfl | rfl | rfl) g (rfl | rfl | rfl) apart s x <;>
      first | rfl | exact absurd rfl apart
  ext := by
    rintro ⟨_, _, _⟩ ⟨_, _, _⟩ same
    simp only [fields, List.mem_cons, List.not_mem_nil, or_false, forall_eq_or_imp,
      forall_eq, false_implies, implies_true, and_true] at same
    obtain ⟨rfl, rfl, rfl⟩ := same
    rfl

theorem visitMap_eq_ok (entries : List (String × Json)) (e : JsonRpcError) :
    visitMap entries = .ok e ↔
      RequiredMember "code" deserializeI32 entries e.code ∧
      RequiredMember "message" deserializeString entries e.message ∧
      OptionalMember "data" (deserializeOption Value.deserialize) entries e.data := by
  simp only [requiredMember_iff_fold, optionalMember_iff_fold, visitMap, except_bind_eq_ok,
    dispatches.foldlM_eq_ok, fields, List.mem_cons, List.not_mem_nil, or_false, forall_eq_or_imp,
    forall_eq, false_implies, implies_true, and_true, except_pure_eq_ok]
  constructor
  · rintro ⟨_, ⟨c, m, d⟩, _, rc, _, rm, _, rd, rfl⟩
    exact ⟨⟨_, c, rc⟩, ⟨_, m, rm⟩, ⟨_, d, rd⟩⟩
  · rintro ⟨⟨_, c, rc⟩, ⟨_, m, rm⟩, ⟨_, d, rd⟩⟩
    exact ⟨⟨_, _, _⟩, ⟨c, m, d⟩, _, rc, _, rm, _, rd, rfl⟩

end JsonRpcError

namespace Response

def fields : List (FieldSlot Seen) :=
  [⟨"id", deserializeU64, Seen.id, fun s x => { s with id := x }⟩,
    ⟨"error", deserializeOption JsonRpcError.deserialize, Seen.error,
      fun s x => { s with error := x }⟩,
    ⟨"result", Value.deserialize, Seen.result, fun s x => { s with result := x }⟩]

theorem dispatches : Dispatches visitEntry fields where
  distinct := by decide
  hit := by
    simp only [fields, List.mem_cons, List.not_mem_nil, or_false]
    rintro f (rfl | rfl | rfl) s j <;> exact (map_eq_pure_bind _ _).symm
  miss s k j other := by
    simp only [fields, List.map_cons, List.map_nil, List.mem_cons, List.not_mem_nil, or_false,
      not_or] at other
    exact visitEntry.eq_4 s (k, j) (fun _ same => other.1 (Prod.mk.inj same).1)
      (fun _ same => other.2.1 (Prod.mk.inj same).1) (fun _ same => other.2.2 (Prod.mk.inj same).1)
  get_set := by
    simp only [fields, List.mem_cons, List.not_mem_nil, or_false]
    rintro f (rfl | rfl | rfl) s x <;> rfl
  frame := by
    simp only [fields, List.mem_cons, List.not_mem_nil, or_false]
    rintro f (rfl | rfl | rfl) g (rfl | rfl | rfl) apart s x <;>
      first | rfl | exact absurd rfl apart
  ext := by
    rintro ⟨_, _, _⟩ ⟨_, _, _⟩ same
    simp only [fields, List.mem_cons, List.not_mem_nil, or_false, forall_eq_or_imp,
      forall_eq, false_implies, implies_true, and_true] at same
    obtain ⟨rfl, rfl, rfl⟩ := same
    rfl

theorem visitMap_eq_ok (entries : List (String × Json)) (r : Response) :
    visitMap entries = .ok r ↔
      RequiredMember "id" deserializeU64 entries r.id ∧
      OptionalMember "error" (deserializeOption JsonRpcError.deserialize) entries r.error ∧
      RequiredMember "result" Value.deserialize entries r.result := by
  simp only [requiredMember_iff_fold, optionalMember_iff_fold, visitMap, except_bind_eq_ok,
    dispatches.foldlM_eq_ok, fields, List.mem_cons, List.not_mem_nil, or_false, forall_eq_or_imp,
    forall_eq, false_implies, implies_true, and_true, except_pure_eq_ok]
  constructor
  · rintro ⟨_, ⟨i, e, p⟩, _, ri, _, re, _, rp, rfl⟩
    exact ⟨⟨_, i, ri⟩, ⟨_, e, re⟩, ⟨_, p, rp⟩⟩
  · rintro ⟨⟨_, i, ri⟩, ⟨_, e, re⟩, ⟨_, p, rp⟩⟩
    exact ⟨⟨_, _, _⟩, ⟨i, e, p⟩, _, ri, _, re, _, rp, rfl⟩

end Response

theorem StandardRequest.visitMap_congr {entries entries' : List (String × Json)}
    (sameId : (memberValues "id" entries).Perm (memberValues "id" entries'))
    (sameMethod : (memberValues "method" entries).Perm (memberValues "method" entries'))
    (sameParams : (memberValues "params" entries).Perm (memberValues "params" entries'))
    (r : StandardRequest) : visitMap entries = .ok r ↔ visitMap entries' = .ok r := by
  rw [visitMap_eq_ok, visitMap_eq_ok, requiredMember_congr sameId, requiredMember_congr sameMethod,
    requiredMember_congr sameParams]

theorem Notification.visitMap_congr {entries entries' : List (String × Json)}
    (sameMethod : (memberValues "method" entries).Perm (memberValues "method" entries'))
    (sameParams : (memberValues "params" entries).Perm (memberValues "params" entries'))
    (n : Notification) : visitMap entries = .ok n ↔ visitMap entries' = .ok n := by
  rw [visitMap_eq_ok, visitMap_eq_ok, requiredMember_congr sameMethod,
    requiredMember_congr sameParams]

theorem Response.visitMap_congr {entries entries' : List (String × Json)}
    (sameId : (memberValues "id" entries).Perm (memberValues "id" entries'))
    (sameError : (memberValues "error" entries).Perm (memberValues "error" entries'))
    (sameResult : (memberValues "result" entries).Perm (memberValues "result" entries'))
    (r : Response) : visitMap entries = .ok r ↔ visitMap entries' = .ok r := by
  rw [visitMap_eq_ok, visitMap_eq_ok, requiredMember_congr sameId, optionalMember_congr sameError,
    requiredMember_congr sameResult]

/-- Each derived `Deserialize` impl of `json_rpc.rs` reads an object field by field: it
succeeds exactly when every field without a default is named once, with a value that decodes,
and every `Option` field at most once. A field named twice fails the object, and the order of
the members and members with other keys play no part. -/
theorem objects_read_field_by_field (entries : List (String × Json)) :
    (∀ r : StandardRequest, StandardRequest.deserialize (.object entries) = .ok r ↔
      RequiredMember "id" deserializeU64 entries r.id ∧
      RequiredMember "method" deserializeString entries r.method ∧
      RequiredMember "params" Value.deserialize entries r.params) ∧
    (∀ n : Notification, Notification.deserialize (.object entries) = .ok n ↔
      RequiredMember "method" deserializeString entries n.method ∧
      RequiredMember "params" Value.deserialize entries n.params) ∧
    (∀ e : JsonRpcError, JsonRpcError.deserialize (.object entries) = .ok e ↔
      RequiredMember "code" deserializeI32 entries e.code ∧
      RequiredMember "message" deserializeString entries e.message ∧
      OptionalMember "data" (deserializeOption Value.deserialize) entries e.data) ∧
    (∀ r : Response, Response.deserialize (.object entries) = .ok r ↔
      RequiredMember "id" deserializeU64 entries r.id ∧
      OptionalMember "error" (deserializeOption JsonRpcError.deserialize) entries r.error ∧
      RequiredMember "result" Value.deserialize entries r.result) :=
  ⟨StandardRequest.visitMap_eq_ok entries, Notification.visitMap_eq_ok entries,
    JsonRpcError.visitMap_eq_ok entries, Response.visitMap_eq_ok entries⟩

/-- What a received object reads as depends only on the values it gives the keys `id`,
`method`, `params`, `error` and `result`, up to their order: reordering its members, or adding
or dropping members with any other key, never changes the message or the error. -/
theorem Message.deserialize_ignores_member_order_and_unknown_keys
    {entries entries' : List (String × Json)}
    (same : ∀ key ∈ ["id", "method", "params", "error", "result"],
      (memberValues key entries).Perm (memberValues key entries')) :
    deserialize (.object entries) = deserialize (.object entries') := by
  have sameId := same "id" (by simp)
  have sameMethod := same "method" (by simp)
  have sameParams := same "params" (by simp)
  have sameError := same "error" (by simp)
  have sameResult := same "result" (by simp)
  have response := Response.visitMap_congr sameId sameError sameResult
  exact tryVariant_congr _ (StandardRequest.visitMap_congr sameId sameMethod sameParams) <|
    tryVariant_congr _ (Notification.visitMap_congr sameMethod sameParams) <|
    tryVariant_congr _ response <| tryVariant_congr _ response rfl

theorem Message.subscribe_read_reordered :
    let sent : List (String × Json) :=
      [("id", .number (.posInt 7)), ("method", .string "mining.subscribe"), ("params", .array [])]
    let received : List (String × Json) :=
      [("params", .array []), ("worker", .string "rig-1"), ("method", .string "mining.subscribe"),
        ("id", .number (.posInt 7))]
    (∀ key ∈ ["id", "method", "params", "error", "result"],
      (memberValues key sent).Perm (memberValues key received)) ∧
      Message.deserialize (.object sent) = Message.deserialize (.object received) := by
  intro sent received
  have same : ∀ key ∈ ["id", "method", "params", "error", "result"],
      (memberValues key sent).Perm (memberValues key received) := by
    intro key member
    simp only [List.mem_cons, List.mem_singleton, List.not_mem_nil, or_false] at member
    rcases member with rfl | rfl | rfl | rfl | rfl <;> exact .refl _
  exact ⟨same, Message.deserialize_ignores_member_order_and_unknown_keys same⟩

/-- A notification written JSON-RPC 1.0 style, with an `id` member that is `null`, still reads
as a notification: the `StandardRequest` arm fails on the `null` id, and the `Notification` arm
skips the `id` member. -/
theorem Message.deserialize_null_id_notification (entries : List (String × Json))
    (n : Notification) (nullId : memberValues "id" entries = [.null]) :
    Message.deserialize (.object entries) = .ok (.notification n) ↔
      RequiredMember "method" deserializeString entries n.method ∧
      RequiredMember "params" Value.deserialize entries n.params := by
  have notRequest : ∀ r, StandardRequest.visitMap entries ≠ .ok r := fun r read => by
    obtain ⟨⟨j, only, decoded⟩, _⟩ := (StandardRequest.visitMap_eq_ok entries r).mp read
    rw [nullId, List.singleton_inj] at only
    subst only
    cases decoded
  rw [← Notification.visitMap_eq_ok]
  cases request : StandardRequest.visitMap entries with
  | ok r => exact absurd request (notRequest r)
  | error e =>
    simp only [Message.deserialize, StandardRequest.deserialize, Notification.deserialize,
      Response.deserialize, deserializeStruct_object, request, except_map_error, tryVariant_error]
    cases Notification.visitMap entries <;> cases Response.visitMap entries <;> simp

theorem Message.notify_with_null_id_read :
    let entries : List (String × Json) :=
      [("id", .null), ("method", .string "mining.notify"), ("params", .array [])]
    memberValues "id" entries = [.null] ∧
      Message.deserialize (.object entries) =
        .ok (.notification ⟨"mining.notify", Value.fromJson (.array [])⟩) := by
  intro entries
  exact ⟨rfl, (Message.deserialize_null_id_notification entries _ rfl).mpr
    ⟨⟨_, rfl, rfl⟩, ⟨_, rfl, rfl⟩⟩⟩

end Objects

section Sequences

namespace Message

/-- The derived `visit_seq` of each struct lets `Message`'s deserializer take a message in
sequence form too: the array of its struct's fields in declaration order. A request and a
notification read back as themselves and a response as an `OkResponse`, as from their objects. -/
theorem deserialize_sequence_form (id : UInt64) (method : String) (params : Value) (r : Response)
    (keepsData : r.KeepsErrorData) :
    deserialize (.array [serializeU64 id, .string method, params.json]) =
      .ok (standardRequest ⟨id, method, params⟩) ∧
    deserialize (.array [.string method, params.json]) = .ok (notification ⟨method, params⟩) ∧
    deserialize (.array [serializeU64 r.id, serializeOption JsonRpcError.serialize r.error,
      r.result.json]) = .ok (okResponse r) := by
  have error : deserializeOption JsonRpcError.deserialize
      (serializeOption JsonRpcError.serialize r.error) = .ok r.error :=
    deserializeOption_serializeOption
      (fun e held => JsonRpcError.deserialize_serialize e (keepsData e held)) fun _ _ => nofun
  have notString : deserializeString (serializeOption JsonRpcError.serialize r.error) =
      .error (.invalidType "a string") := by
    cases r.error <;> rfl
  refine ⟨?_, ?_, ?_⟩
  · simp only [deserialize, StandardRequest.deserialize, deserializeStruct,
      StandardRequest.visitSeq, nextElement, endSeq, deserializeU64_serializeU64,
      deserializeString_string, Value.deserialize_json, except_ok_bind, except_pure,
      except_map_ok, tryVariant_ok]
  · simp only [deserialize, Notification.deserialize, deserializeStruct, Notification.visitSeq,
      nextElement, endSeq, deserializeString_string, Value.deserialize_json, except_ok_bind,
      except_pure, except_map_ok, tryVariant_ok]
    rfl
  · simp only [deserialize, Response.deserialize, deserializeStruct, Response.visitSeq,
      StandardRequest.deserialize, StandardRequest.visitSeq, nextElement, endSeq, notString, error,
      deserializeU64_serializeU64, Value.deserialize_json, except_ok_bind, except_error_bind,
      except_pure, except_map_ok, except_map_error, tryVariant_ok, tryVariant_error]
    rfl

theorem deserialize_sequence_form_subscribe :
    let r : Response :=
      { id := 1
        error := some { code := ⟨-1, by decide⟩, message := "unknown job", data := none }
        result := Value.null }
    r.KeepsErrorData ∧
      (deserialize (.array [serializeU64 1, .string "mining.subscribe", Value.null.json]) =
        .ok (standardRequest ⟨1, "mining.subscribe", Value.null⟩) ∧
      deserialize (.array [.string "mining.subscribe", Value.null.json]) =
        .ok (notification ⟨"mining.subscribe", Value.null⟩) ∧
      deserialize (.array [serializeU64 r.id, serializeOption JsonRpcError.serialize r.error,
        r.result.json]) = .ok (okResponse r)) :=
  have keepsData : Response.KeepsErrorData
      { id := 1
        error := some { code := ⟨-1, by decide⟩, message := "unknown job", data := none }
        result := Value.null } := fun _ held => by cases held; nofun
  ⟨keepsData, deserialize_sequence_form 1 "mining.subscribe" Value.null _ keepsData⟩

end Message

end Sequences

end StratumWire
