import StratumWire.Serde

/-! The hash types of `roles-utils/rpc`, read with `serde_json::from_value` as the `[u8; 32]`
they hold. -/

namespace StratumWire

structure Hash where
  bytes : List UInt8
  length_eq : bytes.length = 32

structure BlockHash where
  hash : Hash

namespace Hash

def serialize (h : Hash) : Json := .array (h.bytes.map serializeU8)

/-- `deserialize_tuple(32, ArrayVisitor)` on a `Value`: an array goes to the visitor, then
`visit_array` rejects any element it left. -/
def deserialize : Json → Except DeError Hash
  | .array items => do
    let (bytes, rest) ← visitArray deserializeU8 "an array of length 32" 32 0 items
    endArray items.length rest
    pure ⟨bytes.1, bytes.2⟩
  | _ => .error (.invalidType "an array of length 32")

theorem deserialize_eq_ok (j : Json) (h : Hash) : deserialize j = .ok h ↔ j = h.serialize := by
  constructor
  · intro read
    cases j with
    | array items =>
      cases visited : visitArray deserializeU8 "an array of length 32" 32 0 items with
      | error e => simp [deserialize, visited] at read
      | ok result =>
        obtain ⟨bytes, rest⟩ := result
        cases rest with
        | cons j rest => simp [deserialize, visited, endArray] at read
        | nil =>
          simp only [deserialize, visited, endArray, except_ok_bind, except_pure,
            Except.ok.injEq] at read
          subst read
          rw [visitArray_sound (fun _ _ => eq_serializeU8_of_deserializeU8) visited,
            List.append_nil]
          rfl
    | _ => simp [deserialize] at read
  · rintro rfl
    have visited := visitArray_append deserializeU8_serializeU8 "an array of length 32" 0
      h.bytes h.length_eq []
    rw [List.append_nil] at visited
    simp [deserialize, serialize, visited, endArray]

/-- An array of bytes of any other length is an invalid-length error naming its length: the
visitor's own when it is short, `visit_array`'s when it is long. -/
theorem deserialize_wrong_length (bytes : List UInt8) (wrong : bytes.length ≠ 32) :
    deserialize (.array (bytes.map serializeU8)) =
      .error (.invalidLength bytes.length
        (if bytes.length < 32 then "an array of length 32" else "fewer elements in array")) := by
  by_cases short : bytes.length < 32
  · simp [deserialize, visitArray_short deserializeU8_serializeU8 _ bytes short, short]
  · have first : (bytes.take 32).length = 32 := by simp; omega
    obtain ⟨b, left, split⟩ : ∃ b left, bytes.drop 32 = b :: left :=
      List.exists_cons_of_ne_nil (by simp; omega)
    have whole : bytes.map serializeU8 =
        (bytes.take 32).map serializeU8 ++ (b :: left).map serializeU8 := by
      rw [← List.map_append, ← split, List.take_append_drop]
    rw [deserialize, whole, visitArray_append deserializeU8_serializeU8 _ 0 _ first,
      except_ok_bind, ← whole, List.length_map, if_neg short]
    rfl

theorem deserialize_thirty_three_bytes :
    (List.replicate 33 (0 : UInt8)).length ≠ 32 ∧
      deserialize (.array ((List.replicate 33 (0 : UInt8)).map serializeU8)) =
        .error (.invalidLength 33 "fewer elements in array") :=
  ⟨by decide, deserialize_wrong_length _ (by decide)⟩

end Hash

namespace BlockHash

def serialize (h : BlockHash) : Json := h.hash.serialize

def deserialize (j : Json) : Except DeError BlockHash := BlockHash.mk <$> Hash.deserialize j

end BlockHash

/-- A `Hash` or `BlockHash` is read from exactly one document, the array of its 32 bytes it is
written as: every hash reads back, and any other document (another length, an element that is
not a `u8`, anything but an array) is rejected. -/
theorem hash_documents_exact :
    (∀ (j : Json) (h : Hash), Hash.deserialize j = .ok h ↔ j = h.serialize) ∧
    (∀ (j : Json) (h : BlockHash), BlockHash.deserialize j = .ok h ↔ j = h.serialize) := by
  refine ⟨Hash.deserialize_eq_ok, fun j ⟨h⟩ => ?_⟩
  rw [BlockHash.deserialize, BlockHash.serialize, ← Hash.deserialize_eq_ok]
  cases Hash.deserialize j <;> simp

end StratumWire
