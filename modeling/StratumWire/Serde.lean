import StratumWire.BinarySv2
import StratumWire.Json

/-! What `#[derive(Serialize, Deserialize)]` and `#[serde(untagged)]` expand to for the types of
`json_rpc.rs`, over the document `serde_json` buffers before it decodes. -/

namespace StratumWire

inductive DeError where
  | invalidType (expected : String)
  | invalidValue (expected : String)
  | invalidLength (len : Nat) (expected : String)
  | missingField (field : String)
  | duplicateField (field : String)
  | custom (msg : String)
  deriving DecidableEq, Repr

inductive ReadError where
  | recursionLimitExceeded
  | data (e : DeError)
  deriving DecidableEq, Repr

/-- `serde_json::from_str` on the text `serde_json::to_string` writes for `j`: the parser gives
back the document that was written, unless its arrays and objects nest 128 deep, where its
recursion limit stops it. -/
def fromStr {α : Type} (deserialize : Json → Except DeError α) (j : Json) : Except ReadError α :=
  if 128 ≤ j.depth then .error .recursionLimitExceeded else (deserialize j).mapError .data

theorem fromStr_of_ok {α : Type} {deserialize : Json → Except DeError α} {j : Json} {a : α}
    (read : deserialize j = .ok a) :
    fromStr deserialize j = if 128 ≤ j.depth then .error .recursionLimitExceeded else .ok a := by
  rw [fromStr, read]
  rfl

structure I32 where
  toInt : Int
  bounded : -2147483648 ≤ toInt ∧ toInt < 2147483648
  deriving DecidableEq

section Primitives

variable {α : Type}

def serializeU64 (n : UInt64) : Json := .number (.posInt n)

def serializeU8 (b : UInt8) : Json := .number (.posInt b.toUInt64)

def serializeI32 (n : I32) : Json :=
  if negative : n.toInt < 0 then .number (.negInt n.toInt negative (by have := n.bounded.1; omega))
  else .number (.posInt (UInt64.ofNat n.toInt.toNat))

def serializeOption (serialize : α → Json) : Option α → Json
  | none => .null
  | some a => serialize a

def deserializeU64 : Json → Except DeError UInt64
  | .number (.posInt n) => .ok n
  | .number (.negInt ..) => .error (.invalidValue "u64")
  | _ => .error (.invalidType "u64")

def deserializeU8 : Json → Except DeError UInt8
  | .number (.posInt n) =>
    if n.toNat ≤ 255 then .ok (UInt8.ofNat n.toNat) else .error (.invalidValue "u8")
  | .number (.negInt ..) => .error (.invalidValue "u8")
  | _ => .error (.invalidType "u8")

def deserializeI32 : Json → Except DeError I32
  | .number (.posInt n) =>
    if fits : n.toNat < 2147483648 then .ok ⟨n.toNat, by omega⟩ else .error (.invalidValue "i32")
  | .number (.negInt n negative _) =>
    if fits : -2147483648 ≤ n then .ok ⟨n, fits, by omega⟩ else .error (.invalidValue "i32")
  | _ => .error (.invalidType "i32")

def deserializeString : Json → Except DeError String
  | .string s => .ok s
  | _ => .error (.invalidType "a string")

def deserializeOption (deserialize : Json → Except DeError α) : Json → Except DeError (Option α)
  | .null => .ok none
  | j => some <$> deserialize j

def Value.deserialize (j : Json) : Except DeError Value := .ok (Value.fromJson j)

@[simp] theorem deserializeU64_serializeU64 (n : UInt64) :
    deserializeU64 (serializeU64 n) = .ok n := rfl

@[simp] theorem deserializeU8_serializeU8 (b : UInt8) : deserializeU8 (serializeU8 b) = .ok b := by
  have small : b.toNat < 256 := UInt8.toNat_lt_size b
  simp only [serializeU8, deserializeU8, show b.toUInt64.toNat = b.toNat from rfl,
    if_pos (show b.toNat ≤ 255 by omega)]
  exact congrArg _ (UInt8.toNat.inj (UInt8.toNat_ofNat_of_lt small))

theorem eq_serializeU8_of_deserializeU8 {j : Json} {b : UInt8} (read : deserializeU8 j = .ok b) :
    j = serializeU8 b := by
  unfold deserializeU8 at read
  split at read
  · rename_i n
    split at read
    · cases read
      rename_i small
      exact congrArg _ (congrArg _
        (UInt64.toNat.inj (UInt8.toNat_ofNat_of_lt (show n.toNat < 256 by omega)).symm))
    · cases read
  all_goals cases read

@[simp] theorem deserializeString_string (s : String) : deserializeString (.string s) = .ok s :=
  rfl

@[simp] theorem Value.deserialize_json (v : Value) : Value.deserialize v.json = .ok v := by
  rw [Value.deserialize, Value.fromJson_json]

@[simp] theorem deserializeI32_serializeI32 (n : I32) :
    deserializeI32 (serializeI32 n) = .ok n := by
  obtain ⟨n, low, high⟩ := n
  by_cases negative : n < 0
  · simp only [serializeI32, dif_pos negative, deserializeI32, dif_pos low]
  · have small : (UInt64.ofNat n.toNat).toNat = n.toNat := Nat.mod_eq_of_lt (by omega)
    simp only [serializeI32, dif_neg negative, deserializeI32, small,
      dif_pos (show n.toNat < 2147483648 by omega), Except.ok.injEq, I32.mk.injEq]
    omega

theorem deserializeOption_serializeOption {deserialize : Json → Except DeError α}
    {serialize : α → Json} {x : Option α}
    (roundTrip : ∀ a, x = some a → deserialize (serialize a) = .ok a)
    (notNull : ∀ a, x = some a → serialize a ≠ .null) :
    deserializeOption deserialize (serializeOption serialize x) = .ok x := by
  cases x with
  | none => rfl
  | some a =>
    have written := notNull a rfl
    unfold serializeOption deserializeOption
    split
    · contradiction
    · rw [roundTrip a rfl, except_map_ok]

theorem deserializeOption_null (deserialize : Json → Except DeError α) :
    deserializeOption deserialize .null = .ok none := rfl

theorem deserializeOption_of_ne_null (deserialize : Json → Except DeError α) {j : Json}
    (notNull : j ≠ .null) : deserializeOption deserialize j = some <$> deserialize j := by
  cases j <;> first | contradiction | rfl

end Primitives

section Structs

variable {α : Type}

/-- A member with a known key in a derived `visit_map`: a second occurrence is an error, and the
first is decoded at once. -/
def visitField (field : String) (deserialize : Json → Except DeError α) (seen : Option α)
    (value : Json) : Except DeError (Option α) :=
  match seen with
  | some _ => .error (.duplicateField field)
  | none => some <$> deserialize value

def requiredField (field : String) : Option α → Except DeError α
  | some a => .ok a
  | none => .error (.missingField field)

def optionalField : Option (Option α) → Except DeError (Option α)
  | some a => .ok a
  | none => .ok none

def nextElement (index : Nat) (expected : String) (deserialize : Json → Except DeError α) :
    List Json → Except DeError (α × List Json)
  | [] => .error (.invalidLength index expected)
  | j :: rest => return (← deserialize j, rest)

def endSeq (count : Nat) (expected : String) : List Json → Except DeError Unit
  | [] => .ok ()
  | rest => .error (.invalidLength (count + rest.length) expected)

def endArray (length : Nat) : List Json → Except DeError Unit
  | [] => .ok ()
  | _ :: _ => .error (.invalidLength length "fewer elements in array")

def deserializeStruct (expected : String) (visitMap : List (String × Json) → Except DeError α)
    (visitSeq : List Json → Except DeError α) : Json → Except DeError α
  | .object entries => visitMap entries
  | .array items => visitSeq items
  | _ => .error (.invalidType expected)

/-- One arm of an untagged enum's `Deserialize`: the variant if its type decodes from the
buffered content, and the next arm otherwise. -/
def tryVariant (attempt next : Except DeError α) : Except DeError α :=
  match attempt with
  | .ok a => .ok a
  | .error _ => next

@[simp] theorem visitField_none (field : String) (deserialize : Json → Except DeError α)
    (value : Json) : visitField field deserialize none value = some <$> deserialize value := rfl

@[simp] theorem requiredField_some (field : String) (a : α) :
    requiredField field (some a) = .ok a := rfl

@[simp] theorem requiredField_none (field : String) :
    (requiredField field none : Except DeError α) = .error (.missingField field) := rfl

@[simp] theorem optionalField_some (a : Option α) : optionalField (some a) = .ok a := rfl

@[simp] theorem deserializeStruct_object (expected : String)
    (visitMap : List (String × Json) → Except DeError α) (visitSeq : List Json → Except DeError α)
    (entries : List (String × Json)) :
    deserializeStruct expected visitMap visitSeq (.object entries) = visitMap entries := rfl

@[simp] theorem tryVariant_ok (a : α) (next : Except DeError α) : tryVariant (.ok a) next = .ok a :=
  rfl

@[simp] theorem tryVariant_error (e : DeError) (next : Except DeError α) :
    tryVariant (.error e) next = next := rfl

end Structs

section Arrays

variable {α : Type}

def visitArray (deserialize : Json → Except DeError α) (expected : String) :
    (n : Nat) → Nat → List Json → Except DeError ({ xs : List α // xs.length = n } × List Json)
  | 0, _, items => .ok (⟨[], rfl⟩, items)
  | n + 1, index, items => do
    let (a, items) ← nextElement index expected deserialize items
    let (xs, items) ← visitArray deserialize expected n (index + 1) items
    pure (⟨a :: xs.1, by rw [List.length_cons, xs.2]⟩, items)

variable {deserialize : Json → Except DeError α} {serialize : α → Json}

theorem visitArray_append (roundTrip : ∀ a, deserialize (serialize a) = .ok a)
    (expected : String) (index : Nat) {n : Nat} (xs : List α) (length : xs.length = n)
    (rest : List Json) :
    visitArray deserialize expected n index (xs.map serialize ++ rest) =
      .ok (⟨xs, length⟩, rest) := by
  subst length
  induction xs generalizing index with
  | nil => rfl
  | cons a xs ih => simp [visitArray, nextElement, roundTrip, ih]

theorem visitArray_sound (sound : ∀ j a, deserialize j = .ok a → j = serialize a)
    {expected : String} :
    ∀ {n index : Nat} {items rest : List Json} {xs : { xs : List α // xs.length = n }},
      visitArray deserialize expected n index items = .ok (xs, rest) →
        items = xs.1.map serialize ++ rest
  | 0, _, items, rest, ⟨[], _⟩, read => by cases read; rfl
  | n + 1, index, [], rest, xs, read => by simp [visitArray, nextElement] at read
  | n + 1, index, j :: items, rest, xs, read => by
    cases decoded : deserialize j with
    | error e => simp [visitArray, nextElement, decoded] at read
    | ok a =>
      cases tail : visitArray deserialize expected n (index + 1) items with
      | error e => simp [visitArray, nextElement, decoded, tail] at read
      | ok result =>
        obtain ⟨⟨ys, length⟩, rest'⟩ := result
        simp only [visitArray, nextElement, decoded, tail, except_ok_bind, bind_pure_comp,
          except_map_ok, Except.ok.injEq, Prod.mk.injEq] at read
        obtain ⟨rfl, rfl⟩ := read
        rw [sound j a decoded, visitArray_sound sound tail]
        rfl

theorem visitArray_short (roundTrip : ∀ a, deserialize (serialize a) = .ok a)
    (expected : String) (xs : List α) :
    ∀ {n index : Nat}, xs.length < n →
      visitArray deserialize expected n index (xs.map serialize) =
        .error (.invalidLength (index + xs.length) expected) := by
  induction xs with
  | nil => intro n index short; cases n <;> simp_all [visitArray, nextElement]
  | cons a xs ih =>
    intro n index short
    cases n with
    | zero => simp at short
    | succ n =>
      simp only [List.length_cons, Nat.add_lt_add_iff_right] at short
      simp [visitArray, nextElement, roundTrip, ih short, Nat.add_assoc, Nat.add_comm 1]

end Arrays

section Members

variable {α : Type}

/-- A field without a default, as a derived `visit_map` reads it: the object names it exactly
once, with a value that decodes to `a`. -/
def RequiredMember (key : String) (deserialize : Json → Except DeError α)
    (entries : List (String × Json)) (a : α) : Prop :=
  ∃ j, memberValues key entries = [j] ∧ deserialize j = .ok a

def OptionalMember (key : String) (deserialize : Json → Except DeError (Option α))
    (entries : List (String × Json)) (a : Option α) : Prop :=
  (memberValues key entries = [] ∧ a = none) ∨ RequiredMember key deserialize entries a

theorem requiredField_eq_ok (field : String) (seen : Option α) (a : α) :
    requiredField field seen = .ok a ↔ seen = some a := by
  cases seen <;> simp

theorem foldlM_visitField_some (field : String) (deserialize : Json → Except DeError α) (a : α)
    (values : List Json) (r : Option α) :
    values.foldlM (visitField field deserialize) (some a) = .ok r ↔ values = [] ∧ r = some a := by
  cases values <;> simp [visitField, eq_comm]

theorem foldlM_visitField_none (field : String) (deserialize : Json → Except DeError α)
    (values : List Json) (a : α) :
    values.foldlM (visitField field deserialize) none = .ok (some a) ↔
      ∃ j, values = [j] ∧ deserialize j = .ok a := by
  rcases values with _ | ⟨j, rest⟩
  · simp
  · cases decoded : deserialize j with
    | error e => simp [decoded]
    | ok b =>
      simp only [List.foldlM_cons, visitField_none, decoded, except_map_ok, except_ok_bind,
        foldlM_visitField_some]
      simp [decoded, and_assoc, eq_comm]

theorem foldlM_visitField_eq_none (field : String) (deserialize : Json → Except DeError α)
    (values : List Json) :
    values.foldlM (visitField field deserialize) none = .ok none ↔ values = [] := by
  rcases values with _ | ⟨j, rest⟩
  · simp
  · cases decoded : deserialize j <;> simp [decoded, foldlM_visitField_some]

theorem requiredMember_iff_fold (key : String) (deserialize : Json → Except DeError α)
    (entries : List (String × Json)) (a : α) :
    RequiredMember key deserialize entries a ↔
      ∃ s, (memberValues key entries).foldlM (visitField key deserialize) none = .ok s ∧
        requiredField key s = .ok a := by
  simp [RequiredMember, requiredField_eq_ok, foldlM_visitField_none]

theorem optionalMember_iff_fold (key : String) (deserialize : Json → Except DeError (Option α))
    (entries : List (String × Json)) (a : Option α) :
    OptionalMember key deserialize entries a ↔
      ∃ s, (memberValues key entries).foldlM (visitField key deserialize) none = .ok s ∧
        optionalField s = .ok a := by
  constructor
  · rintro (⟨absent, rfl⟩ | present)
    · exact ⟨none, (foldlM_visitField_eq_none ..).mpr absent, rfl⟩
    · exact ⟨some a, (foldlM_visitField_none ..).mpr present, rfl⟩
  · rintro ⟨_ | b, folded, ⟨⟩⟩
    · exact .inl ⟨(foldlM_visitField_eq_none ..).mp folded, rfl⟩
    · exact .inr ((foldlM_visitField_none ..).mp folded)

theorem requiredMember_congr {key : String} {deserialize : Json → Except DeError α}
    {entries entries' : List (String × Json)} {a : α}
    (same : (memberValues key entries).Perm (memberValues key entries')) :
    RequiredMember key deserialize entries a ↔ RequiredMember key deserialize entries' a := by
  unfold RequiredMember
  constructor <;> rintro ⟨j, only, decoded⟩ <;> refine ⟨j, ?_, decoded⟩
  · rw [← List.perm_singleton, ← only]; exact same.symm
  · rw [← List.perm_singleton, ← only]; exact same

theorem optionalMember_congr {key : String} {deserialize : Json → Except DeError (Option α)}
    {entries entries' : List (String × Json)} {a : Option α}
    (same : (memberValues key entries).Perm (memberValues key entries')) :
    OptionalMember key deserialize entries a ↔ OptionalMember key deserialize entries' a := by
  unfold OptionalMember
  rw [requiredMember_congr same, ← List.length_eq_zero, same.length_eq, List.length_eq_zero]

structure FieldSlot (σ : Type) where
  {α : Type}
  key : String
  deserialize : Json → Except DeError α
  get : σ → Option α
  set : σ → Option α → σ

/-- `step` is a derived `visit_map`'s handling of one member over the record `σ` of its
`fields`: a member whose key names a field goes to `visitField` and sets that field alone, and
a member with any other key is skipped. -/
structure Dispatches {σ : Type} (step : σ → String × Json → Except DeError σ)
    (fields : List (FieldSlot σ)) : Prop where
  distinct : (fields.map FieldSlot.key).Nodup
  hit : ∀ f ∈ fields, ∀ s j,
    step s (f.key, j) = f.set s <$> visitField f.key f.deserialize (f.get s) j
  miss : ∀ s k j, k ∉ fields.map FieldSlot.key → step s (k, j) = pure s
  get_set : ∀ f ∈ fields, ∀ s x, f.get (f.set s x) = x
  frame : ∀ f ∈ fields, ∀ g ∈ fields, f.key ≠ g.key → ∀ s x, g.get (f.set s x) = g.get s
  ext : ∀ s s', (∀ f ∈ fields, f.get s = f.get s') → s = s'

/-- A fold of a dispatching `visit_map` over the members factors into one fold per field, over
the values the object gives that field's key. -/
theorem Dispatches.foldlM_eq_ok {σ : Type} {step : σ → String × Json → Except DeError σ}
    {fields : List (FieldSlot σ)} (d : Dispatches step fields) (entries : List (String × Json))
    (s s' : σ) :
    entries.foldlM step s = .ok s' ↔
      ∀ f ∈ fields, (memberValues f.key entries).foldlM (visitField f.key f.deserialize) (f.get s) =
        .ok (f.get s') := by
  induction entries generalizing s with
  | nil =>
    simp only [List.foldlM_nil, memberValues_nil, except_pure, Except.ok.injEq]
    exact ⟨fun same _ _ => same ▸ rfl, fun same => d.ext s s' same⟩
  | cons e rest ih =>
    obtain ⟨k, j⟩ := e
    simp only [List.foldlM_cons, memberValues_cons]
    by_cases named : k ∈ fields.map FieldSlot.key
    · obtain ⟨f, member, rfl⟩ := List.mem_map.mp named
      rw [d.hit f member]
      cases read : visitField f.key f.deserialize (f.get s) j with
      | error e =>
        refine ⟨nofun, fun all => ?_⟩
        simpa [read] using all f member
      | ok x =>
        rw [except_map_ok, except_ok_bind, ih]
        refine forall₂_congr fun g inFields => ?_
        by_cases same : f.key = g.key
        · obtain rfl := List.inj_on_of_nodup_map d.distinct member inFields same
          simp [read, d.get_set f member]
        · simp [same, d.frame f member g inFields same]
    · rw [d.miss s k j named, except_pure, except_ok_bind, ih]
      refine forall₂_congr fun g inFields => ?_
      rw [if_neg fun (same : k = g.key) => named (same ▸ List.mem_map_of_mem _ inFields)]

theorem tryVariant_congr {β : Type} {x y : Except DeError α} {next next' : Except DeError β}
    (f : α → β) (same : ∀ a, x = .ok a ↔ y = .ok a) (sameNext : next = next') :
    tryVariant (f <$> x) next = tryVariant (f <$> y) next' := by
  subst sameNext
  cases x <;> cases y <;> simp_all

end Members

end StratumWire
