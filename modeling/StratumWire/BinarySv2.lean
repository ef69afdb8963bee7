import Mathlib.Data.List.Basic

/-! The bounded types of `binary_sv2` and their foreign mirrors `CVec` and `CVec2`, modelled
from the contract the messages rely on: a bounded value is built from bytes that fit its
maximum. -/

namespace StratumWire

section Except

variable {ε α β : Type}

@[simp] theorem except_pure (a : α) : (pure a : Except ε α) = .ok a := rfl

@[simp] theorem except_ok_bind (a : α) (f : α → Except ε β) : (Except.ok a >>= f) = f a := rfl

@[simp] theorem except_error_bind (e : ε) (f : α → Except ε β) :
    (Except.error e >>= f) = Except.error e := rfl

@[simp] theorem except_map_ok (f : α → β) (a : α) : (f <$> Except.ok a : Except ε β) = .ok (f a) :=
  rfl

@[simp] theorem except_map_error (f : α → β) (e : ε) :
    (f <$> Except.error e : Except ε β) = .error e := rfl

theorem except_pure_eq_ok {a b : α} : (pure a : Except ε α) = .ok b ↔ a = b :=
  ⟨fun h => by cases h; rfl, fun h => h ▸ rfl⟩

theorem except_bind_eq_ok {x : Except ε α} {f : α → Except ε β} {b : β} :
    x >>= f = .ok b ↔ ∃ a, x = .ok a ∧ f a = .ok b := by
  cases x <;> simp

theorem except_bind_eq_error {x : Except ε α} {f : α → Except ε β} {e : ε} :
    x >>= f = .error e ↔ x = .error e ∨ ∃ a, x = .ok a ∧ f a = .error e := by
  cases x <;> simp

end Except

inductive Error where
  | lengthViolation
  | outOfBound
  | noDecodableFieldPassed
  | valueIsNotAValidProtocol (value : UInt8)
  deriving DecidableEq, Repr

/-- Modelled from the spec: `binary_sv2::Inner` with maximum length `maxSize`, the bounded
byte sequence behind `Str0255`, `B032`, `B064K` and `B016M`. It cannot hold more than
`maxSize` bytes. -/
structure Inner (maxSize : Nat) where
  bytes : List UInt8
  bounded : bytes.length ≤ maxSize
  deriving DecidableEq

abbrev Str0255 := Inner 255
abbrev B032 := Inner 32
abbrev B064K := Inner 65535
abbrev B016M := Inner 16777215

structure Seq064K (α : Type) where
  items : List α
  bounded : items.length ≤ 65535
  deriving DecidableEq

structure CVec where
  data : List UInt8
  deriving DecidableEq, Repr

structure CVec2 where
  data : List CVec
  deriving DecidableEq, Repr

section Conversions

variable {maxSize : Nat}

def Inner.tryFrom (value : List UInt8) : Except Error (Inner maxSize) :=
  if bounded : value.length ≤ maxSize then .ok ⟨value, bounded⟩ else .error .lengthViolation

def asciiBytes (text : String) : List UInt8 := text.toList.map fun c => c.toNat.toUInt8

def Seq064K.new {α : Type} (inner : List α) : Except Error (Seq064K α) :=
  if bounded : inner.length ≤ 65535 then .ok ⟨inner, bounded⟩ else .error .lengthViolation

def CVec.asMutSlice (v : CVec) : List UInt8 := v.data

def CVec2.asMutSlice (v : CVec2) : List CVec := v.data

def CVec.fromInner (v : Inner maxSize) : CVec := ⟨v.bytes⟩

def CVec2.fromSeq064K (v : Seq064K (Inner maxSize)) : CVec2 := ⟨v.items.map CVec.fromInner⟩

@[simp] theorem CVec.asMutSlice_fromInner (v : Inner maxSize) :
    (CVec.fromInner v).asMutSlice = v.bytes := rfl

@[simp] theorem CVec2.asMutSlice_fromSeq064K (v : Seq064K (Inner maxSize)) :
    (CVec2.fromSeq064K v).asMutSlice = v.items.map CVec.fromInner := rfl

theorem Inner.ext_bytes {x y : Inner maxSize} (same : x.bytes = y.bytes) : x = y := by
  cases x; cases y; cases same; rfl

theorem Inner.tryFrom_eq_ok {value : List UInt8} {x : Inner maxSize} :
    Inner.tryFrom value = .ok x ↔ x.bytes = value := by
  unfold Inner.tryFrom
  split
  · exact ⟨fun h => by cases h; rfl, by rintro rfl; rfl⟩
  · exact ⟨fun h => (nomatch h), by rintro rfl; exact absurd x.bounded ‹_›⟩

theorem Inner.tryFrom_eq_error {value : List UInt8} {e : Error} :
    (Inner.tryFrom value : Except Error (Inner maxSize)) = .error e ↔
      maxSize < value.length ∧ e = .lengthViolation := by
  unfold Inner.tryFrom
  split <;> simp_all [eq_comm]

@[simp] theorem Inner.tryFrom_bytes (x : Inner maxSize) : Inner.tryFrom x.bytes = .ok x :=
  Inner.tryFrom_eq_ok.mpr rfl

@[simp] theorem CVec.fromInner_bytes (v : Inner maxSize) : (CVec.fromInner v).data = v.bytes :=
  rfl

theorem Seq064K.new_eq_ok {α : Type} {inner : List α} {s : Seq064K α} :
    Seq064K.new inner = .ok s ↔ s.items = inner := by
  unfold Seq064K.new
  split
  · exact ⟨fun h => by cases h; rfl, by rintro rfl; rfl⟩
  · exact ⟨fun h => (nomatch h), by rintro rfl; exact absurd s.bounded ‹_›⟩

@[simp] theorem Seq064K.new_items {α : Type} (s : Seq064K α) : Seq064K.new s.items = .ok s :=
  Seq064K.new_eq_ok.mpr rfl

theorem Seq064K.new_eq_error {α : Type} {inner : List α} {e : Error} :
    Seq064K.new inner = .error e ↔ 65535 < inner.length ∧ e = .lengthViolation := by
  unfold Seq064K.new
  split <;> simp_all [eq_comm]

end Conversions

section LengthErrors

variable {α β : Type}

def LengthErrors (x : Except Error α) : Prop :=
  ∀ e, x = .error e → e = .lengthViolation

theorem lengthErrors_pure (a : α) : LengthErrors (pure a : Except Error α) :=
  fun _ h => nomatch h

theorem lengthErrors_bind {x : Except Error α} {f : α → Except Error β}
    (first : LengthErrors x) (rest : ∀ a, LengthErrors (f a)) : LengthErrors (x >>= f) := by
  intro e failed
  rcases except_bind_eq_error.mp failed with failed | ⟨a, -, failed⟩
  · exact first e failed
  · exact rest a e failed

/-- A conversion back from a foreign copy: when it succeeds exactly with the values `m` whose
copy is `c`, `fits` holds exactly when `c` is such a copy, and its failures are length
violations, it fails with a length violation exactly when `c` does not fit. -/
theorem error_iff_not_fits {x : Except Error α} {copy : α → β} {c : β} {fits : Prop}
    (errors : LengthErrors x) (converted : ∀ m, x = .ok m ↔ copy m = c)
    (fits_iff : fits ↔ ∃ m, copy m = c) (e : Error) :
    x = .error e ↔ ¬ fits ∧ e = .lengthViolation := by
  constructor
  · intro failed
    refine ⟨fun fit => ?_, errors e failed⟩
    obtain ⟨m, copied⟩ := fits_iff.mp fit
    rw [(converted m).mpr copied] at failed
    cases failed
  · rintro ⟨unfit, rfl⟩
    cases result : x with
    | error e' => rw [errors e' result]
    | ok m => exact absurd (fits_iff.mpr ⟨m, (converted m).mp result⟩) unfit

end LengthErrors

section Bounds

variable {maxSize : Nat}

theorem Inner.lengthErrors_tryFrom (value : List UInt8) :
    LengthErrors (Inner.tryFrom value : Except Error (Inner maxSize)) :=
  fun _ failed => (Inner.tryFrom_eq_error.mp failed).2

theorem Seq064K.lengthErrors_new {α : Type} (inner : List α) :
    LengthErrors (Seq064K.new inner) :=
  fun _ failed => (Seq064K.new_eq_error.mp failed).2

theorem CVec.exists_fromInner {c : CVec} :
    (∃ x : Inner maxSize, CVec.fromInner x = c) ↔ c.data.length ≤ maxSize :=
  ⟨fun ⟨x, copied⟩ => copied ▸ x.bounded, fun fits => ⟨⟨c.data, fits⟩, rfl⟩⟩

theorem CVec.exists_map_fromInner {cs : List CVec} :
    (∃ xs : List (Inner maxSize), xs.map CVec.fromInner = cs) ↔
      ∀ c ∈ cs, c.data.length ≤ maxSize := by
  induction cs with
  | nil => exact ⟨fun _ => by simp, fun _ => ⟨[], rfl⟩⟩
  | cons c cs ih =>
    rw [List.forall_mem_cons, ← ih, ← CVec.exists_fromInner]
    constructor
    · rintro ⟨_ | ⟨x, xs⟩, copied⟩
      · cases copied
      · simp only [List.map_cons, List.cons.injEq] at copied
        exact ⟨⟨x, copied.1⟩, xs, copied.2⟩
    · rintro ⟨⟨x, rfl⟩, xs, rfl⟩
      exact ⟨x :: xs, rfl⟩

end Bounds

end StratumWire
