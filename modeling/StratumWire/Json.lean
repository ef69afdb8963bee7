import Mathlib.Data.String.Basic
import Mathlib.Data.List.Sort

/-! `serde_json`'s data model: a document as the reader buffers it (`Json`), and what
`serde_json::Value` keeps of it. Floats are left out. -/

namespace StratumWire

/-- `serde_json::Number` without its float case: a non-negative integer is a `PosInt`, and a
`NegInt` is always less than zero. -/
inductive Number where
  | posInt (n : UInt64)
  | negInt (n : Int) (negative : n < 0) (fits : -9223372036854775808 ≤ n)
  deriving DecidableEq, Repr

inductive Json where
  | null
  | bool (b : Bool)
  | number (n : Number)
  | string (s : String)
  | array (items : List Json)
  | object (entries : List (String × Json))
  deriving Repr

def mapInsert (key : String) (value : Json) : List (String × Json) → List (String × Json)
  | [] => [(key, value)]
  | (k, v) :: rest =>
    if key < k then (key, value) :: (k, v) :: rest
    else if key = k then (key, value) :: rest
    else (k, v) :: mapInsert key value rest

mutual
/-- The `Deserialize` impl of `serde_json::Value`: every object becomes a map, its members
inserted in the order the document lists them. -/
def Json.toValue : Json → Json
  | .array items => .array (toValues items)
  | .object entries => .object (insertEntries [] entries)
  | j => j

def toValues : List Json → List Json
  | [] => []
  | j :: js => j.toValue :: toValues js

def insertEntries (map : List (String × Json)) : List (String × Json) → List (String × Json)
  | [] => map
  | (k, j) :: rest => insertEntries (mapInsert k j.toValue map) rest
end

mutual
/-- How deep a document's arrays and objects nest: the number of brackets its innermost value
sits in. -/
def Json.depth : Json → Nat
  | .array items => itemsDepth items + 1
  | .object entries => entriesDepth entries + 1
  | _ => 0

def itemsDepth : List Json → Nat
  | [] => 0
  | j :: js => max j.depth (itemsDepth js)

def entriesDepth : List (String × Json) → Nat
  | [] => 0
  | (_, j) :: rest => max j.depth (entriesDepth rest)
end

def memberValues (key : String) (entries : List (String × Json)) : List Json :=
  (entries.filter fun e => e.1 == key).map Prod.snd

inductive Json.IsValue : Json → Prop
  | null : IsValue .null
  | bool (b : Bool) : IsValue (.bool b)
  | number (n : Number) : IsValue (.number n)
  | string (s : String) : IsValue (.string s)
  | array (items : List Json) (values : ∀ j ∈ items, IsValue j) : IsValue (.array items)
  | object (entries : List (String × Json)) (sorted : (entries.map Prod.fst).Sorted (· < ·))
      (values : ∀ e ∈ entries, IsValue e.2) : IsValue (.object entries)

@[simp] theorem memberValues_nil (key : String) : memberValues key [] = [] := rfl

theorem memberValues_cons (key k : String) (j : Json) (rest : List (String × Json)) :
    memberValues key ((k, j) :: rest) =
      if k = key then j :: memberValues key rest else memberValues key rest := by
  by_cases same : k = key <;> simp [memberValues, List.filter_cons, same]

section MapInsert

variable {key : String} {value : Json} {map : List (String × Json)}

theorem lookup_cons_eq_ite (k k' : String) (v : Json) (rest : List (String × Json)) :
    ((k', v) :: rest).lookup k = if k = k' then some v else rest.lookup k := by
  rw [List.lookup_cons]
  split <;> simp_all

theorem lookup_mapInsert (k : String) :
    (mapInsert key value map).lookup k = if k = key then some value else map.lookup k := by
  induction map with
  | nil => simp [mapInsert, lookup_cons_eq_ite]
  | cons head rest ih =>
    obtain ⟨k', v⟩ := head
    unfold mapInsert
    by_cases below : key < k'
    · rw [if_pos below]
      simp only [lookup_cons_eq_ite]
    by_cases same : key = k'
    · rw [if_neg below, if_pos same]
      subst same
      by_cases found : k = key <;> simp [lookup_cons_eq_ite, found]
    · rw [if_neg below, if_neg same]
      by_cases found : k = key
      · subst found
        simp [lookup_cons_eq_ite, same, ih]
      · simp [lookup_cons_eq_ite, found, ih]

theorem mem_mapInsert {e : String × Json} (member : e ∈ mapInsert key value map) :
    e = (key, value) ∨ e ∈ map := by
  induction map with
  | nil => simpa [mapInsert] using member
  | cons head rest ih =>
    unfold mapInsert at member
    split_ifs at member <;> simp only [List.mem_cons] at member ⊢ <;> tauto

theorem sorted_mapInsert (sorted : (map.map Prod.fst).Sorted (· < ·)) :
    ((mapInsert key value map).map Prod.fst).Sorted (· < ·) := by
  induction map with
  | nil => simp [mapInsert]
  | cons head rest ih =>
    obtain ⟨k, v⟩ := head
    rw [List.map_cons, List.sorted_cons] at sorted
    unfold mapInsert
    split_ifs with below same
    · refine List.sorted_cons.mpr ⟨fun b member => ?_, List.sorted_cons.mpr sorted⟩
      rcases List.mem_cons.mp member with rfl | member
      · exact below
      · exact below.trans (sorted.1 b member)
    · subst same
      exact List.sorted_cons.mpr sorted
    · have above : k < key := (lt_or_gt_of_ne same).resolve_left below
      refine List.sorted_cons.mpr ⟨fun b member => ?_, ih sorted.2⟩
      obtain ⟨e, inserted, rfl⟩ := List.mem_map.mp member
      rcases mem_mapInsert inserted with rfl | member
      · exact above
      · exact sorted.1 _ (List.mem_map_of_mem _ member)

theorem mapInsert_of_lt (above : ∀ k ∈ map.map Prod.fst, k < key) :
    mapInsert key value map = map ++ [(key, value)] := by
  induction map with
  | nil => rfl
  | cons head rest ih =>
    have below : head.1 < key := above _ (List.mem_cons_self _ _)
    rw [List.cons_append, ← ih fun k member => above k (List.mem_cons_of_mem _ member), mapInsert,
      if_neg (lt_asymm below), if_neg (ne_of_gt below)]

end MapInsert

section ToValue

mutual
theorem isValue_toValue : ∀ j : Json, j.toValue.IsValue
  | .null => .null
  | .bool b => .bool b
  | .number n => .number n
  | .string s => .string s
  | .array items => .array _ (isValue_toValues items)
  | .object entries =>
    have built := isValue_insertEntries [] entries List.sorted_nil (fun _ member => nomatch member)
    .object _ built.1 built.2

theorem isValue_toValues : ∀ items : List Json, ∀ j ∈ toValues items, j.IsValue
  | [], _, member => nomatch member
  | j :: js, _, member => by
    rcases List.mem_cons.mp member with rfl | member
    · exact isValue_toValue j
    · exact isValue_toValues js _ member

theorem isValue_insertEntries (map : List (String × Json)) :
    ∀ entries : List (String × Json), (map.map Prod.fst).Sorted (· < ·) →
      (∀ e ∈ map, e.2.IsValue) →
      ((insertEntries map entries).map Prod.fst).Sorted (· < ·) ∧
        ∀ e ∈ insertEntries map entries, e.2.IsValue
  | [], sorted, values => ⟨sorted, values⟩
  | (_, j) :: rest, sorted, values =>
    isValue_insertEntries _ rest (sorted_mapInsert sorted) fun e member =>
      (mem_mapInsert member).elim (fun inserted => inserted ▸ isValue_toValue j) (values e)
end

theorem toValues_eq_self {items : List Json} (fixed : ∀ j ∈ items, j.toValue = j) :
    toValues items = items := by
  induction items with
  | nil => rfl
  | cons j js ih =>
    rw [toValues, fixed j (List.mem_cons_self _ _),
      ih fun j member => fixed j (List.mem_cons_of_mem _ member)]

theorem insertEntries_eq_append {map entries : List (String × Json)}
    (sorted : ((map ++ entries).map Prod.fst).Sorted (· < ·))
    (fixed : ∀ e ∈ entries, e.2.toValue = e.2) : insertEntries map entries = map ++ entries := by
  induction entries generalizing map with
  | nil => simp [insertEntries]
  | cons e rest ih =>
    obtain ⟨k, j⟩ := e
    have split := List.pairwise_append.mp (by simpa only [List.map_append] using sorted)
    have above : ∀ k' ∈ map.map Prod.fst, k' < k :=
      fun k' member => split.2.2 k' member k (List.mem_cons_self _ _)
    rw [insertEntries, fixed (k, j) (List.mem_cons_self _ _), mapInsert_of_lt above,
      ih (by simpa using sorted) fun e member => fixed e (List.mem_cons_of_mem _ member)]
    simp

theorem toValue_of_isValue {j : Json} (value : j.IsValue) : j.toValue = j := by
  induction value with
  | array items _ ih => rw [Json.toValue, toValues_eq_self ih]
  | object entries sorted _ ih =>
    rw [Json.toValue, insertEntries_eq_append (by simpa using sorted) fun e member => ih e member,
      List.nil_append]
  | _ => rfl

end ToValue

section Lookup

theorem lookup_insertEntries (map entries : List (String × Json)) (k : String) :
    (insertEntries map entries).lookup k =
      ((memberValues k entries).getLast?.map Json.toValue).or (map.lookup k) := by
  induction entries generalizing map with
  | nil => simp [insertEntries]
  | cons e rest ih =>
    obtain ⟨k', j⟩ := e
    rw [insertEntries, ih, lookup_mapInsert, memberValues_cons]
    by_cases same : k' = k
    · subst same
      rw [if_pos rfl, if_pos rfl, List.getLast?_cons]
      cases (memberValues k' rest).getLast? <;> rfl
    · rw [if_neg (Ne.symm same), if_neg same]

theorem lookup_eq_none_of_lt {k : String} {map : List (String × Json)}
    (above : ∀ k' ∈ map.map Prod.fst, k < k') : map.lookup k = none :=
  List.lookup_eq_none_iff.mpr fun p member =>
    bne_iff_ne.mpr (ne_of_lt (above p.1 (List.mem_map_of_mem _ member)))

theorem eq_of_lookup_eq : ∀ {map map' : List (String × Json)},
    (map.map Prod.fst).Sorted (· < ·) → (map'.map Prod.fst).Sorted (· < ·) →
      (∀ k, map.lookup k = map'.lookup k) → map = map'
  | [], [], _, _, _ => rfl
  | [], (k, v) :: _, _, _, same => by simpa [lookup_cons_eq_ite] using same k
  | (k, v) :: _, [], _, _, same => by simpa [lookup_cons_eq_ite] using same k
  | (k, v) :: rest, (k', v') :: rest', sorted, sorted', same => by
    rw [List.map_cons, List.sorted_cons] at sorted sorted'
    have missing {k k' : String} {v' : Json} {rest' : List (String × Json)}
        (above : ∀ b ∈ rest'.map Prod.fst, k' < b) (below : k < k') :
        ((k', v') :: rest').lookup k = none :=
      lookup_eq_none_of_lt fun b member => (List.mem_cons.mp member).elim
        (fun first => first ▸ below) fun later => below.trans (above b later)
    have key : k = k' := by
      rcases lt_trichotomy k k' with below | same' | above
      · simpa [lookup_cons_eq_ite, missing sorted'.1 below] using same k
      · exact same'
      · simpa [lookup_cons_eq_ite, missing sorted.1 above] using (same k').symm
    subst key
    have value : v = v' := by simpa [lookup_cons_eq_ite] using same k
    subst value
    refine congrArg _ (eq_of_lookup_eq sorted.2 sorted'.2 fun k₀ => ?_)
    by_cases first : k₀ = k
    · subst first
      rw [lookup_eq_none_of_lt sorted.1, lookup_eq_none_of_lt sorted'.1]
    · simpa [lookup_cons_eq_ite, first] using same k₀

/-- Reading an object as a `serde_json::Value` keeps, for each key, the last value the object
gives it and nothing else: two objects read as the same map exactly when their keys' last
values read alike, whatever the order of their members and however often a key repeats. -/
theorem toValue_object_eq_iff (entries entries' : List (String × Json)) :
    (Json.object entries).toValue = (Json.object entries').toValue ↔
      ∀ k, (memberValues k entries).getLast?.map Json.toValue =
        (memberValues k entries').getLast?.map Json.toValue := by
  have lookups (entries : List (String × Json)) (k : String) :
      (insertEntries [] entries).lookup k = (memberValues k entries).getLast?.map Json.toValue := by
    rw [lookup_insertEntries, List.lookup_nil, Option.or_none]
  have sorted (entries : List (String × Json)) :=
    (isValue_insertEntries [] entries List.sorted_nil fun _ member => nomatch member).1
  simp only [Json.toValue, Json.object.injEq]
  constructor
  · intro same k
    rw [← lookups, ← lookups, same]
  · intro same
    exact eq_of_lookup_eq (sorted entries) (sorted entries') fun k => by
      rw [lookups, lookups, same k]

end Lookup

structure Value where
  json : Json
  isValue : json.IsValue

namespace Value

def null : Value := ⟨.null, .null⟩

def fromJson (j : Json) : Value := ⟨j.toValue, isValue_toValue j⟩

theorem ext_json {v w : Value} (same : v.json = w.json) : v = w := by
  cases v; cases w; cases same; rfl

@[simp] theorem fromJson_json (v : Value) : fromJson v.json = v :=
  ext_json (toValue_of_isValue v.isValue)

theorem json_eq_null {v : Value} : v.json = .null ↔ v = null :=
  ⟨fun same => ext_json same, fun same => same ▸ rfl⟩

end Value

end StratumWire
