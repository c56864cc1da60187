/-!
# Ordered maps

A finite map kept as a list of entries in ascending order of their keys.

* `OrderedMap.insert` — puts a value under a key, in place of what was there.
* `OrderedMap.find?` — the value under a key.
* `OrderedMap.Sorted` — the keys ascend strictly, hence every key has one entry.
* `OrderedMap.ofList` — the map of a list of entries; of several entries with one key the last
  counts.

Insertion is a single pass, which is what lets `find?_insert_self` and `find?_insert_of_ne` hold
of *every* list of entries, sorted or not.  `Sorted` is kept by every operation
(`sorted_insert`, `sorted_ofList`) and is needed only where two maps are compared entry by entry.
-/

namespace RecordQuery

/-- A finite map, as the list of its entries. -/
structure OrderedMap (α β : Type) where
  /-- the entries, by ascending key -/
  entries : List (α × β)
  deriving Inhabited

namespace OrderedMap

variable {α β : Type}

/-- The map without entries. -/
def empty : OrderedMap α β := ⟨[]⟩

/-- The number of entries. -/
def size (m : OrderedMap α β) : Nat := m.entries.length

/-- Whether there is no entry. -/
def isEmpty (m : OrderedMap α β) : Bool := m.entries.isEmpty

/-- The keys, ascending. -/
def keys (m : OrderedMap α β) : List α := m.entries.map (·.1)

/-- The same keys with other values. -/
def mapValues {γ : Type} (f : β → γ) (m : OrderedMap α β) : OrderedMap α γ :=
  ⟨m.entries.map fun e => (e.1, f e.2)⟩

section

variable [Ord α]

/-- The value of the first entry with the given key. -/
def findIn (k : α) : List (α × β) → Option β
  | [] => none
  | (a, b) :: rest => if compare k a = .eq then some b else findIn k rest

/-- The value under a key. -/
def find? (m : OrderedMap α β) (k : α) : Option β := findIn k m.entries

/-- Whether there is a value under a key. -/
def contains (m : OrderedMap α β) (k : α) : Bool := (m.find? k).isSome

/-- Puts an entry at its place in a list of entries. -/
def insertIn (k : α) (v : β) : List (α × β) → List (α × β)
  | [] => [(k, v)]
  | (a, b) :: rest =>
    match compare k a with
    | .lt => (k, v) :: (a, b) :: rest
    | .eq => (k, v) :: rest
    | .gt => (a, b) :: insertIn k v rest

/-- Puts a value under a key, in place of the value that was there. -/
def insert (m : OrderedMap α β) (k : α) (v : β) : OrderedMap α β := ⟨insertIn k v m.entries⟩

/-- The map of a list of entries.  Of several entries with one key the last counts. -/
def ofList (es : List (α × β)) : OrderedMap α β :=
  es.foldl (fun m e => m.insert e.1 e.2) empty

/-- Two maps have the same keys, with values that stand in the given relation. -/
def agreesBy (related : β → β → Bool) (m n : OrderedMap α β) : Bool :=
  m.size == n.size &&
    (m.entries.zip n.entries).all fun (e, f) => compare e.1 f.1 = .eq && related e.2 f.2

/-- The keys ascend strictly. -/
def Sorted (m : OrderedMap α β) : Prop := m.entries.Pairwise fun e f => compare e.1 f.1 = .lt

/-! ## Look-up after insertion -/

@[simp] theorem find?_empty (k : α) : (empty : OrderedMap α β).find? k = none := rfl

theorem findIn_insertIn_self [Std.LawfulEqOrd α] (k : α) (v : β) (es : List (α × β)) :
    findIn k (insertIn k v es) = some v := by
  induction es with
  | nil => simp [insertIn, findIn]
  | cons e es ih =>
    obtain ⟨a, b⟩ := e
    rw [insertIn]
    split
    · simp [findIn]
    · simp [findIn]
    · next h => simp [findIn, h, ih]

theorem findIn_insertIn_of_ne [Std.LawfulEqOrd α] {k l : α} (h : l ≠ k) (v : β)
    (es : List (α × β)) : findIn l (insertIn k v es) = findIn l es := by
  have hl : compare l k ≠ .eq := fun e => h (Std.LawfulEqOrd.eq_of_compare e)
  induction es with
  | nil => simp [insertIn, findIn, hl]
  | cons e es ih =>
    obtain ⟨a, b⟩ := e
    rw [insertIn]
    split
    · simp [findIn, hl]
    · next ha =>
      obtain rfl := Std.LawfulEqOrd.eq_of_compare ha
      simp [findIn, hl]
    · simp [findIn, ih]

/-- What was inserted is found. -/
@[simp] theorem find?_insert_self [Std.LawfulEqOrd α] (m : OrderedMap α β) (k : α) (v : β) :
    (m.insert k v).find? k = some v :=
  findIn_insertIn_self k v m.entries

/-- Insertion leaves the other keys alone. -/
theorem find?_insert_of_ne [Std.LawfulEqOrd α] (m : OrderedMap α β) {k l : α} (h : l ≠ k)
    (v : β) : (m.insert k v).find? l = m.find? l :=
  findIn_insertIn_of_ne h v m.entries

/-! ## Insertion keeps the order -/

theorem mem_insertIn {k : α} {v : β} {e : α × β} {es : List (α × β)}
    (h : e ∈ insertIn k v es) : e = (k, v) ∨ e ∈ es := by
  induction es with
  | nil => simpa [insertIn] using h
  | cons f es ih =>
    obtain ⟨a, b⟩ := f
    rw [insertIn] at h
    split at h
    · simpa using h
    · rcases List.mem_cons.mp h with h | h
      · exact .inl h
      · exact .inr (List.mem_cons_of_mem _ h)
    · rcases List.mem_cons.mp h with h | h
      · exact .inr (h ▸ List.mem_cons_self)
      · exact (ih h).imp_right (List.mem_cons_of_mem _)

theorem sorted_empty : (empty : OrderedMap α β).Sorted := List.Pairwise.nil

theorem sorted_insert [Std.TransOrd α] [Std.LawfulEqOrd α] {m : OrderedMap α β} (h : m.Sorted)
    (k : α) (v : β) : (m.insert k v).Sorted := by
  obtain ⟨es⟩ := m
  unfold Sorted insert at *
  induction es with
  | nil => simp [insertIn]
  | cons e es ih =>
    obtain ⟨a, b⟩ := e
    obtain ⟨hall, htail⟩ := List.pairwise_cons.mp h
    simp only [insertIn]
    split
    · next hk =>
      refine List.pairwise_cons.mpr ⟨fun f hf => ?_, h⟩
      rcases List.mem_cons.mp hf with rfl | hf
      · exact hk
      · exact Std.TransCmp.lt_trans hk (hall f hf)
    · next hk =>
      obtain rfl := Std.LawfulEqOrd.eq_of_compare hk
      exact List.pairwise_cons.mpr ⟨hall, htail⟩
    · next hk =>
      refine List.pairwise_cons.mpr ⟨fun f hf => ?_, ih htail⟩
      rcases mem_insertIn hf with rfl | hf
      · exact Std.OrientedCmp.lt_of_gt hk
      · exact hall f hf

theorem sorted_ofList [Std.TransOrd α] [Std.LawfulEqOrd α] (es : List (α × β)) :
    (ofList es).Sorted := by
  suffices h : ∀ m : OrderedMap α β, m.Sorted →
      (es.foldl (fun m e => m.insert e.1 e.2) m).Sorted from h empty sorted_empty
  induction es with
  | nil => exact fun m h => h
  | cons e es ih => exact fun m h => ih _ (sorted_insert h e.1 e.2)

end

end OrderedMap

end RecordQuery
