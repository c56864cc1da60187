import Mathlib.Tactic.Lemma
import RecordQuery.Condition
import RecordQuery.Document

/-!
# The entries of a document

A document comes about by insertions only, one for every condition that was accepted.  This file
collects what a run of insertions leaves behind.

* `Document.insertAll` — the run of insertions, and `Document.ofConditions` the one that starts
  from nothing.
* **`Document.value?_insertAll`** — under a key and an operator stands the value of the last
  condition with that key and that operator.
* `Document.mem_keys_insertAll` — the keys are those of the conditions.
* `Document.WellFormed` — keys and operators ascend and no key is without operator; kept by every
  insertion, as is `Document.Every`, a demand on all entries one by one.

`Document.insertAll_induction` packs the induction over the run.  What one insertion keeps is
kept by the run, so an invariant of documents needs only its step.
-/

namespace RecordQuery

/-! ## Keys and entries of an ordered map -/

namespace OrderedMap

variable {α β : Type} [Ord α]

lemma nodup_keys [Std.LawfulEqOrd α] {m : OrderedMap α β} (h : m.Sorted) : m.keys.Nodup := by
  refine List.pairwise_map.mpr (List.Pairwise.imp ?_ h)
  intro e f hlt heq
  simp [heq] at hlt

lemma mem_of_find? [Std.LawfulEqOrd α] {m : OrderedMap α β} {k : α} {v : β}
    (h : m.find? k = some v) : (k, v) ∈ m.entries := by
  obtain ⟨es⟩ := m
  change findIn k es = some v at h
  induction es with
  | nil => simp [findIn] at h
  | cons e es ih =>
      obtain ⟨a, b⟩ := e
      rw [findIn] at h
      split at h
      · next hk =>
        obtain rfl := Std.LawfulEqOrd.eq_of_compare hk
        obtain rfl := Option.some.inj h
        exact List.mem_cons_self
      · exact List.mem_cons_of_mem _ (ih h)

/-- An entry after an insertion is the new one or was there before. -/
lemma mem_insert {m : OrderedMap α β} {k : α} {v : β} {e : α × β}
    (h : e ∈ (m.insert k v).entries) : e = (k, v) ∨ e ∈ m.entries :=
  mem_insertIn h

lemma mem_keys_insert [Std.LawfulEqOrd α] (m : OrderedMap α β) (k l : α) (v : β) :
    l ∈ (m.insert k v).keys ↔ l = k ∨ l ∈ m.keys := by
  obtain ⟨es⟩ := m
  change l ∈ (insertIn k v es).map (·.1) ↔ l = k ∨ l ∈ es.map (·.1)
  induction es with
  | nil => simp [insertIn]
  | cons e es ih =>
      obtain ⟨a, b⟩ := e
      rw [insertIn]
      split
      · simp
      · next hk =>
        obtain rfl := Std.LawfulEqOrd.eq_of_compare hk
        simp
      · simp only [List.map_cons, List.mem_cons, ih]
        exact or_left_comm

lemma isEmpty_insert (m : OrderedMap α β) (k : α) (v : β) : (m.insert k v).isEmpty = false := by
  obtain ⟨es⟩ := m
  cases es with
  | nil => rfl
  | cons e es =>
      change (insertIn k v (e :: es)).isEmpty = false
      rw [insertIn]
      split <;> rfl

end OrderedMap

/-! ## Runs of insertions -/

/-- Whether the condition is about the key and the operator. -/
def Condition.isAt (key : String) (op : Operator) (c : Condition) : Bool :=
  c.key == key && c.operator == op

lemma Condition.isAt_iff {key : String} {op : Operator} {c : Condition} :
    c.isAt key op ↔ c.key = key ∧ c.operator = op := by
  simp [isAt]

/-- **The last write.**  The value of the last condition about the key and the operator. -/
def Condition.lastAt? (cs : List Condition) (key : String) (op : Operator) : Option Value :=
  ((cs.filter (·.isAt key op)).map (·.value)).getLast?

namespace Document

/-- Puts the value of every condition in, one after the other. -/
def insertAll (d : Document) (cs : List Condition) : Document :=
  cs.foldl (fun d c => d.insert c.key c.operator c.value) d

/-- The document that the conditions leave behind. -/
def ofConditions (cs : List Condition) : Document := empty.insertAll cs

@[simp] lemma insertAll_nil (d : Document) : d.insertAll [] = d := rfl

@[simp] lemma insertAll_cons (d : Document) (c : Condition) (cs : List Condition) :
    d.insertAll (c :: cs) = (d.insert c.key c.operator c.value).insertAll cs := rfl

@[simp] lemma insertAll_append (d : Document) (cs cs' : List Condition) :
    d.insertAll (cs ++ cs') = (d.insertAll cs).insertAll cs' :=
  List.foldl_append

/-- **What every insertion keeps, the run keeps.** -/
lemma insertAll_induction {motive : Document → Prop} {d : Document} {cs : List Condition}
    (start : motive d)
    (step : ∀ d, ∀ c ∈ cs, motive d → motive (d.insert c.key c.operator c.value)) :
    motive (d.insertAll cs) := by
  induction cs generalizing d with
  | nil => exact start
  | cons c cs ih =>
      refine ih (step d c List.mem_cons_self start) ?_
      intro d' c' hc'
      exact step d' c' (List.mem_cons_of_mem c hc')

/-- **The last write wins**, and what no condition is about stays as it was. -/
theorem value?_insertAll (d : Document) (cs : List Condition) (key : String) (op : Operator) :
    (d.insertAll cs).value? key op = (Condition.lastAt? cs key op).or (d.value? key op) := by
  induction cs generalizing d with
  | nil => rfl
  | cons c cs ih =>
      rw [insertAll_cons, ih]
      by_cases hc : c.isAt key op = true
      · obtain ⟨rfl, rfl⟩ := Condition.isAt_iff.mp hc
        rw [value?_insert_self]
        simp only [Condition.lastAt?, List.filter_cons_of_pos hc, List.map_cons,
          List.getLast?_cons]
        cases (List.map (·.value) (cs.filter (·.isAt c.key c.operator))).getLast? <;> rfl
      · have hne : ¬(key = c.key ∧ op = c.operator) := by
          rintro ⟨rfl, rfl⟩
          exact hc (Condition.isAt_iff.mpr ⟨rfl, rfl⟩)
        rw [value?_insert_of_ne d hne]
        simp only [Condition.lastAt?, List.filter_cons_of_neg hc]

lemma value?_ofConditions (cs : List Condition) (key : String) (op : Operator) :
    (ofConditions cs).value? key op = Condition.lastAt? cs key op := by
  rw [ofConditions, value?_insertAll, value?_empty, Option.or_none]

/-- The keys of a run are the keys of its conditions, besides those that were there. -/
lemma mem_keys_insertAll (d : Document) (cs : List Condition) (key : String) :
    key ∈ (d.insertAll cs).keys ↔ key ∈ cs.map (·.key) ∨ key ∈ d.keys := by
  induction cs generalizing d with
  | nil => simp
  | cons c cs ih =>
      have hstep : key ∈ (d.insert c.key c.operator c.value).keys ↔ key = c.key ∨ key ∈ d.keys :=
        OrderedMap.mem_keys_insert ..
      rw [insertAll_cons, ih, hstep, List.map_cons, List.mem_cons]
      exact or_left_comm.trans or_assoc.symm

lemma mem_keys_ofConditions (cs : List Condition) (key : String) :
    key ∈ (ofConditions cs).keys ↔ key ∈ cs.map (·.key) := by
  rw [ofConditions, mem_keys_insertAll]
  exact or_iff_left List.not_mem_nil

/-! ## Entries one by one -/

/-- Every entry, with its key, its operator and its value, meets the demand. -/
def Every (demand : String → Operator → Value → Prop) (d : Document) : Prop :=
  ∀ e ∈ d.toList, ∀ p ∈ e.2.entries, demand e.1 p.1 p.2

variable {demand : String → Operator → Value → Prop}

lemma every_empty : empty.Every demand := by
  intro e he
  exact absurd he List.not_mem_nil

/-- The operators under a key, if there is one, else none: what an insertion builds upon. -/
lemma mem_get?_getD {d : Document} {key : String} {p : Operator × Value}
    (h : p ∈ ((d.get? key).getD .empty).entries) :
    ∃ m, (key, m) ∈ d.toList ∧ p ∈ m.entries := by
  cases hm : d.get? key with
  | none =>
      rw [hm] at h
      exact absurd h List.not_mem_nil
  | some m =>
      rw [hm] at h
      exact ⟨m, OrderedMap.mem_of_find? hm, h⟩

/-- A demand that the new entry meets survives the insertion. -/
lemma Every.insert {d : Document} (h : d.Every demand) {key : String} {op : Operator} {v : Value}
    (hv : demand key op v) : (d.insert key op v).Every demand := by
  intro e he p hp
  rcases OrderedMap.mem_insert he with rfl | he
  · rcases OrderedMap.mem_insert hp with rfl | hp
    · exact hv
    · obtain ⟨m, hm, hp⟩ := mem_get?_getD hp
      exact h _ hm p hp
  · exact h e he p hp

lemma every_insertAll {d : Document} {cs : List Condition} (h : d.Every demand)
    (hcs : ∀ c ∈ cs, demand c.key c.operator c.value) : (d.insertAll cs).Every demand :=
  insertAll_induction h fun _ c hc hd => hd.insert (hcs c hc)

/-! ## The shape of a document -/

/-- **A well-formed document**: the keys ascend strictly, under each key the operators ascend
strictly, and no key is without operator. -/
structure WellFormed (d : Document) : Prop where
  keys_sorted : d.entries.Sorted
  operators_sorted : ∀ e ∈ d.toList, e.2.Sorted
  operators_nonempty : ∀ e ∈ d.toList, e.2.isEmpty = false

lemma wellFormed_empty : empty.WellFormed :=
  ⟨OrderedMap.sorted_empty, fun _ he => absurd he List.not_mem_nil,
    fun _ he => absurd he List.not_mem_nil⟩

lemma WellFormed.sorted_get? {d : Document} (h : d.WellFormed) (key : String) :
    ((d.get? key).getD .empty).Sorted := by
  cases hm : d.get? key with
  | none => exact OrderedMap.sorted_empty
  | some m => exact h.operators_sorted _ (OrderedMap.mem_of_find? hm)

/-- Insertion under a new key, beside another operator and in place of a value: all keep the
shape. -/
lemma WellFormed.insert {d : Document} (h : d.WellFormed) (key : String) (op : Operator)
    (v : Value) : (d.insert key op v).WellFormed where
  keys_sorted := OrderedMap.sorted_insert h.keys_sorted _ _
  operators_sorted := by
    intro e he
    rcases OrderedMap.mem_insert he with rfl | he
    · exact OrderedMap.sorted_insert (h.sorted_get? key) _ _
    · exact h.operators_sorted e he
  operators_nonempty := by
    intro e he
    rcases OrderedMap.mem_insert he with rfl | he
    · exact OrderedMap.isEmpty_insert ..
    · exact h.operators_nonempty e he

lemma wellFormed_insertAll {d : Document} (h : d.WellFormed) (cs : List Condition) :
    (d.insertAll cs).WellFormed :=
  insertAll_induction h fun _ c _ hd => hd.insert c.key c.operator c.value

lemma wellFormed_ofConditions (cs : List Condition) : (ofConditions cs).WellFormed :=
  wellFormed_insertAll wellFormed_empty cs

end Document

end RecordQuery
